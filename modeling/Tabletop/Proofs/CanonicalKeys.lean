/-
# Keys are canonical

Blanks part the words of a name and count for nothing else: however many of them
stand between two parts of a name, its words are those of the one part and then
those of the other (`Text.words_append`). Each word is put in small letters on its
own, so the key of the whole is the keys of the parts with an underscore between
them (`Key.normalize_append`), also where a sigma ends a part, and blanks at the two
ends do not matter (`Key.normalize_surrounded`).

The words of a key that are joined are one long word, but in a text of small letters
no sigma is left to turn: the texts that are their own keys are those of small
letters without blanks (`Key.normalize_eq_self_iff`), and every key is one of them.

Key theorems: `Text.words_append`, `Key.normalize_append`,
`Key.normalize_surrounded`, `Key.normalize_eq_self_iff`, `Key.keys_are_canonical`.
-/
import Tabletop.Proofs.Normalization

namespace Tabletop
namespace Text

/-! ### The words of two texts in a row -/

variable {c : Char} {w : List Char}

theorem consWord_append (w : List Char) (us vs : List (List Char)) :
    consWord w (us ++ vs) = consWord w us ++ vs := by
  cases w <;> rfl

theorem splitWord_append (hc : isBlank c = true) (as bs : List Char) :
    splitWord (as ++ c :: bs) = ((splitWord as).1, (splitWord as).2 ++ words bs) := by
  induction as with
  | nil => exact splitWord_blank hc bs
  | cons a as ih =>
    rw [List.cons_append]
    by_cases ha : isBlank a = true
    · rw [splitWord_blank ha, splitWord_blank ha, words, words, ih, consWord_append]
    · have hsolid : isBlank a = false := Bool.eq_false_iff.mpr ha
      rw [splitWord_solid hsolid, splitWord_solid hsolid, ih]

theorem words_blanks (hw : ∀ c ∈ w, isBlank c = true) (cs : List Char) :
    words (w ++ cs) = words cs := by
  induction w with
  | nil => rfl
  | cons c w ih =>
    rw [List.cons_append, words_blank (hw c List.mem_cons_self),
      ih fun x hx => hw x (List.mem_cons_of_mem c hx)]

/-- **The words of two texts with blanks between them** are those of the one and then
those of the other. -/
theorem words_append (hne : w ≠ []) (hw : ∀ c ∈ w, isBlank c = true) (as bs : List Char) :
    words (as ++ (w ++ bs)) = words as ++ words bs := by
  obtain ⟨c, w, rfl⟩ := List.exists_cons_of_ne_nil hne
  have hrest : words (w ++ bs) = words bs :=
    words_blanks (fun x hx => hw x (List.mem_cons_of_mem c hx)) bs
  calc words (as ++ (c :: w ++ bs))
      = consWord (splitWord as).1 ((splitWord as).2 ++ words (w ++ bs)) := by
        rw [words, List.cons_append, splitWord_append (hw c List.mem_cons_self)]
    _ = words as ++ words bs := by
        rw [consWord_append, hrest]
        rfl

theorem words_surrounded {u v : List Char} (hu : ∀ c ∈ u, isBlank c = true)
    (hv : ∀ c ∈ v, isBlank c = true) (cs : List Char) : words (u ++ (cs ++ v)) = words cs := by
  rw [words_blanks hu]
  by_cases hnil : v = []
  · rw [hnil, List.append_nil]
  · have h := words_append hnil hv cs []
    rwa [words_nil, List.append_nil, List.append_nil] at h

end Text

namespace Key

open Text

/-! ### The key of a name in parts -/

theorem intercalate_append (j : List Char) {us vs : List (List Char)} (hu : us ≠ [])
    (hv : vs ≠ []) : j.intercalate (us ++ vs) = j.intercalate us ++ j ++ j.intercalate vs := by
  induction us with
  | nil => exact absurd rfl hu
  | cons u us ih =>
    by_cases hnil : us = []
    · rw [hnil, List.singleton_append, List.intercalate_cons_of_ne_nil hv,
        List.intercalate_singleton]
    · have hall : us ++ vs ≠ [] := List.append_ne_nil_of_left_ne_nil hnil vs
      rw [List.cons_append, List.intercalate_cons_of_ne_nil hall, ih hnil,
        List.intercalate_cons_of_ne_nil hnil]
      simp only [List.append_assoc]

theorem normalizeChars_append {as w bs : List Char} (ha : ¬∀ c ∈ as, isBlank c = true)
    (hb : ¬∀ c ∈ bs, isBlank c = true) (hne : w ≠ []) (hw : ∀ c ∈ w, isBlank c = true) :
    normalizeChars (as ++ (w ++ bs)) = normalizeChars as ++ ['_'] ++ normalizeChars bs := by
  have hwords : ∀ {cs : List Char}, (¬∀ c ∈ cs, isBlank c = true) → (words cs).map lower ≠ [] :=
    fun hcs hnil => hcs (words_eq_nil.mp (List.map_eq_nil_iff.mp hnil))
  unfold normalizeChars
  rw [words_append hne hw, List.map_append, intercalate_append ['_'] (hwords ha) (hwords hb)]

variable {a w b u v key : String}

/-- **The key of a name in parts** is the keys of the parts, joined by an underscore,
whatever blanks are between them. -/
theorem normalize_append (ha : ¬Blank a) (hb : ¬Blank b) (hne : w ≠ "") (hw : Blank w) :
    normalize (a ++ w ++ b) = normalize a ++ "_" ++ normalize b := by
  have hlist : w.toList ≠ [] := fun h => hne (String.toList_eq_nil_iff.mp h)
  rw [← String.toList_inj]
  simp only [normalize, String.toList_append, String.toList_ofList, List.append_assoc]
  rw [normalizeChars_append ha hb hlist hw, List.append_assoc]
  rfl

/-- **Blanks at the two ends of a name do not change its key.** -/
theorem normalize_surrounded (hu : Blank u) (hv : Blank v) (name : String) :
    normalize (u ++ name ++ v) = normalize name := by
  unfold normalize normalizeChars
  rw [String.toList_append, String.toList_append, List.append_assoc, words_surrounded hu hv]

/-- **The keys are the texts of small letters without blanks.** -/
theorem normalize_eq_self_iff :
    normalize key = key ↔ ∀ c ∈ key.toList, Lowered c ∧ isBlank c = false := by
  constructor
  · intro h c hc
    rw [← h, normalize, String.toList_ofList] at hc
    exact mem_normalizeChars hc
  · intro h
    rw [normalize, normalizeChars_of_lowered h, String.ofList_toList]

/-- **The key of a name is its canonical form.** A key is its own key and has no blank
in it; the texts that are their own keys are those of small letters without blanks. The
key is empty exactly if there is nothing but blanks in the name. Blanks at the two ends
of a name do not matter, and blanks between two parts become one underscore between
their keys, however many they are and whatever letters they part. -/
theorem keys_are_canonical :
    (∀ name, normalize (normalize name) = normalize name) ∧
    (∀ name, ∀ c ∈ (normalize name).toList, isBlank c = false) ∧
    (∀ key, normalize key = key ↔ ∀ c ∈ key.toList, Lowered c ∧ isBlank c = false) ∧
    (∀ name, normalize name = "" ↔ Blank name) ∧
    (∀ a w b, ¬Blank a → ¬Blank b → w ≠ "" → Blank w →
      normalize (a ++ w ++ b) = normalize a ++ "_" ++ normalize b) ∧
    ∀ u name v, Blank u → Blank v → normalize (u ++ name ++ v) = normalize name := by
  refine ⟨normalize_normalize, fun _ _ => not_blank_of_mem_normalize,
    fun _ => normalize_eq_self_iff, fun _ => normalize_eq_empty, ?_, ?_⟩
  · intro a w b ha hb hne hw
    exact normalize_append ha hb hne hw
  · intro u name v hu hv
    exact normalize_surrounded hu hv name

/-- A sigma at the end of the first part, which would turn if the parts were one word,
a capital letter whose small form has two characters, and blanks of two kinds. -/
theorem sigma_stays_final_before_blanks :
    normalize ("ΟΔΟΣ" ++ " \t" ++ "İZMİR") = normalize "ΟΔΟΣ" ++ "_" ++ normalize "İZMİR" ∧
    normalize ("ΟΔΟΣ" ++ " \t" ++ "İZMİR") = "οδος_i̇zmi̇r" ∧
    normalize ("\u2003" ++ "οδος_i̇zmi̇r" ++ "\n") = "οδος_i̇zmi̇r" := by
  obtain ⟨hagain, -, -, -, hparts, hends⟩ := keys_are_canonical
  have hjoined := hparts "ΟΔΟΣ" " \t" "İZMİR" (by decide) (by decide) (by decide) (by decide)
  have hkey : normalize ("ΟΔΟΣ" ++ " \t" ++ "İZMİR") = "οδος_i̇zmi̇r" := by decide +kernel
  refine ⟨hjoined, hkey, ?_⟩
  rw [hends "\u2003" _ "\n" (by decide) (by decide), ← hkey, hagain]

end Key
end Tabletop
