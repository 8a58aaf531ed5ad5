/-
# Blanks and words

A blank is a character with the property `White_Space`. A text splits into its
words at runs of blanks; the words are nonempty, hold no blank, and are in
order all the characters of the text that are not blank (`flatten_words`).

Key definitions: `isBlank`, `words`, `trim`, `squeeze`.
Key theorems: `not_blank_of_mem_words`, `ne_nil_of_mem_words`, `flatten_words`.
-/

namespace Tabletop
namespace Text

/-- The characters with the property `White_Space`. -/
def isBlank (c : Char) : Bool :=
  let n := c.toNat
  (9 ≤ n && n ≤ 13) || n == 0x20 || n == 0x85 || n == 0xA0 || n == 0x1680 ||
    (0x2000 ≤ n && n ≤ 0x200A) || n == 0x2028 || n == 0x2029 || n == 0x202F ||
    n == 0x205F || n == 0x3000

/-- Puts a word in front of the words after it, unless it is empty. -/
def consWord (w : List Char) (ws : List (List Char)) : List (List Char) :=
  if w.isEmpty then ws else w :: ws

/-- The word that a text begins with, empty if it begins with a blank, and the
words after that. -/
def splitWord : List Char → List Char × List (List Char)
  | [] => ([], [])
  | c :: cs =>
    let (w, ws) := splitWord cs
    if isBlank c then ([], consWord w ws) else (c :: w, ws)

/-- The words of a text. -/
def words (cs : List Char) : List (List Char) :=
  consWord (splitWord cs).1 (splitWord cs).2

/-- The text without the blanks at its two ends. -/
def trim (cs : List Char) : List Char :=
  ((cs.dropWhile isBlank).reverse.dropWhile isBlank).reverse

/-- The text without its blanks. -/
def squeeze (cs : List Char) : List Char :=
  cs.filter (!isBlank ·)

/-- Nothing is left if all are blanks. -/
theorem squeeze_eq_nil {cs : List Char} : squeeze cs = [] ↔ ∀ c ∈ cs, isBlank c = true := by
  unfold squeeze
  rw [List.filter_eq_nil_iff]
  simp only [Bool.not_eq_true', Bool.not_eq_false]

theorem splitWord_blank {c : Char} (h : isBlank c = true) (cs : List Char) :
    splitWord (c :: cs) = ([], words cs) := by
  simp [splitWord, h, words]

theorem splitWord_solid {c : Char} (h : isBlank c = false) (cs : List Char) :
    splitWord (c :: cs) = (c :: (splitWord cs).1, (splitWord cs).2) := by
  simp [splitWord, h]

@[simp] theorem words_nil : words [] = [] := rfl

theorem words_blank {c : Char} (h : isBlank c = true) (cs : List Char) :
    words (c :: cs) = words cs := by
  rw [words, splitWord_blank h]
  rfl

@[simp] theorem flatten_consWord (w : List Char) (ws : List (List Char)) :
    (consWord w ws).flatten = w ++ ws.flatten := by
  cases w <;> simp [consWord]

/-- **Splitting loses the blanks only.** -/
theorem flatten_words (cs : List Char) : (words cs).flatten = squeeze cs := by
  simp only [words, flatten_consWord]
  induction cs with
  | nil => rfl
  | cons c cs ih =>
    cases h : isBlank c
    · simp [splitWord_solid h, squeeze, h] at ih ⊢
      exact ih
    · simp [splitWord_blank h, words, squeeze, h] at ih ⊢
      exact ih

theorem mem_consWord {w x : List Char} {ws : List (List Char)} (h : x ∈ consWord w ws) :
    x = w ∧ w ≠ [] ∨ x ∈ ws := by
  cases w <;> simp_all [consWord]

/-- No word holds a blank. -/
theorem not_blank_of_mem_words {cs w : List Char} (h : w ∈ words cs) {c : Char} (hc : c ∈ w) :
    isBlank c = false := by
  have hs : c ∈ squeeze cs := by
    rw [← flatten_words]
    exact List.mem_flatten.2 ⟨w, h, hc⟩
  simpa [squeeze] using (List.mem_filter.1 hs).2

/-- No word is empty. -/
theorem ne_nil_of_mem_words {cs w : List Char} (h : w ∈ words cs) : w ≠ [] := by
  have hall : ∀ x ∈ (splitWord cs).2, x ≠ [] := by
    clear h
    induction cs with
    | nil => simp [splitWord]
    | cons c cs ih =>
      cases hc : isBlank c
      · simpa [splitWord_solid hc] using ih
      · intro x hx
        rw [splitWord_blank hc] at hx
        rcases mem_consWord hx with ⟨rfl, hne⟩ | hw
        · exact hne
        · exact ih x hw
  rcases mem_consWord h with ⟨rfl, hne⟩ | hw
  · exact hne
  · exact hall w hw

/-- A text has no words if it has nothing but blanks. -/
theorem words_eq_nil {cs : List Char} : words cs = [] ↔ ∀ c ∈ cs, isBlank c = true := by
  rw [← squeeze_eq_nil, ← flatten_words, List.flatten_eq_nil_iff]
  constructor
  · intro h w hw
    rw [h] at hw
    cases hw
  · intro h
    refine List.eq_nil_iff_forall_not_mem.2 fun w hw => ?_
    exact ne_nil_of_mem_words hw (h w hw)

end Text
end Tabletop
