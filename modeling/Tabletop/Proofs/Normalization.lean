/-
# Normalized names stay as they are

A small letter has itself as its small form, and no small form has a blank in
it. Both are read off the tables range by range: where one range of capital
letters goes, no other range begins, and no blank stands (`shifts_settle`). So a
text in small letters is its own small form, a normalized name is one word of
small letters, and normalizing it again changes nothing
(`Key.normalize_normalize`).

Key definitions: `Text.CodeShift.clears`, `Text.Lowered`, `Key.Blank`.
Key theorems: `Text.lowered_of_mem_lower`, `Text.lower_of_lowered`,
`Key.normalize_eq_empty`, `Key.not_blank_of_mem_normalize`, `Key.normalize_normalize`.
-/
import Tabletop.Key
import Tabletop.Proofs.Casing

namespace Tabletop
namespace Text

/-! ### Where the tables lead -/

/-- Where the first code point of a shift goes. -/
def CodeShift.low (s : CodeShift) : Nat := ((s.first : Int) + s.shift).toNat

/-- Where the last code point of a shift goes. -/
def CodeShift.high (s : CodeShift) : Nat := ((s.last : Int) + s.shift).toNat

/-- Whether no place that a shift leads to is moved by another one: the two
ranges lie apart, or the other one moves every second code point only and the
places are those between. -/
def CodeShift.clears (s t : CodeShift) : Bool :=
  Nat.blt s.high t.first || Nat.blt t.last s.low ||
    (t.step == 2 && (s.step == 2 || s.first == s.last) && s.low % 2 != t.first % 2)

/-- The code points of the blanks. -/
def blankRanges : List CodeRange := [
  ⟨9, 13⟩, ⟨0x20, 0x20⟩, ⟨0x85, 0x85⟩, ⟨0xA0, 0xA0⟩, ⟨0x1680, 0x1680⟩, ⟨0x2000, 0x200A⟩,
  ⟨0x2028, 0x2029⟩, ⟨0x202F, 0x202F⟩, ⟨0x205F, 0x205F⟩, ⟨0x3000, 0x3000⟩]

/-- A shift leads where nothing moves on: no shift begins there, no small form of
several code points, and no blank stands there. -/
theorem shifts_settle : ∀ s ∈ lowerShifts, lowerShifts.all s.clears = true ∧
    (∀ e ∈ lowerExpansions, s.high < e.1 ∨ e.1 < s.low) ∧
    ∀ r ∈ blankRanges, s.high < r.first ∨ r.last < s.low := by
  decide +kernel

theorem expansions_are_lowered :
    ∀ e ∈ lowerExpansions, ∀ n ∈ e.2,
      lowerChar (Char.ofNat n) = [Char.ofNat n] ∧ isBlank (Char.ofNat n) = false := by
  decide

theorem exists_blankRange {c : Char} (h : isBlank c = true) :
    ∃ r ∈ blankRanges, r.first ≤ c.toNat ∧ c.toNat ≤ r.last := by
  simp only [isBlank, Bool.or_eq_true, Bool.and_eq_true, decide_eq_true_eq, beq_iff_eq] at h
  simp only [blankRanges, List.mem_cons, List.not_mem_nil, or_false, exists_eq_or_imp,
    exists_eq_left]
  omega

/-- A shift leads between the places of its two ends, and past every second one
if it moves every second code point. -/
theorem CodeShift.image_bounds {s : CodeShift} (hs : s ∈ lowerShifts) {n m : Nat}
    (ha : s.appliesTo n = true) (hm : m = ((n : Int) + s.shift).toNat) :
    s.low ≤ m ∧ m ≤ s.high ∧
      (s.step = 2 ∨ s.first = s.last → m % 2 = s.low % 2) := by
  obtain ⟨⟨hfirst, hlast⟩, hstep⟩ := CodeShift.appliesTo_iff.mp ha
  have hpos : 0 ≤ (s.first : Int) + s.shift := by
    rcases shifts_leave_low s hs with rfl | h
    · decide
    · omega
  unfold CodeShift.low CodeShift.high
  refine ⟨by omega, by omega, fun h => ?_⟩
  rcases h with h | h
  · rw [h] at hstep
    omega
  · obtain rfl : n = s.first := by omega
    rw [hm]

theorem apply?_image {n m : Nat} (h : CodeShift.apply? lowerShifts n = some m) :
    CodeShift.apply? lowerShifts m = none := by
  obtain ⟨s, hs, ha, hm⟩ := CodeShift.exists_of_apply? h
  obtain ⟨hlow, hhigh, hparity⟩ := CodeShift.image_bounds hs ha hm
  unfold CodeShift.apply?
  rw [Option.map_eq_none_iff, List.find?_eq_none]
  intro t ht happlies
  obtain ⟨⟨hfirst, hlast⟩, hstep⟩ := CodeShift.appliesTo_iff.mp happlies
  have hclear : s.clears t = true := List.all_eq_true.mp (shifts_settle s hs).1 t ht
  simp only [CodeShift.clears, Bool.or_eq_true, Bool.and_eq_true, Nat.blt_eq, beq_iff_eq,
    bne_iff_ne] at hclear
  -- the places of `s` lie in front of `t`, behind it, or between those that `t` moves
  rcases hclear with (hclear | hclear) | ⟨⟨htwo, hsparse⟩, hodd⟩
  · omega
  · omega
  · rw [htwo] at hstep
    have := hparity hsparse
    omega

/-! ### Small letters -/

/-- A character that is its own small form. -/
def Lowered (c : Char) : Prop := lowerChar c = [c]

/-- The images of a character: what an expansion lists, where a shift leads, or
the character itself. -/
theorem lowerChar_cases (c : Char) :
    (∃ ns, (c.toNat, ns) ∈ lowerExpansions ∧ lowerChar c = ns.map Char.ofNat) ∨
      (∃ m, CodeShift.apply? lowerShifts c.toNat = some m ∧ lowerChar c = [Char.ofNat m]) ∨
      Lowered c := by
  unfold Lowered lowerChar mapCase
  split
  · rename_i ns hl
    obtain ⟨as, bs, he, -⟩ := List.lookup_eq_some_iff.mp hl
    exact .inl ⟨ns, by rw [he]; simp, rfl⟩
  · split
    · rename_i m hm
      exact .inr (.inl ⟨m, hm, rfl⟩)
    · exact .inr (.inr rfl)

theorem lowered_image {n m : Nat} (h : CodeShift.apply? lowerShifts n = some m) :
    Lowered (Char.ofNat m) := by
  by_cases h0 : (Char.ofNat m).toNat = 0
  · exact lowerChar_of_lt (by omega)
  · have hcode : (Char.ofNat m).toNat = m := toNat_ofNat_of_pos (Nat.pos_of_ne_zero h0)
    obtain ⟨s, hs, ha, hm⟩ := CodeShift.exists_of_apply? h
    obtain ⟨hlow, hhigh, -⟩ := CodeShift.image_bounds hs ha hm
    have hsingle : lowerExpansions.lookup m = none := by
      rw [List.lookup_eq_none_iff]
      intro e he
      have := (shifts_settle s hs).2.1 e he
      rw [bne_iff_ne]
      omega
    unfold Lowered lowerChar mapCase
    rw [hcode, hsingle, apply?_image h]

theorem not_blank_image {n m : Nat} (h : CodeShift.apply? lowerShifts n = some m) :
    isBlank (Char.ofNat m) = false := by
  rw [Bool.eq_false_iff]
  intro hblank
  obtain ⟨r, hr, hfirst, hlast⟩ := exists_blankRange hblank
  have hcode : (Char.ofNat m).toNat = m := by
    refine toNat_ofNat_of_pos (Nat.pos_of_ne_zero fun h0 => ?_)
    have : ∀ r ∈ blankRanges, 0 < r.first := by decide
    have := this r hr
    omega
  obtain ⟨s, hs, ha, hm⟩ := CodeShift.exists_of_apply? h
  obtain ⟨hlow, hhigh, -⟩ := CodeShift.image_bounds hs ha hm
  have := (shifts_settle s hs).2.2 r hr
  omega

/-- **The small form of a character is small.** -/
theorem lowered_of_mem_lowerChar {c x : Char} (h : x ∈ lowerChar c) : Lowered x := by
  rcases lowerChar_cases c with ⟨ns, hns, heq⟩ | ⟨m, hm, heq⟩ | heq
  · rw [heq] at h
    obtain ⟨n, hn, rfl⟩ := List.mem_map.mp h
    exact (expansions_are_lowered _ hns n hn).1
  · rw [heq, List.mem_singleton] at h
    exact h ▸ lowered_image hm
  · rw [heq, List.mem_singleton] at h
    exact h ▸ heq

theorem not_blank_of_mem_lowerChar {c x : Char} (hc : isBlank c = false) (h : x ∈ lowerChar c) :
    isBlank x = false := by
  rcases lowerChar_cases c with ⟨ns, hns, heq⟩ | ⟨m, hm, heq⟩ | heq
  · rw [heq] at h
    obtain ⟨n, hn, rfl⟩ := List.mem_map.mp h
    exact (expansions_are_lowered _ hns n hn).2
  · rw [heq, List.mem_singleton] at h
    exact h ▸ not_blank_image hm
  · rw [heq, List.mem_singleton] at h
    exact h ▸ hc

/-! ### Texts in small letters -/

theorem lowered_sigmas :
    lowerChar 'ς' = ['ς'] ∧ lowerChar 'σ' = ['σ'] ∧ lowerChar 'Σ' ≠ ['Σ'] := by
  decide

theorem Lowered.ne_sigma {c : Char} (h : Lowered c) : c ≠ 'Σ' := by
  rintro rfl
  exact lowered_sigmas.2.2 h

/-- **A text in small letters is its own small form.** -/
theorem lowerAfter_of_lowered {cs : List Char} (h : ∀ c ∈ cs, Lowered c) (before : List Char) :
    lowerAfter before cs = cs := by
  induction cs generalizing before with
  | nil => rfl
  | cons c cs ih =>
    have hc : Lowered c := h c List.mem_cons_self
    rw [lowerAfter, if_neg hc.ne_sigma, ih (fun x hx => h x (List.mem_cons_of_mem _ hx)), hc]
    rfl

theorem lower_of_lowered {cs : List Char} (h : ∀ c ∈ cs, Lowered c) : lower cs = cs :=
  lowerAfter_of_lowered h []

theorem lowered_lowerSigma (before after : List Char) :
    Lowered (lowerSigma before after) ∧ isBlank (lowerSigma before after) = false := by
  obtain ⟨hfinal, hsmall, -⟩ := lowered_sigmas
  unfold lowerSigma
  split
  · exact ⟨hfinal, by decide⟩
  · exact ⟨hsmall, by decide⟩

theorem mem_lowerAfter {cs : List Char} {x : Char} : ∀ {before : List Char},
    x ∈ lowerAfter before cs → (∃ b a, x = lowerSigma b a) ∨ ∃ c ∈ cs, x ∈ lowerChar c := by
  induction cs with
  | nil =>
    intro before h
    cases h
  | cons c cs ih =>
    intro before h
    rw [lowerAfter, List.mem_append] at h
    rcases h with h | h
    · split at h
      · exact .inl ⟨before, cs, List.mem_singleton.mp h⟩
      · exact .inr ⟨c, List.mem_cons_self, h⟩
    · rcases ih h with h | ⟨c', hc', h⟩
      · exact .inl h
      · exact .inr ⟨c', List.mem_cons_of_mem _ hc', h⟩

theorem eq_nil_of_lower {cs : List Char} (h : lower cs = []) : cs = [] := by
  cases cs with
  | nil => rfl
  | cons c cs =>
    have hfirst := (List.append_eq_nil_iff.mp h).1
    split at hfirst
    · cases hfirst
    · exact absurd hfirst (lowerChar_ne_nil c)

/-- **The small form of a text is in small letters.** -/
theorem lowered_of_mem_lower {cs : List Char} {x : Char} (h : x ∈ lower cs) : Lowered x := by
  rcases mem_lowerAfter h with ⟨b, a, rfl⟩ | ⟨c, -, hx⟩
  · exact (lowered_lowerSigma b a).1
  · exact lowered_of_mem_lowerChar hx

theorem not_blank_of_mem_lower {cs : List Char} (hcs : ∀ c ∈ cs, isBlank c = false) {x : Char}
    (h : x ∈ lower cs) : isBlank x = false := by
  rcases mem_lowerAfter h with ⟨b, a, rfl⟩ | ⟨c, hc, hx⟩
  · exact (lowered_lowerSigma b a).2
  · exact not_blank_of_mem_lowerChar (hcs c hc) hx

theorem words_of_solid {cs : List Char} (h : ∀ c ∈ cs, isBlank c = false) :
    words cs = consWord cs [] := by
  have hsplit : splitWord cs = (cs, []) := by
    induction cs with
    | nil => rfl
    | cons c cs ih =>
      rw [splitWord_solid (h c List.mem_cons_self),
        ih fun x hx => h x (List.mem_cons_of_mem _ hx)]
  rw [words, hsplit]

end Text

/-! ### Normalized names -/

namespace Key

open Text

theorem mem_intercalate {j x : Char} {ws : List (List Char)} (h : x ∈ [j].intercalate ws) :
    x = j ∨ ∃ w ∈ ws, x ∈ w := by
  induction ws with
  | nil => cases h
  | cons w ws ih =>
    cases ws with
    | nil =>
      rw [List.intercalate_singleton] at h
      exact .inr ⟨w, List.mem_cons_self, h⟩
    | cons v ws =>
      rw [List.intercalate_cons_cons, List.append_assoc, List.mem_append, List.mem_append,
        List.mem_singleton] at h
      rcases h with h | h | h
      · exact .inr ⟨w, List.mem_cons_self, h⟩
      · exact .inl h
      · rcases ih h with h | ⟨u, hu, h⟩
        · exact .inl h
        · exact .inr ⟨u, List.mem_cons_of_mem _ hu, h⟩

theorem mem_normalizeChars {cs : List Char} {x : Char} (h : x ∈ normalizeChars cs) :
    Lowered x ∧ isBlank x = false := by
  rcases mem_intercalate h with rfl | ⟨w, hw, hx⟩
  · have hsmall : Lowered '_' := lowerChar_of_ascii (by decide)
    exact ⟨hsmall, by decide⟩
  · obtain ⟨v, hv, rfl⟩ := List.mem_map.mp hw
    exact ⟨lowered_of_mem_lower hx,
      not_blank_of_mem_lower (fun c hc => not_blank_of_mem_words hv hc) hx⟩

theorem normalizeChars_of_lowered {cs : List Char} (h : ∀ c ∈ cs, Lowered c ∧ isBlank c = false) :
    normalizeChars cs = cs := by
  unfold normalizeChars
  rw [words_of_solid fun c hc => (h c hc).2]
  cases cs with
  | nil => rfl
  | cons c cs =>
    show ['_'].intercalate [lower (c :: cs)] = _
    rw [List.intercalate_singleton, lower_of_lowered fun x hx => (h x hx).1]

theorem normalizeChars_eq_nil {cs : List Char} :
    normalizeChars cs = [] ↔ ∀ c ∈ cs, isBlank c = true := by
  rw [← words_eq_nil]
  unfold normalizeChars
  cases hwords : words cs with
  | nil => exact ⟨fun _ => rfl, fun _ => rfl⟩
  | cons w ws =>
    have hw : lower w ≠ [] := fun h =>
      ne_nil_of_mem_words (hwords ▸ List.mem_cons_self) (eq_nil_of_lower h)
    refine ⟨fun h => ?_, fun h => nomatch h⟩
    cases ws with
    | nil =>
      rw [List.map_singleton, List.intercalate_singleton] at h
      exact absurd h hw
    | cons v ws =>
      rw [List.map_cons, List.map_cons, List.intercalate_cons_cons] at h
      exact absurd (List.append_eq_nil_iff.mp (List.append_eq_nil_iff.mp h).1).1 hw

/-- There is nothing but blanks in a name. -/
def Blank (name : String) : Prop :=
  ∀ c ∈ name.toList, isBlank c = true

instance (name : String) : Decidable (Blank name) :=
  List.decidableBAll (fun c => isBlank c = true) name.toList

/-- **A key is empty exactly if there are only blanks in the name.** -/
theorem normalize_eq_empty {name : String} :
    normalize name = "" ↔ ∀ c ∈ name.toList, isBlank c = true := by
  unfold normalize
  rw [← normalizeChars_eq_nil, ← String.toList_inj, String.toList_ofList]
  rfl

theorem blank_iff {name : String} : Blank name ↔ normalize name = "" :=
  normalize_eq_empty.symm

theorem not_blank_of_mem_normalize {name : String} {x : Char}
    (h : x ∈ (normalize name).toList) : isBlank x = false := by
  unfold normalize at h
  rw [String.toList_ofList] at h
  exact (mem_normalizeChars h).2

/-- **A key is its own key.** -/
theorem normalize_normalize (name : String) : normalize (normalize name) = normalize name := by
  unfold normalize
  rw [String.toList_ofList, normalizeChars_of_lowered fun _ h => mem_normalizeChars h]

end Key
end Tabletop
