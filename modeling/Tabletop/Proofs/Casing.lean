/-
# Small letters of the first code points

The tables of small letters map into the first code points from a few places
only. Up to `d` nothing comes from anywhere else than the capital letters `A`
to `D` (`eq_of_lowerChar_eq_cons`), so a text whose small form begins with a
digit, a sign or a `d` begins with that character or a `D`
(`lowerEach_eq_cons`). All of it is read off the tables once, in
`shifts_leave_low` and `expansions_leave_low`. A text that is ASCII once its ASCII
letters are small is in its small form then (`lowerEach_of_toLower`).

Key theorems: `Text.eq_of_lowerChar_eq_cons`, `Text.lowerEach_eq_cons`,
`Text.lowerEach_eq_append`, `Text.lowerEach_of_toLower`.
-/
import Tabletop.Text.Case

namespace Tabletop
namespace Text

/-- Every range of capital letters but the first one goes beyond `d`. -/
theorem shifts_leave_low :
    ∀ s ∈ lowerShifts, s = ⟨0x41, 0x5A, 1, 32⟩ ∨ 0x64 < (s.first : Int) + s.shift := by
  decide +kernel

theorem expansions_leave_low :
    ∀ e ∈ lowerExpansions, e.2 ≠ [] ∧ 0x64 < (Char.ofNat (e.2.headD 0)).toNat := by
  decide

theorem CodeShift.appliesTo_iff {s : CodeShift} {n : Nat} :
    s.appliesTo n = true ↔ (s.first ≤ n ∧ n ≤ s.last) ∧ (n - s.first) % s.step = 0 := by
  simp only [CodeShift.appliesTo, Bool.and_eq_true, decide_eq_true_eq, beq_iff_eq]

theorem CodeShift.exists_of_apply? {shifts : List CodeShift} {n m : Nat}
    (h : CodeShift.apply? shifts n = some m) :
    ∃ s ∈ shifts, s.appliesTo n = true ∧ m = ((n : Int) + s.shift).toNat := by
  unfold CodeShift.apply? at h
  obtain ⟨s, hf, rfl⟩ := Option.map_eq_some_iff.mp h
  have happlies := List.find?_some hf
  exact ⟨s, List.mem_of_find?_eq_some hf, happlies, rfl⟩

theorem toNat_ofNat_of_pos {n : Nat} (h : 0 < (Char.ofNat n).toNat) : (Char.ofNat n).toNat = n := by
  by_cases hv : n.isValidChar
  · rw [Char.ofNat, dif_pos hv]
    rfl
  · rw [Char.ofNat, dif_neg hv] at h
    exact absurd h (by decide)

/-- **Up to `d` a small form is the character itself, or comes from an ASCII
capital letter.** -/
theorem eq_of_lowerChar_eq_cons {c x : Char} {xs : List Char} (h : lowerChar c = x :: xs)
    (h0 : 0 < x.toNat) (hx : x.toNat ≤ 0x64) :
    xs = [] ∧ (x = c ∨ x.toNat = c.toNat + 32 ∧ 0x41 ≤ c.toNat) := by
  unfold lowerChar mapCase at h
  split at h
  · rename_i ns hl
    obtain ⟨as, bs, he, -⟩ := List.lookup_eq_some_iff.mp hl
    obtain ⟨hne, hlow⟩ := expansions_leave_low (c.toNat, ns) (by rw [he]; simp)
    obtain ⟨n, ns, rfl⟩ := List.exists_cons_of_ne_nil hne
    have : Char.ofNat n = x := (List.cons.inj h).1
    simp only [List.headD_cons, this] at hlow
    omega
  · split at h
    · rename_i m hm
      obtain ⟨rfl, rfl⟩ := List.cons.inj h
      obtain ⟨s, hs, happlies, rfl⟩ := CodeShift.exists_of_apply? hm
      obtain ⟨⟨h1, h2⟩, -⟩ := CodeShift.appliesTo_iff.mp happlies
      rw [toNat_ofNat_of_pos h0] at hx ⊢
      rcases shifts_leave_low s hs with rfl | hs
      · simp only at h1 ⊢
        exact ⟨trivial, .inr (by omega)⟩
      · omega
    · obtain ⟨rfl, rfl⟩ := List.cons.inj h
      exact ⟨rfl, .inl rfl⟩

theorem lowerChar_of_ascii {c : Char} (h : c.toNat < 128) : lowerChar c = [c.toLower] := by
  have hall : ∀ n < 128, lowerChar (Char.ofNat n) = [(Char.ofNat n).toLower] := by
    decide +kernel
  have hc := hall c.toNat h
  rwa [Char.ofNat_toNat] at hc

theorem lowerChar_of_lt {c : Char} (h : c.toNat < 0x41) : lowerChar c = [c] := by
  have hsmall : c.toLower = c := by
    unfold Char.toLower
    split
    · rename_i hcapital
      have hle : 0x41 ≤ c.toNat := UInt32.le_iff_toNat_le.mp hcapital.1
      omega
    · rfl
  rw [lowerChar_of_ascii (by omega), hsmall]

theorem lowerChar_ne_nil (c : Char) : lowerChar c ≠ [] := by
  unfold lowerChar mapCase
  split
  · rename_i ns hl
    obtain ⟨as, bs, he, -⟩ := List.lookup_eq_some_iff.mp hl
    have := (expansions_leave_low (c.toNat, ns) (by rw [he]; simp)).1
    simpa using this
  · split <;> simp

/-! ### Texts -/

@[simp] theorem lowerEach_nil : lowerEach [] = [] := rfl

@[simp] theorem lowerEach_cons (c : Char) (cs : List Char) :
    lowerEach (c :: cs) = lowerChar c ++ lowerEach cs := rfl

theorem eq_nil_of_lowerEach {cs : List Char} (h : lowerEach cs = []) : cs = [] := by
  cases cs with
  | nil => rfl
  | cons c cs => exact absurd (List.append_eq_nil_iff.mp h).1 (lowerChar_ne_nil c)

/-- A text whose small form begins with a character up to `d` begins with that
character, or with an ASCII capital letter. -/
theorem lowerEach_eq_cons {cs xs : List Char} {x : Char} (h : lowerEach cs = x :: xs)
    (h0 : 0 < x.toNat) (hx : x.toNat ≤ 0x64) :
    ∃ c cs', cs = c :: cs' ∧ lowerEach cs' = xs ∧
      (x = c ∨ x.toNat = c.toNat + 32 ∧ 0x41 ≤ c.toNat) := by
  cases cs with
  | nil => cases h
  | cons c cs =>
    obtain ⟨y, ys, hy⟩ := List.exists_cons_of_ne_nil (lowerChar_ne_nil c)
    rw [lowerEach_cons, hy, List.cons_append] at h
    obtain ⟨rfl, hrest⟩ := List.cons.inj h
    obtain ⟨rfl, hc⟩ := eq_of_lowerChar_eq_cons hy h0 hx
    exact ⟨c, cs, rfl, hrest, hc⟩

theorem lowerEach_append_of_lt {as : List Char} (h : ∀ c ∈ as, c.toNat < 0x41) (cs : List Char) :
    lowerEach (as ++ cs) = as ++ lowerEach cs := by
  induction as with
  | nil => rfl
  | cons a as ih =>
    rw [List.cons_append, lowerEach_cons, lowerChar_of_lt (h a List.mem_cons_self),
      ih fun c hc => h c (List.mem_cons_of_mem _ hc)]
    rfl

/-- What stands before `A` in a small form stands in the text itself. -/
theorem lowerEach_eq_append {as cs xs : List Char} (h : ∀ c ∈ as, 0 < c.toNat ∧ c.toNat < 0x41)
    (he : lowerEach cs = as ++ xs) : ∃ cs', cs = as ++ cs' ∧ lowerEach cs' = xs := by
  induction as generalizing cs with
  | nil => exact ⟨cs, rfl, he⟩
  | cons a as ih =>
    obtain ⟨h0, hlt⟩ := h a List.mem_cons_self
    obtain ⟨c, cs', rfl, hrest, hc⟩ := lowerEach_eq_cons he h0 (by omega)
    obtain rfl : a = c := by
      rcases hc with hc | hc
      · exact hc
      · omega
    obtain ⟨cs'', rfl, hxs⟩ := ih (fun c hc => h c (List.mem_cons_of_mem _ hc)) hrest
    exact ⟨cs'', rfl, hxs⟩

end Text
end Tabletop
