/-
# Writing a throw and reading it back

The notation of a throw spells its own parts (`Dice.spells_parts`), and still does
with blanks anywhere in it and with `D` for `d` (`Dice.Respaces`). Taking it
apart gives the parts, and the parts are of one throw only: so a throw within the
bounds is read back from any such text, and no two throws are written alike, also
beyond the bounds (`Dice.text_is_read_back`).

Key definitions: `Dice.Respaces`, `Dice.parts`.
Key theorems: `Dice.spells_of_respaces`, `Dice.parse_of_respaces`,
`Dice.parts_injective`, `Dice.text_is_read_back`.
-/
import Tabletop.Proofs.Notation

namespace Tabletop
namespace Dice

open Decimal Text

/-! ### Blanks and capitals -/

/-- A text written with blanks anywhere, and with `D` in the place of any `d`. -/
inductive Respaces : List Char → List Char → Prop
  | nil : Respaces [] []
  | blank {cs ds : List Char} {b : Char} (hb : isBlank b = true) (h : Respaces cs ds) :
      Respaces cs (b :: ds)
  | same {cs ds : List Char} (c : Char) (h : Respaces cs ds) : Respaces (c :: cs) (c :: ds)
  | capital {cs ds : List Char} (h : Respaces cs ds) : Respaces ('d' :: cs) ('D' :: ds)

theorem squeeze_blank {b : Char} (hb : isBlank b = true) (cs : List Char) :
    squeeze (b :: cs) = squeeze cs := by
  simp [squeeze, hb]

theorem squeeze_solid {c : Char} (hc : isBlank c = false) (cs : List Char) :
    squeeze (c :: cs) = c :: squeeze cs := by
  simp [squeeze, hc]

/-- A character that stands for itself: no blank and no `d`. -/
def Settled (c : Char) : Prop := isBlank c = false ∧ c ≠ 'd'

theorem Respaces.squeeze_append {as cs ds : List Char} (has : ∀ c ∈ as, Settled c)
    (h : Respaces (as ++ cs) ds) : ∃ ds', squeeze ds = as ++ squeeze ds' ∧ Respaces cs ds' := by
  generalize hxs : as ++ cs = xs at h
  induction h generalizing as with
  | nil =>
    obtain ⟨rfl, rfl⟩ := List.append_eq_nil_iff.mp hxs
    exact ⟨[], rfl, .nil⟩
  | blank hb h ih =>
    obtain ⟨ds', hds, hr⟩ := ih has hxs
    exact ⟨ds', (squeeze_blank hb _).trans hds, hr⟩
  | same c h ih =>
    cases as with
    | nil =>
      obtain rfl : cs = _ := hxs
      exact ⟨_, rfl, .same c h⟩
    | cons a as =>
      obtain ⟨rfl, hrest⟩ := List.cons.inj hxs
      obtain ⟨ds', hds, hr⟩ := ih (fun c hc => has c (List.mem_cons_of_mem a hc)) hrest
      exact ⟨ds', by rw [squeeze_solid (has a List.mem_cons_self).1, hds, List.cons_append], hr⟩
  | capital h =>
    cases as with
    | nil =>
      obtain rfl : cs = _ := hxs
      exact ⟨_, rfl, .capital h⟩
    | cons a as =>
      obtain ⟨rfl, -⟩ := List.cons.inj hxs
      exact absurd rfl (has 'd' List.mem_cons_self).2

theorem Respaces.squeeze_cons {cs ds : List Char} (h : Respaces ('d' :: cs) ds) :
    ∃ d ds', squeeze ds = d :: squeeze ds' ∧ (d = 'd' ∨ d = 'D') ∧ Respaces cs ds' := by
  generalize hxs : 'd' :: cs = xs at h
  induction h with
  | nil => cases hxs
  | blank hb h ih =>
    obtain ⟨d, ds', hds, hd, hr⟩ := ih hxs
    exact ⟨d, ds', (squeeze_blank hb _).trans hds, hd, hr⟩
  | same c h =>
    obtain ⟨rfl, rfl⟩ := List.cons.inj hxs
    exact ⟨_, _, squeeze_solid (by decide) _, .inl rfl, h⟩
  | capital h =>
    obtain ⟨-, rfl⟩ := List.cons.inj hxs
    exact ⟨_, _, squeeze_solid (by decide) _, .inr rfl, h⟩

theorem Respaces.squeeze_nil {ds : List Char} (h : Respaces [] ds) : squeeze ds = [] := by
  generalize hxs : [] = xs at h
  induction h with
  | nil => rfl
  | blank hb h ih => exact (squeeze_blank hb _).trans (ih hxs)
  | same => cases hxs
  | capital => cases hxs

theorem settled_of_isDigit {c : Char} (h : c.isDigit = true) : Settled c := by
  have hc := Char.isDigit_iff_toNat.mp h
  have h0 : '0'.toNat = 48 := rfl
  have h9 : '9'.toNat = 57 := rfl
  refine ⟨?_, fun he => ?_⟩
  · unfold isBlank
    simp only [Bool.or_eq_false_iff, Bool.and_eq_false_iff, decide_eq_false_iff_not,
      beq_eq_false_iff_ne]
    omega
  · rw [he] at hc
    exact absurd hc.2 (by decide)

theorem Tail.settled {tail : List Char} {m : Option (Bool × List Char)} (h : Tail tail m) :
    ∀ c ∈ tail, Settled c := by
  have hsign : ∀ {sign : Char} {ds : List Char}, Settled sign → IsRun ds →
      ∀ c ∈ sign :: ds, Settled c := fun hs hr =>
    List.forall_mem_cons.mpr ⟨hs, fun c hc => settled_of_isDigit (hr c hc)⟩
  cases h with
  | none => exact fun c hc => nomatch hc
  | plus hr => exact hsign ⟨by decide, by decide⟩ hr
  | minus hr => exact hsign ⟨by decide, by decide⟩ hr

/-- **Blanks and capitals do not matter for what is spelled.** -/
theorem spells_of_respaces {count sides tail ds : List Char} {m : Option (Bool × List Char)}
    (hc : IsRun count) (hs : IsRun sides) (hne : sides ≠ []) (ht : Tail tail m)
    (h : Respaces (count ++ 'd' :: (sides ++ tail)) ds) :
    Spells (squeeze ds) ⟨count, sides, m⟩ := by
  obtain ⟨ds₁, h₁, h⟩ := h.squeeze_append fun c hx => settled_of_isDigit (hc c hx)
  obtain ⟨d, ds₂, h₂, hd, h⟩ := h.squeeze_cons
  obtain ⟨ds₃, h₃, h⟩ := h.squeeze_append fun c hx => settled_of_isDigit (hs c hx)
  have htail : squeeze ds₃ = tail := by
    rw [← List.append_nil tail] at h
    obtain ⟨ds₄, h₄, h⟩ := h.squeeze_append ht.settled
    rw [h₄, h.squeeze_nil, List.append_nil]
  rw [h₁, h₂, h₃, htail]
  exact .mk hc hd hs hne ht

/-! ### The parts of a throw -/

/-- The three runs of digits that a throw is written with. -/
def parts (d : Dice) : Parts where
  count := digits d.count.toNat
  sides := digits d.sides.toNat
  modifier :=
    if d.modifier = 0 then none
    else some (decide (d.modifier.toInt < 0), digits d.modifier.toInt.natAbs)

theorem tail_parts (d : Dice) :
    Tail (if d.modifier = 0 then [] else signed d.modifier.toInt) d.parts.modifier := by
  unfold parts
  by_cases h0 : d.modifier = 0
  · simp only [if_pos h0]
    exact .none
  · simp only [if_neg h0]
    unfold signed
    by_cases hneg : d.modifier.toInt < 0
    · rw [if_pos hneg, decide_eq_true hneg]
      exact .minus (isRun_digits _) (digits_ne_nil _)
    · rw [if_neg hneg, decide_eq_false hneg]
      exact .plus (isRun_digits _) (digits_ne_nil _)

theorem chars_eq (d : Dice) : d.chars = d.parts.count ++
    'd' :: (d.parts.sides ++ if d.modifier = 0 then [] else signed d.modifier.toInt) := by
  unfold chars parts
  rw [List.append_assoc, List.cons_append]

theorem countValue_parts (d : Dice) : countValue d.parts.count = d.count.toNat := by
  unfold countValue parts
  rw [if_neg (digits_ne_nil _), value_digits]

theorem value_sides_parts (d : Dice) : value d.parts.sides = d.sides.toNat :=
  value_digits _

theorem modifierValue_parts (d : Dice) : modifierValue d.parts.modifier = d.modifier.toInt := by
  unfold parts
  by_cases h0 : d.modifier = 0
  · simp only [if_pos h0]
    rw [h0]
    rfl
  · simp only [if_neg h0, modifierValue, value_digits, decide_eq_true_eq]
    split <;> omega

/-- **Throws with the same parts are the same,** with any numbers. -/
theorem parts_injective {d d' : Dice} (h : d.parts = d'.parts) : d = d' := by
  have hcount : d.count = d'.count := by
    rw [← UInt32.toNat_inj, ← countValue_parts, h, countValue_parts]
  have hsides : d.sides = d'.sides := by
    rw [← UInt32.toNat_inj, ← value_sides_parts, h, value_sides_parts]
  have hmodifier : d.modifier = d'.modifier := by
    rw [← Int32.toInt_inj, ← modifierValue_parts, h, modifierValue_parts]
  obtain ⟨count, sides, modifier⟩ := d
  simp only at hcount hsides hmodifier
  rw [hcount, hsides, hmodifier]

theorem split_chars (d : Dice) : split d.chars = some d.parts :=
  split_eq_some_iff.mpr ⟨_, d.chars_eq, isRun_digits _, isRun_digits _, digits_ne_nil _,
    d.tail_parts⟩

theorem toList_text (d : Dice) : d.text.toList = d.chars :=
  String.toList_ofList

/-! ### Reading back -/

/-- **A throw is read from its notation,** with blanks anywhere and in either case. -/
theorem parse_of_respaces {d : Dice} (hd : d.Legal) {text : String}
    (h : Respaces d.chars text.toList) : parse text = .ok d := by
  rw [chars_eq] at h
  have hspells : Spells (squeeze text.toList) d.parts :=
    spells_of_respaces (isRun_digits _) (isRun_digits _) (digits_ne_nil _) d.tail_parts h
  have hbounds : WithinBounds d.count.toNat d.sides.toNat d.modifier.toInt := by
    have hsides := d.sides.toNat_lt
    have hlow := d.modifier.le_toInt
    have hhigh := d.modifier.toInt_lt
    refine ⟨⟨hd.some, hd.notMany⟩, ⟨hd.sided, ?_⟩, ?_, ?_⟩ <;> omega
  rw [parse_spelled hspells]
  simp only [countValue_parts, value_sides_parts, modifierValue_parts,
    find?_inOrder_eq_none.mpr hbounds, UInt32.ofNat_toNat, Int32.ofInt_toInt]

theorem respaces_refl : ∀ cs : List Char, Respaces cs cs
  | [] => .nil
  | c :: cs => .same c (respaces_refl cs)

/-- **Notation is read back.** A throw within the bounds is read from its
notation, wherever blanks are put in and whether it has `d` or `D`. Whatever is
read from a text is read from its own notation again. And no two throws, of any
numbers, have the same notation. -/
theorem text_is_read_back :
    (∀ d : Dice, 1 ≤ d.count.toNat → d.count.toNat ≤ 100 → 1 ≤ d.sides.toNat →
      ∀ text : String, Respaces d.text.toList text.toList → parse text = .ok d) ∧
    (∀ text d, parse text = .ok d → parse d.text = .ok d) ∧
    ∀ d d' : Dice, d.text = d'.text → d = d' := by
  refine ⟨fun d hsome hmany hsided text h => ?_, fun text d h => ?_, fun d d' h => ?_⟩
  · rw [toList_text] at h
    exact parse_of_respaces ⟨hsome, hmany, hsided⟩ h
  · refine parse_of_respaces (legal_of_parse h) ?_
    rw [toList_text]
    exact respaces_refl _
  · have hchars : d.chars = d'.chars := by rw [← toList_text, h, toList_text]
    have hparts := d.split_chars
    rw [hchars, split_chars] at hparts
    exact (parts_injective (Option.some.inj hparts)).symm

/-- The largest throw with the least modifier, with blanks in its numbers and
behind its sign. -/
theorem largest_throw_is_read_back :
    (⟨100, 4294967295, -2147483648⟩ : Dice).text = "100d4294967295-2147483648" ∧
    parse " 10\u20030D4294 967295-\u00a02147483648" = .ok ⟨100, 4294967295, -2147483648⟩ ∧
    parse "100d4294967295-2147483648" = .ok ⟨100, 4294967295, -2147483648⟩ := by
  have hwritten : (⟨100, 4294967295, -2147483648⟩ : Dice).text = "100d4294967295-2147483648" := by
    decide
  have hspaced : Respaces "100d4294967295-2147483648".toList
      " 10\u20030D4294 967295-\u00a02147483648".toList := by
    refine .blank (by decide) (.same '1' (.same '0' (.blank (by decide) (.same '0' (.capital ?_)))))
    refine .same '4' (.same '2' (.same '9' (.same '4' (.blank (by decide) ?_))))
    refine .same '9' (.same '6' (.same '7' (.same '2' (.same '9' (.same '5' (.same '-' ?_))))))
    exact .blank (by decide) (respaces_refl _)
  have hparse := text_is_read_back.1 ⟨100, 4294967295, -2147483648⟩ (by decide) (by decide)
    (by decide) " 10\u20030D4294 967295-\u00a02147483648" (hwritten ▸ hspaced)
  exact ⟨hwritten, hparse, hwritten ▸ text_is_read_back.2.1 _ _ hparse⟩

end Dice
end Tabletop
