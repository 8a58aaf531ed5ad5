/-
# Which texts are dice notation

The notation as a grammar, `[N]dM[+K|-K]` over the characters that are not
blank, with ASCII digits and a `d` in either case (`Dice.Spells`). `Dice.parse`
works on the small form of the text, and only a `D` has a `d` for its small
form, so it takes a text apart exactly as the grammar does
(`split_lowerEach`). The numbers may have any length; the bounds that they can
break are tried in one order (`DiceBound.inOrder`), and the first one broken is
reported (`parse_spelled`).

Key definitions: `Dice.Spells`, `DiceBound.brokenBy`, `DiceBound.inOrder`,
`Dice.Legal`.
Key theorems: `Dice.split_lowerEach`, `Dice.parse_reads_spelled`.
-/
import Mathlib.Algebra.Group.Int.Defs
import Mathlib.Algebra.Group.Nat.Defs
import Mathlib.Tactic.SplitIfs
import Tabletop.Dice.Basic
import Tabletop.Proofs.Casing
import Tabletop.Proofs.DigitRuns

namespace Tabletop

/-! ### The bounds, in their order -/

namespace DiceBound

/-- Whether the numbers of a notation break a bound. -/
def brokenBy (count sides : Nat) (modifier : Int) : DiceBound → Bool
  | countTooLarge => 2 ^ 32 ≤ count
  | sidesTooLarge => 2 ^ 32 ≤ sides
  | modifierTooLarge => modifier < -2 ^ 31 ∨ 2 ^ 31 ≤ modifier
  | noDice => count = 0
  | tooManyDice => 100 < count
  | noSides => sides = 0
  | overLimit limit => limit.toNat < count

/-- The bounds of the notation, in the order in which they are tried. -/
def inOrder : List DiceBound :=
  [countTooLarge, sidesTooLarge, modifierTooLarge, noDice, tooManyDice, noSides]

end DiceBound

namespace Dice

open Decimal Text

theorem brokenBound_eq (count sides : Nat) (modifier : Int) :
    brokenBound count sides modifier =
      DiceBound.inOrder.find? (·.brokenBy count sides modifier) := by
  have hmax : maxCount.toNat = 100 := rfl
  have hsize : UInt32.size = 2 ^ 32 := rfl
  have hlow : Int32.minValue.toInt = -2 ^ 31 := rfl
  have hhigh : Int32.maxValue.toInt < modifier ↔ 2 ^ 31 ≤ modifier := Int.lt_iff_add_one_le
  unfold brokenBound DiceBound.inOrder
  simp only [hmax, hsize, hlow, hhigh]
  split_ifs <;> simp_all [DiceBound.brokenBy]

/-! ### The grammar -/

/-- What may follow the sides: nothing, or a sign and digits. -/
inductive Tail : List Char → Option (Bool × List Char) → Prop
  | none : Tail [] none
  | plus {ds : List Char} (h : IsRun ds) (hne : ds ≠ []) : Tail ('+' :: ds) (some (false, ds))
  | minus {ds : List Char} (h : IsRun ds) (hne : ds ≠ []) : Tail ('-' :: ds) (some (true, ds))

/-- A text spells out the parts of a notation: digits or none, a `d` in either
case, digits, and perhaps a sign and digits. -/
inductive Spells : List Char → Parts → Prop
  | mk {count sides tail : List Char} {modifier : Option (Bool × List Char)} {d : Char}
      (hc : IsRun count) (hd : d = 'd' ∨ d = 'D') (hs : IsRun sides) (hne : sides ≠ [])
      (ht : Tail tail modifier) : Spells (count ++ d :: (sides ++ tail)) ⟨count, sides, modifier⟩

theorem Tail.runEnds {tail : List Char} {m : Option (Bool × List Char)} (h : Tail tail m) :
    RunEnds tail := by
  cases h with
  | none => exact runEnds_nil
  | plus => exact runEnds_cons (by decide) _
  | minus => exact runEnds_cons (by decide) _

theorem splitModifier_eq_some {cs : List Char} {m : Bool × List Char} :
    splitModifier cs = some m ↔ Tail cs (some m) := by
  constructor
  · intro h
    unfold splitModifier at h
    split at h
    · split at h
      · rename_i ds hds
        cases h
        exact .plus (List.all_eq_true.mp hds.2) hds.1
      · cases h
    · split at h
      · rename_i ds hds
        cases h
        exact .minus (List.all_eq_true.mp hds.2) hds.1
      · cases h
    · cases h
  · intro h
    cases h with
    | plus hr hne => exact if_pos ⟨hne, List.all_eq_true.mpr hr⟩
    | minus hr hne => exact if_pos ⟨hne, List.all_eq_true.mpr hr⟩

/-- Splitting takes a text in small letters apart as the grammar does. -/
theorem split_eq_some_iff {cs : List Char} {p : Parts} :
    split cs = some p ↔ ∃ tail, cs = p.count ++ 'd' :: (p.sides ++ tail) ∧ IsRun p.count ∧
      IsRun p.sides ∧ p.sides ≠ [] ∧ Tail tail p.modifier := by
  constructor
  · intro h
    unfold split at h
    split at h
    · rename_i rest hrest
      have hcs : cs = cs.takeWhile Char.isDigit ++ 'd' :: rest := by
        rw [← hrest, List.takeWhile_append_dropWhile]
      have hsplit : rest.takeWhile Char.isDigit ++ rest.dropWhile Char.isDigit = rest :=
        List.takeWhile_append_dropWhile
      simp only at h
      split at h
      · cases h
      · rename_i hne
        split at h
        · rename_i hnil
          cases h
          rw [hnil, List.append_nil] at hsplit
          exact ⟨[], by rw [List.append_nil, hsplit]; exact hcs, isRun_takeWhile _,
            isRun_takeWhile _, hne, .none⟩
        · obtain ⟨m, hm, rfl⟩ := Option.map_eq_some_iff.mp h
          exact ⟨_, by rw [hsplit]; exact hcs, isRun_takeWhile _, isRun_takeWhile _, hne,
            splitModifier_eq_some.mp hm⟩
    · cases h
  · rintro ⟨tail, rfl, hc, hs, hne, ht⟩
    obtain ⟨count, sides, modifier⟩ := p
    simp only at hc hs hne ht ⊢
    have hd : RunEnds ('d' :: (sides ++ tail)) := runEnds_cons (by decide) _
    unfold split
    rw [dropWhile_run hc hd, takeWhile_run hc hd]
    simp only [takeWhile_run hs ht.runEnds, dropWhile_run hs ht.runEnds, if_neg hne]
    cases ht with
    | none => rfl
    | plus hr hne =>
      simp only [splitModifier_eq_some.mpr (.plus hr hne), Option.map_some]
    | minus hr hne =>
      simp only [splitModifier_eq_some.mpr (.minus hr hne), Option.map_some]

/-! ### Capitals -/

theorem toNat_of_isRun {ds : List Char} (h : IsRun ds) :
    ∀ c ∈ ds, 0 < c.toNat ∧ c.toNat < 0x41 := fun c hc => by
  have := Char.isDigit_iff_toNat.mp (h c hc)
  have h0 : '0'.toNat = 48 := rfl
  have h9 : '9'.toNat = 57 := rfl
  omega

theorem lowerEach_run {ds : List Char} (h : IsRun ds) (cs : List Char) :
    lowerEach (ds ++ cs) = ds ++ lowerEach cs :=
  lowerEach_append_of_lt (fun c hc => (toNat_of_isRun h c hc).2) cs

theorem lowerEach_tail {tail : List Char} {m : Option (Bool × List Char)} (h : Tail tail m) :
    lowerEach tail = tail := by
  cases h with
  | none => rfl
  | plus hr _ =>
    have := lowerEach_run hr []
    rw [List.append_nil, lowerEach_nil, List.append_nil] at this
    rw [lowerEach_cons, this, lowerChar_of_lt (by decide)]
    rfl
  | minus hr _ =>
    have := lowerEach_run hr []
    rw [List.append_nil, lowerEach_nil, List.append_nil] at this
    rw [lowerEach_cons, this, lowerChar_of_lt (by decide)]
    rfl

theorem eq_of_lowerEach_tail {cs tail : List Char} {m : Option (Bool × List Char)}
    (h : Tail tail m) (he : lowerEach cs = tail) : cs = tail := by
  have hlow : ∀ c ∈ tail, 0 < c.toNat ∧ c.toNat < 0x41 := by
    cases h with
    | none => exact fun c hc => by cases hc
    | plus hr _ => exact List.forall_mem_cons.mpr ⟨by decide, toNat_of_isRun hr⟩
    | minus hr _ => exact List.forall_mem_cons.mpr ⟨by decide, toNat_of_isRun hr⟩
  obtain ⟨cs', rfl, hnil⟩ := lowerEach_eq_append hlow (he.trans (List.append_nil _).symm)
  rw [eq_nil_of_lowerEach hnil, List.append_nil]

theorem eq_of_lowerEach_d {cs xs : List Char} (h : lowerEach cs = 'd' :: xs) :
    ∃ d cs', cs = d :: cs' ∧ (d = 'd' ∨ d = 'D') ∧ lowerEach cs' = xs := by
  obtain ⟨d, cs', rfl, hxs, hd⟩ := lowerEach_eq_cons h (by decide) (by decide)
  refine ⟨d, cs', rfl, ?_, hxs⟩
  rcases hd with rfl | ⟨hd, -⟩
  · exact .inl rfl
  · have h100 : 'd'.toNat = 100 := rfl
    have : d.toNat = 'D'.toNat := by
      show d.toNat = 68
      omega
    exact .inr (Char.toNat_inj.mp this)

/-- **The small form of a text is taken apart as the grammar takes the text.**
No letter but `d` and `D`, and no digit but the ASCII ones, can get into the
notation through small letters. -/
theorem split_lowerEach {cs : List Char} {p : Parts} :
    split (lowerEach cs) = some p ↔ Spells cs p := by
  rw [split_eq_some_iff]
  constructor
  · rintro ⟨tail, he, hc, hs, hne, ht⟩
    obtain ⟨cs1, rfl, h1⟩ := lowerEach_eq_append (toNat_of_isRun hc) he
    obtain ⟨d, cs2, rfl, hd, h2⟩ := eq_of_lowerEach_d h1
    obtain ⟨cs3, rfl, h3⟩ := lowerEach_eq_append (toNat_of_isRun hs) h2
    rw [eq_of_lowerEach_tail ht h3]
    exact .mk hc hd hs hne ht
  · intro h
    cases h with
    | @mk count sides tail modifier d hc hd hs hne ht =>
      refine ⟨tail, ?_, hc, hs, hne, ht⟩
      have hlow : lowerChar d = ['d'] := by
        rcases hd with rfl | rfl
        · decide
        · decide
      rw [lowerEach_run hc, lowerEach_cons, hlow, lowerEach_run hs, lowerEach_tail ht]
      rfl

/-- The numbers of a notation keep all the bounds. -/
def WithinBounds (count sides : Nat) (modifier : Int) : Prop :=
  (1 ≤ count ∧ count ≤ 100) ∧ (1 ≤ sides ∧ sides ≤ 2 ^ 32 - 1) ∧
    (-2 ^ 31 ≤ modifier ∧ modifier ≤ 2 ^ 31 - 1)

theorem find?_inOrder_eq_none {count sides : Nat} {modifier : Int} :
    DiceBound.inOrder.find? (·.brokenBy count sides modifier) = none ↔
      WithinBounds count sides modifier := by
  rw [List.find?_eq_none]
  simp only [DiceBound.inOrder, List.forall_mem_cons, DiceBound.brokenBy, WithinBounds,
    decide_eq_true_eq]
  constructor
  · intro h
    omega
  · intro h
    refine ⟨by omega, by omega, by omega, by omega, by omega, by omega, ?_⟩
    exact fun b hb => by cases hb

/-- Reading a spelled notation breaks the first bound, or gives its numbers. -/
theorem parse_spelled {text : String} {p : Parts} (h : Spells (squeeze text.toList) p) :
    parse text =
      match DiceBound.inOrder.find?
        (·.brokenBy (countValue p.count) (value p.sides) (modifierValue p.modifier)) with
      | some bound => .error (.outOfRange text bound)
      | none => .ok ⟨.ofNat (countValue p.count), .ofNat (value p.sides),
          .ofInt (modifierValue p.modifier)⟩ := by
  have hsplit := split_lowerEach.mpr h
  rw [← brokenBound_eq]
  unfold parse
  cases hb : brokenBound (countValue p.count) (value p.sides) (modifierValue p.modifier) with
  | none => simp only [hsplit, hb]
  | some bound => simp only [hsplit, hb]

/-- The number of dice and the sides of a throw keep the bounds. -/
structure Legal (d : Dice) : Prop where
  some : 1 ≤ d.count.toNat
  notMany : d.count.toNat ≤ 100
  sided : 1 ≤ d.sides.toNat

theorem legal_of_parse {text : String} {d : Dice} (h : parse text = .ok d) : d.Legal := by
  cases hsplit : split (lowerEach (squeeze text.toList)) with
  | none =>
    unfold parse at h
    rw [hsplit] at h
    cases h
  | some p =>
    rw [parse_spelled (split_lowerEach.mp hsplit)] at h
    split at h
    · cases h
    · rename_i hnone
      cases h
      obtain ⟨⟨hsome, hmany⟩, ⟨hsided, hsides⟩, -⟩ := find?_inOrder_eq_none.mp hnone
      have hcount : (UInt32.ofNat (countValue p.count)).toNat = countValue p.count :=
        UInt32.toNat_ofNat_of_lt' (by show _ < 2 ^ 32; omega)
      have hvalue : (UInt32.ofNat (value p.sides)).toNat = value p.sides :=
        UInt32.toNat_ofNat_of_lt' (by show _ < 2 ^ 32; omega)
      rw [← hcount] at hsome hmany
      rw [← hvalue] at hsided
      exact ⟨hsome, hmany, hsided⟩

/-- **Reading accepts the notation and nothing else.** A text is malformed
exactly if no notation is spelled by its characters that are not blank. The
numbers of one that is are the number of dice, one if it is left out, the
sides, and the modifier, zero if it is left out. Within the bounds the result
has these numbers; otherwise the first bound that they break is reported, with
the text as it was. -/
theorem parse_reads_spelled (text : String) :
    (parse text = .error (.malformed text) ↔ ∀ p, ¬ Spells (squeeze text.toList) p) ∧
    ∀ p, Spells (squeeze text.toList) p →
      ((∃ d, parse text = .ok d ∧ d.count.toNat = countValue p.count ∧
          d.sides.toNat = value p.sides ∧ d.modifier.toInt = modifierValue p.modifier) ↔
        WithinBounds (countValue p.count) (value p.sides) (modifierValue p.modifier)) ∧
      (¬ WithinBounds (countValue p.count) (value p.sides) (modifierValue p.modifier) →
        ∃ bound, parse text = .error (.outOfRange text bound) ∧
          DiceBound.inOrder.find? (·.brokenBy (countValue p.count) (value p.sides)
            (modifierValue p.modifier)) = some bound) := by
  refine ⟨⟨fun h p hp => ?_, fun h => ?_⟩, fun p hp => ⟨⟨?_, fun hb => ?_⟩, fun hb => ?_⟩⟩
  · rw [parse_spelled hp] at h
    split at h <;> cases h
  · have hnone : split (lowerEach (squeeze text.toList)) = none :=
      Option.eq_none_iff_forall_ne_some.mpr fun p hp => h p (split_lowerEach.mp hp)
    unfold parse
    rw [hnone]
  · rintro ⟨d, hd, -, -, -⟩
    rw [parse_spelled hp] at hd
    split at hd
    · cases hd
    · rename_i hnone
      exact find?_inOrder_eq_none.mp hnone
  · rw [parse_spelled hp, find?_inOrder_eq_none.mpr hb]
    obtain ⟨⟨-, hc⟩, ⟨-, hs⟩, hm, hm'⟩ := hb
    refine ⟨_, rfl, ?_, ?_, ?_⟩
    · exact UInt32.toNat_ofNat_of_lt' (by show _ < 2 ^ 32; omega)
    · exact UInt32.toNat_ofNat_of_lt' (by show _ < 2 ^ 32; omega)
    · exact Int32.toInt_ofInt_of_le (by omega) (by omega)
  · rw [parse_spelled hp]
    cases hf : DiceBound.inOrder.find? (·.brokenBy (countValue p.count) (value p.sides)
      (modifierValue p.modifier)) with
    | none => exact absurd (find?_inOrder_eq_none.mp hf) hb
    | some bound => exact ⟨bound, rfl, rfl⟩

/-- Blanks may stand anywhere, also within a number and behind a sign. -/
theorem spaced_notation_is_read :
    Spells (squeeze " 002 D 1\u20032 - 04".toList)
      ⟨['0', '0', '2'], ['1', '2'], some (true, ['0', '4'])⟩ ∧
    ∃ d, parse " 002 D 1\u20032 - 04" = .ok d ∧
      d.count.toNat = 2 ∧ d.sides.toNat = 12 ∧ d.modifier.toInt = -4 := by
  have hcount : IsRun ['0', '0', '2'] := List.all_eq_true.mp rfl
  have hsides : IsRun ['1', '2'] := List.all_eq_true.mp rfl
  have hmodifier : IsRun ['0', '4'] := List.all_eq_true.mp rfl
  have h : Spells (squeeze " 002 D 1\u20032 - 04".toList)
      ⟨['0', '0', '2'], ['1', '2'], some (true, ['0', '4'])⟩ := by
    have hs : squeeze " 002 D 1\u20032 - 04".toList =
        ['0', '0', '2'] ++ 'D' :: (['1', '2'] ++ '-' :: ['0', '4']) := by decide
    rw [hs]
    exact .mk hcount (.inr rfl) hsides (List.cons_ne_nil _ _)
      (.minus hmodifier (List.cons_ne_nil _ _))
  exact ⟨h, ((parse_reads_spelled _).2 _ h).1.mpr (by unfold WithinBounds; decide)⟩

end Dice
end Tabletop
