/-
# Improving a character never hurts

One record is at least another one if it has the same keys, no lower number at any
of them, the same proficiencies and no lower bonus for them (`Character.AtMost`).
Looking up a key takes the same entry of both (`Character.lookUp_rel`), whatever the
spellings, and the rules are monotone in each number: also where a score is halved,
since the quotient is rounded down on both sides of zero (`ModifierFormula.worth_mono`).

So the bonus of a check does not fall. With the same dice the total does not either, up
to what 64 bits hold: it is the word of an exact total (`perform_exact`), and words are
in the order of the integers as long as these are words (`ofInt_le_ofInt`). To leave
64 bits takes dice by the billion, and no system that was built has more than a hundred.

Key definitions: `KeyMap.AtMost`, `Character.AtMost`, `Outcome.exactTotal`.
Key theorems: `Character.lookUp_rel`, `GameSystem.skillWorth_mono`, `bonus_le`,
`perform_exact`, `improvement_never_hurts`.
-/
import Tabletop.Proofs.Outcomes

namespace Tabletop

open Roll (shown)

/-- Two maps have the same keys, and no value of the first is above that of the
second. -/
structure KeyMap.AtMost (m m' : KeyMap Int32) : Prop where
  keys : m.keys = m'.keys
  values : ∀ k v v', m.get? k = some v → m'.get? k = some v' → v ≤ v'

/-- The second record is the first one, with some of its numbers raised. -/
structure Character.AtMost (c c' : Character) : Prop where
  attributes : c.attributes.AtMost c'.attributes
  skills : c.skills.AtMost c'.skills
  proficiency : c.proficiency = c'.proficiency
  proficiencyBonus : c.proficiencyBonus ≤ c'.proficiencyBonus

/-! ### Looking up in both -/

namespace KeyMap.AtMost

variable {m m' : KeyMap Int32} {k : String} {v : Int32}

theorem iff_entries : m.AtMost m' ↔
    m.keys = m'.keys ∧ ∀ e ∈ m.entries, ∀ e' ∈ m'.entries, e.1 = e'.1 → e.2 ≤ e'.2 := by
  constructor
  · rintro ⟨hkeys, hvalues⟩
    refine ⟨hkeys, ?_⟩
    rintro ⟨k, v⟩ he ⟨k', v'⟩ he' hkey
    obtain rfl : k = k' := hkey
    exact hvalues k v v' ((m.mem_entries_iff k v).mp he) ((m'.mem_entries_iff k v').mp he')
  · rintro ⟨hkeys, hvalues⟩
    refine ⟨hkeys, fun k v v' hv hv' => ?_⟩
    exact hvalues (k, v) ((m.mem_entries_iff k v).mpr hv) (k, v')
      ((m'.mem_entries_iff k v').mpr hv') rfl

instance : Decidable (m.AtMost m') :=
  decidable_of_iff _ iff_entries.symm

theorem exists_ge (h : m.AtMost m') (hv : m.get? k = some v) :
    ∃ v', m'.get? k = some v' ∧ v ≤ v' := by
  have hkey : k ∈ m'.keys := h.keys ▸ KeyMap.mem_keys_of_get? hv
  obtain ⟨v', hv'⟩ := Option.isSome_iff_exists.mp ((m'.mem_keys_iff k).mp hkey)
  exact ⟨v', hv', h.values k v v' hv hv'⟩

theorem get?_eq_none (h : m.AtMost m') (hv : m.get? k = none) : m'.get? k = none := by
  rw [← Option.not_isSome_iff_eq_none, ← KeyMap.mem_keys_iff] at hv ⊢
  exact h.keys ▸ hv

end KeyMap.AtMost

namespace Character

variable {m m' : KeyMap Int32} {c c' : Character}

/-- **Looking up takes the same entry of both maps,** or none of either. -/
theorem lookUp_rel (h : m.AtMost m') (key : String) :
    Option.Rel (· ≤ ·) (lookUp m key) (lookUp m' key) := by
  -- which entry is taken depends on the keys alone, and both maps have the same
  have hrecorded := recorded_lookUp m key
  generalize lookUp m key = o at hrecorded ⊢
  cases hrecorded with
  | exact hv =>
    obtain ⟨v', hv', hle⟩ := h.exists_ge hv
    rw [recorded_iff.mp (.exact hv')]
    exact .some hle
  | respelled hnone hv hsame hfirst =>
    obtain ⟨v', hv', hle⟩ := h.exists_ge hv
    rw [recorded_iff.mp (.respelled (h.get?_eq_none hnone) hv' hsame (h.keys ▸ hfirst))]
    exact .some hle
  | missing hmissing =>
    rw [recorded_iff.mp (.missing (h.keys ▸ hmissing))]
    exact .none

theorem lookUp_getD_le (h : m.AtMost m') (key : String) :
    ((lookUp m key).getD 0).toInt ≤ ((lookUp m' key).getD 0).toInt := by
  have hrel := lookUp_rel h key
  generalize lookUp m key = o, lookUp m' key = o' at hrel ⊢
  cases hrel with
  | some hle => exact Int32.le_iff_toInt_le.mp hle
  | none => exact Int.le_refl _

instance : Decidable (c.AtMost c') :=
  decidable_of_iff (c.attributes.AtMost c'.attributes ∧ c.skills.AtMost c'.skills ∧
    c.proficiency = c'.proficiency ∧ c.proficiencyBonus ≤ c'.proficiencyBonus)
    ⟨fun ⟨ha, hs, hp, hb⟩ => ⟨ha, hs, hp, hb⟩, fun ⟨ha, hs, hp, hb⟩ => ⟨ha, hs, hp, hb⟩⟩

theorem AtMost.isProficient (h : c.AtMost c') (skill : String) :
    c.isProficient skill = c'.isProficient skill := by
  unfold Character.isProficient
  rw [h.proficiency]

end Character

/-! ### The rules are monotone -/

/-- **A higher score is worth no less.** -/
theorem ModifierFormula.worth_mono (f : ModifierFormula) {n n' : Int} (h : n ≤ n') :
    f.worth n ≤ f.worth n' := by
  cases f with
  | linearMod =>
    rw [worth_linearMod, worth_linearMod]
    omega
  | directStat => exact h
  | addRaw => exact h

section Rules

variable {g : GameSystem} {c c' : Character} {requested : String} {r r' : Resolution}

theorem GameSystem.attributeWorth_mono (g : GameSystem) (h : c.AtMost c') (attr : String) :
    g.attributeWorth c attr ≤ g.attributeWorth c' attr :=
  g.formula.worth_mono (Character.lookUp_getD_le h.attributes attr)

/-- **A skill is worth no less** to the better character, however a system
composes it. -/
theorem GameSystem.skillWorth_mono (g : GameSystem) (h : c.AtMost c') (skill attr : String) :
    g.skillWorth c skill attr ≤ g.skillWorth c' skill attr := by
  have hattribute := g.attributeWorth_mono h attr
  have hscore : ((c.score attr).getD 0).toInt ≤ ((c'.score attr).getD 0).toInt :=
    Character.lookUp_getD_le h.attributes attr
  have hlevel : (c.level skill).toInt ≤ (c'.level skill).toInt :=
    Character.lookUp_getD_le h.skills skill
  have hbonus := Int32.le_iff_toInt_le.mp h.proficiencyBonus
  unfold skillWorth
  rw [h.isProficient]
  cases g.composition with
  | proficiencyGated =>
    simp only
    split <;> omega
  | statSum => exact Int.add_le_add hscore hlevel
  | modifierPlusLevel => exact Int.add_le_add hattribute hlevel

/-! ### Two records in one check -/

/-- A request is the same check for every record, or for none. -/
theorem resolve_both (g : GameSystem) (c c' : Character) (requested : String) :
    (resolve g c requested = .error (unknownCheck g requested) ∧
      resolve g c' requested = .error (unknownCheck g requested)) ∨
    ∃ r r', resolve g c requested = .ok r ∧ resolve g c' requested = .ok r' ∧
      r.check = r'.check ∧ r.kind = r'.kind := by
  rcases resolve_cases g c requested with ⟨ha, hr⟩ | ⟨attr, ha, hs, hr⟩ | ⟨ha, hs, hr⟩
  · exact .inr ⟨_, _, hr, resolve_attribute ha, rfl, rfl⟩
  · exact .inr ⟨_, _, hr, resolve_skill ha hs, rfl, rfl⟩
  · exact .inl ⟨hr, resolve_neither ha hs⟩

/-- **The bonus of a check does not fall.** -/
theorem bonus_le (h : c.AtMost c') (hr : resolve g c requested = .ok r)
    (hr' : resolve g c' requested = .ok r') (hcheck : r.check = r'.check)
    (hkind : r.kind = r'.kind) : r.bonus ≤ r'.bonus := by
  rw [Int64.le_iff_toInt_le, (resolve_adds hr).2, (resolve_adds hr').2]
  unfold Resolution.worth
  rw [hkind, hcheck]
  cases r'.kind with
  | attr => exact g.attributeWorth_mono h _
  | skill governor => exact g.skillWorth_mono h _ _

end Rules

/-! ### The same dice for both -/

/-- The words of two integers are in their order if both fit in 64 bits, or neither
does. -/
theorem ofInt_le_ofInt {m n : Int} (hle : m ≤ n) (hnear : n < m + 2 ^ 64) (hm : -2 ^ 63 ≤ m)
    (hn : n < 2 ^ 64) :
    Int64.ofInt m ≤ Int64.ofInt n ↔ n < 2 ^ 63 ∨ 2 ^ 63 ≤ m := by
  -- above the bound, a word is one period less than the integer
  have hword : ∀ x : Int, -2 ^ 63 ≤ x → x < 2 ^ 64 →
      (Int64.ofInt x).toInt = if x < 2 ^ 63 then x else x - 2 ^ 64 := fun x hlow hhigh => by
    split
    · exact Int64.toInt_ofInt_of_le hlow ‹_›
    · have hperiod : Int64.ofInt x = Int64.ofInt (x - 2 ^ 64) := by
        rw [Int64.ofInt_sub]
        exact (Int64.sub_zero _).symm
      rw [hperiod, Int64.toInt_ofInt_of_le (by omega) (by omega)]
  rw [Int64.le_iff_toInt_le, hword m hm (by omega), hword n (by omega) hn]
  split <;> split <;> omega

section Totals

variable {c c' : Character} {g : GameSystem} {requested : String} {r : Resolution}

/-- What the dice of an outcome show, their modifier and the bonus of the check, added
up as integers. -/
def Outcome.exactTotal (o : Outcome) : Int :=
  shown o.roll.values + o.roll.modifier.toInt + o.resolution.bonus.toInt

/-- A check that is resolved ends with the word of its exact total, which is a word
itself with fewer than two to the thirty-first dice. -/
theorem perform_exact (h : resolve g c requested = .ok r) {σ : Type} {values : List UInt32}
    {die : UInt32 → StateM σ UInt32} {s s' : σ}
    (hroll : g.primary.rollWith die s = (Roll.ofValues g.primary values, s'))
    (hlength : values.length = g.primary.count.toNat) :
    ∃ o, perform g c requested die s = (.ok o, s') ∧ o.resolution = r ∧
      o.roll = Roll.ofValues g.primary values ∧ o.total = .ofInt o.exactTotal ∧
      -2 ^ 63 ≤ o.exactTotal ∧ o.exactTotal < 2 ^ 64 ∧
      (g.primary.count.toNat < 2 ^ 31 → o.exactTotal < 2 ^ 63) := by
  have hperform := perform_of_resolve h die s
  rw [hroll] at hperform
  obtain ⟨hshown, hmost⟩ := Roll.shown_words values
  obtain ⟨hlow, hhigh⟩ := (resolve_adds h).1.bonus_between
  have hmodifier := g.primary.modifier.le_toInt
  have hmodifier' := g.primary.modifier.toInt_lt
  have hcount := g.primary.count.toNat_lt
  refine ⟨_, hperform, rfl, rfl, Roll.total_add _ _ _, ?_, ?_, fun hfew => ?_⟩
  · show -2 ^ 63 ≤ shown values + g.primary.modifier.toInt + r.bonus.toInt
    omega
  · show shown values + g.primary.modifier.toInt + r.bonus.toInt < 2 ^ 64
    omega
  · show shown values + g.primary.modifier.toInt + r.bonus.toInt < 2 ^ 63
    omega

/-- **Improving a character never hurts,** up to what 64 bits hold. For each system and
each request, both records are refused alike, or both resolve, and the bonus of the
better one is no lower. Then the same dice give both the same roll, and the total of
the better one is no lower either, unless the exact total of the better record leaves
64 bits and that of the other one does not. That takes two to the thirty-first dice,
and no system that was built has so many. -/
theorem improvement_never_hurts (h : c.AtMost c') (g : GameSystem) (requested : String) :
    (resolve g c requested = .error (unknownCheck g requested) ∧
      resolve g c' requested = .error (unknownCheck g requested)) ∨
    ∃ r r', resolve g c requested = .ok r ∧ resolve g c' requested = .ok r' ∧
      r.bonus ≤ r'.bonus ∧
      ∀ {σ : Type} (die : UInt32 → StateM σ UInt32) (s : σ), ∃ o o' s',
        perform g c requested die s = (.ok o, s') ∧ perform g c' requested die s = (.ok o', s') ∧
        o.roll = o'.roll ∧
        (o.total ≤ o'.total ↔ o'.exactTotal < 2 ^ 63 ∨ 2 ^ 63 ≤ o.exactTotal) ∧
        (g.primary.count.toNat < 2 ^ 31 → o.total ≤ o'.total) ∧
        ∀ key source, GameSystem.ofSource key source = .ok g → o.total ≤ o'.total := by
  rcases resolve_both g c c' requested with hrefused | ⟨r, r', hr, hr', hcheck, hkind⟩
  · exact .inl hrefused
  · have hbonus := bonus_le h hr hr' hcheck hkind
    refine .inr ⟨r, r', hr, hr', hbonus, fun die s => ?_⟩
    obtain ⟨values, s', hroll, hlength, -⟩ := Dice.rollWith_asks g.primary die s
    obtain ⟨o, hperform, hresolution, hrolled, htotal, hlow, -, -⟩ :=
      perform_exact hr hroll hlength
    obtain ⟨o', hperform', hresolution', hrolled', htotal', -, hhigh, hword⟩ :=
      perform_exact hr' hroll hlength
    have hraised : o'.exactTotal = o.exactTotal + (r'.bonus.toInt - r.bonus.toInt) := by
      unfold Outcome.exactTotal
      rw [hrolled, hrolled', hresolution, hresolution']
      omega
    have hle := Int64.le_iff_toInt_le.mp hbonus
    have hbounds := (resolve_adds hr).1.bonus_between
    have hbounds' := (resolve_adds hr').1.bonus_between
    have hfalls : o.total ≤ o'.total ↔ o'.exactTotal < 2 ^ 63 ∨ 2 ^ 63 ≤ o.exactTotal := by
      rw [htotal, htotal']
      exact ofInt_le_ofInt (by omega) (by omega) hlow hhigh
    refine ⟨o, o', s', hperform, hperform', hrolled.trans hrolled'.symm, hfalls,
      fun hfew => hfalls.mpr (.inl (hword hfew)), fun key source hbuilt => ?_⟩
    have hmany := (GameSystem.legal_primary hbuilt).notMany
    exact hfalls.mpr (.inl (hword (by omega)))

/-- A score below zero that is spelled otherwise, in front of another spelling of it,
and a better bonus. -/
theorem better_garra_climbs_no_worse :
    let source : SystemSource := ⟨none, ["STR"], KeyMap.ofList [("Climb", "str")],
      some .linearMod, none, some "2D6 - 1", none⟩
    let g : GameSystem := ⟨"k", "k", ["str"], KeyMap.ofList [("climb", "str")], .linearMod,
      .proficiencyGated, "2D6 - 1", ⟨2, 6, -1⟩⟩
    let c : Character := { Character.blank "Garra" "k" with
      attributes := .ofList [("STR", -7), ("Str ", 12)]
      proficiency := .ofList [("climb", true)]
      proficiencyBonus := 2 }
    let c' : Character := { c with
      attributes := .ofList [("STR", -6), ("Str ", 12)]
      proficiencyBonus := 3 }
    GameSystem.ofSource "k" source = .ok g ∧ c.AtMost c' ∧
    (∃ r, resolve g c "Climb" = .ok r ∧ r.bonus = -7) ∧
    (∃ r, resolve g c' "Climb" = .ok r ∧ r.bonus = -5) ∧
    ∃ o o' n, perform g c "Climb" (DieSource.ofSeed 7).next 0 = (.ok o, n) ∧
      perform g c' "Climb" (DieSource.ofSeed 7).next 0 = (.ok o', n) ∧ o.roll = o'.roll ∧
      o.total ≤ o'.total := by
  intro source g c c'
  have hbuilt : GameSystem.ofSource "k" source = .ok g := by decide +kernel
  have hmost : c.AtMost c' := by decide +kernel
  have hworse : resolve g c "Climb" = .ok ⟨"climb", .skill "str", -7,
      [.score "str" (-7) (some (-9)), .proficiency 2], "STR -7 (mod -9) + Prof. +2"⟩ := by
    decide +kernel
  have hbetter : resolve g c' "Climb" = .ok ⟨"climb", .skill "str", -5,
      [.score "str" (-6) (some (-8)), .proficiency 3], "STR -6 (mod -8) + Prof. +3"⟩ := by
    decide +kernel
  rcases improvement_never_hurts hmost g "Climb" with ⟨hrefused, -⟩ | ⟨r, r', -, -, -, hrolls⟩
  · cases hrefused.symm.trans hworse
  · obtain ⟨o, o', n, ho, ho', hroll, -, -, hle⟩ := hrolls (DieSource.ofSeed 7).next 0
    exact ⟨hbuilt, hmost, ⟨_, hworse, rfl⟩, ⟨_, hbetter, rfl⟩, o, o', n, ho, ho', hroll,
      hle "k" source hbuilt⟩

/-- **A total falls where it leaves 64 bits.** Two to the thirty-first dice that show
their most come up to the bound with the largest modifier, so one more point in a score
takes the total to the other end. -/
theorem better_score_falls_past_64_bits :
    let g : GameSystem := ⟨"k", "k", ["wit"], KeyMap.ofList [], .addRaw, .statSum, "d20",
      ⟨2147483648, 4294967295, 2147483647⟩⟩
    let c : Character := { Character.blank "Rin" "k" with attributes := .ofList [("wit", 0)] }
    let c' : Character := { c with attributes := .ofList [("wit", 1)] }
    let die := (DieSource.ofValues [4294967295]).next
    c.AtMost c' ∧ ∃ o o' n, perform g c "wit" die 0 = (.ok o, n) ∧
      perform g c' "wit" die 0 = (.ok o', n) ∧ o.roll = o'.roll ∧
      o.total = 9223372036854775807 ∧ o'.total = -9223372036854775808 ∧ ¬o.total ≤ o'.total := by
  intro g c c' die
  have hmost : c.AtMost c' := by decide +kernel
  have hworse : resolve g c "wit" = .ok ⟨"wit", .attr, 0, [.score "wit" 0 none], "WIT 0"⟩ := by
    decide +kernel
  have hbetter : resolve g c' "wit" = .ok ⟨"wit", .attr, 1, [.score "wit" 1 none], "WIT 1"⟩ := by
    decide +kernel
  obtain ⟨values, n, hroll, hlength, hasks⟩ := Dice.rollWith_asks g.primary die 0
  have hcount : g.primary.count.toNat = 2147483648 := rfl
  have hvalue : (4294967295 : UInt32).toNat = 4294967295 := rfl
  have hmodifier : g.primary.modifier.toInt = 2147483647 := by decide
  obtain ⟨hleast, hmost'⟩ := (Dice.shows_ofValues 4294967295 _ 0).shown_between hasks
  rw [hlength, hcount, hvalue] at hleast hmost'
  have hshown : shown values = 9223372034707292160 := by omega
  obtain ⟨o, ho, hresolution, hrolled, htotal, -⟩ := perform_exact hworse hroll hlength
  obtain ⟨o', ho', hresolution', hrolled', htotal', -⟩ := perform_exact hbetter hroll hlength
  have hexact : o.exactTotal = 9223372036854775807 := by
    unfold Outcome.exactTotal
    rw [hrolled, hresolution]
    show shown values + g.primary.modifier.toInt + (0 : Int64).toInt = _
    rw [hshown, hmodifier]
    decide
  have hexact' : o'.exactTotal = 9223372036854775808 := by
    unfold Outcome.exactTotal
    rw [hrolled', hresolution']
    show shown values + g.primary.modifier.toInt + (1 : Int64).toInt = _
    rw [hshown, hmodifier]
    decide
  rw [hexact] at htotal
  rw [hexact'] at htotal'
  refine ⟨hmost, o, o', n, ho, ho', hrolled.trans hrolled'.symm, ?_, ?_, ?_⟩
  · rw [htotal]
    decide
  · rw [htotal']
    decide
  · rw [htotal, htotal']
    decide

end Totals

end Tabletop
