/-
# A policy only takes away

A roll policy reads the notation and then looks at what was read: first at the
size of the dice, then at how many there are. So it accepts a text exactly if
the reader does and the throw is one that it permits (`RollPolicy.parse_eq_ok`),
and what it accepts is the very throw that was read. What the reader refuses is
refused with the reader's error, whatever the policy.

The limit on free dice is kept from 1 to 100 (`RollPolicy.toNat_withMaxDice`).
So a higher limit permits more, a single die of a standard size is always
permitted, and no limit permits what is refused where the limits are lifted,
since the reader itself stops at 100 dice
(`RollPolicy.policies_limit_what_is_read`).

Key definition: `RollPolicy.Permits`.
Key theorems: `RollPolicy.parse_eq_ok`, `RollPolicy.parse_unrestricted`,
`RollPolicy.parse_free`, `Command.error_of_roll`,
`RollPolicy.policies_limit_what_is_read`.
-/
import Mathlib.Data.List.Basic
import Tabletop.Proofs.Commands
import Tabletop.Proofs.NotationText

namespace Tabletop
namespace RollPolicy

variable {p : RollPolicy} {d : Dice} {text : String} {e : DiceError}

/-! ### What a policy permits -/

/-- A throw keeps to a policy: its dice have a listed size, where sizes are
listed, and there are no more of them than it allows. -/
structure Permits (p : RollPolicy) (d : Dice) : Prop where
  sized : ∀ allowed, p.allowedSides = some allowed → d.sides ∈ allowed
  counted : d.count.toNat ≤ p.maxDice.toNat

theorem checkCount_eq (p : RollPolicy) (d : Dice) : p.checkCount d =
    if d.count.toNat ≤ p.maxDice.toNat then .ok ()
    else .error (.outOfRange d.text (.overLimit p.maxDice)) := by
  unfold checkCount
  by_cases h : d.count.toNat ≤ p.maxDice.toNat
  · have hnot : ¬p.maxDice < d.count := by rw [UInt32.lt_iff_toNat_lt]; omega
    rw [if_pos h, if_neg hnot]
  · have hlt : p.maxDice < d.count := by rw [UInt32.lt_iff_toNat_lt]; omega
    rw [if_neg h, if_pos hlt]

theorem check_listed {allowed : List UInt32} (h : p.allowedSides = some allowed) (d : Dice) :
    p.check d =
      if d.sides ∈ allowed then p.checkCount d else .error (.unsupported d.sides allowed) := by
  unfold check
  rw [h]
  simp

theorem check_eq_ok : p.check d = .ok () ↔ p.Permits d := by
  have hcount : p.checkCount d = .ok () ↔ d.count.toNat ≤ p.maxDice.toNat := by
    rw [checkCount_eq]
    by_cases h : d.count.toNat ≤ p.maxDice.toNat <;> simp [h]
  cases hsides : p.allowedSides with
  | none =>
    have hcheck : p.check d = p.checkCount d := by unfold check; rw [hsides]
    rw [hcheck, hcount]
    refine ⟨fun h => ⟨fun allowed hs => ?_, h⟩, fun h => h.counted⟩
    rw [hsides] at hs
    cases hs
  | some allowed =>
    rw [check_listed hsides]
    by_cases hs : d.sides ∈ allowed
    · rw [if_pos hs, hcount]
      refine ⟨fun h => ⟨fun as has => ?_, h⟩, fun h => h.counted⟩
      rw [hsides] at has
      cases has
      exact hs
    · rw [if_neg hs]
      exact ⟨fun h => (nomatch h), fun h => absurd (h.sized allowed hsides) hs⟩

theorem parse_of_error (h : Dice.parse text = .error e) : p.parse text = .error e := by
  unfold parse
  rw [h]

theorem parse_of_ok (h : Dice.parse text = .ok d) : p.parse text = (p.check d).map fun _ => d := by
  unfold parse
  rw [h]
  cases hc : p.check d <;> simp only [hc] <;> rfl

/-- **A policy accepts what is read and permitted,** as it was read. -/
theorem parse_eq_ok : p.parse text = .ok d ↔ Dice.parse text = .ok d ∧ p.Permits d := by
  cases hread : Dice.parse text with
  | error e =>
    rw [parse_of_error hread]
    exact ⟨fun h => (nomatch h), fun h => (nomatch h.1)⟩
  | ok d' =>
    rw [parse_of_ok hread]
    constructor
    · intro h
      cases hcheck : p.check d' with
      | error e => rw [hcheck] at h; cases h
      | ok _ =>
        rw [hcheck] at h
        cases h
        exact ⟨rfl, check_eq_ok.mp hcheck⟩
    · rintro ⟨h, hpermits⟩
      cases h
      rw [check_eq_ok.mpr hpermits]
      rfl

/-! ### Dice without limits, and free dice -/

theorem permits_unrestricted (h : Dice.parse text = .ok d) : unrestricted.Permits d :=
  ⟨fun _ hs => (nomatch hs), (Dice.legal_of_parse h).notMany⟩

/-- **Without limits a policy is the reader.** -/
theorem parse_unrestricted (text : String) : unrestricted.parse text = Dice.parse text := by
  cases hread : Dice.parse text with
  | error e => exact parse_of_error hread
  | ok d => exact parse_eq_ok.mpr ⟨hread, permits_unrestricted hread⟩

theorem toNat_withMaxDice (p : RollPolicy) (limit : UInt32) :
    (p.withMaxDice limit).maxDice.toNat = min (max limit.toNat 1) 100 := by
  have hlow : limit < 1 ↔ limit.toNat < 1 := UInt32.lt_iff_toNat_lt
  have hhigh : Dice.maxCount < limit ↔ 100 < limit.toNat := UInt32.lt_iff_toNat_lt
  show (if limit < 1 then 1 else if Dice.maxCount < limit then Dice.maxCount else limit).toNat = _
  by_cases h1 : limit < 1
  · rw [if_pos h1]
    rw [hlow] at h1
    show 1 = _
    omega
  · rw [if_neg h1]
    rw [hlow] at h1
    by_cases h2 : Dice.maxCount < limit
    · rw [if_pos h2]
      rw [hhigh] at h2
      show 100 = _
      omega
    · rw [if_neg h2]
      rw [hhigh] at h2
      omega

theorem permits_free {limit : UInt32} : (freeRoll.withMaxDice limit).Permits d ↔
    d.sides ∈ Dice.standardSides ∧ d.count.toNat ≤ min (max limit.toNat 1) 100 := by
  rw [← toNat_withMaxDice freeRoll limit]
  constructor
  · intro h
    exact ⟨h.sized _ rfl, h.counted⟩
  · rintro ⟨hsides, hcount⟩
    refine ⟨fun allowed h => ?_, hcount⟩
    cases h
    exact hsides

/-- **Free dice that were read** are refused for their size, then for their
number, and else accepted. -/
theorem parse_free (limit : UInt32) (h : Dice.parse text = .ok d) :
    (freeRoll.withMaxDice limit).parse text =
      if d.sides ∉ Dice.standardSides then .error (.unsupported d.sides Dice.standardSides)
      else if min (max limit.toNat 1) 100 < d.count.toNat then
        .error (.outOfRange d.text (.overLimit (.ofNat (min (max limit.toNat 1) 100))))
      else .ok d := by
  have hlimit :
      UInt32.ofNat (min (max limit.toNat 1) 100) = (freeRoll.withMaxDice limit).maxDice := by
    rw [← toNat_withMaxDice freeRoll limit, UInt32.ofNat_toNat]
  have hlisted : (freeRoll.withMaxDice limit).allowedSides = some Dice.standardSides := rfl
  rw [parse_of_ok h, check_listed hlisted, checkCount_eq, hlimit, toNat_withMaxDice]
  by_cases hsides : d.sides ∈ Dice.standardSides
  · rw [if_pos hsides, if_neg (not_not_intro hsides)]
    by_cases hcount : d.count.toNat ≤ min (max limit.toNat 1) 100
    · rw [if_pos hcount, if_neg (Nat.not_lt.mpr hcount)]
      rfl
    · rw [if_neg hcount, if_pos (Nat.lt_of_not_le hcount)]
      rfl
  · rw [if_neg hsides, if_pos hsides]
    rfl

end RollPolicy

/-! ### Rolling -/

namespace Command

variable {c : Config} {dice : DieSource} {disk : Disk} {text : String} {lifted : Bool}
  {group : Option String}

/-- **A roll without faces fails exactly if its text is refused,** by the policy
of the configuration, or by the reader alone where the limits are lifted. -/
theorem error_of_roll : ((Action.roll text lifted false group).run c dice disk).error =
    match (if lifted then Dice.parse text else c.policy.parse text) with
    | .error e => some (.dice e)
    | .ok _ => none := by
  have hpolicy : (if lifted then Dice.parse text else c.policy.parse text) =
      (if lifted then RollPolicy.unrestricted else c.policy).parse text := by
    cases lifted with
    | false => rfl
    | true => exact (RollPolicy.parse_unrestricted text).symm
  rw [hpolicy]
  cases hparse : (if lifted then RollPolicy.unrestricted else c.policy).parse text with
  | error e =>
    have hroll : Context.roll ⟨c, dice, disk⟩ text lifted false (group.getD c.group) .empty =
        (.error (.dice e), .empty) := by
      unfold Context.roll
      simp only [hparse]
      rfl
    have hplan : (Action.roll text lifted false group).plan ⟨c, dice, disk⟩ .empty =
        (.error (.dice e), .empty) := Telling.bind_of_error hroll
    rw [Action.run_of_plan_error hplan]
  | ok d =>
    have hroll : Context.roll ⟨c, dice, disk⟩ text lifted false (group.getD c.group) .empty =
        (.ok (), ⟨Context.rollLines (d.roll dice), []⟩) := by
      unfold Context.roll
      simp only [hparse]
      rfl
    have hplan : (Action.roll text lifted false group).plan ⟨c, dice, disk⟩ .empty =
        (.ok .none, ⟨Context.rollLines (d.roll dice), []⟩) := Telling.bind_of_ok hroll
    rw [Action.run_of_plan_none hplan]

end Command

namespace RollPolicy

/-- **Policies limit what is read.** Without limits a policy gives what the
reader gives. Free dice with any limit are refused with the reader's error, then
for a size that is not standard, then for more dice than the limit, kept from 1 to
100; else they are the throw that was read. Under the limit of a configuration a
higher limit accepts all that a lower one does, a single die of a standard size
is always accepted, in every notation of it, and nothing is that the reader
refuses. A roll without faces fails exactly for what is refused. -/
theorem policies_limit_what_is_read :
    (∀ text, unrestricted.parse text = Dice.parse text) ∧
    (∀ limit text,
      (∀ e, Dice.parse text = .error e → (freeRoll.withMaxDice limit).parse text = .error e) ∧
      ∀ d, Dice.parse text = .ok d → (freeRoll.withMaxDice limit).parse text =
        if d.sides ∉ Dice.standardSides then .error (.unsupported d.sides Dice.standardSides)
        else if min (max limit.toNat 1) 100 < d.count.toNat then
          .error (.outOfRange d.text (.overLimit (.ofNat (min (max limit.toNat 1) 100))))
        else .ok d) ∧
    (∀ c c' : Config, c.freeDice ≤ c'.freeDice → ∀ text d,
      c.policy.parse text = .ok d → c'.policy.parse text = .ok d) ∧
    (∀ c : Config,
      (∀ text d, Dice.parse text = .ok d → d.count = 1 → d.sides ∈ Dice.standardSides →
        c.policy.parse text = .ok d) ∧
      (∀ sides ∈ Dice.standardSides, ∀ modifier, c.policy.parse (⟨1, sides, modifier⟩ : Dice).text =
        .ok ⟨1, sides, modifier⟩) ∧
      ∀ text d, c.policy.parse text = .ok d → unrestricted.parse text = .ok d) ∧
    ∀ (c : Config) (dice : DieSource) (disk : Disk) text lifted group,
      ((Command.Action.roll text lifted false group).run c dice disk).error =
        match (if lifted then Dice.parse text else c.policy.parse text) with
        | .error e => some (.dice e)
        | .ok _ => none := by
  have hsingle : ∀ (c : Config) text d, Dice.parse text = .ok d → d.count = 1 →
      d.sides ∈ Dice.standardSides → c.policy.parse text = .ok d := by
    intro c text d hread hcount hsides
    have hone : d.count.toNat = 1 := by rw [hcount]; rfl
    exact parse_eq_ok.mpr ⟨hread, permits_free.mpr ⟨hsides, by omega⟩⟩
  refine ⟨parse_unrestricted,
    fun limit text => ⟨fun e => parse_of_error, fun d => parse_free limit⟩,
    fun c c' hle text d h => ?_, fun c => ⟨hsingle c, fun sides hsides modifier => ?_,
      fun text d h => ?_⟩, fun c dice disk text lifted group => Command.error_of_roll⟩
  · obtain ⟨hread, hpermits⟩ := parse_eq_ok.mp h
    obtain ⟨hsides, hcount⟩ := permits_free.mp hpermits
    have hlimit : c.freeDice.toNat ≤ c'.freeDice.toNat := UInt32.le_iff_toNat_le.mp hle
    exact parse_eq_ok.mpr ⟨hread, permits_free.mpr ⟨hsides, by omega⟩⟩
  · have hpos : (Dice.standardSides.all (1 ≤ ·.toNat)) = true := by decide
    have hone : (1 : UInt32).toNat ≤ 100 := by decide
    have hlegal : (⟨1, sides, modifier⟩ : Dice).Legal :=
      ⟨Nat.le_refl 1, hone, of_decide_eq_true (List.all_eq_true.mp hpos sides hsides)⟩
    refine hsingle c _ _ (Dice.parse_of_respaces hlegal ?_) rfl hsides
    rw [Dice.toList_text]
    exact Dice.respaces_refl _
  · rw [parse_unrestricted]
    exact (parse_eq_ok.mp h).1

/-- A limit of none that is one, one beyond all that is a hundred, and throws
that break several bounds at once. -/
theorem free_dice_keep_their_limits :
    (freeRoll.withMaxDice 0).parse " D20 + 3" = .ok ⟨1, 20, 3⟩ ∧
    (freeRoll.withMaxDice 0).parse "2d6" = .error (.outOfRange "2d6" (.overLimit 1)) ∧
    (freeRoll.withMaxDice 4294967295).parse "100d6" = .ok ⟨100, 6, 0⟩ ∧
    (freeRoll.withMaxDice 3).parse "050d7" = .error (.unsupported 7 Dice.standardSides) ∧
    (freeRoll.withMaxDice 3).parse "101d7" = .error (.outOfRange "101d7" .tooManyDice) := by
  obtain ⟨-, hfree, -⟩ := policies_limit_what_is_read
  refine ⟨?_, ?_, ?_, ?_, ?_⟩
  · rw [(hfree 0 _).2 ⟨1, 20, 3⟩ (by decide +kernel)]
    decide
  · rw [(hfree 0 _).2 ⟨2, 6, 0⟩ (by decide +kernel)]
    decide +kernel
  · rw [(hfree 4294967295 _).2 ⟨100, 6, 0⟩ (by decide +kernel)]
    decide
  · rw [(hfree 3 _).2 ⟨50, 7, 0⟩ (by decide +kernel)]
    decide
  · exact (hfree 3 _).1 _ (by decide +kernel)

end RollPolicy
end Tabletop
