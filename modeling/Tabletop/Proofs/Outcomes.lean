/-
# Performing a check

A check is resolved before any die is asked for. A request that is refused asks
for none; otherwise the dice of the system are thrown once, and the outcome
reports the resolution and adds up what the dice show, the modifier of the
dice and the terms, each of them once (`perform_rolls_once_resolved`).

The dice of a system that was built keep the bounds of the notation, and the
terms of a check are two numbers of 32 bits at most: so all that is added up on
the way is far inside of 64 bits, whatever the scores, and what comes out are
the numbers of the rules (`perform_keeps_within_64_bits`).

Key definitions: `Outcome.Reports`, `Resolution.worth`, `Outcome.Sound`.
Key theorems: `perform_resolved`, `perform_rolls_once_resolved`,
`perform_keeps_within_64_bits`.
-/
import Tabletop.Check.Resolution
import Tabletop.Proofs.Notation
import Tabletop.Proofs.Resolution
import Tabletop.Proofs.Rolls
import Tabletop.Proofs.SystemConsistency

namespace Tabletop

open Dice (Asks Shows)
open Roll (shown)

variable {g : GameSystem} {c : Character} {requested key : String} {source : SystemSource}
  {σ : Type} {die : UInt32 → StateM σ UInt32} {s s' : σ} {r : Resolution} {o : Outcome}

theorem GameSystem.legal_primary (h : ofSource key source = .ok g) : g.primary.Legal :=
  Dice.legal_of_parse (follows_of_ofSource h).primary

/-! ### One roll after one resolution -/

/-- An outcome tells how a check was resolved, and adds up what the dice show,
the modifier of the dice and the values of the terms. -/
structure Outcome.Reports (g : GameSystem) (c : Character) (requested : String) (r : Resolution)
    (o : Outcome) : Prop where
  character : o.character = c.name
  system : o.system = g.name
  requested : o.requested = requested
  resolution : o.resolution = r
  dice : o.roll.dice = g.primary
  count : o.roll.values.length = g.primary.count.toNat
  modifier : o.roll.modifier = g.primary.modifier
  sum : o.roll.sum.toInt = shown o.roll.values
  rolled : o.roll.total.toInt = shown o.roll.values + g.primary.modifier.toInt
  total : o.total.toInt = shown o.roll.values + g.primary.modifier.toInt +
    (r.terms.map fun t => t.value.toInt).sum

/-- The terms of a resolution are few and small, and they add up to its bonus. -/
structure Resolution.Adds (r : Resolution) : Prop where
  few : r.terms.length ≤ 2
  small : ∀ t ∈ r.terms, t.Small
  bonus : r.bonus.toInt = (r.terms.map fun t => t.value.toInt).sum

theorem adds_ofTerms (check : String) (kind : CheckKind) {ts : List Term}
    (hs : ∀ t ∈ ts, t.Small) (hl : ts.length ≤ 2) : (Resolution.ofTerms check kind ts).Adds :=
  ⟨hl, hs, bonus_ofTerms check kind hs hl⟩

/-- What a check is worth by the rules of a system. -/
def Resolution.worth (g : GameSystem) (c : Character) (r : Resolution) : Int :=
  match r.kind with
  | .attr => g.attributeWorth c r.check
  | .skill governor => g.skillWorth c r.check governor

theorem resolve_adds (h : resolve g c requested = .ok r) :
    r.Adds ∧ r.bonus.toInt = r.worth g c := by
  rcases resolve_cases g c requested with ⟨-, hr⟩ | ⟨attr, -, -, hr⟩ | ⟨-, -, hr⟩
  · obtain rfl := Except.ok.inj (hr.symm.trans h)
    have hadds := adds_ofTerms (Key.normalize requested) .attr
      (List.forall_mem_singleton.mpr (small_scoreTerm g.formula (Key.normalize requested)
        ((c.score (Key.normalize requested)).getD 0))) (by simp)
    exact ⟨hadds, hadds.bonus.trans
      (by simp [Resolution.ofTerms, Resolution.worth, GameSystem.attributeWorth])⟩
  · obtain rfl := Except.ok.inj (hr.symm.trans h)
    have hadds := adds_ofTerms (Key.normalize requested) (.skill attr)
      (small_skillTerms g c (Key.normalize requested) attr) (length_skillTerms _ _ _ _)
    exact ⟨hadds, hadds.bonus.trans (sum_skillTerms _ _ _ _)⟩
  · cases hr.symm.trans h

theorem Resolution.Adds.sum_take (h : r.Adds) (k : Nat) :
    -2 ^ 32 ≤ ((r.terms.take k).map fun t => t.value.toInt).sum ∧
      ((r.terms.take k).map fun t => t.value.toInt).sum ≤ 2 ^ 32 - 2 := by
  have hbetween : ∀ n ∈ (r.terms.take k).map fun t => t.value.toInt,
      -2 ^ 31 ≤ n ∧ n ≤ 2 ^ 31 - 1 :=
    List.forall_mem_map.mpr fun t ht => by
      obtain ⟨hlow, hhigh⟩ := h.small t (List.mem_of_mem_take ht)
      omega
  have hlength : ((r.terms.take k).map fun t => t.value.toInt).length ≤ 2 := by
    rw [List.length_map]
    exact (List.length_take_le' k r.terms).trans h.few
  obtain ⟨hlow, hhigh⟩ := sum_between_of_length hbetween (by decide) (by decide) hlength
  omega

theorem Resolution.Adds.bonus_between (h : r.Adds) :
    -2 ^ 32 ≤ r.bonus.toInt ∧ r.bonus.toInt ≤ 2 ^ 32 - 2 := by
  have hsum := h.sum_take r.terms.length
  rw [List.take_length, ← h.bonus] at hsum
  exact hsum

theorem perform_refused {e : UnknownCheck} (h : resolve g c requested = .error e)
    (die : UInt32 → StateM σ UInt32) (s : σ) : perform g c requested die s = (.error e, s) := by
  unfold perform
  rw [h]
  rfl

/-- A request that is resolved is one throw of the dice of the system, and its total
adds the bonus to that of the roll. -/
theorem perform_of_resolve (h : resolve g c requested = .ok r) (die : UInt32 → StateM σ UInt32)
    (s : σ) :
    perform g c requested die s = (.ok {
      character := c.name
      system := g.name
      requested
      resolution := r
      roll := (g.primary.rollWith die s).1
      total := (g.primary.rollWith die s).1.total + r.bonus }, (g.primary.rollWith die s).2) := by
  unfold perform
  rw [h]
  rfl

/-- A request that is resolved asks for the dice of the system, and for nothing
else. -/
theorem perform_resolved (hd : g.primary.Legal) (h : resolve g c requested = .ok r)
    (die : UInt32 → StateM σ UInt32) (s : σ) :
    ∃ o s', perform g c requested die s = (.ok o, s') ∧ o.Reports g c requested r ∧
      Asks die s (o.roll.values.map fun v => (g.primary.sides, v)) s' := by
  obtain ⟨values, s', hroll, hlength, hasks⟩ := Dice.rollWith_asks g.primary die s
  have hperform := perform_of_resolve h die s
  rw [hroll] at hperform
  have hmany : values.length ≤ 100 := hlength ▸ hd.notMany
  have hadds := (resolve_adds h).1
  refine ⟨_, s', hperform, ⟨rfl, rfl, rfl, rfl, rfl, hlength, rfl, Roll.toInt_sumOf hmany,
    Roll.toInt_total _ hmany, ?_⟩, hasks⟩
  have hshown := Roll.shown_bounds hmany
  have hbonus := hadds.bonus_between
  have hlow := g.primary.modifier.le_toInt
  have hhigh := g.primary.modifier.toInt_lt
  show ((Roll.ofValues g.primary values).total + r.bonus).toInt = _
  rw [Roll.total_add, Int64.toInt_ofInt_of_le (by omega) (by omega), hadds.bonus]
  rfl

/-- **A check is resolved, and then the dice are thrown once.** A request that
is refused is refused as it was resolved, and no die is asked for. Otherwise as
many dice as the system says are asked for, one after the other and each with
its sides; the outcome keeps the answers in their order and the resolution as it
is, and adds up the answers, the modifier of the dice and the values of the
terms. -/
theorem perform_rolls_once_resolved (h : GameSystem.ofSource key source = .ok g) (c : Character)
    (requested : String) (die : UInt32 → StateM σ UInt32) (s : σ) :
    (∀ e, resolve g c requested = .error e → perform g c requested die s = (.error e, s)) ∧
    ∀ r, resolve g c requested = .ok r →
      ∃ o s', perform g c requested die s = (.ok o, s') ∧ o.Reports g c requested r ∧
        Asks die s (o.roll.values.map fun v => (g.primary.sides, v)) s' :=
  ⟨fun _ he => perform_refused he die s,
    fun _ hr => perform_resolved (GameSystem.legal_primary h) hr die s⟩

/-- A source that shows three first and then one more each time, and notes what
it was asked for. -/
theorem climbing_on_rising_dice :
    let source : SystemSource := ⟨none, ["STR", "Dex"], KeyMap.ofList [("Climb", "str")],
      some .linearMod, none, some "2D6 - 1", none⟩
    let g : GameSystem := ⟨"k", "k", ["str", "dex"], KeyMap.ofList [("climb", "str")], .linearMod,
      .proficiencyGated, "2D6 - 1", ⟨2, 6, -1⟩⟩
    let c : Character := { Character.blank "Garra" "k" with
      attributes := .ofList [("str", 7)]
      proficiency := .ofList [("climb", true)]
      proficiencyBonus := 3 }
    let die : UInt32 → StateM (List UInt32) UInt32 := fun sides asked =>
      (.ofNat (asked.length + 3), asked ++ [sides])
    GameSystem.ofSource "k" source = .ok g ∧
    (∃ e, perform g c "Flying" die [] = (.error e, [])) ∧
    ∃ o, perform g c "Climb" die [] = (.ok o, [6, 6]) ∧ o.roll.values = [3, 4] ∧
      o.total.toInt = 7 := by
  intro source g c die
  have hbuilt : GameSystem.ofSource "k" source = .ok g := by decide +kernel
  have hflying : resolve g c "Flying" = .error (unknownCheck g "Flying") :=
    resolve_neither (by decide) (by decide)
  have hrefused := (perform_rolls_once_resolved hbuilt c "Flying" die []).1 _ hflying
  have hclimb : resolve g c "Climb" = .ok ⟨"climb", .skill "str", 1,
      [.score "str" 7 (some (-2)), .proficiency 3], "STR 7 (mod -2) + Prof. +3"⟩ := by
    decide +kernel
  obtain ⟨o, s', hperform, ho, hasks⟩ :=
    (perform_rolls_once_resolved hbuilt c "Climb" die []).2 _ hclimb
  obtain ⟨first, second, hvalues⟩ := List.length_eq_two.mp ho.count
  have htotal := ho.total
  rw [hvalues] at hasks htotal
  cases hasks with
  | next hfirst hrest =>
    cases hrest with
    | next hsecond hrest =>
      cases hrest
      obtain ⟨rfl, rfl⟩ := Prod.mk.inj hfirst
      obtain ⟨rfl, rfl⟩ := Prod.mk.inj hsecond
      exact ⟨hbuilt, ⟨_, hrefused⟩, o, hperform, hvalues, htotal.trans (by decide)⟩

/-! ### Nothing overflows -/

/-- The numbers of an outcome: the roll is within what its dice can show and the
bonus within two numbers of 32 bits; each number is the one of the rules; and
none, not even one that is added up on the way, comes near the ends of 64
bits. -/
structure Outcome.Sound (g : GameSystem) (c : Character) (o : Outcome) : Prop where
  least : (g.primary.count.toNat : Int) + g.primary.modifier.toInt ≤ o.roll.total.toInt
  most : o.roll.total.toInt ≤
    (g.primary.count.toNat * g.primary.sides.toNat : Int) + g.primary.modifier.toInt
  bonusLeast : -2 ^ 32 ≤ o.resolution.bonus.toInt
  bonusMost : o.resolution.bonus.toInt ≤ 2 ^ 32 - 2
  sum : o.roll.sum.toInt = shown o.roll.values
  rolled : o.roll.total.toInt = shown o.roll.values + g.primary.modifier.toInt
  bonus : o.resolution.bonus.toInt = o.resolution.worth g c
  total : o.total.toInt =
    shown o.roll.values + g.primary.modifier.toInt + o.resolution.worth g c
  inside : ∀ n ∈ [o.roll.sum, o.roll.total, o.resolution.bonus, o.total],
    -2 ^ 33 < n.toInt ∧ n.toInt < 2 ^ 39
  diceOnTheWay : ∀ k, -2 ^ 33 < shown (o.roll.values.take k) ∧
    shown (o.roll.values.take k) < 2 ^ 39
  termsOnTheWay : ∀ k,
    -2 ^ 33 < ((o.resolution.terms.take k).map fun t => t.value.toInt).sum ∧
      ((o.resolution.terms.take k).map fun t => t.value.toInt).sum < 2 ^ 39

theorem sound_of_reports (hd : g.primary.Legal) (hr : resolve g c requested = .ok r)
    (ho : o.Reports g c requested r) (hshows : Shows die s g.primary.sides 1 g.primary.sides)
    (hasks : Asks die s (o.roll.values.map fun v => (g.primary.sides, v)) s') : o.Sound g c := by
  obtain rfl := ho.resolution
  obtain ⟨hadds, hworth⟩ := resolve_adds hr
  have hmany : o.roll.values.length ≤ 100 := ho.count ▸ hd.notMany
  obtain ⟨hleast, hmost⟩ := hshows.shown_between hasks
  have hone : (1 : UInt32).toNat = 1 := rfl
  rw [ho.count, hone] at hleast
  rw [ho.count] at hmost
  have hrolled := ho.rolled
  have htotal := ho.total
  rw [← hadds.bonus, hworth] at htotal
  refine ⟨by omega, by omega, hadds.bonus_between.1, hadds.bonus_between.2, ho.sum, hrolled,
    hworth, htotal, ?_, fun k => ?_, fun k => ?_⟩
  · have hsum := ho.sum
    have hshown := Roll.shown_bounds hmany
    have hbonus := hadds.bonus_between
    have hlow := g.primary.modifier.le_toInt
    have hhigh := g.primary.modifier.toInt_lt
    simp only [List.forall_mem_cons]
    refine ⟨by omega, by omega, by omega, by omega, fun n hn => nomatch hn⟩
  · have hpart := Roll.shown_bounds ((List.length_take_le' k o.roll.values).trans hmany)
    omega
  · have hpart := hadds.sum_take k
    omega

theorem perform_ofValues (hd : g.primary.Legal) (hr : resolve g c requested = .ok r) (v : UInt32) :
    ∃ o n, perform g c requested (DieSource.ofValues [v]).next 0 = (.ok o, n) ∧
      o.roll.total.toInt =
        (g.primary.count.toNat * v.toNat : Int) + g.primary.modifier.toInt := by
  obtain ⟨o, n, hperform, ho, hasks⟩ := perform_resolved hd hr (DieSource.ofValues [v]).next 0
  obtain ⟨hleast, hmost⟩ := (Dice.shows_ofValues v g.primary.sides 0).shown_between hasks
  rw [ho.count] at hleast hmost
  exact ⟨o, n, hperform, by rw [ho.rolled, Int.le_antisymm hmost hleast]⟩

/-- **No sum of a check leaves 64 bits.** With dice that show their sides, the
outcome of every request that is resolved is sound, whatever the scores; one
that is refused adds up nothing. Both bounds of the roll are attained: dice of
that kind can all show their least and can all show their most. -/
theorem perform_keeps_within_64_bits (h : GameSystem.ofSource key source = .ok g) (c : Character)
    (requested : String) :
    (∃ e, resolve g c requested = .error e ∧ ∀ {σ : Type} (die : UInt32 → StateM σ UInt32) (s : σ),
      perform g c requested die s = (.error e, s)) ∨
    ∃ r, resolve g c requested = .ok r ∧
      (∀ {σ : Type} (die : UInt32 → StateM σ UInt32) (s : σ),
        Shows die s g.primary.sides 1 g.primary.sides →
          ∃ o s', perform g c requested die s = (.ok o, s') ∧ o.resolution = r ∧ o.Sound g c) ∧
      (∃ d : DieSource, Shows d.next 0 g.primary.sides 1 g.primary.sides ∧
        ∃ o n, perform g c requested d.next 0 = (.ok o, n) ∧ o.roll.total.toInt =
          (g.primary.count.toNat : Int) + g.primary.modifier.toInt) ∧
      ∃ d : DieSource, Shows d.next 0 g.primary.sides 1 g.primary.sides ∧
        ∃ o n, perform g c requested d.next 0 = (.ok o, n) ∧ o.roll.total.toInt =
          (g.primary.count.toNat * g.primary.sides.toNat : Int) + g.primary.modifier.toInt := by
  have hd := GameSystem.legal_primary h
  have hone : (1 : UInt32).toNat = 1 := rfl
  have hsides : (1 : UInt32).toNat ≤ g.primary.sides.toNat := hd.sided
  cases hr : resolve g c requested with
  | error e => exact .inl ⟨e, rfl, fun die s => perform_refused hr die s⟩
  | ok r =>
    refine .inr ⟨r, rfl, fun die s hshows => ?_,
      ⟨.ofValues [1], (Dice.shows_ofValues 1 _ 0).mono (Nat.le_refl _) hsides, ?_⟩,
      ⟨.ofValues [g.primary.sides], (Dice.shows_ofValues _ _ 0).mono hsides (Nat.le_refl _),
        perform_ofValues hd hr _⟩⟩
    · obtain ⟨o, s', hperform, ho, hasks⟩ := perform_resolved hd hr die s
      exact ⟨o, s', hperform, ho.resolution, sound_of_reports hd hr ho hshows hasks⟩
    · have hleast := perform_ofValues hd hr 1
      rw [hone, Nat.cast_one, mul_one] at hleast
      exact hleast

/-- The largest dice with the least modifier, thrown for the least score and the
least level. -/
theorem least_record_on_largest_dice :
    let source : SystemSource := ⟨none, ["STR"], KeyMap.ofList [("Climb", "str")], none,
      some .statSum, some "100d4294967295-2147483648", none⟩
    let g : GameSystem := ⟨"k", "k", ["str"], KeyMap.ofList [("climb", "str")], .addRaw, .statSum,
      "100d4294967295-2147483648", ⟨100, 4294967295, -2147483648⟩⟩
    let c : Character := { Character.blank "Garra" "k" with
      attributes := .ofList [("str", -2147483648)]
      skills := .ofList [("climb", -2147483648)] }
    GameSystem.ofSource "k" source = .ok g ∧
    Shows (DieSource.ofSeed 7).next 0 g.primary.sides 1 g.primary.sides ∧
    (∃ o n, perform g c "Climb" (DieSource.ofSeed 7).next 0 = (.ok o, n) ∧
      o.resolution.bonus.toInt = -2 ^ 32 ∧ 100 - 2 ^ 31 ≤ o.roll.total.toInt ∧
      o.total.toInt < 2 ^ 39) ∧
    ∃ (d : DieSource) (o : Outcome) (n : Nat), perform g c "Climb" d.next 0 = (.ok o, n) ∧
      o.roll.total.toInt = 100 * (2 ^ 32 - 1) - 2 ^ 31 := by
  intro source g c
  have hbuilt : GameSystem.ofSource "k" source = .ok g := by decide +kernel
  have hshows : Shows (DieSource.ofSeed 7).next 0 g.primary.sides 1 g.primary.sides :=
    Dice.shows_ofSeed 7 (by decide) 0
  have hclimb : resolve g c "Climb" = .ok ⟨"climb", .skill "str", -4294967296,
      [.score "str" (-2147483648) none, .level "climb" (-2147483648)],
      "STR -2147483648 + CLIMB -2147483648"⟩ := by
    decide +kernel
  rcases perform_keeps_within_64_bits hbuilt c "Climb" with
    ⟨e, hrefused, -⟩ | ⟨r, hresolved, hsound, -, d, -, o, n, hmost, htotal⟩
  · cases hrefused.symm.trans hclimb
  · obtain rfl := Except.ok.inj (hresolved.symm.trans hclimb)
    obtain ⟨o', n', hperform, hresolution, ho⟩ := hsound _ 0 hshows
    refine ⟨hbuilt, hshows, ⟨o', n', hperform, ?_, ho.least, ?_⟩, d, o, n, hmost, htotal⟩
    · rw [hresolution]
      decide
    · exact (ho.inside o'.total (by simp)).2

end Tabletop
