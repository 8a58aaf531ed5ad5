/-
# Throwing dice

A source of dice may have any state and answer from it. A throw asks it for
one die after the other, all of one size, and keeps the answers in their order
(`Dice.rollWith_asks`); what was asked and answered on the way from one state
to another is a transcript (`Dice.Asks`).

Words add up as integers do, up to what 64 bits hold (`sum_eq_ofInt`), and so do
the dice of a roll (`Roll.total_eq`). A die shows 32 bits, so a hundred dice at
most are far inside of them (`Roll.toInt_sumOf`). Dice that keep within bounds keep
their sum within the number of dice times these bounds (`Dice.Shows.shown_between`);
a seed gives dice that show their sides (`Dice.shows_ofSeed`).

Key definitions: `Roll.shown`, `Dice.Asks`, `Dice.Shows`.
Key theorems: `sum_between`, `sum_eq_ofInt`, `Roll.total_eq`, `Roll.toInt_sumOf`,
`Dice.rollWith_asks`, `Dice.Shows.shown_between`, `Dice.shows_ofSeed`.
-/
import Mathlib.Algebra.Order.BigOperators.Group.List
import Mathlib.Algebra.Order.Ring.Int
import Tabletop.Dice.Roll

namespace Tabletop

/-! ### Sums of words -/

theorem sum_between {lo hi : Int} {ns : List Int} (h : ∀ n ∈ ns, lo ≤ n ∧ n ≤ hi) :
    ns.length * lo ≤ ns.sum ∧ ns.sum ≤ ns.length * hi := by
  rw [← nsmul_eq_mul, ← nsmul_eq_mul]
  exact ⟨List.card_nsmul_le_sum ns lo fun n hn => (h n hn).1,
    List.sum_le_card_nsmul ns hi fun n hn => (h n hn).2⟩

theorem sum_between_of_length {lo hi : Int} {ns : List Int} {k : Nat}
    (h : ∀ n ∈ ns, lo ≤ n ∧ n ≤ hi) (hlo : lo ≤ 0) (hhi : 0 ≤ hi) (hk : ns.length ≤ k) :
    k * lo ≤ ns.sum ∧ ns.sum ≤ k * hi := by
  have hk : (ns.length : Int) ≤ k := Int.ofNat_le.mpr hk
  obtain ⟨hlow, hhigh⟩ := sum_between h
  exact ⟨(mul_le_mul_of_nonpos_right hk hlo).trans hlow,
    hhigh.trans (mul_le_mul_of_nonneg_right hk hhi)⟩

/-- **Words add up as integers do, up to what 64 bits hold.** -/
theorem sum_eq_ofInt : ∀ xs : List Int64, xs.sum = .ofInt (xs.map Int64.toInt).sum
  | [] => rfl
  | x :: xs => by
    rw [List.sum_cons, List.map_cons, List.sum_cons, Int64.ofInt_add, Int64.ofInt_toInt,
      sum_eq_ofInt xs]

/-! ### The sum of a roll -/

namespace Roll

variable {values : List UInt32}

/-- What dice show together, as an integer. -/
def shown (values : List UInt32) : Int :=
  (values.map fun v => (v.toNat : Int)).sum

theorem toInt_ofNat_value (v : UInt32) : (Int64.ofNat v.toNat).toInt = v.toNat := by
  have := v.toNat_lt
  exact Int64.toInt_ofNat_of_lt (by omega)

theorem shown_between {lo hi : UInt32}
    (h : ∀ v ∈ values, lo.toNat ≤ v.toNat ∧ v.toNat ≤ hi.toNat) :
    (values.length * lo.toNat : Int) ≤ shown values ∧
      shown values ≤ values.length * hi.toNat := by
  have hvalues : ∀ n ∈ values.map fun v => (v.toNat : Int),
      (lo.toNat : Int) ≤ n ∧ n ≤ hi.toNat :=
    List.forall_mem_map.mpr fun v hv => by
      have := h v hv
      omega
  have hsum := sum_between hvalues
  rw [List.length_map] at hsum
  exact hsum

theorem shown_words (values : List UInt32) :
    0 ≤ shown values ∧ shown values ≤ values.length * (2 ^ 32 - 1) := by
  have hbetween : (values.length * (0 : UInt32).toNat : Int) ≤ shown values ∧
      shown values ≤ values.length * (4294967295 : UInt32).toNat :=
    shown_between fun v _ => ⟨Nat.zero_le _, Nat.le_of_lt_succ v.toNat_lt⟩
  have hzero : (0 : UInt32).toNat = 0 := rfl
  have hmost : (4294967295 : UInt32).toNat = 4294967295 := rfl
  rw [hzero, hmost] at hbetween
  omega

theorem shown_bounds (h : values.length ≤ 100) :
    0 ≤ shown values ∧ shown values ≤ 100 * (2 ^ 32 - 1) := by
  have hwords := shown_words values
  omega

theorem sumOf_eq (values : List UInt32) : sumOf values = .ofInt (shown values) := by
  unfold sumOf shown
  rw [sum_eq_ofInt, List.map_map]
  simp only [Function.comp_def, toInt_ofNat_value]

/-- **The total of a roll adds the modifier once,** up to what 64 bits hold. -/
theorem total_eq (d : Dice) (values : List UInt32) :
    (ofValues d values).total = .ofInt (shown values + d.modifier.toInt) := by
  have hmodifier : d.modifier.toInt64 = .ofInt d.modifier.toInt := by
    rw [← d.modifier.toInt_toInt64, Int64.ofInt_toInt]
  show sumOf values + d.modifier.toInt64 = _
  rw [Int64.ofInt_add, sumOf_eq, hmodifier]

theorem total_add (d : Dice) (values : List UInt32) (bonus : Int64) :
    (ofValues d values).total + bonus =
      .ofInt (shown values + d.modifier.toInt + bonus.toInt) := by
  rw [Int64.ofInt_add, Int64.ofInt_toInt, total_eq]

/-- **The sum of a roll is what its dice show together,** whatever they show. -/
theorem toInt_sumOf (h : values.length ≤ 100) : (sumOf values).toInt = shown values := by
  have hshown := shown_bounds h
  rw [sumOf_eq, Int64.toInt_ofInt_of_le (by omega) (by omega)]

theorem toInt_total (d : Dice) (h : values.length ≤ 100) :
    (ofValues d values).total.toInt = shown values + d.modifier.toInt := by
  have hshown := shown_bounds h
  have hlow := d.modifier.le_toInt
  have hhigh := d.modifier.toInt_lt
  rw [total_eq, Int64.toInt_ofInt_of_le (by omega) (by omega)]

end Roll

/-! ### Asking for dice -/

namespace Dice

open Roll (shown)

variable {σ : Type} {die : UInt32 → StateM σ UInt32} {sides lo hi : UInt32} {s s' : σ}
  {values : List UInt32}

/-- What a source is asked and answers from one state to another: the sides of
each die with its value, in the order of the questions. -/
inductive Asks (die : UInt32 → StateM σ UInt32) : σ → List (UInt32 × UInt32) → σ → Prop
  | nothing (s : σ) : Asks die s [] s
  | next {s t s' : σ} {sides value : UInt32} {rest : List (UInt32 × UInt32)}
      (h : die sides s = (value, t)) (hrest : Asks die t rest s') :
      Asks die s ((sides, value) :: rest) s'

/-- A source is asked for all dice of a size, and each one after those before
it. -/
theorem throwDice_asks (die : UInt32 → StateM σ UInt32) (sides : UInt32) : ∀ (n : Nat) (s : σ),
    ∃ values s', throwDice die sides n s = (values, s') ∧ values.length = n ∧
      Asks die s (values.map fun v => (sides, v)) s'
  | 0, s => ⟨[], s, rfl, rfl, .nothing s⟩
  | n + 1, s => by
    obtain ⟨values, s', hthrow, hlength, hasks⟩ := throwDice_asks die sides n (die sides s).2
    have hfirst : throwDice die sides (n + 1) s =
        ((die sides s).1 :: (throwDice die sides n (die sides s).2).1,
          (throwDice die sides n (die sides s).2).2) := rfl
    rw [hthrow] at hfirst
    exact ⟨_, s', hfirst, by rw [List.length_cons, hlength], .next rfl hasks⟩

/-- **A throw asks for its dice in order and keeps the answers.** -/
theorem rollWith_asks (d : Dice) (die : UInt32 → StateM σ UInt32) (s : σ) :
    ∃ values s', d.rollWith die s = (Roll.ofValues d values, s') ∧
      values.length = d.count.toNat ∧ Asks die s (values.map fun v => (d.sides, v)) s' := by
  obtain ⟨values, s', hthrow, hlength, hasks⟩ := throwDice_asks die d.sides d.count.toNat s
  have hroll : d.rollWith die s = (Roll.ofValues d (throwDice die d.sides d.count.toNat s).1,
      (throwDice die d.sides d.count.toNat s).2) := rfl
  rw [hthrow] at hroll
  exact ⟨values, s', hroll, hlength, hasks⟩

/-- From a state on, a source answers within bounds however often it is asked
for a die with some sides. -/
def Shows (die : UInt32 → StateM σ UInt32) (s : σ) (sides lo hi : UInt32) : Prop :=
  ∀ (values : List UInt32) (s' : σ), Asks die s (values.map fun v => (sides, v)) s' →
    ∀ v ∈ values, lo.toNat ≤ v.toNat ∧ v.toNat ≤ hi.toNat

theorem shows_of_forall
    (h : ∀ t, lo.toNat ≤ (die sides t).1.toNat ∧ (die sides t).1.toNat ≤ hi.toNat) (s : σ) :
    Shows die s sides lo hi := by
  intro values
  induction values generalizing s with
  | nil => exact fun _ _ v hv => nomatch hv
  | cons v values ih =>
    intro s' hasks
    cases hasks with
    | next hdie hrest =>
      have hfirst := h s
      rw [hdie] at hfirst
      exact List.forall_mem_cons.mpr ⟨hfirst, ih _ _ hrest⟩

theorem Shows.mono {lo' hi' : UInt32} (h : Shows die s sides lo hi) (hlo : lo'.toNat ≤ lo.toNat)
    (hhi : hi.toNat ≤ hi'.toNat) : Shows die s sides lo' hi' := fun values s' hasks v hv =>
  ⟨hlo.trans (h values s' hasks v hv).1, (h values s' hasks v hv).2.trans hhi⟩

/-- **Dice within bounds keep their sum within bounds.** -/
theorem Shows.shown_between (h : Shows die s sides lo hi)
    (hasks : Asks die s (values.map fun v => (sides, v)) s') :
    (values.length * lo.toNat : Int) ≤ shown values ∧
      shown values ≤ values.length * hi.toNat :=
  Roll.shown_between (h values s' hasks)

theorem shows_ofValues (v sides : UInt32) (n : Nat) :
    Shows (DieSource.ofValues [v]).next n sides v v := by
  refine shows_of_forall (fun m => ?_) n
  have hvalue : ((DieSource.ofValues [v]).next sides m).1 = v := by
    show [v].getD (m % 1) 0 = v
    rw [Nat.mod_one]
    rfl
  rw [hvalue]
  exact ⟨Nat.le_refl _, Nat.le_refl _⟩

theorem shows_ofSeed (seed : UInt64) (hsides : 1 ≤ sides.toNat) (n : Nat) :
    Shows (DieSource.ofSeed seed).next n sides 1 sides := by
  refine shows_of_forall (fun m => ?_) n
  have hvalue : ((DieSource.ofSeed seed).next sides m).1 = UInt32.ofNat
      ((DieSource.mix (seed + 0x9E3779B97F4A7C15 * .ofNat (m + 1))).toNat % sides.toNat + 1) := rfl
  generalize (DieSource.mix (seed + 0x9E3779B97F4A7C15 * .ofNat (m + 1))).toNat = w at hvalue
  have hside : w % sides.toNat < sides.toNat := Nat.mod_lt w hsides
  have hfits := sides.toNat_lt
  have hone : (1 : UInt32).toNat = 1 := rfl
  rw [hvalue, UInt32.toNat_ofNat_of_lt' (by show _ < 2 ^ 32; omega), hone]
  omega

end Dice
end Tabletop
