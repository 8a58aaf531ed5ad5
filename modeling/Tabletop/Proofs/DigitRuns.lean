/-
# Runs of digits

A run of digits ends where a text goes on with something else. Readers take
runs with `takeWhile` and `dropWhile`; in a text that is put together from a
run and a rest they find both again (`takeWhile_run`, `dropWhile_run`). The
digits of a number are a run that begins with a zero only if it is the number
zero (`digits_eq_zero_cons`).

Key definitions: `Decimal.IsRun`, `Decimal.RunEnds`.
Key theorems: `Decimal.takeWhile_run`, `Decimal.dropWhile_run`,
`Decimal.digits_eq_zero_cons`.
-/
import Tabletop.Decimal

namespace Tabletop
namespace Decimal

/-- A text of digits only, from `0` to `9`. It may be empty. -/
def IsRun (ds : List Char) : Prop := ∀ c ∈ ds, c.isDigit = true

/-- A text that does not go on with a digit. -/
def RunEnds (rest : List Char) : Prop := ∀ c ∈ rest.head?, c.isDigit = false

theorem isRun_digits (n : Nat) : IsRun (digits n) := fun _ h => isDigit_of_mem_digits h

theorem isRun_takeWhile (cs : List Char) : IsRun (cs.takeWhile Char.isDigit) := fun c hc => by
  have := List.all_takeWhile (p := Char.isDigit) (l := cs)
  exact List.all_eq_true.mp this c hc

theorem runEnds_nil : RunEnds [] := fun _ h => by cases h

theorem runEnds_cons {c : Char} (h : c.isDigit = false) (cs : List Char) : RunEnds (c :: cs) :=
  fun x hx => by
    obtain rfl : c = x := by simpa using hx
    exact h

theorem takeWhile_runEnds {rest : List Char} (h : RunEnds rest) :
    rest.takeWhile Char.isDigit = [] := by
  cases rest with
  | nil => rfl
  | cons c cs => simp [h c (by simp)]

theorem dropWhile_runEnds {rest : List Char} (h : RunEnds rest) :
    rest.dropWhile Char.isDigit = rest := by
  cases rest with
  | nil => rfl
  | cons c cs => simp [h c (by simp)]

/-- The run before a rest is found again. -/
theorem takeWhile_run {ds rest : List Char} (hd : IsRun ds) (hr : RunEnds rest) :
    (ds ++ rest).takeWhile Char.isDigit = ds := by
  rw [List.takeWhile_append_of_pos hd, takeWhile_runEnds hr, List.append_nil]

theorem dropWhile_run {ds rest : List Char} (hd : IsRun ds) (hr : RunEnds rest) :
    (ds ++ rest).dropWhile Char.isDigit = rest := by
  rw [List.dropWhile_append_of_pos hd, dropWhile_runEnds hr]

theorem digits_of_lt {n : Nat} (h : n < 10) : digits n = [n.digitChar] :=
  Nat.toDigits_of_lt_base h

theorem digits_of_le {n : Nat} (h : 10 ≤ n) : digits n = digits (n / 10) ++ [(n % 10).digitChar] :=
  Nat.toDigits_of_base_le (by omega) h

/-- Only the digits of zero begin with a zero. -/
theorem digits_eq_zero_cons {n : Nat} {ds : List Char} (h : digits n = '0' :: ds) : n = 0 := by
  induction n using Nat.strongRecOn generalizing ds with
  | ind n ih =>
    rcases Nat.lt_or_ge n 10 with hn | hn
    · rw [digits_of_lt hn] at h
      have hdigit : ∀ m < 10, m.digitChar = '0' → m = 0 := by decide
      exact hdigit n hn (List.cons.inj h).1
    · rw [digits_of_le hn] at h
      obtain ⟨c, cs, hc⟩ := List.exists_cons_of_ne_nil (digits_ne_nil (n / 10))
      rw [hc, List.cons_append] at h
      have h0 : n / 10 = 0 := ih (n / 10) (by omega) (by rw [hc, (List.cons.inj h).1])
      omega

end Decimal
end Tabletop
