/-
# Small forms of a part and of the whole

Small letters are put for a text character by character, all but one: a capital
sigma becomes the final one or the other one by what stands around it. So the
small form of a text need not occur in the small form of a longer text that has
it as a part: `ΟΔΥΣ` becomes `οδυς`, but `ΟΔΥΣΣΕΥΣ` becomes `οδυσσευς`.

Casing looks from the sigma to both sides up to the first character that it does
not look through (`firstMet`). Where that decides the form of every sigma within a
text (`SigmasSettled`), the text keeps its small form inside of any other
(`lower_isInfix`); where it does not, one letter put before or after the text gives a
sigma the other form, and since no other sigma turns the opposite way the small form
of the text is nowhere in that of the longer one. So the sigmas are settled exactly if
the small form is never lost (`lower_isInfix_iff`).

Key definitions: `Text.firstMet`, `Text.Settled`, `Text.SigmasSettled`,
`Text.lowerWithin`, `Text.Turns`.
Key theorems: `Text.lowerSigma_eq`, `Text.lowerSigma_of_settled`,
`Text.lower_isInfix`, `Text.exists_turns`, `Text.lower_isInfix_iff`.
-/
import Mathlib.Data.List.TakeWhile
import Tabletop.Text.Case

namespace Tabletop
namespace Text

/-! ### One sigma -/

/-- The first character that casing does not look through. -/
def firstMet (cs : List Char) : Option Char :=
  cs.find? (!isCaseIgnorable ·)

@[simp] theorem firstMet_nil : firstMet [] = none := rfl

theorem meetsCased_eq (cs : List Char) : meetsCased cs = (firstMet cs).any isCased := by
  unfold meetsCased firstMet
  rw [List.find?_not_eq_head?_dropWhile]
  cases cs.dropWhile isCaseIgnorable <;> rfl

/-- A sigma is final if a cased character is met before it and none after it. -/
theorem lowerSigma_eq (before after : List Char) : lowerSigma before after =
    if (firstMet before).any isCased && !(firstMet after).any isCased then 'ς' else 'σ' := by
  rw [← meetsCased_eq, ← meetsCased_eq]
  rfl

theorem firstMet_append (cs ds : List Char) :
    firstMet (cs ++ ds) = (firstMet cs).or (firstMet ds) :=
  List.find?_append

/-- The form of a sigma between two texts, the first one reversed, does not depend on
what stands further out: a character that is not cased stands before it, a cased one
after it, or casing meets something on both sides. -/
def Settled (before after : List Char) : Prop :=
  (firstMet before).any (!isCased ·) = true ∨ (firstMet after).any isCased = true ∨
    (firstMet before).isSome = true ∧ (firstMet after).isSome = true

instance (before after : List Char) : Decidable (Settled before after) :=
  inferInstanceAs (Decidable (_ ∨ _))

/-- **A settled sigma has the same form in every longer text.** -/
theorem lowerSigma_of_settled {before after : List Char} (h : Settled before after)
    (ahead behind : List Char) :
    lowerSigma (before ++ ahead) (after ++ behind) = lowerSigma before after := by
  rw [lowerSigma_eq, lowerSigma_eq, firstMet_append, firstMet_append]
  unfold Settled at h
  cases hb : firstMet before with
  | none =>
    cases ha : firstMet after with
    | none => simp [hb, ha] at h
    | some a => simp_all
  | some b =>
    cases ha : firstMet after with
    | none => simp_all
    | some a => simp

/-! ### All the sigmas of a text -/

/-- Every capital sigma of a text that follows another one, given reversed, is
settled. -/
def SettledAfter (before : List Char) : List Char → Prop
  | [] => True
  | c :: cs => (c = 'Σ' → Settled before cs) ∧ SettledAfter (c :: before) cs

instance decidableSettledAfter : ∀ before cs : List Char, Decidable (SettledAfter before cs)
  | _, [] => inferInstanceAs (Decidable True)
  | before, c :: cs =>
    haveI := decidableSettledAfter (c :: before) cs
    inferInstanceAs (Decidable ((c = 'Σ' → Settled before cs) ∧ SettledAfter (c :: before) cs))

/-- The form of every capital sigma is settled within the text. -/
def SigmasSettled (cs : List Char) : Prop :=
  SettledAfter [] cs

instance (cs : List Char) : Decidable (SigmasSettled cs) :=
  inferInstanceAs (Decidable (SettledAfter [] cs))

theorem settledAfter_of_not_mem : ∀ {cs : List Char} (before : List Char), 'Σ' ∉ cs →
    SettledAfter before cs
  | [], _, _ => trivial
  | c :: cs, before, h => by
    rw [List.mem_cons, not_or] at h
    exact ⟨fun hc => absurd hc.symm h.1, settledAfter_of_not_mem (c :: before) h.2⟩

/-- What one character becomes between two texts, the first one reversed. -/
def lowerOne (before : List Char) (c : Char) (after : List Char) : List Char :=
  if c = 'Σ' then [lowerSigma before after] else lowerChar c

theorem lowerAfter_cons (before : List Char) (c : Char) (cs : List Char) :
    lowerAfter before (c :: cs) = lowerOne before c cs ++ lowerAfter (c :: before) cs := rfl

/-- The small form of a text between two others, the first one reversed. -/
def lowerWithin (before : List Char) : List Char → List Char → List Char
  | [], _ => []
  | c :: cs, after => lowerOne before c (cs ++ after) ++ lowerWithin (c :: before) cs after

theorem lowerAfter_append : ∀ (cs before after : List Char), lowerAfter before (cs ++ after) =
    lowerWithin before cs after ++ lowerAfter (cs.reverse ++ before) after
  | [], _, _ => rfl
  | c :: cs, before, after => by
    rw [List.cons_append, lowerAfter_cons, lowerWithin, lowerAfter_append cs, List.append_assoc]
    simp

/-- The small form of a text with one before it, given reversed, and one after it. -/
theorem lower_between (ahead cs behind : List Char) : lower (ahead.reverse ++ (cs ++ behind)) =
    lowerWithin [] ahead.reverse (cs ++ behind) ++
      (lowerWithin ahead cs behind ++ lowerAfter (cs.reverse ++ ahead) behind) := by
  unfold lower
  rw [lowerAfter_append, lowerAfter_append]
  simp

theorem lowerWithin_isInfix (ahead cs behind : List Char) :
    lowerWithin ahead cs behind <:+: lower (ahead.reverse ++ (cs ++ behind)) := by
  rw [lower_between, ← List.append_assoc]
  exact List.infix_append _ _ _

/-- A text with settled sigmas becomes the same on its own and within another one. -/
theorem lowerWithin_of_settled (ahead behind : List Char) : ∀ {cs before : List Char},
    SettledAfter before cs → lowerWithin (before ++ ahead) cs behind = lowerAfter before cs
  | [], _, _ => rfl
  | c :: cs, before, h => by
    have hhead : lowerOne (before ++ ahead) c (cs ++ behind) = lowerOne before c cs := by
      unfold lowerOne
      by_cases hc : c = 'Σ'
      · rw [if_pos hc, if_pos hc, lowerSigma_of_settled (h.1 hc)]
      · rw [if_neg hc, if_neg hc]
    have htail : lowerWithin (c :: (before ++ ahead)) cs behind = lowerAfter (c :: before) cs :=
      lowerWithin_of_settled ahead behind h.2
    rw [lowerWithin, lowerAfter_cons, hhead, htail]

/-- **A text with settled sigmas keeps its small form** inside of every text. -/
theorem lower_isInfix {cs ds : List Char} (h : SigmasSettled cs) (hin : cs <:+: ds) :
    lower cs <:+: lower ds := by
  obtain ⟨as, bs, rfl⟩ := hin
  have hpart := lowerWithin_isInfix as.reverse cs bs
  rw [List.reverse_reverse, ← List.append_assoc] at hpart
  have hsame : lowerWithin ([] ++ as.reverse) cs bs = lower cs := lowerWithin_of_settled _ _ h
  rw [List.nil_append] at hsame
  rwa [hsame] at hpart

/-! ### A sigma that is turned -/

/-- Two texts around another one, the first one reversed, turn no sigma of it into the
form `x`, and hold no `x` themselves in small letters. -/
structure Turns (x : Char) (ahead behind : List Char) : Prop where
  sigma : ∀ {before after : List Char},
    lowerSigma (before ++ ahead) (after ++ behind) = x → lowerSigma before after = x
  ahead : ∀ after : List Char, x ∉ lowerWithin [] ahead.reverse after
  behind : ∀ before : List Char, x ∉ lowerAfter before behind

theorem letter_is_cased :
    firstMet ['a'] = some 'a' ∧ isCased 'a' = true ∧ lowerChar 'a' = ['a'] := by
  decide +kernel

theorem turns_final : Turns 'ς' [] ['a'] where
  sigma {before after} h := by
    rw [lowerSigma_eq, List.append_nil, firstMet_append] at h
    rw [lowerSigma_eq]
    cases hb : (firstMet before).any isCased <;> cases ha : firstMet after <;> simp_all
  ahead _ := List.not_mem_nil
  behind _ := by
    show 'ς' ∉ lowerChar 'a' ++ []
    rw [letter_is_cased.2.2]
    decide

theorem turns_small : Turns 'σ' ['a'] [] where
  sigma {before after} h := by
    obtain ⟨hmet, hcased, -⟩ := letter_is_cased
    rw [lowerSigma_eq, List.append_nil, firstMet_append, hmet] at h
    rw [lowerSigma_eq]
    cases ha : (firstMet after).any isCased <;> cases hb : firstMet before <;> simp_all
  ahead _ := by
    show 'σ' ∉ lowerChar 'a' ++ []
    rw [letter_is_cased.2.2]
    decide
  behind _ := List.not_mem_nil

/-- **A sigma that is not settled is turned** by a letter on one side. -/
theorem exists_turns {before after : List Char} (h : ¬ Settled before after) :
    ∃ x ahead behind, Turns x ahead behind ∧ lowerSigma before after = x ∧
      lowerSigma (before ++ ahead) (after ++ behind) ≠ x := by
  obtain ⟨hmet, hcased, -⟩ := letter_is_cased
  unfold Settled at h
  by_cases hb : (firstMet before).isSome = true
  · refine ⟨'ς', [], ['a'], turns_final, ?_, ?_⟩
    · rw [lowerSigma_eq]
      cases hm : firstMet before <;> simp_all
    · rw [lowerSigma_eq, firstMet_append, firstMet_append]
      cases hm : firstMet before <;> cases ha : firstMet after <;> simp_all
  · refine ⟨'σ', ['a'], [], turns_small, ?_, ?_⟩
    · rw [lowerSigma_eq]
      cases hm : firstMet before <;> simp_all
    · rw [lowerSigma_eq, firstMet_append, firstMet_append]
      cases hm : firstMet before <;> cases ha : firstMet after <;> simp_all

section Counting

variable {x : Char} {ahead behind : List Char}

/-- The texts around another one only take sigmas of the form `x` away, from each
character. -/
theorem Turns.count_one_le (h : Turns x ahead behind) (before : List Char) (c : Char)
    (after : List Char) : (lowerOne (before ++ ahead) c (after ++ behind)).count x ≤
      (lowerOne before c after).count x := by
  unfold lowerOne
  by_cases hc : c = 'Σ'
  · rw [if_pos hc, if_pos hc]
    by_cases hs : lowerSigma (before ++ ahead) (after ++ behind) = x
    · rw [hs, h.sigma hs]
    · rw [List.count_eq_zero.mpr fun hm => hs (List.mem_singleton.mp hm).symm]
      omega
  · rw [if_neg hc, if_neg hc]

/-- Nor does the whole text gain any. -/
theorem Turns.count_le (h : Turns x ahead behind) : ∀ cs before : List Char,
    (lowerWithin (before ++ ahead) cs behind).count x ≤ (lowerAfter before cs).count x
  | [], _ => Nat.le_refl _
  | c :: cs, before => by
    have hhead := h.count_one_le before c cs
    have htail : (lowerWithin (c :: (before ++ ahead)) cs behind).count x ≤
        (lowerAfter (c :: before) cs).count x := h.count_le cs (c :: before)
    rw [lowerWithin, lowerAfter_cons, List.count_append, List.count_append]
    omega

/-- **At least one is lost** where a sigma is not settled. -/
theorem exists_count_lt : ∀ {cs before : List Char}, ¬ SettledAfter before cs →
    ∃ x ahead behind, Turns x ahead behind ∧
      (lowerWithin (before ++ ahead) cs behind).count x < (lowerAfter before cs).count x
  | [], _, h => absurd trivial h
  | c :: cs, before, h => by
    by_cases hc : c = 'Σ' ∧ ¬ Settled before cs
    · obtain ⟨hsigma, hs⟩ := hc
      obtain ⟨x, ahead, behind, hturns, hx, hne⟩ := exists_turns hs
      have htail : (lowerWithin (c :: (before ++ ahead)) cs behind).count x ≤
          (lowerAfter (c :: before) cs).count x := hturns.count_le cs (c :: before)
      have hlost : (lowerOne (before ++ ahead) c (cs ++ behind)).count x = 0 := by
        rw [lowerOne, if_pos hsigma]
        exact List.count_eq_zero.mpr fun hm => hne (List.mem_singleton.mp hm).symm
      have hhad : (lowerOne before c cs).count x = 1 := by
        rw [lowerOne, if_pos hsigma, hx, List.count_singleton_self]
      refine ⟨x, ahead, behind, hturns, ?_⟩
      rw [lowerWithin, lowerAfter_cons, List.count_append, List.count_append]
      omega
    · have hrest : ¬ SettledAfter (c :: before) cs := fun hrest =>
        h ⟨fun hsigma => Classical.not_not.mp fun hs => hc ⟨hsigma, hs⟩, hrest⟩
      obtain ⟨x, ahead, behind, hturns, hlt⟩ := exists_count_lt hrest
      have hhead := hturns.count_one_le before c cs
      have htail : (lowerWithin (c :: (before ++ ahead)) cs behind).count x <
          (lowerAfter (c :: before) cs).count x := hlt
      refine ⟨x, ahead, behind, hturns, ?_⟩
      rw [lowerWithin, lowerAfter_cons, List.count_append, List.count_append]
      omega

end Counting

/-- **The small form of a text is never lost exactly if its sigmas are settled:** then
it occurs in the small form of every text in which the text occurs, and otherwise
there is a longer text in whose small form it does not occur. -/
theorem lower_isInfix_iff {cs : List Char} :
    SigmasSettled cs ↔ ∀ ds, cs <:+: ds → lower cs <:+: lower ds := by
  refine ⟨fun h ds => lower_isInfix h, fun h => Classical.not_not.mp fun hnot => ?_⟩
  obtain ⟨x, ahead, behind, hturns, hlt⟩ := exists_count_lt hnot
  rw [List.nil_append] at hlt
  have hin : cs <:+: ahead.reverse ++ (cs ++ behind) := by
    rw [← List.append_assoc]
    exact List.infix_append _ _ _
  have hle : (lower cs).count x ≤ (lower (ahead.reverse ++ (cs ++ behind))).count x :=
    (h _ hin).sublist.count_le x
  rw [lower_between, List.count_append, List.count_append,
    List.count_eq_zero.mpr (hturns.ahead _), List.count_eq_zero.mpr (hturns.behind _)] at hle
  unfold lower at hle
  omega

end Text
end Tabletop
