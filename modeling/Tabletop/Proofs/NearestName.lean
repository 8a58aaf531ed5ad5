/-
# The name that was meant

A name that is no check is refused with the names that there are, and with the
one that was probably meant. The names are gone through once, with the best one
so far in hand; one more name takes its place if it scores enough and no less
(`bestScored_concat`). So in the end the last of the best names is left, or none if
none scores enough (`bestScored_spec`), and there is only one such name
(`LastBest.unique`).

Scores are compared as numbers where they are tested and by their places in the
total order where the best is kept. Both come to the same for scores that are
enough, since these are positive (`Score.le_iff_rank`).

Key definitions: `likeness`, `LastBest`, `bestScored`.
Key theorems: `bestScored_spec`, `LastBest.unique`, `suggestion_eq_some`,
`refusal_suggests_nearest`.
-/
import Mathlib.Data.List.Induction
import Tabletop.Proofs.CheckNames
import Tabletop.Proofs.Scores

namespace Tabletop

open Score (Positive)
open Text (scoreRank)

/-- How similar a name is to a key. -/
def likeness (key name : String) : Float :=
  Text.similarity key.toList name.toList

/-- The last one of the best names in a list: it scores enough, no name scores
more, and none after it scores as much. -/
structure LastBest (score : String → Float) (names : List String) (name : String) : Prop where
  enough : suggestionThreshold ≤ score name
  best : ∀ other ∈ names, ¬score name < score other
  last : ∃ before after, names = before ++ name :: after ∧
    ∀ other ∈ after, ¬score name ≤ score other

/-! ### Scores that are enough -/

section Enough

variable {x y : Float}

theorem positive_threshold : Positive suggestionThreshold := by
  have hbits : suggestionThreshold.toBits.toNat = 0x3FE999999999999A := by decide +kernel
  unfold Positive
  rw [hbits]
  decide

theorem positive_of_enough (h : suggestionThreshold ≤ x) : Positive x :=
  ((Score.le_iff positive_threshold).mp h).1

theorem enough_of_le (hx : suggestionThreshold ≤ x) (h : x ≤ y) : suggestionThreshold ≤ y := by
  obtain ⟨hnumber, hrank⟩ := (Score.le_iff_rank (positive_of_enough hx)).mp h
  obtain ⟨-, henough⟩ := (Score.le_iff_rank positive_threshold).mp hx
  exact (Score.le_iff_rank positive_threshold).mpr ⟨hnumber, henough.trans hrank⟩

theorem le_of_enough_of_lt (hx : suggestionThreshold ≤ x) (h : x < y) : x ≤ y := by
  obtain ⟨hnumber, hrank⟩ := (Score.lt_iff_rank (positive_of_enough hx)).mp h
  exact (Score.le_iff_rank (positive_of_enough hx)).mpr ⟨hnumber, hrank.le⟩

end Enough

/-! ### The last of the best -/

section Best

variable {score : String → Float} {names : List String} {name next a b : String}

theorem LastBest.mem (h : LastBest score names name) : name ∈ names := by
  obtain ⟨before, after, rfl, -⟩ := h.last
  exact List.mem_append_right _ List.mem_cons_self

theorem LastBest.concat (h : LastBest score names name) (hnext : ¬score name ≤ score next) :
    LastBest score (names ++ [next]) name := by
  obtain ⟨before, after, rfl, hafter⟩ := h.last
  refine ⟨h.enough, ?_, before, after ++ [next], by simp, ?_⟩
  · intro other hother hlt
    rcases List.mem_append.mp hother with hother | hother
    · exact h.best other hother hlt
    · rw [List.mem_singleton.mp hother] at hlt
      exact hnext (le_of_enough_of_lt h.enough hlt)
  · rw [List.forall_mem_append]
    exact ⟨hafter, List.forall_mem_singleton.mpr hnext⟩

theorem lastBest_concat (henough : suggestionThreshold ≤ score next)
    (hnames : ∀ other ∈ names, ¬score next < score other) :
    LastBest score (names ++ [next]) next := by
  refine ⟨henough, ?_, names, [], rfl, fun _ h => nomatch h⟩
  rw [List.forall_mem_append]
  refine ⟨hnames, List.forall_mem_singleton.mpr fun hlt => ?_⟩
  obtain ⟨-, hrank⟩ := (Score.lt_iff_rank (positive_of_enough henough)).mp hlt
  exact lt_irrefl _ hrank

/-- Of two places in a list one is the other one, or comes after it. -/
theorem eq_or_mem_of_append_eq {before after before' after' : List String}
    (h : before ++ a :: after = before' ++ b :: after') : a = b ∨ b ∈ after ∨ a ∈ after' := by
  rcases List.append_eq_append_iff.mp h with ⟨between, -, h⟩ | ⟨between, -, h⟩
  · cases between with
    | nil => exact .inl (List.cons.inj h).1
    | cons x between =>
      rw [(List.cons.inj h).2]
      exact .inr (.inl (by simp))
  · cases between with
    | nil => exact .inl (List.cons.inj h).1.symm
    | cons x between =>
      rw [(List.cons.inj h).2]
      exact .inr (.inr (by simp))

theorem LastBest.not_after (h : LastBest score names b) (ha : a ∈ names)
    (henough : suggestionThreshold ≤ score a) (hafter : ¬score a ≤ score b) : False := by
  have hb := positive_of_enough h.enough
  have hrank : ¬scoreRank (score a) ≤ scoreRank (score b) := fun hle =>
    hafter ((Score.le_iff_rank (positive_of_enough henough)).mpr ⟨hb.isNaN, hle⟩)
  exact h.best a ha ((Score.lt_iff_rank hb).mpr
    ⟨(positive_of_enough henough).isNaN, not_le.mp hrank⟩)

/-- **There is one last of the best names.** -/
theorem LastBest.unique (h : LastBest score names a) (h' : LastBest score names b) : a = b := by
  obtain ⟨before, after, hnames, hafter⟩ := h.last
  obtain ⟨before', after', hnames', hafter'⟩ := h'.last
  rcases eq_or_mem_of_append_eq (hnames.symm.trans hnames') with heq | hmem | hmem
  · exact heq
  · exact (h'.not_after h.mem h.enough (hafter b hmem)).elim
  · exact (h.not_after h'.mem h'.enough (hafter' a hmem)).elim

/-- The last of the best names has the greatest place in the total order, and
those after it have lower ones; what is no number does not count. -/
theorem LastBest.rank (h : LastBest score names name) :
    ∃ before after, names = before ++ name :: after ∧
      (∀ other ∈ before, (score other).isNaN = false →
        scoreRank (score other) ≤ scoreRank (score name)) ∧
      ∀ other ∈ after, (score other).isNaN = false →
        scoreRank (score other) < scoreRank (score name) := by
  have hpositive := positive_of_enough h.enough
  obtain ⟨before, after, rfl, hafter⟩ := h.last
  refine ⟨before, after, rfl, fun other hother hnumber => ?_, fun other hother hnumber => ?_⟩
  · exact not_lt.mp fun hlt => h.best other (List.mem_append_left _ hother)
      ((Score.lt_iff_rank hpositive).mpr ⟨hnumber, hlt⟩)
  · exact not_le.mp fun hle => hafter other hother
      ((Score.le_iff_rank hpositive).mpr ⟨hnumber, hle⟩)

/-! ### Going through the names -/

/-- The best name with its score, as it is found by going through the names. -/
def bestScored (score : String → Float) (names : List String) : Option (Float × String) :=
  ((names.map fun name => (score name, name)).filter fun s =>
    s.1 ≥ suggestionThreshold).foldl betterName none

theorem bestScored_concat (score : String → Float) (names : List String) (next : String) :
    bestScored score (names ++ [next]) =
      if suggestionThreshold ≤ score next then
        betterName (bestScored score names) (score next, next)
      else bestScored score names := by
  unfold bestScored
  rw [List.map_append, List.filter_append, List.map_singleton, List.filter_singleton]
  by_cases henough : suggestionThreshold ≤ score next
  · simp [henough]
  · simp [henough]

/-- What is in hand after some names: the last of the best, or nothing, if none
of them scores enough. -/
inductive InHand (score : String → Float) (names : List String) : Option (Float × String) → Prop
  | nothing (h : ∀ name ∈ names, ¬suggestionThreshold ≤ score name) : InHand score names none
  | best {name : String} (h : LastBest score names name) :
      InHand score names (some (score name, name))

theorem InHand.betterName {o : Option (Float × String)} (h : InHand score names o)
    (henough : suggestionThreshold ≤ score next) :
    InHand score (names ++ [next]) (betterName o (score next, next)) := by
  cases h with
  | nothing hnone =>
    refine .best (lastBest_concat henough fun other hother hlt => hnone other hother ?_)
    exact enough_of_le henough (le_of_enough_of_lt henough hlt)
  | @best name hbest =>
    -- the places decide, and between scores that are enough these are the numbers
    have hname := positive_of_enough hbest.enough
    unfold Tabletop.betterName
    simp only
    split
    · rename_i hlower
      refine .best (hbest.concat fun hle => ?_)
      obtain ⟨-, hrank⟩ := (Score.le_iff_rank hname).mp hle
      exact absurd hlower (not_lt.mpr hrank)
    · rename_i hlower
      refine .best (lastBest_concat henough fun other hother hlt => hbest.best other hother ?_)
      obtain ⟨hnumber, hrank⟩ := (Score.lt_iff_rank (positive_of_enough henough)).mp hlt
      exact (Score.lt_iff_rank hname).mpr ⟨hnumber, (not_lt.mp hlower).trans_lt hrank⟩

theorem InHand.pass {o : Option (Float × String)} (h : InHand score names o)
    (hnext : ¬suggestionThreshold ≤ score next) : InHand score (names ++ [next]) o := by
  cases h with
  | nothing hnone =>
    refine .nothing ?_
    rw [List.forall_mem_append]
    exact ⟨hnone, List.forall_mem_singleton.mpr hnext⟩
  | best hbest => exact .best (hbest.concat fun hle => hnext (enough_of_le hbest.enough hle))

/-- **In the end the last of the best names is in hand.** -/
theorem bestScored_spec (score : String → Float) (names : List String) :
    InHand score names (bestScored score names) := by
  -- from the right, as the last name is the one that is compared with all before it
  induction names using List.reverseRecOn with
  | nil => exact .nothing fun _ h => nomatch h
  | append_singleton names next ih =>
    rw [bestScored_concat]
    split
    · exact ih.betterName ‹_›
    · exact ih.pass ‹_›

theorem InHand.name_eq_some {o : Option (Float × String)} (h : InHand score names o) :
    o.map (·.2) = some name ↔ LastBest score names name := by
  cases h with
  | nothing hnone =>
    exact ⟨fun h => (nomatch h), fun hbest => absurd hbest.enough (hnone name hbest.mem)⟩
  | best hbest =>
    constructor
    · intro hsome
      rw [← Option.some.inj hsome]
      exact hbest
    · exact fun hbest' => congrArg some (hbest.unique hbest')

theorem InHand.name_eq_none {o : Option (Float × String)} (h : InHand score names o) :
    o.map (·.2) = none ↔ ∀ name ∈ names, ¬suggestionThreshold ≤ score name := by
  cases h with
  | nothing hnone => exact ⟨fun _ => hnone, fun _ => rfl⟩
  | best hbest =>
    exact ⟨fun h => (nomatch h), fun hnone => absurd hbest.enough (hnone _ hbest.mem)⟩

end Best

/-! ### Suggestions -/

section Suggestion

variable {names : List String} {key name : String}

/-- **A name is suggested exactly if it is the last of the best.** -/
theorem suggestion_eq_some :
    suggestion names key = some name ↔ LastBest (likeness key) names name :=
  (bestScored_spec (likeness key) names).name_eq_some

theorem suggestion_eq_none :
    suggestion names key = none ↔ ∀ name ∈ names, ¬suggestionThreshold ≤ likeness key name :=
  (bestScored_spec (likeness key) names).name_eq_none

end Suggestion

/-- **A refusal lists the checks and suggests the nearest one.** The attributes are
listed in the order of the system and the skills ascending. No name is suggested
exactly if none of them reaches 0.8 in similarity to the key of the request.
Otherwise it is the last one of the best: no name exceeds it, and none after it,
the attributes being in front of the skills, reaches it. In the total order of
all scores it has the greatest place too. -/
theorem refusal_suggests_nearest {g : GameSystem} {c : Character} {requested : String}
    {e : UnknownCheck} (h : resolve g c requested = .error e) :
    e.attributes = g.attributes ∧ e.skills = g.skills.keys ∧ e.skills.Pairwise (· < ·) ∧
    (e.suggestion = none ↔
      ∀ name ∈ g.attributes ++ g.skills.keys, ¬0.8 ≤ likeness (Key.normalize requested) name) ∧
    (∀ name, e.suggestion = some name ↔
      LastBest (likeness (Key.normalize requested)) (g.attributes ++ g.skills.keys) name) ∧
    ∀ name, e.suggestion = some name →
      ∃ before after, g.attributes ++ g.skills.keys = before ++ name :: after ∧
        (∀ other ∈ before, (likeness (Key.normalize requested) other).isNaN = false →
          scoreRank (likeness (Key.normalize requested) other) ≤
            scoreRank (likeness (Key.normalize requested) name)) ∧
        ∀ other ∈ after, (likeness (Key.normalize requested) other).isNaN = false →
          scoreRank (likeness (Key.normalize requested) other) <
            scoreRank (likeness (Key.normalize requested) name) := by
  obtain rfl := eq_unknownCheck h
  exact ⟨rfl, rfl, g.skills.pairwise_keys, suggestion_eq_none, fun _ => suggestion_eq_some,
    fun _ hsome => (suggestion_eq_some.mp hsome).rank⟩

/-- Two skills are as similar to the request as each other; the second one is
suggested. -/
theorem second_equal_suggested :
    let system : GameSystem := ⟨"k", "k", ["str"],
      KeyMap.ofList [("climbb", "str"), ("climba", "str")], .addRaw, .modifierPlusLevel, "d20",
      ⟨1, 20, 0⟩⟩
    ∃ e, resolve system (.blank "Rin" "k") "Climb" = .error e ∧
      e.attributes = ["str"] ∧ e.skills = ["climba", "climbb"] ∧ e.suggestion = some "climbb" ∧
      LastBest (likeness (Key.normalize "Climb")) ["str", "climba", "climbb"] "climbb" := by
  intro system
  have herror : resolve system (.blank "Rin" "k") "Climb" = .error (unknownCheck system "Climb") :=
    resolve_neither (by decide +kernel) (by decide +kernel)
  have hsuggestion : (unknownCheck system "Climb").suggestion = some "climbb" := by
    decide +kernel
  obtain ⟨hattributes, hskills, -, -, hsome, -⟩ := refusal_suggests_nearest herror
  exact ⟨_, herror, hattributes, hskills, hsuggestion, (hsome _).mp hsuggestion⟩

end Tabletop
