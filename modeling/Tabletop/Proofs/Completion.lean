/-
# Choices while a name is typed

While a name is typed the checks of a system are offered: those whose label or key
has the typed text in it, both in small letters, in the order of their labels and no
more than 25. What is offered is right and what is left out is displaced by 25 others
that come before it (`GameSystem.choices_are_the_first_that_match`).

Nothing is offered twice, every choice matches, and a choice that matches is missing
only if the list is full of labels up to its own: all of it comes from the order of
the list and from what a filter and a cut leave of it (`Choice.mem_filter_or_displaced`).

Matching is a matter of small letters. So a choice that shows what was typed, letter
by letter, may still be hidden: the small form of a capital sigma depends on what
stands around it, and what is typed is only a part of the label. Exactly where the
typed text settles its own sigmas all choices that show it are kept
(`Choice.shown_choices_are_kept_iff`).

Key definitions: `Choice.Matches`, `Choice.Shows`, `Choice.KeepsShown`,
`GameSystem.Offers`.
Key theorems: `Choice.mem_filter_or_displaced`, `Choice.shown_choices_are_kept_iff`,
`GameSystem.choices_are_the_first_that_match`.
-/
import Tabletop.Proofs.CheckNames
import Tabletop.Proofs.Sigmas

namespace Tabletop

open Text

namespace Choice

variable {choices : List Choice} {typed : String} {c : Choice}

/-! ### Filtering -/

/-- The typed text, without the blanks around it and in small letters, occurs in the
label or in the value of a choice in small letters. -/
def Matches (typed : String) (c : Choice) : Prop :=
  lower (trim typed.toList) <:+: lower c.name.toList ∨
    lower (trim typed.toList) <:+: lower c.value.toList

theorem fits_iff : fits (lower (trim typed.toList)) c = true ↔ c.Matches typed := by
  rw [fits, Bool.or_eq_true, occursIn_iff, occursIn_iff]
  rfl

theorem length_filter_le (choices : List Choice) (typed : String) :
    (filter choices typed).length ≤ limit := by
  unfold filter
  rw [List.length_take]
  exact Nat.min_le_left _ _

theorem filter_sublist (choices : List Choice) (typed : String) :
    (filter choices typed).Sublist choices :=
  (List.take_sublist _ _).trans List.filter_sublist

theorem matches_of_mem_filter (h : c ∈ filter choices typed) : c.Matches typed :=
  fits_iff.mp (List.mem_filter.mp (List.mem_of_mem_take h)).2

/-- Where all of them fit into the list, nothing but the choices that do not match is
left out. -/
theorem filter_of_length_le (h : choices.length ≤ limit) :
    filter choices typed = choices.filter (fits (lower (trim typed.toList))) :=
  List.take_of_length_le ((List.length_filter_le _ _).trans h)

/-- **Filtering again changes nothing.** -/
theorem filter_filter (choices : List Choice) (typed : String) :
    filter (filter choices typed) typed = filter choices typed := by
  rw [filter_of_length_le (length_filter_le choices typed)]
  exact List.filter_eq_self.mpr fun c hc => fits_iff.mpr (matches_of_mem_filter hc)

/-- **Of choices in the order of their labels the first ones are kept:** one that
matches is kept, or the list is full of choices whose labels are not greater. -/
theorem mem_filter_or_displaced (hs : choices.Pairwise fun a b => a.name ≤ b.name)
    (hc : c ∈ choices) (hm : c.Matches typed) :
    c ∈ filter choices typed ∨
      (filter choices typed).length = limit ∧ ∀ d ∈ filter choices typed, d.name ≤ c.name := by
  have hmatching : c ∈ choices.filter (fits (lower (trim typed.toList))) :=
    List.mem_filter.mpr ⟨hc, fits_iff.mpr hm⟩
  have hsorted := hs.filter (fits (lower (trim typed.toList)))
  unfold filter
  generalize choices.filter (fits (lower (trim typed.toList))) = matching at hmatching hsorted ⊢
  rw [← List.take_append_drop limit matching] at hmatching hsorted
  rcases List.mem_append.mp hmatching with h | h
  · exact .inl h
  · have hlong : limit < matching.length := by
      have hpos := List.length_pos_of_mem h
      rw [List.length_drop] at hpos
      omega
    have hbefore := (List.pairwise_append.mp hsorted).2.2
    refine .inr ⟨?_, fun d hd => hbefore d hd c h⟩
    rw [List.length_take]
    omega

/-! ### What is shown is kept -/

/-- A choice shows a text: it stands in its label or in its value as it is. -/
def Shows (text : List Char) (c : Choice) : Prop :=
  text <:+: c.name.toList ∨ text <:+: c.value.toList

instance (text : List Char) (c : Choice) : Decidable (c.Shows text) :=
  decidable_of_iff (occursIn text c.name.toList || occursIn text c.value.toList)
    (by rw [Bool.or_eq_true, occursIn_iff, occursIn_iff]; rfl)

/-- Filtering keeps every choice that shows what was typed without the blanks around
it, and leaves the choices in their order. -/
structure KeepsShown (choices : List Choice) (typed : String) : Prop where
  keeps : (choices.filter fun c => c.Shows (trim typed.toList)).Sublist (filter choices typed)
  inOrder : (filter choices typed).Sublist choices

theorem matches_of_shows (h : SigmasSettled (trim typed.toList))
    (hc : c.Shows (trim typed.toList)) : c.Matches typed :=
  hc.imp (lower_isInfix h) (lower_isInfix h)

theorem keepsShown_of_settled (h : SigmasSettled (trim typed.toList))
    (hl : choices.length ≤ limit) : KeepsShown choices typed where
  keeps := by
    rw [filter_of_length_le hl]
    refine List.monotone_filter_right choices fun c hc => ?_
    exact fits_iff.mpr (matches_of_shows h (of_decide_eq_true hc))
  inOrder := filter_sublist choices typed

/-- Without a capital sigma in what was typed nothing that shows it is hidden. -/
theorem keepsShown_of_not_mem (h : 'Σ' ∉ trim typed.toList) (hl : choices.length ≤ limit) :
    KeepsShown choices typed :=
  keepsShown_of_settled (settledAfter_of_not_mem [] h) hl

/-- **What is on the label is kept exactly for texts that settle their sigmas.** For
such a text every list of at most 25 choices keeps, in their order, all choices that
show it; for any other text there is a list of choices that does not. -/
theorem shown_choices_are_kept_iff (typed : String) :
    (∀ choices : List Choice, choices.length ≤ 25 → KeepsShown choices typed) ↔
      SigmasSettled (trim typed.toList) := by
  refine ⟨fun h => lower_isInfix_iff.mpr fun label hin => ?_,
    fun h choices hl => keepsShown_of_settled h hl⟩
  have hshows : (⟨String.ofList label, ""⟩ : Choice).Shows (trim typed.toList) :=
    .inl (by rwa [String.toList_ofList])
  have hkept : (⟨String.ofList label, ""⟩ : Choice) ∈ filter [⟨String.ofList label, ""⟩] typed :=
    (h [⟨String.ofList label, ""⟩] (by simp)).keeps.subset
      (List.mem_filter.mpr ⟨List.mem_singleton_self _, decide_eq_true hshows⟩)
  rcases matches_of_mem_filter hkept with hname | hvalue
  · rwa [String.toList_ofList] at hname
  · -- the value is empty, so only a text with an empty small form occurs there
    rw [List.infix_nil.mp hvalue]
    exact List.nil_infix

/-- A hero in capital letters is hidden by the first four letters of the name: the last
one of them is final as it is typed, and is not in the name. -/
theorem odysseus_is_hidden_by_four_letters :
    let hero : Choice := ⟨"ΟΔΥΣΣΕΥΣ", "odysseus"⟩
    [hero].length ≤ 25 ∧ hero.Shows (trim "ΟΔΥΣ".toList) ∧ filter [hero] "ΟΔΥΣ" = [] ∧
      ¬ KeepsShown [hero] "ΟΔΥΣ" := by
  intro hero
  have hshows : hero.Shows (trim "ΟΔΥΣ".toList) := by decide +kernel
  have hhidden : filter [hero] "ΟΔΥΣ" = [] := by decide +kernel
  refine ⟨by decide, hshows, hhidden, fun h => ?_⟩
  have hkept : hero ∈ filter [hero] "ΟΔΥΣ" :=
    h.keeps.subset (List.mem_filter.mpr ⟨List.mem_singleton_self _, decide_eq_true hshows⟩)
  rw [hhidden] at hkept
  cases hkept

/-- With two letters more the hero is shown, since a letter follows both sigmas. -/
theorem odysseus_is_kept_by_six_letters :
    let hero : Choice := ⟨"ΟΔΥΣΣΕΥΣ", "odysseus"⟩
    KeepsShown [⟨"ΑΙΑΣ", "ajax"⟩, hero] " ΟΔΥΣΣΕ" ∧
      hero ∈ filter [⟨"ΑΙΑΣ", "ajax"⟩, hero] " ΟΔΥΣΣΕ" := by
  intro hero
  have hsettled : SigmasSettled (trim " ΟΔΥΣΣΕ".toList) := by decide +kernel
  have hkeeps : KeepsShown [⟨"ΑΙΑΣ", "ajax"⟩, hero] " ΟΔΥΣΣΕ" :=
    (shown_choices_are_kept_iff " ΟΔΥΣΣΕ").mpr hsettled _ (by decide)
  have hshows : hero.Shows (trim " ΟΔΥΣΣΕ".toList) := by decide +kernel
  exact ⟨hkeeps, hkeeps.keeps.subset (List.mem_filter.mpr ⟨by simp, decide_eq_true hshows⟩)⟩

end Choice

/-! ### The checks of a system -/

namespace GameSystem

variable {g : GameSystem} {c : Choice} {key typed : String} {s : SystemSource}

/-- A system has a choice: one of its attributes or of its skills, with the label for
it. -/
inductive Offers (g : GameSystem) : Choice → Prop
  | attribute {attr : String} (h : attr ∈ g.attributes) :
      Offers g ⟨s!"Attribute: {Key.display attr}", attr⟩
  | skill {skill : String} (h : skill ∈ g.skillNames) :
      Offers g ⟨s!"Skill: {Key.display skill}", skill⟩

theorem mem_allChoices : c ∈ g.allChoices ↔ g.Offers c := by
  unfold allChoices
  rw [List.mem_mergeSort, List.mem_append, List.mem_map, List.mem_map]
  constructor
  · rintro (⟨attr, h, rfl⟩ | ⟨skill, h, rfl⟩)
    · exact .attribute h
    · exact .skill h
  · rintro (h | h)
    · exact .inl ⟨_, h, rfl⟩
    · exact .inr ⟨_, h, rfl⟩

theorem pairwise_allChoices (g : GameSystem) :
    g.allChoices.Pairwise fun a b => a.name ≤ b.name := by
  unfold allChoices
  refine (List.pairwise_mergeSort (fun a b c hab hbc => ?_) (fun a b => ?_) _).imp of_decide_eq_true
  · exact decide_eq_true (String.le_trans (of_decide_eq_true hab) (of_decide_eq_true hbc))
  · rw [Bool.or_eq_true, decide_eq_true_iff, decide_eq_true_iff]
    exact String.le_total _ _

/-- **No two choices have one value,** if no attribute is listed twice and no skill has
the name of one. -/
theorem nodup_values (hg : g.Consistent) : (g.allChoices.map (·.value)).Nodup := by
  have hperm : (g.allChoices.map (·.value)).Perm g.checkNames := by
    unfold allChoices checkNames
    refine ((List.mergeSort_perm _ _).map _).trans (List.Perm.of_eq ?_)
    simp [skillNames, Function.comp_def]
  rw [hperm.nodup_iff, checkNames, List.nodup_append]
  refine ⟨hg.distinct, g.skills.nodup_keys, fun attr hattr skill hskill => ?_⟩
  rintro rfl
  exact hg.apart attr hskill hattr

/-- **The choices for a typed text are the first ones that match.** In a system that was
built at most 25 choices are offered, in the order of their labels and with different
values. Each is an attribute or a skill of the system under its label, by a key that can
be checked, and matches the typed text; and an attribute or a skill that matches and is
not offered is displaced by 25 choices whose labels are not greater than its own.
Filtering what is offered by the same text changes nothing. -/
theorem choices_are_the_first_that_match (h : ofSource key s = .ok g) (typed : String) :
    (g.choices typed).length ≤ 25 ∧
    ((g.choices typed).Pairwise fun a b => a.name ≤ b.name) ∧
    ((g.choices typed).map (·.value)).Nodup ∧
    (∀ c ∈ g.choices typed, g.Offers c ∧ c.value ∈ g.checkNames ∧ c.Matches typed) ∧
    (∀ c, g.Offers c → c.Matches typed → c ∉ g.choices typed →
      (g.choices typed).length = 25 ∧ ∀ d ∈ g.choices typed, d.name ≤ c.name) ∧
    Choice.filter (g.choices typed) typed = g.choices typed := by
  have hsub : (g.choices typed).Sublist g.allChoices := Choice.filter_sublist _ typed
  refine ⟨Choice.length_filter_le _ typed, g.pairwise_allChoices.sublist hsub,
    (nodup_values (consistent_of_ofSource h)).sublist (hsub.map _), fun c hc => ?_,
    fun c hoffered hm hc => ?_, Choice.filter_filter _ typed⟩
  · exact ⟨mem_allChoices.mp (hsub.subset hc), value_mem_checkNames hc,
      Choice.matches_of_mem_filter hc⟩
  · rcases Choice.mem_filter_or_displaced g.pairwise_allChoices (mem_allChoices.mpr hoffered) hm
      with hkept | hdisplaced
    · exact absurd hkept hc
    · exact hdisplaced

/-- A skill that is displaced: 26 attributes match as well, since the label of each has
the letter in it, and they all come first. -/
theorem tea_is_displaced_by_attributes :
    let letters := ["a", "b", "c", "d", "e", "f", "g", "h", "i", "j", "k", "l", "m", "n", "o", "p",
      "q", "r", "s", "t", "u", "v", "w", "x", "y", "z"]
    let source : SystemSource := ⟨none, letters, KeyMap.ofList [("Tea", "A")], none, none,
      some "d20", none⟩
    let g : GameSystem := ⟨"k", "k", letters, KeyMap.ofList [("tea", "a")], .addRaw,
      .modifierPlusLevel, "d20", ⟨1, 20, 0⟩⟩
    let tea : Choice := ⟨"Skill: Tea", "tea"⟩
    ofSource "k" source = .ok g ∧ g.Offers tea ∧ tea.Matches "A " ∧ tea ∉ g.choices "A " ∧
      (g.choices "A ").length = 25 ∧ ∀ d ∈ g.choices "A ", d.name ≤ "Skill: Tea" := by
  intro letters source g tea
  have hbuilt : ofSource "k" source = .ok g := by decide +kernel
  have hsorted : g.allChoices =
      letters.map (fun a => ⟨s!"Attribute: {Key.display a}", a⟩) ++ [tea] :=
    List.mergeSort_of_pairwise (by decide +kernel)
  have hoffered : g.Offers tea := mem_allChoices.mp (by rw [hsorted]; simp)
  have hmatches : tea.Matches "A " := Choice.fits_iff.mp (by decide +kernel)
  have hmissing : tea ∉ g.choices "A " := by
    unfold choices
    rw [hsorted]
    decide +kernel
  obtain ⟨-, -, -, -, hdisplaced, -⟩ := choices_are_the_first_that_match hbuilt "A "
  exact ⟨hbuilt, hoffered, hmatches, hmissing, hdisplaced tea hoffered hmatches hmissing⟩

end GameSystem
end Tabletop
