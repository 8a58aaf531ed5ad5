/-
# Every name that is shown can be checked

A game system shows its names in several places: in the list of its checks, in
the error for a name that is no check, where the most similar one is suggested,
and among the choices while a name is typed. All of them come from the one list
of attributes and skills (`GameSystem.Shows.mem_checkNames`). In a system that
was built these are keys, a skill has no attribute's name, and its attribute is
listed, so each name that is shown resolves under every spelling of it, as what
it is shown for (`GameSystem.shown_names_resolve`).

Key definition: `GameSystem.Shows`.
Key theorems: `mem_of_suggestion`, `GameSystem.value_mem_checkNames`,
`GameSystem.Shows.mem_checkNames`, `GameSystem.shown_names_resolve`.
-/
import Tabletop.Check.Choice
import Tabletop.Proofs.Resolution
import Tabletop.Proofs.SystemConsistency

namespace Tabletop

/-! ### Suggestions -/

theorem mem_of_foldl_betterName {scored : List (Float × String)} {s : Float × String} :
    ∀ {best : Option (Float × String)}, scored.foldl betterName best = some s →
      best = some s ∨ s ∈ scored := by
  induction scored with
  | nil => exact fun h => .inl h
  | cons next scored ih =>
    intro best h
    rcases ih h with h | h
    · unfold betterName at h
      split at h
      · split at h
        · exact .inl h
        · exact .inr (Option.some.inj h ▸ List.mem_cons_self)
      · exact .inr (Option.some.inj h ▸ List.mem_cons_self)
    · exact .inr (List.mem_cons_of_mem _ h)

/-- **What is suggested is one of the names,** whatever the measure of
similarity. -/
theorem mem_of_suggestion {names : List String} {key name : String}
    (h : suggestion names key = some name) : name ∈ names := by
  unfold suggestion at h
  obtain ⟨s, hs, rfl⟩ := Option.map_eq_some_iff.mp h
  rcases mem_of_foldl_betterName hs with hnone | hmem
  · cases hnone
  · obtain ⟨name, hname, rfl⟩ := List.mem_map.mp (List.mem_of_mem_filter hmem)
    exact hname

theorem eq_unknownCheck {g : GameSystem} {c : Character} {requested : String} {e : UnknownCheck}
    (h : resolve g c requested = .error e) : e = unknownCheck g requested := by
  rcases resolve_cases g c requested with ⟨-, hr⟩ | ⟨_, -, -, hr⟩ | ⟨-, -, hr⟩
  · cases hr.symm.trans h
  · cases hr.symm.trans h
  · exact (Except.error.inj (hr.symm.trans h)).symm

namespace GameSystem

variable {g : GameSystem} {key name text typed : String} {s : SystemSource} {c : Character}

/-! ### Choices -/

theorem value_mem_checkNames {choice : Choice} (h : choice ∈ g.choices typed) :
    choice.value ∈ g.checkNames := by
  have hall : choice ∈ g.allChoices := List.mem_of_mem_filter (List.mem_of_mem_take h)
  unfold allChoices at hall
  rw [List.mem_mergeSort, List.mem_append] at hall
  rcases hall with h | h
  · obtain ⟨a, ha, rfl⟩ := List.mem_map.mp h
    exact List.mem_append_left _ ha
  · obtain ⟨skill, hskill, rfl⟩ := List.mem_map.mp h
    exact List.mem_append_right _ hskill

/-! ### Names that are shown -/

/-- A system shows a name: in the list of its checks, in an error for a name
that is no check, or as the value of a choice. -/
inductive Shows (g : GameSystem) : String → Prop
  | listed {name : String} (h : name ∈ g.checkNames) : Shows g name
  | knownAttribute {c : Character} {requested name : String} {e : UnknownCheck}
      (he : resolve g c requested = .error e) (h : name ∈ e.attributes) : Shows g name
  | knownSkill {c : Character} {requested name : String} {e : UnknownCheck}
      (he : resolve g c requested = .error e) (h : name ∈ e.skills) : Shows g name
  | suggested {c : Character} {requested name : String} {e : UnknownCheck}
      (he : resolve g c requested = .error e) (h : e.suggestion = some name) : Shows g name
  | offered {typed : String} {choice : Choice} (h : choice ∈ g.choices typed) :
      Shows g choice.value

/-- **All names that are shown are names of checks.** -/
theorem Shows.mem_checkNames (h : g.Shows name) : name ∈ g.checkNames := by
  cases h with
  | listed h => exact h
  | knownAttribute he h =>
    rw [eq_unknownCheck he] at h
    exact List.mem_append_left _ h
  | knownSkill he h =>
    rw [eq_unknownCheck he] at h
    exact List.mem_append_right _ h
  | suggested he h =>
    rw [eq_unknownCheck he] at h
    exact mem_of_suggestion h
  | offered h => exact value_mem_checkNames h

/-! ### Names that resolve -/

/-- A text resolves to a check of some kind, under a name. -/
def ResolvesAs (g : GameSystem) (c : Character) (text name : String) (kind : CheckKind) : Prop :=
  ∃ r, resolve g c text = .ok r ∧ r.check = name ∧ r.kind = kind

theorem resolvesAs_attr (h : name ∈ g.attributes) (ht : Key.normalize text = name) :
    g.ResolvesAs c text name .attr := by
  subst ht
  exact ⟨_, resolve_attribute h, rfl, rfl⟩

theorem resolvesAs_skill {attr : String} (hg : g.Consistent)
    (h : g.skills.get? name = some attr) (ht : Key.normalize text = name) :
    g.ResolvesAs c text name (.skill attr) := by
  subst ht
  have hapart : Key.normalize text ∉ g.attributes := hg.apart _ (KeyMap.mem_keys_of_get? h)
  exact ⟨_, resolve_skill hapart h, rfl, rfl⟩

/-- A name of a check is an attribute, or a skill with its attribute. -/
theorem mem_checkNames : name ∈ g.checkNames ↔
    name ∈ g.attributes ∨ ∃ attr, g.skills.get? name = some attr := by
  unfold checkNames
  rw [List.mem_append, g.skills.mem_keys_iff, Option.isSome_iff_exists]

/-- **Every name that is shown can be checked.** In a system that was built a
name that is shown is a key, and each text with that key resolves to the check
of that name, for any character: an attribute's as a check of the attribute, a
skill's as one of the skill under the attribute that governs it, which can be
checked itself. -/
theorem shown_names_resolve (h : ofSource key s = .ok g) (c : Character) :
    (∀ name, g.Shows name → Key.normalize name = name ∧
      ∀ text, Key.normalize text = name → ∃ r, resolve g c text = .ok r ∧ r.check = name) ∧
    (∀ name ∈ g.attributes, ∀ text, Key.normalize text = name →
      g.ResolvesAs c text name .attr) ∧
    ∀ name attr, g.skills.get? name = some attr → g.ResolvesAs c attr attr .attr ∧
      ∀ text, Key.normalize text = name → g.ResolvesAs c text name (.skill attr) := by
  have hconsistent := consistent_of_ofSource h
  have hnormal := normal_of_ofSource h
  refine ⟨fun name hname => ?_, fun name hname text => resolvesAs_attr hname,
    fun name attr hskill => ⟨?_, fun text => resolvesAs_skill hconsistent hskill⟩⟩
  · have hmem := hname.mem_checkNames
    refine ⟨hnormal name hmem, fun text ht => ?_⟩
    rcases mem_checkNames.mp hmem with ha | ⟨attr, hattr⟩
    · obtain ⟨r, hr, hcheck, -⟩ := resolvesAs_attr (c := c) ha ht
      exact ⟨r, hr, hcheck⟩
    · obtain ⟨r, hr, hcheck, -⟩ := resolvesAs_skill (c := c) hconsistent hattr ht
      exact ⟨r, hr, hcheck⟩
  · have hattr := hconsistent.governed name attr hskill
    exact resolvesAs_attr hattr (hnormal attr (List.mem_append_left _ hattr))

/-- A skill that is listed in the error for a name that is no check, and its
attribute in another spelling. -/
theorem listed_skill_resolves :
    let source : SystemSource := ⟨none, ["Str", "Dex"],
      KeyMap.ofList [("Sleight of Hand", "DEX")], none, none, some "d20", none⟩
    let system : GameSystem := ⟨"k", "k", ["str", "dex"],
      KeyMap.ofList [("sleight_of_hand", "dex")], .addRaw, .modifierPlusLevel, "d20", ⟨1, 20, 0⟩⟩
    ofSource "k" source = .ok system ∧
    (∃ e, resolve system (.blank "Zoë" "k") "tea" = .error e ∧ "sleight_of_hand" ∈ e.skills) ∧
    (∃ r, resolve system (.blank "Rin" "k") " Sleight\tOF hand" = .ok r ∧
      r.check = "sleight_of_hand") ∧
    system.ResolvesAs (.blank "Rin" "k") "DEX " "dex" .attr := by
  intro source system
  have hbuilt : ofSource "k" source = .ok system := by decide +kernel
  have herror : resolve system (.blank "Zoë" "k") "tea" = .error (unknownCheck system "tea") :=
    resolve_neither (by decide +kernel) (by decide +kernel)
  have hlisted : "sleight_of_hand" ∈ (unknownCheck system "tea").skills := by
    show "sleight_of_hand" ∈ system.skillNames
    decide
  obtain ⟨hall, hattributes, -⟩ := shown_names_resolve hbuilt (.blank "Rin" "k")
  exact ⟨hbuilt, ⟨_, herror, hlisted⟩,
    (hall _ (.knownSkill herror hlisted)).2 _ (by decide +kernel),
    hattributes "dex" (by decide) _ (by decide +kernel)⟩

end GameSystem
end Tabletop
