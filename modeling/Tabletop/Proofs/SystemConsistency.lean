/-
# Which game systems are accepted

The issues of a game system are found by scans: one over the attributes, which
remembers those that it has seen, and one over the skills. They find an error
exactly if the parts of the system do not fit together
(`GameSystem.no_error_iff`): no attributes, an attribute without a name, one
that is listed twice, a skill of an unknown attribute, or a skill with the name
of one.

Of the skills of a source that have one key the last one counts, in the order of
their names as they are written (`SystemSource.Governs`). With that a source is
accepted exactly if its dice can be read and its names, once they are
normalized, fit together (`ofSource_accepts_exactly`).

Key definitions: `GameSystem.Consistent`, `SystemSource.Governs`,
`SystemSource.Acceptable`.
Key theorems: `GameSystem.no_error_iff`, `SystemSource.get?_normalSkills`,
`GameSystem.consistent_of_ofSource`, `GameSystem.ofSource_accepts_exactly`.
-/
import Tabletop.Proofs.SystemJson

namespace Tabletop

/-! ### The issues of a system -/

namespace GameSystem

/-- The parts of a system fit together. -/
structure Consistent (g : GameSystem) : Prop where
  nonempty : g.attributes ≠ []
  named : "" ∉ g.attributes
  distinct : g.attributes.Nodup
  governed : ∀ skill attr, g.skills.get? skill = some attr → attr ∈ g.attributes
  apart : ∀ skill ∈ g.skills.keys, skill ∉ g.attributes

variable {g : GameSystem} {key skill attr : String} {s : SystemSource}

theorem isAttribute_iff : g.isAttribute key = true ↔ key ∈ g.attributes :=
  List.contains_iff_mem

theorem isError_of_mem_attributeIssues {i : SystemIssue} : ∀ {as seen : List String},
    i ∈ attributeIssues seen as → i.isError = true
  | [], _, h => nomatch h
  | a :: as, seen, h => by
    rw [attributeIssues] at h
    split at h
    · rcases List.mem_cons.mp h with rfl | h
      · rfl
      · exact isError_of_mem_attributeIssues h
    · split at h
      · rcases List.mem_cons.mp h with rfl | h
        · rfl
        · exact isError_of_mem_attributeIssues h
      · exact isError_of_mem_attributeIssues h

/-- **The scan over the attributes finds nothing** if each has a name that is
not seen before. -/
theorem attributeIssues_eq_nil : ∀ {as seen : List String},
    attributeIssues seen as = [] ↔ "" ∉ as ∧ as.Nodup ∧ ∀ a ∈ as, a ∉ seen
  | [], seen => by simp [attributeIssues]
  | a :: as, seen => by
    rw [attributeIssues]
    by_cases hempty : a = ""
    · simp [hempty]
    · rw [if_neg hempty]
      by_cases hseen : a ∈ seen
      · simp [hseen]
      · rw [if_neg hseen, attributeIssues_eq_nil]
        -- to be unlike `a` and those seen before it is to be unlike the longer list
        constructor
        · rintro ⟨hnamed, hdistinct, hnew⟩
          refine ⟨?_, ?_, ?_⟩
          · rw [List.mem_cons, not_or]
            exact ⟨Ne.symm hempty, hnamed⟩
          · exact List.nodup_cons.mpr ⟨fun ha => hnew a ha List.mem_cons_self, hdistinct⟩
          · intro x hx hmem
            rcases List.mem_cons.mp hx with rfl | hx
            · exact hseen hmem
            · exact hnew x hx (List.mem_cons_of_mem _ hmem)
        · rintro ⟨hnamed, hdistinct, hnew⟩
          obtain ⟨ha, hdistinct⟩ := List.nodup_cons.mp hdistinct
          refine ⟨fun h => hnamed (List.mem_cons_of_mem _ h), hdistinct, fun x hx hmem => ?_⟩
          rcases List.mem_cons.mp hmem with rfl | hmem
          · exact ha hx
          · exact hnew x (List.mem_cons_of_mem _ hx) hmem

theorem isError_of_mem_skillIssues {i : SystemIssue} (h : i ∈ g.skillIssues skill attr) :
    i.isError = true := by
  unfold skillIssues at h
  rcases List.mem_append.mp h with h | h
  · split at h
    · cases h
    · rw [List.mem_singleton.mp h]
      rfl
  · split at h
    · rw [List.mem_singleton.mp h]
      rfl
    · cases h

theorem skillIssues_eq_nil :
    g.skillIssues skill attr = [] ↔ attr ∈ g.attributes ∧ skill ∉ g.attributes := by
  unfold skillIssues
  rw [List.append_eq_nil_iff, ← isAttribute_iff, ← isAttribute_iff]
  cases g.isAttribute attr <;> cases g.isAttribute skill <;> simp

theorem no_error_of_errors {is : List SystemIssue} (h : ∀ i ∈ is, i.isError = true) :
    (∀ i ∈ is, i.isError = false) ↔ is = [] := by
  constructor
  · intro hnone
    refine List.eq_nil_iff_forall_not_mem.mpr fun i hi => ?_
    have herror := h i hi
    rw [hnone i hi] at herror
    cases herror
  · rintro rfl i hi
    cases hi

/-- **A system has no errors if its parts fit together.** -/
theorem no_error_iff : (∀ i ∈ g.issues, i.isError = false) ↔ g.Consistent := by
  have hnone : (∀ i ∈ (if g.attributes = [] then [SystemIssue.noAttributes] else []),
      i.isError = false) ↔ g.attributes ≠ [] := by
    split
    · rename_i h
      simp [h, SystemIssue.isError]
    · rename_i h
      simp [h]
  have hattributes : (∀ i ∈ attributeIssues [] g.attributes, i.isError = false) ↔
      "" ∉ g.attributes ∧ g.attributes.Nodup := by
    rw [no_error_of_errors fun _ => isError_of_mem_attributeIssues, attributeIssues_eq_nil]
    simp
  have hskills : (∀ i ∈ g.skills.entries.flatMap fun e => g.skillIssues e.1 e.2,
      i.isError = false) ↔
      ∀ skill attr, g.skills.get? skill = some attr →
        attr ∈ g.attributes ∧ skill ∉ g.attributes := by
    rw [no_error_of_errors, List.flatMap_eq_nil_iff]
    · simp only [Prod.forall, g.skills.mem_entries_iff, skillIssues_eq_nil]
    · intro i hi
      obtain ⟨e, -, hi⟩ := List.mem_flatMap.mp hi
      exact isError_of_mem_skillIssues hi
  have hwarning : ∀ i ∈ (if g.skills.isEmpty then [SystemIssue.noSkills] else []),
      i.isError = false := by
    split <;> simp [SystemIssue.isError]
  unfold issues
  rw [List.forall_mem_append, List.forall_mem_append, List.forall_mem_append, hnone, hattributes,
    hskills]
  constructor
  · rintro ⟨⟨⟨hnonempty, hnamed, hdistinct⟩, hall⟩, -⟩
    refine ⟨hnonempty, hnamed, hdistinct, fun skill attr h => (hall skill attr h).1,
      fun skill hskill => ?_⟩
    obtain ⟨attr, hattr⟩ := Option.isSome_iff_exists.mp ((g.skills.mem_keys_iff skill).mp hskill)
    exact (hall skill attr hattr).2
  · intro h
    refine ⟨⟨⟨h.nonempty, h.named, h.distinct⟩,
      fun skill attr hs => ⟨h.governed skill attr hs, ?_⟩⟩,
      hwarning⟩
    exact h.apart skill (KeyMap.mem_keys_of_get? hs)

end GameSystem

/-! ### The names of a source -/

namespace SystemSource

variable {s : SystemSource} {key skill attr text : String} {primary : Dice}

/-- A skill and its attribute, by their keys, as a source has them: of all names
with the key of the skill the last one counts. -/
inductive Governs (s : SystemSource) (skill attr : String) : Prop
  | last {name governor : String} (h : s.skills.get? name = some governor)
      (hskill : Key.normalize name = skill) (hattr : Key.normalize governor = attr)
      (hlast : ∀ other ∈ s.skills.keys, Key.normalize other = skill → other ≤ name)

theorem mem_keys_normalSkills :
    skill ∈ s.normalSkills.keys ↔ ∃ name ∈ s.skills.keys, Key.normalize name = skill := by
  unfold normalSkills
  rw [KeyMap.mem_keys_ofList, List.map_map, KeyMap.keys, List.mem_map]
  constructor
  · rintro ⟨e, he, rfl⟩
    exact ⟨e.1, List.mem_map_of_mem he, rfl⟩
  · rintro ⟨name, hname, rfl⟩
    obtain ⟨e, he, rfl⟩ := List.mem_map.mp hname
    exact ⟨e, he, rfl⟩

theorem Governs.unique {attr' : String} (h : s.Governs skill attr) (h' : s.Governs skill attr') :
    attr = attr' := by
  obtain ⟨hget, hskill, rfl, hlast⟩ := h
  obtain ⟨hget', hskill', rfl, hlast'⟩ := h'
  obtain rfl := String.le_antisymm (hlast' _ (KeyMap.mem_keys_of_get? hget) hskill)
    (hlast _ (KeyMap.mem_keys_of_get? hget') hskill')
  rw [Option.some.inj (hget.symm.trans hget')]

theorem governs_of_get? (h : s.normalSkills.get? skill = some attr) : s.Governs skill attr := by
  unfold normalSkills at h
  rw [KeyMap.get?_ofList] at h
  obtain ⟨later, earlier, hlist, hother⟩ := List.lookup_eq_some_iff.mp h
  -- the entry that is found parts the source's skills into those before it and those after it
  have hparts : s.skills.entries.map (fun e => (Key.normalize e.1, Key.normalize e.2)) =
      earlier.reverse ++ (skill, attr) :: later.reverse := by
    rw [← List.reverse_inj, hlist]
    simp
  obtain ⟨es, es', hentries, -, htail⟩ := List.map_eq_append_iff.mp hparts
  obtain ⟨e, es'', rfl, he, hafter⟩ := List.map_eq_cons_iff.mp htail
  obtain ⟨name, governor⟩ := e
  obtain ⟨hskill, hattr⟩ := Prod.mk.inj he
  have hget : s.skills.get? name = some governor := by
    rw [← KeyMap.mem_entries_iff, hentries]
    simp
  refine .last hget hskill hattr fun other hkey hnormal => ?_
  obtain ⟨e, he, rfl⟩ := List.mem_map.mp hkey
  have hascending := s.skills.ascending
  rw [hentries] at he hascending
  rcases List.mem_append.mp he with he | he
  · have hlt := (List.pairwise_append.mp hascending).2.2 e he _ List.mem_cons_self
    exact String.not_lt.mp fun hgt => String.lt_irrefl _ (String.lt_trans hlt hgt)
  · rcases List.mem_cons.mp he with rfl | he
    · exact String.le_refl _
    · have hlater : ∀ p ∈ later.reverse, (skill != p.1) = true :=
        fun p hp => hother p (List.mem_reverse.mp hp)
      rw [← hafter] at hlater
      have hne := List.forall_mem_map.mp hlater e he
      simp [hnormal] at hne

/-- **The skills of a source by their keys:** of those with one key the last
counts. -/
theorem get?_normalSkills : s.normalSkills.get? skill = some attr ↔ s.Governs skill attr := by
  refine ⟨governs_of_get?, fun h => ?_⟩
  have hkey : skill ∈ s.normalSkills.keys := by
    obtain ⟨hget, hskill, -, -⟩ := h
    exact mem_keys_normalSkills.mpr ⟨_, KeyMap.mem_keys_of_get? hget, hskill⟩
  obtain ⟨attr', hget⟩ := Option.isSome_iff_exists.mp ((KeyMap.mem_keys_iff _ _).mp hkey)
  rw [hget, (governs_of_get? hget).unique h]

/-- The dice that a source names: those of the current place, or of the older
one where the current one says nothing. -/
def Notes (s : SystemSource) (text : String) : Prop :=
  s.diceText = some text ∨ s.diceText = none ∧ s.dice = some (some text)

theorem notedDice_eq_some : s.notedDice = some text ↔ s.Notes text := by
  unfold notedDice Notes
  rw [Option.or_eq_some_iff, Option.join_eq_some_iff]

end SystemSource

/-! ### Building -/

namespace GameSystem

variable {g : GameSystem} {key : String} {s : SystemSource}

theorem find?_isError_eq_none : g.issues.find? (·.isError) = none ↔ g.Consistent := by
  rw [List.find?_eq_none, ← no_error_iff]
  simp only [Bool.not_eq_true]

theorem consistent_of_ofSource (h : ofSource key s = .ok g) : g.Consistent := by
  obtain ⟨_, _, -, -, -, hissues⟩ := ofSource_eq_ok.mp h
  exact find?_isError_eq_none.mp hissues

theorem normal_of_ofSource (h : ofSource key s = .ok g) :
    ∀ name ∈ g.checkNames, Key.normalize name = name := by
  obtain ⟨diceText, primary, -, -, rfl, -⟩ := ofSource_eq_ok.mp h
  obtain ⟨hattributes, hskills⟩ := normal_assembled s key diceText primary
  intro name hname
  rcases List.mem_append.mp hname with ha | hs
  · exact hattributes name ha
  · obtain ⟨e, he, rfl⟩ := List.mem_map.mp hs
    exact (Prod.mk.inj (hskills e he)).1

/-- A system is what a source says: its names are normalized and in the order
of the source, and what is left out is filled in. -/
structure Follows (asked : String) (s : SystemSource) (g : GameSystem) : Prop where
  key : g.key = asked
  name : g.name = s.name.getD asked
  attributes : g.attributes = s.attributes.map Key.normalize
  skills : ∀ skill attr, g.skills.get? skill = some attr ↔ s.Governs skill attr
  normal : ∀ name ∈ g.checkNames, Key.normalize name = name
  dice : s.Notes g.diceText
  primary : Dice.parse g.diceText = .ok g.primary
  formula : g.formula = s.formula.getD .addRaw
  composition : g.composition = s.composition.getD (.impliedBy g.formula)

theorem follows_of_ofSource (h : ofSource key s = .ok g) : Follows key s g := by
  have hnormal := normal_of_ofSource h
  obtain ⟨text, primary, hnoted, hparse, rfl, -⟩ := ofSource_eq_ok.mp h
  exact ⟨rfl, rfl, rfl, fun _ _ => SystemSource.get?_normalSkills, hnormal,
    SystemSource.notedDice_eq_some.mp hnoted, hparse, rfl, rfl⟩

end GameSystem
end Tabletop
