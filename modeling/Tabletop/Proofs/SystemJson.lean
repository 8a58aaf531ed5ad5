/-
# Game systems are built again from their JSON

What is written of a game system is a source of it. Its members may be read in
any order, as a text has them or as a tree has them; the key is no field of a
source and is skipped (`GameSystem.read_members`). The source says all that the
system has, with names that are normalized already, so a system that was built
from any source is built again from its own one (`GameSystem.ofSource_source`).

Key definitions: `GameSystem.source`, `GameSystem.members`.
Key theorems: `GameSystem.ofSource_eq_ok`, `GameSystem.ofSource_source`,
`GameSystem.read_members`.
-/
import Tabletop.GameSystem.Json
import Tabletop.Proofs.JsonRecord
import Tabletop.Proofs.Normalization

namespace Tabletop

/-- **The name of a formula stands for it.** -/
theorem ModifierFormula.ofName_name (f : ModifierFormula) : ofName f.name = f := by
  cases f <;> decide +kernel

/-- **The name of a composition stands for it.** -/
theorem SkillComposition.ofName_name (c : SkillComposition) : ofName c.name = c := by
  cases c <;> decide +kernel

theorem ModifierFormula.read_json (source : Json.Source) (f : ModifierFormula) :
    Json.option read source (Json.draft f.json) = .ok (some f) :=
  congrArg (fun f => Except.ok (some f)) f.ofName_name

theorem SkillComposition.read_json (source : Json.Source) (c : SkillComposition) :
    Json.option read source (Json.draft c.json) = .ok (some c) :=
  congrArg (fun c => Except.ok (some c)) c.ofName_name

namespace SystemSource

open Json (Draft Form Members Source entryOf Passes)

/-- What a form describes is settled by what stands at the names. -/
theorem ofForm_congr {form form' : Form} (h : ∀ name, form.lookup name = form'.lookup name)
    (source : Source) : ofForm form source = ofForm form' source := by
  unfold ofForm Form.get
  simp only [h]

/-- **A source is read member by member,** in whatever order they stand, if each of
them passes and no field has two. -/
theorem read_perm {source : Source} {es ds : List (String × Draft)} (hes : es.Perm ds)
    (hp : ∀ e ∈ ds, Passes source fields e)
    (hd : ((ds.filterMap (entryOf fields)).map (·.1)).Nodup) :
    read source (.object (Members.ofList es)) = ofForm (ds.filterMap (entryOf fields)) source := by
  have hpasses : ∀ e ∈ es, Passes source fields e := fun e he => hp e (hes.mem_iff.mp he)
  have hcollected : (es.filterMap (entryOf fields)).Perm (ds.filterMap (entryOf fields)) :=
    hes.filterMap _
  have hnodup : ((es.filterMap (entryOf fields)).map (·.1)).Nodup :=
    (hcollected.map _).nodup_iff.mpr hd
  show (Json.readFields source fields (Members.ofList es) [] >>= fun form =>
    ofForm form source) = _
  rw [Json.readFields_ofList es [] hpasses hnodup fun _ _ => rfl, Json.ok_bind, List.append_nil]
  refine ofForm_congr (fun name => ?_) source
  exact KeyMap.lookup_perm ((List.reverse_perm _).trans hcollected)
    (((List.reverse_perm _).map _).nodup_iff.mpr hnodup) name

end SystemSource

namespace GameSystem

open Json (Draft Field Members Source entryOf Passes)

variable {key : String} {s : SystemSource} {g : GameSystem}

/-! ### Building -/

theorem ofSource_eq_ok : ofSource key s = .ok g ↔
    ∃ diceText primary, s.notedDice = some diceText ∧ Dice.parse diceText = .ok primary ∧
      g = s.assembled key diceText primary ∧ g.issues.find? (·.isError) = none := by
  unfold ofSource
  cases hd : s.notedDice with
  | none => exact ⟨fun h => (nomatch h), fun ⟨_, _, h, _⟩ => (nomatch h)⟩
  | some diceText =>
    simp only
    cases hp : Dice.parse diceText with
    | error e =>
      refine ⟨fun h => (nomatch h), ?_⟩
      rintro ⟨_, _, ht, hparse, -⟩
      cases ht
      rw [hp] at hparse
      cases hparse
    | ok primary =>
      simp only
      constructor
      · intro h
        split at h
        · cases h
        · rename_i hissue
          cases h
          exact ⟨diceText, primary, rfl, hp, rfl, hissue⟩
      · rintro ⟨_, _, ht, hparse, rfl, hissue⟩
        cases ht
        rw [hp] at hparse
        cases hparse
        rw [hissue]

theorem key_of_ofSource (h : ofSource key s = .ok g) : g.key = key := by
  obtain ⟨diceText, primary, -, -, rfl, -⟩ := ofSource_eq_ok.mp h
  rfl

/-- The source that says all that a system has. -/
def source (g : GameSystem) : SystemSource where
  name := some g.name
  attributes := g.attributes
  skills := g.skills
  formula := some g.formula
  composition := some g.composition
  diceText := some g.diceText
  dice := none

theorem normal_assembled (s : SystemSource) (key diceText : String) (primary : Dice) :
    (∀ a ∈ (s.assembled key diceText primary).attributes, Key.normalize a = a) ∧
      ∀ e ∈ (s.assembled key diceText primary).skills.entries,
        (Key.normalize e.1, Key.normalize e.2) = e := by
  constructor
  · intro a ha
    obtain ⟨b, -, rfl⟩ := List.mem_map.mp ha
    exact Key.normalize_normalize b
  · intro e he
    obtain ⟨b, -, rfl⟩ := List.mem_map.mp (KeyMap.mem_of_mem_ofList he)
    rw [Key.normalize_normalize, Key.normalize_normalize]

theorem assembled_source (hattributes : ∀ a ∈ g.attributes, Key.normalize a = a)
    (hskills : ∀ e ∈ g.skills.entries, (Key.normalize e.1, Key.normalize e.2) = e) :
    g.source.assembled g.key g.diceText g.primary = g := by
  have hattrs : g.attributes.map Key.normalize = g.attributes :=
    (List.map_congr_left hattributes).trans (List.map_id _)
  have hentries : g.skills.entries.map (fun e => (Key.normalize e.1, Key.normalize e.2)) =
      g.skills.entries := (List.map_congr_left hskills).trans (List.map_id _)
  have hnormal : g.source.normalSkills = g.skills := by
    show KeyMap.ofList (g.skills.entries.map _) = _
    rw [hentries, KeyMap.ofList_entries]
  unfold SystemSource.assembled
  rw [hnormal]
  show { g with attributes := g.attributes.map Key.normalize } = g
  rw [hattrs]

/-- **A system that was built is built again from its own source.** -/
theorem ofSource_source (h : ofSource key s = .ok g) : ofSource g.key g.source = .ok g := by
  obtain ⟨diceText, primary, -, hparse, rfl, hissues⟩ := ofSource_eq_ok.mp h
  obtain ⟨hattributes, hskills⟩ := normal_assembled s key diceText primary
  exact ofSource_eq_ok.mpr
    ⟨diceText, primary, rfl, hparse, (assembled_source hattributes hskills).symm, hissues⟩

/-! ### Reading -/

/-- What is written of a system, member by member. -/
def members (g : GameSystem) : List (String × Json) := [
  ("key", .string g.key),
  ("name", .string g.name),
  ("attributes", .strings g.attributes),
  ("skills", .ofMap .string g.skills),
  ("modifierFormula", g.formula.json),
  ("skillComposition", g.composition.json),
  ("diceNotation", .string g.diceText)]

theorem nodup_members (g : GameSystem) : (g.members.map (·.1)).Nodup := by
  show ["key", "name", "attributes", "skills", "modifierFormula", "skillComposition",
    "diceNotation"].Nodup
  decide

theorem fits_members (g : GameSystem) : ∀ e ∈ g.members, e.2.Fits := by
  unfold members
  simp only [List.forall_mem_cons]
  exact ⟨trivial, trivial, (Json.restores_list Json.restores_text).fits _,
    (Json.restores_map Json.restores_text).fits _, trivial, trivial, trivial,
    fun _ h => nomatch h⟩

theorem fits_json (g : GameSystem) : g.json.Fits :=
  Json.fitMembers_of_forall g.fits_members

section Reading

variable (source : Source) (g : GameSystem)

theorem read_attributes : Json.list Json.text source (Json.draft (.strings g.attributes)) =
    .ok g.attributes := (Json.restores_list Json.restores_text).read source g.attributes

theorem read_skills : Json.map Json.text source (Json.draft (.ofMap .string g.skills)) =
    .ok g.skills := (Json.restores_map Json.restores_text).read source g.skills

/-- The members that a source has fields for. -/
def fieldDrafts (g : GameSystem) : List (String × Draft) := [
  ("name", .string g.name),
  ("attributes", Json.draft (.strings g.attributes)),
  ("skills", Json.draft (.ofMap .string g.skills)),
  ("modifierFormula", Json.draft g.formula.json),
  ("skillComposition", Json.draft g.composition.json),
  ("diceNotation", .string g.diceText)]

theorem passes_members : ∀ e ∈ g.members.map fun e => (e.1, Json.draft e.2),
    Passes source SystemSource.fields e := by
  simp only [members, List.map_cons, List.map_nil, List.forall_mem_cons]
  exact ⟨rfl, rfl, Json.passes_withDefault rfl (g.read_attributes source),
    Json.passes_withDefault rfl (g.read_skills source),
    Json.passes_withDefault rfl (g.formula.read_json source),
    Json.passes_withDefault rfl (g.composition.read_json source), rfl, fun _ h => nomatch h⟩

theorem entries_members : (g.members.map fun e => (e.1, Json.draft e.2)).filterMap
    (entryOf SystemSource.fields) = g.fieldDrafts := rfl

theorem nodup_fieldDrafts : (g.fieldDrafts.map (·.1)).Nodup := by
  show ["name", "attributes", "skills", "modifierFormula", "skillComposition",
    "diceNotation"].Nodup
  decide

/-- **What is written of a system is read as its source,** in whatever order its
members stand. -/
theorem read_members {es : List (String × Draft)}
    (hes : es.Perm (g.members.map fun e => (e.1, Json.draft e.2))) :
    SystemSource.read source (.object (Members.ofList es)) = .ok g.source := by
  rw [SystemSource.read_perm hes (g.passes_members source) g.nodup_fieldDrafts,
    g.entries_members]
  unfold SystemSource.ofForm
  rw [Json.get_of_lookup (a := some g.name) (d := .string g.name) none rfl rfl, Json.ok_bind,
    Json.get_of_lookup _ rfl (g.read_attributes source), Json.ok_bind,
    Json.get_of_lookup _ rfl (g.read_skills source), Json.ok_bind,
    Json.get_of_lookup _ rfl (g.formula.read_json source), Json.ok_bind,
    Json.get_of_lookup _ rfl (g.composition.read_json source), Json.ok_bind,
    Json.get_of_lookup (a := some g.diceText) (d := .string g.diceText) none rfl rfl,
    Json.ok_bind]
  -- the older place of the dice is looked at last; nothing is written there
  rfl

end Reading

end GameSystem
end Tabletop
