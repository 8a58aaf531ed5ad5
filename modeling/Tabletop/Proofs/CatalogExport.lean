/-
# What is exported is imported again

A game system that was built from any source is written as JSON, read back as a
source and built again: it is the same system. A whole catalog is written as an
object with its systems at their keys. Loaded again, each entry is judged good
for the system that it was written from, so the systems are the same and nothing
is dropped.

Key definition: `Catalog.json`.
Key theorems: `GameSystem.read_settled`, `Catalog.judge_settled`,
`Catalog.ofText_render_json`, `Catalog.export_is_imported`.
-/
import Tabletop.Proofs.CatalogLoad

namespace Tabletop

open Json (Layout)

namespace GameSystem

variable (g : GameSystem)

/-! ### One system -/

theorem kept_members (n : Nat) : ∀ e ∈ g.members, Json.Kept (n + 1) e.2 := by
  unfold members
  simp only [List.forall_mem_cons]
  exact ⟨Json.kept_string _ _, Json.kept_string _ _, Json.kept_strings n _, Json.kept_ofMap n _,
    Json.kept_string _ _, Json.kept_string _ _, Json.kept_string _ _, fun _ h => nomatch h⟩

/-- A written system is settled where two brackets may be open. -/
theorem settleAt_json (n : Nat) :
    (Json.draft g.json).settleAt (n + 2) = some (Json.settledObject g.members) :=
  Json.settleAt_object (g.kept_members n)

/-- **A written system is read from a tree as its source,** with its members in
the order of their keys. -/
theorem read_settled :
    SystemSource.read .tree (Json.settledObject g.members) = .ok g.source := by
  refine g.read_members .tree (KeyMap.perm_entries_ofList ?_)
  rw [List.map_map]
  exact g.nodup_members

theorem decode_json {l : Layout} (hl : l.Blank) :
    Json.decode SystemSource.read (String.ofList (Json.render l 0 g.json)) = .ok g.source := by
  have hread : SystemSource.read .text (Json.draft g.json) = .ok g.source := by
    have hdraft : Json.draft g.json = .object (Json.draftMembers g.members) := rfl
    rw [hdraft, Json.draftMembers_eq_ofList]
    exact g.read_members .text (List.Perm.refl _)
  have hnone : ∀ c ∈ ([] : List Char), Json.isGap c = true := fun _ h => nomatch h
  have hdecode := Json.decode_render SystemSource.read hl g.fits_json hnone
  rw [List.append_nil] at hdecode
  rw [hdecode, hread]

theorem tree_json {l : Layout} (hl : l.Blank) :
    Json.tree (String.ofList (Json.render l 0 g.json)) = .ok (Json.settledObject g.members) :=
  Json.tree_of_objectMembers
    (Json.objectMembers_render hl g.fits_members
      (Json.settleAt_members (g.kept_members 125)))

end GameSystem

namespace Catalog

/-! ### A whole catalog -/

/-- A catalog as an object with its systems at their keys. -/
def json (c : Catalog) : Json :=
  .ofMap GameSystem.json c.systems

theorem exists_source_of_ofText {text key : String} {c : Catalog} {g : GameSystem}
    (hc : ofText text = .ok c) (hg : c.systems.get? key = some g) :
    ∃ s, GameSystem.ofSource key s = .ok g := by
  cases hes : Json.objectMembers text with
  | none =>
    rw [ofText_of_objectMembers_eq_none hes] at hc
    cases hc
  | some es =>
    rw [ofText_of_objectMembers hes] at hc
    cases hc
    obtain ⟨d, -, hjudge⟩ := (get?_ofEntries _).mp hg
    obtain ⟨s, -, hs⟩ := judge_eq_ok.mp hjudge
    exact ⟨s, hs⟩

/-- **A written system is judged good** for the system that was built. -/
theorem judge_settled {key : String} {s : SystemSource} {g : GameSystem}
    (h : GameSystem.ofSource key s = .ok g) :
    judge key (Json.settledObject g.members) = .ok g := by
  have hkey : g.key = key := GameSystem.key_of_ofSource h
  have hagain := GameSystem.ofSource_source h
  rw [hkey] at hagain
  exact judge_eq_ok.mpr ⟨g.source, g.read_settled, hagain⟩

/-- The entries of a written catalog. -/
def settledEntries (c : Catalog) : KeyMap Json.Draft :=
  c.systems.map fun g => Json.settledObject g.members

/-- Loading a written catalog is judging its entries. -/
theorem ofText_render_json (c : Catalog) {l : Layout} (hl : l.Blank) :
    ofText (String.ofList (Json.render l 0 c.json)) = .ok (ofEntries c.settledEntries) := by
  have hsettle : (Json.draftMembers (c.systems.entries.map fun e => (e.1, e.2.json))).settleAt
      (124 + 2) = some (c.systems.entries.map fun e => (e.1, Json.settledObject e.2.members)) :=
    Json.settleAt_entries GameSystem.json (fun g => Json.settledObject g.members)
      fun e _ => e.2.settleAt_json 124
  have hfits : ∀ x ∈ c.systems.entries.map fun e => (e.1, e.2.json), x.2.Fits := by
    intro x hx
    obtain ⟨e, -, rfl⟩ := List.mem_map.mp hx
    exact e.2.fits_json
  have hmembers : Json.objectMembers (String.ofList (Json.render l 0 c.json)) =
      some c.settledEntries.entries := Json.objectMembers_render hl hfits hsettle
  rw [ofText_of_objectMembers hmembers, KeyMap.ofList_entries]

variable {c : Catalog}

/-- If every system of a catalog was built from some source, the written catalog
has the same systems. -/
theorem systems_settledEntries
    (h : ∀ key g, c.systems.get? key = some g → ∃ s, GameSystem.ofSource key s = .ok g) :
    (ofEntries c.settledEntries).systems = c.systems := by
  apply KeyMap.ext_get?
  intro key
  apply Option.ext
  intro g
  rw [get?_ofEntries, settledEntries, KeyMap.get?_map]
  constructor
  · rintro ⟨d, hd, hjudge⟩
    obtain ⟨g', hg', rfl⟩ := Option.map_eq_some_iff.mp hd
    obtain ⟨s, hs⟩ := h key g' hg'
    rw [judge_settled hs] at hjudge
    cases hjudge
    exact hg'
  · intro hg
    obtain ⟨s, hs⟩ := h key g hg
    refine ⟨_, ?_, judge_settled hs⟩
    rw [hg]
    rfl

theorem rejected_settledEntries
    (h : ∀ key g, c.systems.get? key = some g → ∃ s, GameSystem.ofSource key s = .ok g) :
    (ofEntries c.settledEntries).rejected = [] := by
  rw [List.eq_nil_iff_forall_not_mem]
  rintro ⟨key, e⟩ hmem
  obtain ⟨d, hd, hjudge⟩ := (mem_rejected_ofEntries _).mp hmem
  rw [settledEntries, KeyMap.get?_map] at hd
  obtain ⟨g, hg, rfl⟩ := Option.map_eq_some_iff.mp hd
  obtain ⟨s, hs⟩ := h key g hg
  rw [judge_settled hs] at hjudge
  cases hjudge

/-- **Export and import are inverse.** A system that was built from any source is
written as JSON, in whatever layout, is read back from that text, directly or
as a tree, as one and the same source, and is built from it again. A catalog
that was loaded from any text is written and loaded again with the same systems
and with nothing dropped. -/
theorem export_is_imported :
    (∀ key s g, GameSystem.ofSource key s = .ok g → ∃ s',
      (∀ l : Layout, l.Blank →
        Json.decode SystemSource.read (String.ofList (Json.render l 0 g.json)) = .ok s' ∧
        ∃ d, Json.tree (String.ofList (Json.render l 0 g.json)) = .ok d ∧
          SystemSource.read .tree d = .ok s') ∧
      GameSystem.ofSource g.key s' = .ok g) ∧
    ∀ text c, ofText text = .ok c → ∀ l : Layout, l.Blank →
      ∃ c', ofText (String.ofList (Json.render l 0 c.json)) = .ok c' ∧
        c'.systems = c.systems ∧ c'.rejected = [] := by
  constructor
  · intro key s g h
    refine ⟨g.source, fun l hl => ⟨g.decode_json hl, ?_⟩, GameSystem.ofSource_source h⟩
    exact ⟨_, g.tree_json hl, g.read_settled⟩
  · intro text c hc l hl
    have hbuilt : ∀ key g, c.systems.get? key = some g →
        ∃ s, GameSystem.ofSource key s = .ok g := fun _ _ => exists_source_of_ofText hc
    exact ⟨_, c.ofText_render_json hl, systems_settledEntries hbuilt,
      rejected_settledEntries hbuilt⟩

/-- A source with names that are no keys yet and with its dice in the older
place, and a catalog in which another entry was dropped. -/
theorem hero_is_exported_and_imported :
    let source : SystemSource := ⟨none, ["KRAFT ", "Zoë\tWert"],
      KeyMap.ofList [(" Sleight  of Hand", "Kraft")], none, some .statSum, none,
      some (some "3 D6+1")⟩
    let system : GameSystem := ⟨"hero", "hero", ["kraft", "zoë_wert"],
      KeyMap.ofList [("sleight_of_hand", "kraft")], .addRaw, .statSum, "3 D6+1", ⟨3, 6, 1⟩⟩
    let entries := [("tea", Json.number 7), ("hero", system.json)]
    GameSystem.ofSource "hero" source = .ok system ∧
    (∃ s', Json.decode SystemSource.read system.json.pretty = .ok s' ∧
      GameSystem.ofSource "hero" s' = .ok system) ∧
    ∃ c c', ofText (Json.compact (.object entries)) = .ok c ∧ c.keys = ["hero"] ∧
      c.rejected.length = 1 ∧ ofText c.json.pretty = .ok c' ∧ c'.systems = c.systems ∧
      c'.rejected = [] := by
  intro source system entries
  have hbuilt : GameSystem.ofSource "hero" source = .ok system := by decide +kernel
  have hfits : ∀ e ∈ entries, e.2.Fits := by
    simp only [entries, List.forall_mem_cons]
    exact ⟨by simp [Json.Fits], system.fits_json, fun _ h => nomatch h⟩
  have hsettle : (Json.draftMembers entries).settleAt (Json.maxDepth - 1) =
      some [("tea", .integer 7), ("hero", Json.settledObject system.members)] := by
    have hsystem := system.settleAt_json 124
    simp only [entries, Json.draftMembers, Json.Members.settleAt]
    rw [show Json.maxDepth - 1 = 124 + 2 from rfl, hsystem]
    rfl
  have hmembers : Json.objectMembers (Json.compact (.object entries)) = _ :=
    Json.objectMembers_render Json.blank_tight hfits hsettle
  have hloaded := ofText_of_objectMembers hmembers
  obtain ⟨s', hread, hagain⟩ := export_is_imported.1 _ _ _ hbuilt
  obtain ⟨c', hc', hsystems, hrejected⟩ :=
    export_is_imported.2 _ _ hloaded Json.roomy Json.blank_roomy
  refine ⟨hbuilt, ⟨s', (hread _ Json.blank_roomy).1, hagain⟩, _, c', hloaded, ?_, ?_, hc',
    hsystems, hrejected⟩
  · decide +kernel
  · decide +kernel

end Catalog
end Tabletop
