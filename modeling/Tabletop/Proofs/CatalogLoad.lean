/-
# A catalog reflects the text that it was loaded from

Every entry of a catalog's text is judged on its own, under its own key, so the
catalog and the list of what was dropped part the keys of the text between them
(`Catalog.partition_ofEntries`): a key is in the catalog if its entry can be read
and built, and it is dropped, with the error, if not. What becomes of a key
(`Catalog.outcome`) is the verdict on its last entry and depends on nothing else.

Key definitions: `Catalog.outcome`, `Catalog.ofEntries`, `Catalog.Reflects`.
Key theorems: `Catalog.get?_ofEntries`, `Catalog.mem_rejected_ofEntries`,
`Catalog.partition_ofEntries`, `Catalog.outcome_ofEntries`,
`Catalog.ofText_reflects_entries`.
-/
import Mathlib.Data.List.Dedup
import Tabletop.Catalog.Load
import Tabletop.Proofs.JsonTree
import Tabletop.Proofs.SystemJson

namespace Tabletop
namespace Catalog

open Json (Draft Members objectMembers)

variable {key : String} {d : Draft} {g : GameSystem} {e : SystemError}

/-! ### The verdict on one entry -/

theorem judge_eq_ok : judge key d = .ok g ↔
    ∃ s, SystemSource.read .tree d = .ok s ∧ GameSystem.ofSource key s = .ok g := by
  unfold judge
  cases hr : SystemSource.read .tree d with
  | error r => exact ⟨fun h => (nomatch h), fun ⟨_, h, _⟩ => (nomatch h)⟩
  | ok s =>
    constructor
    · intro h
      exact ⟨s, rfl, h⟩
    · rintro ⟨_, hs, h⟩
      cases hs
      exact h

theorem judge_eq_error : judge key d = .error e ↔
    (∃ r, SystemSource.read .tree d = .error r ∧ e = ⟨key, .unreadable r⟩) ∨
      ∃ s, SystemSource.read .tree d = .ok s ∧ GameSystem.ofSource key s = .error e := by
  unfold judge
  cases hr : SystemSource.read .tree d with
  | error r =>
    constructor
    · intro h
      cases h
      exact .inl ⟨r, rfl, rfl⟩
    · rintro (⟨_, h, rfl⟩ | ⟨_, h, -⟩)
      · cases h
        rfl
      · cases h
  | ok s =>
    constructor
    · intro h
      exact .inr ⟨s, rfl, h⟩
    · rintro (⟨_, h, -⟩ | ⟨_, h, hs⟩)
      · cases h
      · cases h
        exact hs

theorem key_of_judge (h : judge key d = .ok g) : g.key = key := by
  obtain ⟨s, -, hs⟩ := judge_eq_ok.mp h
  exact GameSystem.key_of_ofSource hs

/-- The system that an entry of a text gives to the catalog. -/
def kept (entry : String × Draft) : Option (String × GameSystem) :=
  (judge entry.1 entry.2).toOption.map fun g => (entry.1, g)

/-- The note that an entry of a text leaves when it is dropped. -/
def dropped (entry : String × Draft) : Option Rejected :=
  match judge entry.1 entry.2 with
  | .ok _ => none
  | .error e => some ⟨entry.1, e⟩

theorem kept_eq_some {entry : String × Draft} {k : String} :
    kept entry = some (k, g) ↔ k = entry.1 ∧ judge entry.1 entry.2 = .ok g := by
  unfold kept
  cases judge entry.1 entry.2 with
  | error e => exact ⟨fun h => (nomatch h), fun ⟨_, h⟩ => (nomatch h)⟩
  | ok a =>
    constructor
    · intro h
      cases h
      exact ⟨rfl, rfl⟩
    · rintro ⟨rfl, h⟩
      cases h
      rfl

theorem dropped_eq_some {entry : String × Draft} {r : Rejected} :
    dropped entry = some r ↔ r.key = entry.1 ∧ judge entry.1 entry.2 = .error r.error := by
  unfold dropped
  cases judge entry.1 entry.2 with
  | ok a => exact ⟨fun h => (nomatch h), fun ⟨_, h⟩ => (nomatch h)⟩
  | error e =>
    constructor
    · intro h
      cases h
      exact ⟨rfl, rfl⟩
    · obtain ⟨k, e'⟩ := r
      rintro ⟨rfl, h⟩
      cases h
      rfl

/-! ### The catalog of some entries -/

/-- The catalog of the entries of a map. -/
def ofEntries (m : KeyMap Draft) : Catalog :=
  ofVerdicts (judgeMembers (Members.ofMap m))

theorem enter_judge (c : Catalog) (entry : String × Draft) :
    (c.enter ⟨entry.1, judge entry.1 entry.2⟩).systems =
        ((kept entry).toList.foldl (fun m e => m.insert e.1 e.2) c.systems) ∧
      (c.enter ⟨entry.1, judge entry.1 entry.2⟩).rejected =
        c.rejected ++ (dropped entry).toList := by
  unfold enter kept dropped
  cases hj : judge entry.1 entry.2 with
  | error e => exact ⟨rfl, rfl⟩
  | ok g =>
    have hkey : g.key = entry.1 := key_of_judge hj
    constructor
    · show c.systems.insert g.key g = c.systems.insert entry.1 g
      rw [hkey]
    · exact (List.append_nil _).symm

/-- Entering some entries puts the good ones among the systems and the others
behind what was dropped before. -/
theorem enter_entries : ∀ (es : List (String × Draft)) (c : Catalog),
    ((judgeMembers (Members.ofList es)).foldl enter c).systems =
        (es.filterMap kept).foldl (fun m e => m.insert e.1 e.2) c.systems ∧
      ((judgeMembers (Members.ofList es)).foldl enter c).rejected =
        c.rejected ++ es.filterMap dropped
  | [], c => ⟨rfl, (List.append_nil _).symm⟩
  | e :: es, c => by
    obtain ⟨hsystems, hrejected⟩ := enter_judge c e
    obtain ⟨ihs, ihr⟩ := enter_entries es (c.enter ⟨e.1, judge e.1 e.2⟩)
    have hfold : (judgeMembers (Members.ofList (e :: es))).foldl enter c =
        (judgeMembers (Members.ofList es)).foldl enter (c.enter ⟨e.1, judge e.1 e.2⟩) := rfl
    rw [hfold, ihs, ihr, hsystems, hrejected, List.append_assoc]
    constructor
    · cases hk : kept e with
      | none => rw [List.filterMap_cons_none hk]; rfl
      | some x => rw [List.filterMap_cons_some hk]; rfl
    · cases hd : dropped e with
      | none => rw [List.filterMap_cons_none hd]; rfl
      | some x => rw [List.filterMap_cons_some hd]; rfl

variable (m : KeyMap Draft)

theorem systems_ofEntries :
    (ofEntries m).systems = KeyMap.ofList (m.entries.filterMap kept) :=
  (enter_entries m.entries empty).1

theorem rejected_ofEntries : (ofEntries m).rejected = m.entries.filterMap dropped :=
  (enter_entries m.entries empty).2

theorem ascending_kept : (m.entries.filterMap kept).Pairwise fun a b => a.1 < b.1 := by
  refine m.ascending.filterMap kept fun a b hab x hx y hy => ?_
  obtain ⟨hxa, -⟩ := kept_eq_some.mp hx
  obtain ⟨hyb, -⟩ := kept_eq_some.mp hy
  rw [hxa, hyb]
  exact hab

theorem pairwise_rejected_ofEntries :
    ((ofEntries m).rejected.map (·.key)).Pairwise (· < ·) := by
  rw [rejected_ofEntries, List.pairwise_map]
  refine m.ascending.filterMap dropped fun a b hab x hx y hy => ?_
  obtain ⟨hxa, -⟩ := dropped_eq_some.mp hx
  obtain ⟨hyb, -⟩ := dropped_eq_some.mp hy
  rw [hxa, hyb]
  exact hab

/-- **A key is held with its system** if its entry was judged good. -/
theorem get?_ofEntries : (ofEntries m).systems.get? key = some g ↔
    ∃ d, m.get? key = some d ∧ judge key d = .ok g := by
  rw [← KeyMap.mem_entries_iff, systems_ofEntries,
    KeyMap.entries_ofList_of_ascending (ascending_kept m), List.mem_filterMap]
  constructor
  · rintro ⟨⟨k, d⟩, hmem, hkept⟩
    obtain ⟨rfl, hjudge⟩ := kept_eq_some.mp hkept
    exact ⟨d, (m.mem_entries_iff _ d).mp hmem, hjudge⟩
  · rintro ⟨d, hget, hjudge⟩
    exact ⟨(key, d), (m.mem_entries_iff key d).mpr hget, kept_eq_some.mpr ⟨rfl, hjudge⟩⟩

/-- **A key is dropped with an error** if its entry was judged bad for it. -/
theorem mem_rejected_ofEntries : ⟨key, e⟩ ∈ (ofEntries m).rejected ↔
    ∃ d, m.get? key = some d ∧ judge key d = .error e := by
  rw [rejected_ofEntries, List.mem_filterMap]
  constructor
  · rintro ⟨⟨k, d⟩, hmem, hdropped⟩
    obtain ⟨hk, hjudge⟩ := dropped_eq_some.mp hdropped
    obtain rfl : key = k := hk
    exact ⟨d, (m.mem_entries_iff key d).mp hmem, hjudge⟩
  · rintro ⟨d, hget, hjudge⟩
    exact ⟨(key, d), (m.mem_entries_iff key d).mpr hget, dropped_eq_some.mpr ⟨rfl, hjudge⟩⟩

theorem mem_keys_ofEntries :
    key ∈ (ofEntries m).keys ↔ ∃ d g, m.get? key = some d ∧ judge key d = .ok g := by
  unfold keys
  rw [KeyMap.mem_keys_iff, Option.isSome_iff_exists]
  constructor
  · rintro ⟨g, hg⟩
    obtain ⟨d, hget, hjudge⟩ := (get?_ofEntries m).mp hg
    exact ⟨d, g, hget, hjudge⟩
  · rintro ⟨d, g, hget, hjudge⟩
    exact ⟨g, (get?_ofEntries m).mpr ⟨d, hget, hjudge⟩⟩

theorem mem_rejectedKeys_ofEntries : key ∈ (ofEntries m).rejected.map (·.key) ↔
    ∃ d e, m.get? key = some d ∧ judge key d = .error e := by
  rw [List.mem_map]
  constructor
  · rintro ⟨⟨k, e⟩, hmem, rfl⟩
    obtain ⟨d, hget, hjudge⟩ := (mem_rejected_ofEntries m).mp hmem
    exact ⟨d, e, hget, hjudge⟩
  · rintro ⟨d, e, hget, hjudge⟩
    exact ⟨⟨key, e⟩, (mem_rejected_ofEntries m).mpr ⟨d, hget, hjudge⟩, rfl⟩

/-- **The keys are parted** between the systems and what was dropped: none is
lost and none is in both. -/
theorem partition_ofEntries :
    ((ofEntries m).keys ++ (ofEntries m).rejected.map (·.key)).Perm m.keys := by
  have hkeys : (ofEntries m).keys.Nodup := KeyMap.nodup_keys _
  have hrejected : ((ofEntries m).rejected.map (·.key)).Nodup :=
    KeyMap.nodup_of_ascending (pairwise_rejected_ofEntries m)
  have hapart : ∀ k ∈ (ofEntries m).keys, ∀ k' ∈ (ofEntries m).rejected.map (·.key), k ≠ k' := by
    rintro k hk k' hk' rfl
    obtain ⟨d, g, hd, hg⟩ := (mem_keys_ofEntries m).mp hk
    obtain ⟨d', e, hd', he⟩ := (mem_rejectedKeys_ofEntries m).mp hk'
    obtain rfl : d = d' := Option.some.inj (hd.symm.trans hd')
    cases hg.symm.trans he
  have hnodup := List.nodup_append.mpr ⟨hkeys, hrejected, hapart⟩
  refine (List.perm_ext_iff_of_nodup hnodup m.nodup_keys).mpr fun k => ?_
  rw [List.mem_append, mem_keys_ofEntries, mem_rejectedKeys_ofEntries, KeyMap.mem_keys_iff,
    Option.isSome_iff_exists]
  constructor
  · rintro (⟨d, _, hd, -⟩ | ⟨d, _, hd, -⟩)
    · exact ⟨d, hd⟩
    · exact ⟨d, hd⟩
  · rintro ⟨d, hd⟩
    cases hj : judge k d with
    | ok g => exact .inl ⟨d, g, hd, hj⟩
    | error e => exact .inr ⟨d, e, hd, hj⟩

/-! ### What became of a key -/

/-- What became of a key of the text: its system, or the error that it was
dropped with. -/
def outcome (c : Catalog) (key : String) : Option (Except SystemError GameSystem) :=
  match c.systems.get? key with
  | some g => some (.ok g)
  | none => (c.rejected.find? (·.key == key)).map fun r => .error r.error

/-- **What became of a key is the verdict on its entry.** -/
theorem outcome_ofEntries (key : String) :
    (ofEntries m).outcome key = (m.get? key).map (judge key) := by
  unfold outcome
  cases hg : (ofEntries m).systems.get? key with
  | some g =>
    obtain ⟨d, hd, hj⟩ := (get?_ofEntries m).mp hg
    rw [hd]
    exact congrArg some hj.symm
  | none =>
    cases hr : (ofEntries m).rejected.find? (·.key == key) with
    | some r =>
      obtain rfl : r.key = key := by simpa using List.find?_some hr
      obtain ⟨d, hd, hj⟩ := (mem_rejected_ofEntries m).mp (List.mem_of_find?_eq_some hr)
      rw [hd]
      exact congrArg some hj.symm
    | none =>
      cases hd : m.get? key with
      | none => rfl
      | some d =>
        cases hj : judge key d with
        | ok g =>
          have hheld := (get?_ofEntries m).mpr ⟨d, hd, hj⟩
          rw [hg] at hheld
          cases hheld
        | error e =>
          have hlisted := (mem_rejected_ofEntries m).mpr ⟨d, hd, hj⟩
          have hother := List.find?_eq_none.mp hr _ hlisted
          simp at hother

/-! ### Loading -/

variable {text : String} {es : List (String × Draft)}

theorem ofText_of_objectMembers (h : objectMembers text = some es) :
    ofText text = .ok (ofEntries (KeyMap.ofList es)) := by
  unfold ofText judgeAll
  rw [Json.tree_of_objectMembers h]
  rfl

/-- **What is no object is no catalog.** -/
theorem ofText_of_objectMembers_eq_none (h : objectMembers text = none) :
    ofText text = .error (match Json.tree text with
      | .error _ => .notJson
      | .ok _ => .notObject) := by
  unfold ofText judgeAll
  split
  · rename_i ht
    rw [ht]
    rfl
  · rename_i ms ht
    exact absurd ht (Json.tree_of_objectMembers_eq_none h ms)
  · rename_i ht
    rw [ht]
    rfl

/-- A catalog reflects the entries of a text, in which a key may come twice. -/
structure Reflects (c : Catalog) (es : List (String × Draft)) : Prop where
  /-- Each key of the text is in one of the two places, once. -/
  parted : (c.keys ++ c.rejected.map (·.key)).Perm (es.map (·.1)).dedup
  keys_ascend : c.keys.Pairwise (· < ·)
  rejected_ascend : (c.rejected.map (·.key)).Pairwise (· < ·)
  /-- The systems are those of the last entries that can be read and built. -/
  held : ∀ key g, c.systems.get? key = some g ↔ ∃ d s, es.reverse.lookup key = some d ∧
    SystemSource.read .tree d = .ok s ∧ GameSystem.ofSource key s = .ok g
  keyed : ∀ key g, c.systems.get? key = some g → g.key = key
  /-- The others are listed with what is wrong with their last entries. -/
  listed : ∀ key e, ⟨key, e⟩ ∈ c.rejected ↔ ∃ d, es.reverse.lookup key = some d ∧
    ((∃ r, SystemSource.read .tree d = .error r ∧ e = ⟨key, .unreadable r⟩) ∨
      ∃ s, SystemSource.read .tree d = .ok s ∧ GameSystem.ofSource key s = .error e)

theorem reflects_ofEntries (es : List (String × Draft)) :
    (ofEntries (KeyMap.ofList es)).Reflects es where
  parted := by
    have hkeys : (KeyMap.ofList es).keys.Perm (es.map (·.1)).dedup := by
      refine (List.perm_ext_iff_of_nodup (KeyMap.nodup_keys _)
        (List.nodup_dedup _)).mpr fun k => ?_
      rw [KeyMap.mem_keys_ofList, List.mem_dedup]
    exact (partition_ofEntries _).trans hkeys
  keys_ascend := KeyMap.pairwise_keys _
  rejected_ascend := pairwise_rejected_ofEntries _
  held key g := by
    rw [get?_ofEntries, KeyMap.get?_ofList]
    constructor
    · rintro ⟨d, hd, hj⟩
      obtain ⟨s, hs, hg⟩ := judge_eq_ok.mp hj
      exact ⟨d, s, hd, hs, hg⟩
    · rintro ⟨d, s, hd, hs, hg⟩
      exact ⟨d, hd, judge_eq_ok.mpr ⟨s, hs, hg⟩⟩
  keyed key g h := by
    obtain ⟨d, -, hj⟩ := (get?_ofEntries _).mp h
    exact key_of_judge hj
  listed key e := by
    rw [mem_rejected_ofEntries, KeyMap.get?_ofList]
    simp only [judge_eq_error]

/-- **Loading neither loses, doubles nor mixes entries.** The text of an object
makes a catalog that reflects its entries, and what becomes of a key in it is
the same as in the catalog of any other text whose last entry for the key is the
same. Any other text makes no catalog. -/
theorem ofText_reflects_entries (text : String) :
    (∀ es, objectMembers text = some es → ∃ c, ofText text = .ok c ∧ c.Reflects es ∧
      ∀ other es' c' key, objectMembers other = some es' → ofText other = .ok c' →
        es'.reverse.lookup key = es.reverse.lookup key → c'.outcome key = c.outcome key) ∧
    (objectMembers text = none → ofText text = .error (match Json.tree text with
      | .error _ => .notJson
      | .ok _ => .notObject)) := by
  refine ⟨fun es hes => ?_, ofText_of_objectMembers_eq_none⟩
  refine ⟨_, ofText_of_objectMembers hes, reflects_ofEntries es, ?_⟩
  intro other es' c' key hes' hc' hlast
  rw [ofText_of_objectMembers hes'] at hc'
  cases hc'
  rw [outcome_ofEntries, outcome_ofEntries, KeyMap.get?_ofList, KeyMap.get?_ofList, hlast]

/-- A text with a key that comes twice and with an entry that is no source, and
another one with the later of the two entries in front of something else. -/
theorem later_entry_counts_in_both_texts :
    let system : Json := .object [("attributes", .strings ["Str"]), ("diceNotation", .string "3d6")]
    let first := [("gurps", Json.array []), ("tea", .number 7), ("gurps", system)]
    let second := [("gurps", system), ("lotr", .null)]
    (∃ c, ofText (Json.compact (.object first)) = .ok c ∧
      c.keys = ["gurps"] ∧ c.rejected.map (·.key) = ["tea"] ∧
      c.Reflects (first.map fun e => (e.1, Json.draft e.2)) ∧
      ∃ c', ofText (Json.compact (.object second)) = .ok c' ∧
        c'.outcome "gurps" = c.outcome "gurps") ∧
    ofText "[7]" = .error .notObject := by
  intro system first second
  have hfirst : objectMembers (Json.compact (.object first)) = _ :=
    Json.objectMembers_render Json.blank_tight
      (by simp [first, system, Json.strings, Json.Fits, Json.FitItems, Json.FitMembers])
      (Json.settleAt_members (by
        simp only [first, List.forall_mem_cons]
        exact ⟨rfl, rfl, rfl, fun _ h => nomatch h⟩))
  have hsecond : objectMembers (Json.compact (.object second)) = _ :=
    Json.objectMembers_render Json.blank_tight
      (by simp [second, system, Json.strings, Json.Fits, Json.FitItems, Json.FitMembers])
      (Json.settleAt_members (by
        simp only [second, List.forall_mem_cons]
        exact ⟨rfl, rfl, fun _ h => nomatch h⟩))
  have hnone : objectMembers "[7]" = none := rfl
  obtain ⟨c, hc, hreflects, hsame⟩ := (ofText_reflects_entries _).1 _ hfirst
  obtain ⟨c', hc', -, -⟩ := (ofText_reflects_entries _).1 _ hsecond
  obtain rfl := Except.ok.inj ((ofText_of_objectMembers hfirst).symm.trans hc)
  refine ⟨⟨_, hc, by decide +kernel, by decide +kernel, hreflects, c', hc', ?_⟩, ?_⟩
  · exact hsame _ _ c' "gurps" hsecond hc' rfl
  · exact (ofText_reflects_entries "[7]").2 hnone

end Catalog
end Tabletop
