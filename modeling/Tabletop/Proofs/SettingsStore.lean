/-
# Group settings over calls

Every call that changes the settings of a group reads the file of all groups
and writes it anew. What is written is read back (`all_of_update`), so a call
changes one field of one group; and after any calls each field of each group is
what the last call that was about it has set, or what it was at first
(`settings_after_calls`). A call that succeeds has written that one file, and one
that fails has changed no file (`SettingsStore.update_stores`,
`SettingsStore.update_afterFailure`).

Key definitions: `SettingsCall`, `SettingsCall.systemFor`,
`SettingsCall.styleFor`, `SettingsStore.call`, `SettingsStore.run`.
Key theorems: `SettingsStore.all_of_update`, `SettingsStore.all_of_call`,
`SettingsStore.setActiveSystem_eq_ok`, `SettingsStore.all_of_run`,
`SettingsStore.settings_after_calls`.
-/
import Tabletop.Proofs.Saving

namespace Tabletop

/-- A change that is asked for: a system of a catalog for a group, or a dice
style, or none, for a group. -/
inductive SettingsCall where
  | setSystem (group key : String) (catalog : Catalog)
  | setStyle (group : String) (style : Option String)

namespace SettingsCall

/-- The system that a call sets for a group, as the catalog spells its key; none
if the call is not about it or the catalog lacks the key. -/
def systemFor (group : String) : SettingsCall → Option String
  | setSystem g key catalog => if g = group then (catalog.get? key).map (·.key) else none
  | setStyle _ _ => none

/-- The style that a call sets for a group, which may be no style; none if the
call is not about it. -/
def styleFor (group : String) : SettingsCall → Option (Option String)
  | setSystem _ _ _ => none
  | setStyle g style => if g = group then some style else none

/-- What a call makes of the settings of a group. -/
def effect (q : SettingsCall) (group : String) (settings : GroupSettings) : GroupSettings where
  activeSystem := (q.systemFor group).or settings.activeSystem
  diceStyle := (q.styleFor group).getD settings.diceStyle

/-- The last system that calls set for a group, and the last style, each over
what there was at first. -/
def lastFor (qs : List SettingsCall) (group : String) (settings : GroupSettings) :
    GroupSettings where
  activeSystem := (qs.filterMap (systemFor group)).getLast?.or settings.activeSystem
  diceStyle := (qs.filterMap (styleFor group)).getLast?.getD settings.diceStyle

theorem getLast?_filterMap_cons {α β : Type} (f : α → Option β) (a : α) (as : List α) :
    ((a :: as).filterMap f).getLast? = (as.filterMap f).getLast?.or (f a) := by
  rw [List.filterMap_cons]
  cases f a with
  | none => exact Option.or_none.symm
  | some b =>
    rw [List.getLast?_cons]
    cases (as.filterMap f).getLast? <;> rfl

/-- One after the other, calls have the effect of the last ones. -/
theorem lastFor_cons (q : SettingsCall) (qs : List SettingsCall) (group : String)
    (settings : GroupSettings) :
    lastFor (q :: qs) group settings = lastFor qs group (q.effect group settings) := by
  unfold lastFor effect
  rw [getLast?_filterMap_cons, getLast?_filterMap_cons, Option.or_assoc]
  congr 1
  cases (qs.filterMap (styleFor group)).getLast? <;> rfl

end SettingsCall

namespace SettingsStore

open SettingsCall

variable {s : SettingsStore} {d d' : Disk} {group : String} {groups : KeyMap GroupSettings}

/-! ### One call -/

/-- Takes a call. -/
def call (s : SettingsStore) (d : Disk) : SettingsCall → Except StoreError Unit × Disk
  | .setSystem group key catalog =>
    ((s.setActiveSystem d group key catalog).1.map fun _ => (),
      (s.setActiveSystem d group key catalog).2)
  | .setStyle group style => s.setDiceStyle d group style

/-- Whether a file could be written, if it had to be. -/
def written : Except StoreError Unit → Bool
  | .error (.cannotSave _ _) => false
  | _ => true

theorem get_eq_ok {settings : GroupSettings} : s.get d group = .ok settings ↔
    ∃ groups, s.all d = .ok groups ∧ (groups.get? group).getD .empty = settings := by
  unfold SettingsStore.get
  cases s.all d with
  | error e => exact ⟨fun h => (by cases h), fun ⟨_, h, _⟩ => (by cases h)⟩
  | ok groups =>
    refine ⟨fun h => ?_, fun ⟨_, h, hs⟩ => ?_⟩
    · cases h
      exact ⟨groups, rfl, rfl⟩
    · cases h
      exact congrArg Except.ok hs

/-- **What is written is read back.** -/
theorem all_of_update {change : GroupSettings → GroupSettings} (h : s.all d = .ok groups)
    (hu : s.update d group change = (.ok (), d')) :
    s.all d' = .ok (groups.update group .empty change) := by
  unfold update at hu
  rw [h] at hu
  have hread := (Disk.saveJson_ok hu).holds.readJson (Json.restores_map GroupSettings.restores)
  unfold SettingsStore.all
  rw [hread]
  rfl

theorem update_error {change : GroupSettings → GroupSettings} {e : StoreError}
    (h : s.all d = .ok groups) (hu : s.update d group change = (.error e, d')) :
    written (.error e) = false := by
  unfold update at hu
  rw [h] at hu
  obtain ⟨⟨cause, rfl⟩, -⟩ := Disk.saveJson_error hu
  rfl

theorem update_of_all_error {change : GroupSettings → GroupSettings} {e : StoreError}
    (h : s.all d = .error e) : s.update d group change = (.error e, d) := by
  unfold update
  rw [h]

theorem getD_update (groups : KeyMap GroupSettings) (group g : String)
    (change : GroupSettings → GroupSettings) :
    ((groups.update group .empty change).get? g).getD .empty =
      if g = group then change ((groups.get? g).getD .empty) else (groups.get? g).getD .empty := by
  unfold KeyMap.update
  rw [KeyMap.get?_insert]
  split
  · rename_i hg
    rw [hg]
    rfl
  · rfl

theorem setActiveSystem_unknown {key : String} {c : Catalog} (h : c.get? key = none) :
    s.setActiveSystem d group key c = (.error (.unknownSystem ⟨key, c.keys⟩), d) := by
  unfold setActiveSystem Catalog.get
  rw [h]

theorem call_unknown {key : String} {c : Catalog} (h : c.get? key = none) :
    s.call d (.setSystem group key c) = (.error (.unknownSystem ⟨key, c.keys⟩), d) := by
  show ((s.setActiveSystem d group key c).1.map fun _ => (), _) = _
  rw [setActiveSystem_unknown h]
  rfl

theorem call_setSystem {key : String} {c : Catalog} {g : GameSystem} (h : c.get? key = some g) :
    s.call d (.setSystem group key c) =
      s.update d group fun settings => { settings with activeSystem := some g.key } := by
  show ((s.setActiveSystem d group key c).1.map fun _ => (),
    (s.setActiveSystem d group key c).2) = _
  unfold setActiveSystem Catalog.get
  simp only [h]
  generalize s.update d group _ = out
  obtain ⟨r, d'⟩ := out
  cases r <;> rfl

/-- **A call has its effect on the settings of each group,** unless the file
cannot be written. -/
theorem all_of_call {q : SettingsCall} {r : Except StoreError Unit} (h : s.all d = .ok groups)
    (hq : s.call d q = (r, d')) (hr : written r = true) :
    ∃ groups', s.all d' = .ok groups' ∧ ∀ g,
      (groups'.get? g).getD .empty = q.effect g ((groups.get? g).getD .empty) := by
  have hupdate : ∀ {group change}, s.update d group change = (r, d') →
      s.all d' = .ok (groups.update group .empty change) := by
    intro group change hu
    cases r with
    | ok _ => exact all_of_update h hu
    | error e =>
      rw [update_error h hu] at hr
      cases hr
  cases q with
  | setSystem group key c =>
    cases hc : c.get? key with
    | none =>
      rw [call_unknown hc] at hq
      cases hq
      refine ⟨groups, h, fun g => ?_⟩
      unfold effect systemFor styleFor
      simp only [hc, Option.map_none, ite_self, Option.none_or, Option.getD_none]
    | some sys =>
      rw [call_setSystem hc] at hq
      refine ⟨_, hupdate hq, fun g => ?_⟩
      rw [getD_update]
      unfold effect systemFor styleFor
      by_cases hg : g = group
      · simp [hg, hc]
      · simp [hg, Ne.symm hg]
  | setStyle group style =>
    refine ⟨_, hupdate hq, fun g => ?_⟩
    rw [getD_update]
    unfold effect systemFor styleFor
    by_cases hg : g = group
    · simp [hg]
    · simp [hg, Ne.symm hg]

theorem call_of_all_error {q : SettingsCall} {e : StoreError} (h : s.all d = .error e) :
    ∃ e', s.call d q = (.error e', d) := by
  cases q with
  | setSystem group key c =>
    cases hc : c.get? key with
    | none => exact ⟨_, call_unknown hc⟩
    | some sys =>
      rw [call_setSystem hc, update_of_all_error h]
      exact ⟨_, rfl⟩
  | setStyle group style => exact ⟨e, update_of_all_error h⟩

/-! ### The file -/

/-- What is written when the settings of a group are changed. -/
def changed (groups : KeyMap GroupSettings) (group : String)
    (change : GroupSettings → GroupSettings) : Json :=
  Json.ofMap GroupSettings.json (groups.update group .empty change)

/-- A change that succeeds writes the settings of all groups and nothing else. -/
theorem update_stores {change : GroupSettings → GroupSettings}
    (hu : s.update d group change = (.ok (), d')) :
    ∃ groups, s.all d = .ok groups ∧
      d.Stored s.path ((changed groups group change).pretty.toUTF8.push 10) d' := by
  cases h : s.all d with
  | error e =>
    rw [update_of_all_error h] at hu
    cases hu
  | ok groups =>
    unfold update at hu
    rw [h] at hu
    exact ⟨groups, rfl, Disk.saveJson_ok hu⟩

theorem update_afterFailure {change : GroupSettings → GroupSettings} {e : StoreError}
    (hu : s.update d group change = (.error e, d')) : d.AfterFailure e d' := by
  cases h : s.all d with
  | error _ =>
    rw [update_of_all_error h] at hu
    cases hu
    exact .refl d _
  | ok groups =>
    unfold update at hu
    rw [h] at hu
    exact Disk.saveJson_afterFailure hu

/-- **A system is set** if the catalog has it and the file can be changed. -/
theorem setActiveSystem_eq_ok {key found : String} {c : Catalog} :
    s.setActiveSystem d group key c = (.ok found, d') ↔ ∃ g, c.get? key = some g ∧ g.key = found ∧
      s.update d group (fun settings => { settings with activeSystem := some g.key }) =
        (.ok (), d') := by
  cases hc : c.get? key with
  | none =>
    rw [setActiveSystem_unknown hc]
    exact ⟨fun h => (nomatch h), fun ⟨_, h, _⟩ => (nomatch h)⟩
  | some g =>
    unfold setActiveSystem Catalog.get
    simp only [hc]
    constructor
    · intro h
      split at h
      · rename_i hu
        cases h
        exact ⟨g, rfl, rfl, hu⟩
      · cases h
    · rintro ⟨_, hg, rfl, hu⟩
      cases hg
      rw [hu]

theorem setActiveSystem_afterFailure {key : String} {c : Catalog} {e : StoreError}
    (h : s.setActiveSystem d group key c = (.error e, d')) : d.AfterFailure e d' := by
  unfold setActiveSystem at h
  split at h
  · cases h
    exact .refl d _
  · split at h
    · cases h
    · rename_i hu
      cases h
      exact update_afterFailure hu

theorem activeSystem_of_update {key : String}
    (hu : s.update d group (fun settings => { settings with activeSystem := some key }) =
      (.ok (), d')) : s.activeSystem d' group = .ok key := by
  obtain ⟨groups, hall, -⟩ := update_stores hu
  have hget := get_eq_ok.mpr ⟨_, all_of_update hall hu, getD_update groups group group _⟩
  unfold activeSystem
  rw [hget, if_pos rfl]
  rfl

/-! ### Calls one after the other -/

/-- Takes calls, whether they succeed or not; gives what each of them gave. -/
def run (s : SettingsStore) (d : Disk) : List SettingsCall → List (Except StoreError Unit) × Disk
  | [] => ([], d)
  | q :: qs =>
    let (r, d) := s.call d q
    let (rs, d) := s.run d qs
    (r :: rs, d)

/-- **Calls have the effect of the last ones,** if the file can be written. -/
theorem all_of_run : ∀ (qs : List SettingsCall) {d : Disk} {groups : KeyMap GroupSettings},
    s.all d = .ok groups → (∀ r ∈ (s.run d qs).1, written r = true) →
    ∃ groups', s.all (s.run d qs).2 = .ok groups' ∧ ∀ g,
      (groups'.get? g).getD .empty = lastFor qs g ((groups.get? g).getD .empty)
  | [], _, groups, h, _ => ⟨groups, h, fun _ => rfl⟩
  | q :: qs, d, groups, h, hr => by
    obtain ⟨groups', h', hq⟩ := all_of_call h (rfl : s.call d q = _) (hr _ List.mem_cons_self)
    obtain ⟨groups'', h'', hqs⟩ := all_of_run qs h' fun r hm => hr r (List.mem_cons_of_mem _ hm)
    refine ⟨groups'', h'', fun g => ?_⟩
    rw [hqs, hq, lastFor_cons]

theorem run_of_all_error {e : StoreError} (h : s.all d = .error e) : ∀ qs : List SettingsCall,
    (∀ r ∈ (s.run d qs).1, ∃ e', r = .error e') ∧ (s.run d qs).2 = d
  | [] => ⟨fun _ hr => (by cases hr), rfl⟩
  | q :: qs => by
    obtain ⟨e', hq⟩ := call_of_all_error (q := q) h
    obtain ⟨hall, hdisk⟩ := run_of_all_error h qs
    have hrun : s.run d (q :: qs) = (.error e' :: (s.run d qs).1, (s.run d qs).2) := by
      rw [run, hq]
    rw [hrun]
    refine ⟨fun r hr => ?_, hdisk⟩
    rcases List.mem_cons.mp hr with rfl | hr
    · exact ⟨e', rfl⟩
    · exact hall r hr

/-- **After any calls the settings of a group are those of the last calls about
it.** If the file is missing or can be read, and can be written each time, the
system of a group is the one of the last call that set one the catalog has, by
the catalog's spelling, and its style that of the last call that set one; each
is what it was at first if there was no such call. What a call is not about it
leaves as it was. A system that the catalog lacks is refused and the disk stays
as it is. If the file cannot be read, every call fails and the disk stays as it
is. -/
theorem settings_after_calls (s : SettingsStore) (d : Disk) (qs : List SettingsCall) :
    (∀ g settings, s.get d g = .ok settings → (∀ r ∈ (s.run d qs).1, written r = true) →
      s.get (s.run d qs).2 g = .ok (lastFor qs g settings)) ∧
    (∀ q g settings, s.get d g = .ok settings → written (s.call d q).1 = true →
      ∃ settings', s.get (s.call d q).2 g = .ok settings' ∧
        (q.systemFor g = none → settings'.activeSystem = settings.activeSystem) ∧
        (q.styleFor g = none → settings'.diceStyle = settings.diceStyle)) ∧
    (∀ group key c, c.get? key = none →
      s.setActiveSystem d group key c = (.error (.unknownSystem ⟨key, c.keys⟩), d)) ∧
    (∀ e, s.all d = .error e →
      (∀ r ∈ (s.run d qs).1, ∃ e', r = .error e') ∧ (s.run d qs).2 = d) := by
  refine ⟨fun g settings h hr => ?_, fun q g settings h hr => ?_,
    fun group key c h => setActiveSystem_unknown h, fun e h => run_of_all_error h qs⟩
  · obtain ⟨groups, hall, rfl⟩ := get_eq_ok.mp h
    obtain ⟨groups', hall', heffect⟩ := all_of_run qs hall hr
    exact get_eq_ok.mpr ⟨groups', hall', heffect g⟩
  · obtain ⟨groups, hall, rfl⟩ := get_eq_ok.mp h
    obtain ⟨groups', hall', heffect⟩ := all_of_call hall (rfl : s.call d q = _) hr
    refine ⟨_, get_eq_ok.mpr ⟨groups', hall', heffect g⟩, fun hq => ?_, fun hq => ?_⟩
    · unfold effect
      rw [hq]
      exact Option.none_or
    · unfold effect
      rw [hq]
      rfl

/-- A key in another case, a style for another group, and a key that the
catalog lacks. -/
theorem table_after_calls :
    let calls : List SettingsCall := [.setSystem "table" "DnD5E" .builtin,
      .setStyle "porch" (some "bone"), .setSystem "table" "gurps" .builtin]
    let later := (run ⟨"groups.json"⟩ (Disk.blank ["home"]) calls).2
    (∀ group, get ⟨"groups.json"⟩ (Disk.blank ["home"]) group = .ok .empty) ∧
    get ⟨"groups.json"⟩ later "table" = .ok ⟨some "dnd5e", none⟩ ∧
    get ⟨"groups.json"⟩ later "porch" = .ok ⟨none, some "bone"⟩ := by
  intro calls later
  have hstart : ∀ group, get ⟨"groups.json"⟩ (Disk.blank ["home"]) group = .ok .empty :=
    fun _ => rfl
  have hwritten : ∀ r ∈ (run ⟨"groups.json"⟩ (Disk.blank ["home"]) calls).1, written r = true := by
    decide +kernel
  obtain ⟨hget, -⟩ := settings_after_calls ⟨"groups.json"⟩ (Disk.blank ["home"]) calls
  exact ⟨hstart, hget "table" .empty (hstart _) hwritten, hget "porch" .empty (hstart _) hwritten⟩

end SettingsStore
end Tabletop
