/-
# Characters stay in their folder

A store names a file for a character and a system unless one of them is missing
or has something in it that leads elsewhere: a slash, a backslash, or two dots in
a row (`CharacterStore.Fits`). The parts are tested one by one, but the name of
the file joins them; since it has neither slash nor backslash of its own and
starts with a character of the key, it is one name right below the folder of
the store (`CharacterStore.plain_fileName`).

So a pair that does not fit fails alike on every disk and changes none. With one
that fits, what is found depends on the way to the folder and on the one file
only (`CharacterStore.find_congr`), and a save stays near the folder at every
moment of it and changes that one file in the end
(`CharacterStore.path_stays_in_folder`).

Key definitions: `CharacterStore.Harmless`, `CharacterStore.Fits`.
Key theorems: `CharacterStore.leadsAway_eq_false`, `CharacterStore.path_cases`,
`CharacterStore.find_congr`, `CharacterStore.saveAs_changes`,
`CharacterStore.path_stays_in_folder`.
-/
import Tabletop.Proofs.CharacterFiles
import Tabletop.Proofs.Ways

namespace Tabletop
namespace CharacterStore

open Tabletop.Path (Plain)

variable {s : CharacterStore} {d d' : Disk} {name system path part : String} {c : Character}

/-! ### Names that are refused -/

/-- A text with nothing in it that leads elsewhere. -/
structure Harmless (part : String) : Prop where
  noSlash : '/' ∉ part.toList
  noBackslash : '\\' ∉ part.toList
  noDots : ¬['.', '.'] <:+: part.toList

theorem leadsAway_eq_false : leadsAway part = false ↔ Harmless part := by
  unfold leadsAway
  simp only [Bool.or_eq_false_iff, List.contains_eq_mem, decide_eq_false_iff_not]
  rw [← Bool.not_eq_true (Text.occursIn _ _), Text.occursIn_iff]
  constructor
  · rintro ⟨⟨hslash, hbackslash⟩, hdots⟩
    exact ⟨hslash, hbackslash, hdots⟩
  · rintro ⟨hslash, hbackslash, hdots⟩
    exact ⟨⟨hslash, hbackslash⟩, hdots⟩

/-- A name and a system that a file can be named for. -/
structure Fits (name system : String) : Prop where
  named : Key.normalize name ≠ ""
  placed : ¬∀ c ∈ system.toList, Text.isBlank c = true
  key : Harmless (Key.normalize name)
  system : Harmless system

theorem path_ok_iff : s.path name system = .ok path ↔
    Fits name system ∧ path = Path.join s.folder (fileName name system) := by
  rw [path_eq_ok, leadsAway_eq_false, leadsAway_eq_false, ne_eq (Text.squeeze _),
    Text.squeeze_eq_nil]
  constructor
  · rintro ⟨hnamed, hplaced, hkey, hsystem, hpath⟩
    exact ⟨⟨hnamed, hplaced, hkey, hsystem⟩, hpath⟩
  · rintro ⟨⟨hnamed, hplaced, hkey, hsystem⟩, hpath⟩
    exact ⟨hnamed, hplaced, hkey, hsystem, hpath⟩

theorem path_of_fits (h : Fits name system) :
    s.path name system = .ok (Path.join s.folder (fileName name system)) :=
  path_ok_iff.mpr ⟨h, rfl⟩

theorem path_error {e : StoreError} (h : s.path name system = .error e) :
    ∃ fault, e = .invalidRecord fault := by
  unfold CharacterStore.path at h
  simp only at h
  split at h
  · cases h
    exact ⟨_, rfl⟩
  · split at h
    · cases h
      exact ⟨_, rfl⟩
    · split at h
      · cases h
        exact ⟨_, rfl⟩
      · split at h
        · cases h
          exact ⟨_, rfl⟩
        · cases h

/-- **A path is given exactly for a name and a system that fit.** -/
theorem path_cases (s : CharacterStore) (name system : String) :
    (Fits name system ∧ s.path name system = .ok (Path.join s.folder (fileName name system))) ∨
      ¬Fits name system ∧ ∃ fault, s.path name system = .error (.invalidRecord fault) := by
  cases h : s.path name system with
  | ok path =>
    obtain ⟨hfits, hpath⟩ := path_ok_iff.mp h
    exact .inl ⟨hfits, congrArg Except.ok hpath⟩
  | error e =>
    obtain ⟨fault, rfl⟩ := path_error h
    refine .inr ⟨fun hfits => ?_, fault, rfl⟩
    rw [path_of_fits hfits] at h
    cases h

/-! ### The name of a file -/

theorem noBackslash_fileName (h : Fits name system) : '\\' ∉ (fileName name system).toList := by
  rw [toList_fileName, List.mem_append, List.mem_cons, List.mem_append, not_or, not_or, not_or]
  exact ⟨h.key.noBackslash, by decide, h.system.noBackslash, by decide⟩

theorem ending_fileName (name system : String) :
    "_".toList ++ system.toList ++ ".json".toList <:+ (fileName name system).toList :=
  ⟨(Key.normalize name).toList, (toList_fileName name system).symm⟩

/-! ### What the store touches -/

/-- **A pair without a path fails** on every disk, and changes none. -/
theorem fails_of_path_error {e : StoreError} (h : s.path name system = .error e) (d : Disk)
    (c : Character) : s.find d name system = .error e ∧ s.load d name system = .error e ∧
      s.saveAs d name system c = (.error e, d) := by
  unfold find load saveAs
  rw [h]
  exact ⟨rfl, rfl, rfl⟩

/-- **What is found depends on the way to the folder and on one file** right
below it. -/
theorem find_congr (h : Fits name system) (hhome : d'.home = d.home)
    (hsame : ∀ l, d.OnWay s.folder l ∨ l = d.place s.folder ++ [fileName name system] →
      d'.entryAt l = d.entryAt l) : s.find d' name system = s.find d name system := by
  have hpath : s.path name system = _ := path_of_fits h
  have hfound : d'.find (Path.join s.folder (fileName name system)) =
      d.find (Path.join s.folder (fileName name system)) :=
    Disk.find_congr hhome fun l hl => hsame l (Disk.onWay_join (plain_fileName hpath) hl)
  unfold find
  rw [hpath, Json.ok_bind, Json.ok_bind]
  refine Disk.readJson_congr _ ?_
  unfold Disk.readBytes
  rw [hfound]

/-- **A save changes one file right below the folder,** and makes folders on the
way to it; it changes nothing else, whether it succeeds or fails. -/
theorem saveAs_changes (h : Fits name system) (d : Disk) (c : Character) (l : Location)
    (hl : l ≠ d.place s.folder ++ [fileName name system]) :
    (s.saveAs d name system c).2.entryAt l = d.entryAt l ∨
      d.MadeFolder s.folder (s.saveAs d name system c).2 l := by
  have hpath : s.path name system = _ := path_of_fits h
  have hdisk : (s.saveAs d name system c).2 =
      (d.save (Path.join s.folder (fileName name system)) c.json.pretty).2 := by
    unfold saveAs Disk.saveJson
    rw [hpath]
    simp only
    generalize d.save (Path.join s.folder (fileName name system)) c.json.pretty = out
    obtain ⟨r, d'⟩ := out
    cases r <;> rfl
  rw [hdisk]
  exact Disk.save_changes (plain_fileName hpath) rfl l hl

/-- **The path of a character never leaves the folder of the store.** There is
one exactly if the name and the system fit; if they do not, the record is
refused, and so is finding, loading and saving it, on every disk and without a
change to it. The path has the names of the folder and one more: a name with
neither slash nor backslash in it, other than one and two dots, that ends with
an underscore, the system and `.json`. What is found and loaded depends on the
way to the folder and on that one entry right below it. A save stays near the
folder whatever steps of it have been taken, and when it is over no more has
changed than that one entry and folders that were missing on the way. -/
theorem path_stays_in_folder (s : CharacterStore) (name system : String) :
    ((∃ path, s.path name system = .ok path) ↔ Fits name system) ∧
    (¬Fits name system → ∃ fault, s.path name system = .error (.invalidRecord fault) ∧
      ∀ d c, s.find d name system = .error (.invalidRecord fault) ∧
        s.load d name system = .error (.invalidRecord fault) ∧
        s.saveAs d name system c = (.error (.invalidRecord fault), d)) ∧
    ∀ path, s.path name system = .ok path → ∃ file,
      path = Path.join s.folder file ∧ Path.names path = Path.names s.folder ++ [file] ∧
      Plain file ∧ '\\' ∉ file.toList ∧
      "_".toList ++ system.toList ++ ".json".toList <:+ file.toList ∧
      (∀ d d' : Disk, d'.home = d.home →
        (∀ l, d.OnWay s.folder l ∨ l = d.place s.folder ++ [file] → d'.entryAt l = d.entryAt l) →
          s.find d' name system = s.find d name system ∧
          s.load d' name system = s.load d name system) ∧
      ∀ d c, (∀ ns, Saving.Near d s.folder
          (Saving.run path c.json.pretty.toUTF8 ⟨d, none⟩ ns).2) ∧
        ∀ l, l ≠ d.place s.folder ++ [file] →
          (s.saveAs d name system c).2.entryAt l = d.entryAt l ∨
            d.MadeFolder s.folder (s.saveAs d name system c).2 l := by
  obtain ⟨hfits, hpath⟩ | ⟨hnot, fault, herror⟩ := path_cases s name system
  · refine ⟨⟨fun _ => hfits, fun _ => ⟨_, hpath⟩⟩, fun hnot => absurd hfits hnot, fun path hp => ?_⟩
    have hjoin : path = Path.join s.folder (fileName name system) :=
      Except.ok.inj (hp.symm.trans hpath)
    have hplain := plain_fileName hpath
    refine ⟨fileName name system, hjoin, hjoin ▸ Path.names_join _ hplain, hplain,
      noBackslash_fileName hfits, ending_fileName name system, fun d d' hhome hsame => ?_,
      fun d c => ⟨fun ns => ?_, saveAs_changes hfits d c⟩⟩
    · have hfind := find_congr hfits hhome hsame
      exact ⟨hfind, load_congr hfind⟩
    · rw [hjoin]
      exact Saving.run_near hplain ns (Saving.near_start d s.folder)
  · refine ⟨⟨fun ⟨path, hp⟩ => ?_, fun hfits => absurd hfits hnot⟩,
      fun _ => ⟨fault, herror, fails_of_path_error herror⟩, fun path hp => ?_⟩
    · rw [herror] at hp
      cases hp
    · rw [herror] at hp
      cases hp

/-- Zoë has a file in the folder, and no record is saved for her above it. -/
theorem zoe_stays_in_the_folder :
    (∃ file, "sheets/zoë_dnd5e.json" = Path.join "sheets" file ∧ Plain file ∧
      "_".toList ++ "dnd5e".toList ++ ".json".toList <:+ file.toList) ∧
    ∃ fault, ∀ d c, saveAs ⟨"sheets"⟩ d "Zoë" "../dnd5e" c =
      (.error (.invalidRecord fault), d) := by
  obtain ⟨-, -, hzoe⟩ := path_stays_in_folder ⟨"sheets"⟩ " Zoë " "dnd5e"
  obtain ⟨file, hjoin, -, hplain, -, hending, -⟩ :=
    hzoe "sheets/zoë_dnd5e.json" (by decide +kernel)
  obtain ⟨-, hrefused, -⟩ := path_stays_in_folder ⟨"sheets"⟩ "Zoë" "../dnd5e"
  obtain ⟨fault, -, hfails⟩ := hrefused fun h => h.system.noSlash (by decide)
  exact ⟨⟨file, hjoin, hplain, hending⟩, fault, fun d c => (hfails d c).2.2⟩

end CharacterStore
end Tabletop
