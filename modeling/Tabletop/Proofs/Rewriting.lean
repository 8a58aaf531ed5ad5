/-
# A file with another content

A record that was loaded and is saved again goes to its own file: the file is
there, so no folder is made and nothing is new but its content
(`CharacterStore.rewrites_saveAs`). On such a disk every path leads where it led
before, and to the same, except for the paths that lead to this one file
(`Disk.Rewritten.locate`, `Disk.Rewritten.find`).

The settings, the list of dice styles and the other characters have files of
their own, so they stay (`Config.settings_after`, `Config.styles_after`,
`CharacterStore.load_after`). Only the configuration, and a catalog that it names,
have paths that may lead anywhere.

Key definition: `Disk.Rewritten`.
Key theorems: `Disk.Rewritten.locate`, `Disk.Rewritten.find`,
`CharacterStore.rewrites_saveAs`, `CharacterStore.load_after`,
`Config.settings_after`, `Config.styles_after`.
-/
import Tabletop.Config
import Tabletop.Proofs.CharacterFiles
import Tabletop.Proofs.Ways

namespace Tabletop

namespace Disk

open Tabletop.Path (Plain)

variable {d d' : Disk} {path other folder name : String} {l : Location}

/-- The file at a path may have another content; all else is as it was. -/
structure Rewritten (d : Disk) (path : String) (d' : Disk) : Prop where
  home : d'.home = d.home
  before : ∃ content, d.Holds path content
  after : ∃ content, d'.Holds path content
  others : ∀ l, d.locate path ≠ .ok l → d'.entryAt l = d.entryAt l

theorem Rewritten.opensAt (h : d.Rewritten path d') (l : Location) :
    d'.opensAt l = d.opensAt l := by
  by_cases hl : d.locate path = .ok l
  · obtain ⟨content, l₀, hl₀, hbefore⟩ := h.before
    obtain ⟨content', l₁, hl₁, hafter⟩ := h.after
    obtain rfl : l₀ = l := Except.ok.inj (hl₀.symm.trans hl)
    have hplace : l₁ = l₀ :=
      (locate_eq_place hl₁).trans ((place_congr h.home path).trans (locate_eq_place hl₀).symm)
    unfold Disk.opensAt
    rw [hbefore, ← hplace, hafter]
  · exact opensAt_congr (h.others l hl)

/-- **Every path leads where it led.** -/
theorem Rewritten.locate (h : d.Rewritten path d') (other : String) :
    d'.locate other = d.locate other :=
  locate_congr h.home fun l _ => h.opensAt l

/-- **Every other path leads to what it led to.** -/
theorem Rewritten.find (h : d.Rewritten path d') (hother : d.locate other ≠ d.locate path) :
    d'.find other = d.find other := by
  unfold Disk.find
  rw [h.locate other]
  cases hl : d.locate other with
  | error e => rfl
  | ok l =>
    have hne : d.locate path ≠ .ok l := fun hp => hother (hl.trans hp.symm)
    rw [Json.ok_bind, Json.ok_bind, h.others l hne]

theorem readText_congr (h : d'.find path = d.find path) : d'.readText path = d.readText path := by
  unfold readText readBytes
  rw [h]

theorem readJson_of_find {α : Type} (r : Json.Reader α) (h : d'.find path = d.find path) :
    d'.readJson path r = d.readJson path r := by
  unfold readJson
  rw [readText_congr h]

end Disk

namespace CharacterStore

variable {s : CharacterStore} {d d' : Disk} {name name' system system' path : String}
  {c c₀ : Character}

/-! ### A record that is saved again -/

theorem find_of_load (h : s.load d name system = .ok c) : s.find d name system = .ok (some c) := by
  unfold load at h
  unfold find
  cases hp : s.path name system with
  | error e =>
    rw [hp] at h
    cases h
  | ok path =>
    rw [hp, Json.ok_bind] at h
    rw [Json.ok_bind]
    cases hr : d.readJson path Character.read with
    | error e =>
      rw [hr] at h
      cases h
    | ok found =>
      rw [hr, Json.ok_bind] at h
      cases found with
      | none => cases h
      | some c' =>
        cases h
        rfl

theorem text_of_load (hp : s.path name system = .ok path) (h : s.load d name system = .ok c) :
    ∃ text, d.readText path = .ok text ∧ Json.decode Character.read text = .ok c := by
  have hfound := find_of_load h
  unfold find at hfound
  rw [hp, Json.ok_bind] at hfound
  unfold Disk.readJson at hfound
  split at hfound
  · rename_i text htext
    split at hfound
    · rename_i hdecode
      cases hfound
      exact ⟨text, htext, hdecode⟩
    · cases hfound
  · cases hfound
  · cases hfound

theorem holds_of_load (hp : s.path name system = .ok path) (h : s.load d name system = .ok c) :
    ∃ content, d.Holds path content := by
  have hfound := find_of_load h
  unfold find at hfound
  rw [hp, Json.ok_bind] at hfound
  exact Disk.exists_holds_of_readJson hfound

/-- **A record that was loaded is saved over itself:** nothing else changes. -/
theorem rewrites_saveAs (hload : s.load d name system = .ok c₀)
    (h : s.saveAs d name system c = (.ok path, d')) : d.Rewritten path d' := by
  obtain ⟨hp, hstored⟩ := saveAs_ok h
  obtain ⟨content, l, hl, hcontent⟩ := holds_of_load hp hload
  have hpath := (path_eq_ok.mp hp).2.2.2.2
  have hl' : d.locate (Path.join s.folder (fileName name system)) = .ok l := hpath ▸ hl
  have hspares := saveAs_spares (Disk.hasFolder_of_locate (plain_fileName hp) hl') hp h
  refine ⟨hstored.home, ⟨content, l, hl, hcontent⟩, ⟨_, hstored.holds⟩,
    fun x hx => hspares.others x ?_⟩
  rintro rfl
  rw [← (Disk.locate_join (plain_fileName hp) hl').1] at hx
  exact hx hl

/-- **What is loaded after a record was saved over itself:** what was loaded
before, or the record in the place of what was in its file. -/
theorem load_after (hload : s.load d name system = .ok c₀)
    (h : s.saveAs d name system c = (.ok path, d')) (name' system' : String) :
    s.load d' name' system' = s.load d name' system' ∨
      s.load d name' system' = .ok c₀ ∧ s.load d' name' system' = .ok c := by
  obtain ⟨hp, hstored⟩ := saveAs_ok h
  cases hp' : s.path name' system' with
  | error e =>
    refine .inl (load_congr ?_)
    unfold find
    rw [hp']
    rfl
  | ok path' =>
    by_cases hsame : path' = path
    · subst hsame
      -- one file, under whatever name it is asked for
      have hfind : s.find d name' system' = s.find d name system := by
        unfold find
        rw [hp', hp]
      exact .inr ⟨load_of_find (hfind.trans (find_of_load hload)),
        load_of_find (find_of_holds hp' hstored.holds)⟩
    · obtain ⟨content, l, hl, -⟩ := holds_of_load hp hload
      have hfolder : d.HasFolder s.folder :=
        Disk.hasFolder_of_locate (plain_fileName hp) ((path_eq_ok.mp hp).2.2.2.2 ▸ hl)
      exact .inl (load_congr (find_saveAs_within hfolder hp' hp hsame h))

end CharacterStore

namespace Config

variable {c : Config} {d d' : Disk} {name system path file : String}

/-! ### Files of the data -/

/-- **A file right in the folder of the data is no record:** the records are one
folder further down. -/
theorem locate_ne_record (hp : c.characters.path name system = .ok path)
    (hholds : ∃ content, d.Holds path content) (hfile : Path.Plain file) :
    d.locate (Path.join c.dataFolder file) ≠ d.locate path := by
  obtain ⟨content, l, hl, -⟩ := hholds
  have hcharacters : Path.Plain "characters" := ⟨by decide, by decide, by decide, by decide⟩
  have hrecord : l = d.place (Path.join c.dataFolder "characters") ++
      [CharacterStore.fileName name system] :=
    (Disk.locate_join (CharacterStore.plain_fileName hp)
      ((CharacterStore.path_eq_ok.mp hp).2.2.2.2 ▸ hl)).1
  have hfolder : d.place (Path.join c.dataFolder "characters") =
      d.place c.dataFolder ++ ["characters"] := by
    rw [Disk.place_join d _ hcharacters]
    rfl
  intro hsame
  have hbelow := (Disk.locate_join hfile (hsame.trans hl)).1
  have hlength := congrArg List.length (hrecord.symm.trans hbelow)
  rw [hfolder, List.length_append, List.length_append, List.length_append] at hlength
  simp at hlength

/-- The catalog is no record, unless another file was configured for it. -/
theorem catalog_ne_record (hp : c.characters.path name system = .ok path)
    (hholds : ∃ content, d.Holds path content) (hfile : c.catalogFile = none) :
    d.locate c.catalogPath ≠ d.locate path := by
  have hplain : Path.Plain "game_systems.json" := ⟨by decide, by decide, by decide, by decide⟩
  unfold catalogPath
  rw [hfile]
  exact locate_ne_record hp hholds hplain

theorem settings_after (hp : c.characters.path name system = .ok path)
    (h : d.Rewritten path d') (group : String) :
    c.settings.get d' group = c.settings.get d group := by
  have hfile : Path.Plain "server_settings.json" := ⟨by decide, by decide, by decide, by decide⟩
  have hfind : d'.find c.settings.path = d.find c.settings.path :=
    h.find (locate_ne_record hp h.before hfile)
  unfold SettingsStore.get SettingsStore.all
  rw [Disk.readJson_of_find _ hfind]

theorem styles_after (hp : c.characters.path name system = .ok path)
    (h : d.Rewritten path d') :
    DiceStyles.load d' c.stylesPath = DiceStyles.load d c.stylesPath := by
  have hfile : Path.Plain "dice_styles.json" := ⟨by decide, by decide, by decide, by decide⟩
  have hfind : d'.find c.stylesPath = d.find c.stylesPath :=
    h.find (locate_ne_record hp h.before hfile)
  unfold DiceStyles.load
  rw [Disk.readJson_of_find _ hfind]

end Config
end Tabletop
