/-
# A chosen system in the place of a named one

A group plays the system that was set for it last, under the catalog's own key.
A later command of the group finds that system again as if it were named
(`Command.runs_as_named`): the key that is stored and the key that was asked for
lead to one system of one catalog.

The catalog is read anew by each command, and setting a system may change what
is read: where the settings are the catalog's file, and where the path of the
catalog goes through a folder that is only made for the settings, so that a file
is found that was out of reach before (`Command.key_is_split_by_hidden_catalog`).
In all other cases the later command reads the same catalog, or none can be read
and both commands fail alike (`Config.loadCatalog_after`). Where the folder of the
data is there, nothing comes into reach (`Command.not_isFile_of_hasFolder`).

Key definitions: `Action.group`, `Action.naming`, `Context.Plays`.
Key theorems: `Disk.Stored.find`, `Disk.Spares.find`, `Config.loadCatalog_after`,
`Command.Action.plan_naming`, `Command.not_isFile_of_hasFolder`,
`Command.runs_as_named`.
-/
import Tabletop.Proofs.CommandEffects
import Tabletop.Proofs.Folders

namespace Tabletop

/-! ### What is found after a save -/

namespace Disk

variable {d d' : Disk} {path other : String} {content : ByteArray} {e : Entry}

/-- **What a path leads to stays** when a file is stored that the path does not
lead to. -/
theorem Stored.find (h : d.Stored path content d') (hother : d'.locate other ≠ d'.locate path)
    (hfind : d.find other = .ok e) : d'.find other = .ok e := by
  obtain ⟨l, hl, he⟩ := find_eq_ok.mp hfind
  have hl' : d'.locate other = .ok l := locate_of_folders h.home (fun _ => h.folder) hl
  have hne : l ≠ d.place path := by
    rintro rfl
    exact hother (hl'.trans h.located.symm)
  exact find_eq_ok.mpr ⟨l, hl', h.kept hne he⟩

/-- What a path leads to was there before, when a file is stored in a folder that
is there and the path does not lead to it. -/
theorem Spares.find {folder name : String} (h : d.Spares folder name d')
    (hstored : d.Stored (Path.join folder name) content d') (hn : Path.Plain name)
    (hother : d'.locate other ≠ d'.locate (Path.join folder name))
    (hfind : d'.find other = .ok e) : d.find other = .ok e := by
  obtain ⟨l, hl, he⟩ := find_eq_ok.mp hfind
  have hplace := hstored.place_join hn
  have hne : l ≠ d.place folder ++ [name] := by
    rintro rfl
    rw [← hplace] at hl
    exact hother (hl.trans hstored.located.symm)
  -- the one entry that changes is a file now, so every folder was there before
  have hfolders : ∀ x, d'.entryAt x = some .folder → d.entryAt x = some .folder := by
    intro x hx
    have hx' : x ≠ d.place folder ++ [name] := by
      rintro rfl
      rw [← hplace, hstored.content] at hx
      cases hx
    rw [← h.others x hx']
    exact hx
  refine find_eq_ok.mpr ⟨l, locate_of_folders h.home.symm hfolders hl, ?_⟩
  rw [← h.others l hne]
  exact he

theorem loadVerdicts_congr (h : d'.find path = d.find path) :
    d'.loadVerdicts path = d.loadVerdicts path := by
  unfold loadVerdicts readText readBytes
  rw [h]

theorem loadVerdicts_of_not_isFile (h : d.isFile path = false) :
    ∃ e, d.loadVerdicts path = .error e := by
  unfold isFile at h
  unfold loadVerdicts readText readBytes
  cases hf : d.find path with
  | error e => exact ⟨_, rfl⟩
  | ok e =>
    cases e with
    | locked => exact ⟨_, rfl⟩
    | folder => exact ⟨_, rfl⟩
    | file content =>
      rw [hf] at h
      cases h

end Disk

/-- **After another file is stored the catalog is as it was, or cannot be read,**
if no file has come into reach at its path. -/
theorem Config.loadCatalog_after {c : Config} {d d' : Disk} {path : String} {content : ByteArray}
    (h : d.Stored path content d') (hother : d'.locate c.catalogPath ≠ d'.locate path)
    (hreach : d.pathExists c.catalogPath = false → d'.isFile c.catalogPath = false) :
    c.loadCatalog d' = c.loadCatalog d ∨ ∃ e, c.loadCatalog d' = .error e := by
  unfold loadCatalog verdicts
  cases hf : d.find c.catalogPath with
  | ok e =>
    have hf' := h.find hother hf
    have hsame : d'.find c.catalogPath = d.find c.catalogPath := hf'.trans hf.symm
    unfold Disk.pathExists
    rw [Disk.loadVerdicts_congr hsame, hsame]
    exact .inl rfl
  | error e =>
    have hnone : d.pathExists c.catalogPath = false := by
      unfold Disk.pathExists
      rw [hf]
      rfl
    rw [hnone]
    by_cases hthere : d'.pathExists c.catalogPath = true
    · -- a folder has come into reach, which is no catalog
      obtain ⟨e', he'⟩ := Disk.loadVerdicts_of_not_isFile (hreach hnone)
      rw [if_pos hthere, he']
      exact .inr ⟨e', rfl⟩
    · rw [if_neg hthere]
      exact .inl rfl

namespace Command

open Telling

/-! ### The system of a command -/

namespace Action

/-- The group that a command names. -/
def group : Action → Option String
  | .check _ _ _ group => group
  | .roll _ _ _ group => group
  | .setSystem _ group => group
  | .systems => none
  | .characters _ group => group
  | .diceStyle _ _ _ group => group
  | .suggest _ _ _ group _ => group

/-- The command with a system named, where it can name one and names none. -/
def naming (key : String) : Action → Action
  | .check who what system group => .check who what (system.or (some key)) group
  | .characters system group => .characters (system.or (some key)) group
  | .diceStyle style who system group => .diceStyle style who (system.or (some key)) group
  | .suggest kind typed system group json => .suggest kind typed (system.or (some key)) group json
  | a => a

end Action

namespace Context

variable {x : Context} {catalog : Catalog} {named : Option String} {group key : String}

theorem systemKey_of_chooses {g : GameSystem}
    (h : x.config.Chooses x.disk catalog group named g) :
    x.systemKey catalog named group = pure g.key :=
  funext fun _ => systemKey_eq_ok.mpr ⟨⟨g, h, rfl⟩, rfl⟩

/-- A group plays the system of a key: wherever a catalog is loaded, its key is
found for the group as if it were named. -/
def Plays (x : Context) (group key : String) : Prop :=
  ∀ catalog, x.config.loadCatalog x.disk = .ok catalog →
    x.systemKey catalog none group = x.systemKey catalog (some key) group

/-- What is done with the catalog matters for the catalog that is loaded only. -/
theorem catalog_bind_congr {α : Type} {f f' : Catalog → Telling α}
    (h : ∀ catalog, x.config.loadCatalog x.disk = .ok catalog → f catalog = f' catalog) :
    (x.catalog >>= f) = (x.catalog >>= f') := by
  funext j
  cases hm : x.catalog j with
  | mk r i =>
    cases r with
    | error e => rw [bind_of_error hm, bind_of_error hm]
    | ok catalog => rw [bind_of_ok hm, bind_of_ok hm, h catalog (catalog_eq_ok hm)]

/-- **The part of a command that finds its system** is the same with the system
named and without. -/
theorem Plays.find (h : x.Plays group key) {α : Type} (f : Catalog → String → Telling α) :
    (x.catalog >>= fun catalog => x.systemKey catalog none group >>= f catalog) =
      (x.catalog >>= fun catalog => x.systemKey catalog (some key) group >>= f catalog) :=
  catalog_bind_congr fun catalog hc => by rw [h catalog hc]

theorem Plays.check (h : x.Plays group key) (who what : String) :
    x.check who what none group = x.check who what (some key) group :=
  h.find _

theorem Plays.characters (h : x.Plays group key) :
    x.characters none group = x.characters (some key) group :=
  h.find _

theorem Plays.character (h : x.Plays group key) (who : String) :
    x.character who none group = x.character who (some key) group :=
  h.find _

theorem Plays.diceStyle (h : x.Plays group key) (style who : Option String) :
    x.diceStyle style who none group = x.diceStyle style who (some key) group := by
  cases who with
  | none => rw [diceStyle_none, diceStyle_none]
  | some name => rw [diceStyle_some, diceStyle_some, h.character name]

theorem Plays.suggestChecks (h : x.Plays group key) (typed : String) :
    x.suggestChecks typed none group = x.suggestChecks typed (some key) group :=
  congrArg (orWarn _) (h.find _)

theorem Plays.suggestCharacters (h : x.Plays group key) (typed : String) :
    x.suggestCharacters typed none group = x.suggestCharacters typed (some key) group :=
  congrArg (orWarn _) (h.find _)

end Context

/-- **A command is planned alike with a system named and without,** if its group
plays that system. -/
theorem Action.plan_naming {x : Context} {a : Action} {key : String}
    (h : x.Plays (x.group a.group) key) : a.plan x = (a.naming key).plan x := by
  cases a with
  | roll _ _ _ _ => rfl
  | setSystem _ _ => rfl
  | systems => rfl
  | check who what system group =>
    cases system with
    | some _ => rfl
    | none =>
      have hcheck := Context.Plays.check h who what
      exact congrArg (fun m : Telling Unit => m >>= fun _ => pure Change.none) hcheck
  | characters system group =>
    cases system with
    | some _ => rfl
    | none =>
      have hlist := Context.Plays.characters h
      exact congrArg (fun m : Telling Unit => m >>= fun _ => pure Change.none) hlist
  | diceStyle style who system group =>
    cases system with
    | some _ => rfl
    | none => exact Context.Plays.diceStyle h style who
  | suggest kind typed system group json =>
    cases system with
    | some _ => rfl
    | none =>
      -- what is suggested is told in the same way for both kinds
      have htell : ∀ {m m' : Telling (List Choice)}, m = m' →
          (m >>= fun choices => Context.tellChoices choices json >>= fun _ => pure Change.none) =
            (m' >>= fun choices => Context.tellChoices choices json >>= fun _ =>
              pure Change.none) :=
        fun hm => by rw [hm]
      cases kind with
      | checks => exact htell (Context.Plays.suggestChecks h typed)
      | characters => exact htell (Context.Plays.suggestCharacters h typed)

/-! ### Setting a system -/

section SetSystem

variable {c : Config} {dice : DieSource} {d : Disk} {key : String} {group : Option String}

/-- **Setting a system that succeeds** finds it in the catalog and puts its key
into the settings of the group. -/
theorem update_of_setSystem (h : ((Action.setSystem key group).run c dice d).error = none) :
    ∃ catalog g, c.loadCatalog d = .ok catalog ∧ catalog.get? key = some g ∧
      c.settings.update d (group.getD c.group)
        (fun settings => { settings with activeSystem := some g.key }) =
        (.ok (), ((Action.setSystem key group).run c dice d).disk) := by
  obtain ⟨e, herror, -⟩ | ⟨change, ha, ⟨e, herror, -⟩ | ⟨lines, -, happly⟩⟩ :=
    Action.run_cases c dice d (.setSystem key group)
  · rw [h] at herror
    cases herror
  · rw [h] at herror
    cases herror
  · cases ha with
    | nothing hr => cases hr
    | activeSystem hc =>
      obtain ⟨_, he, _⟩ | ⟨_, _, _, hset⟩ := Change.apply_activeSystem_cases happly
      · cases he
      · obtain ⟨g, hg, -, hu⟩ := SettingsStore.setActiveSystem_eq_ok.mp hset
        exact ⟨_, g, hc, hg, hu⟩

/-- **Where the folder of the data is there, no catalog comes into reach:** no
folder is made, so no path leads further than before. -/
theorem not_isFile_of_hasFolder (hfolder : d.HasFolder c.dataFolder)
    (h : ((Action.setSystem key group).run c dice d).error = none)
    (hplace : ((Action.setSystem key group).run c dice d).disk.locate c.catalogPath ≠
      ((Action.setSystem key group).run c dice d).disk.locate c.settings.path)
    (hnone : d.pathExists c.catalogPath = false) :
    ((Action.setSystem key group).run c dice d).disk.isFile c.catalogPath = false := by
  obtain ⟨_, g, -, -, hu⟩ := update_of_setSystem h
  obtain ⟨groups, hall, hstored⟩ := SettingsStore.update_stores hu
  have hspares : d.Spares c.dataFolder "server_settings.json"
      ((Action.setSystem key group).run c dice d).disk := by
    unfold SettingsStore.update at hu
    rw [hall] at hu
    exact Disk.saveJson_within hfolder ⟨by decide, by decide, by decide, by decide⟩ hu
  unfold Disk.isFile
  split
  · rfl
  · rename_i e _ hfind
    have hfound := hspares.find hstored ⟨by decide, by decide, by decide, by decide⟩ hplace hfind
    unfold Disk.pathExists at hnone
    rw [hfound] at hnone
    cases hnone
  · rfl

end SetSystem

/-- **A group's system stands for a named one.** Let a system be set for a group
under some key, in any spelling that the catalog takes. Let the settings not be
the file of the catalog, and let no file be found at the catalog's path that could
not be found before. Then, as long as the settings of the group and the catalog
stay, every command of the group that names no system ends as it does with that
key named: with the same disk, the same lines and warnings, and the same error or
none. -/
theorem runs_as_named {s s' : Shared} {c : Config} {d d' : Disk} {dice dice' : DieSource}
    {key : String} {group : Option String} {r : Completion} {a : Action}
    (hset : runShared s dice d (.setSystem key group) = r) (hok : r.error = none)
    (hc : s.configuration d = .ok c)
    (hplace : r.disk.locate c.catalogPath ≠ r.disk.locate c.settings.path)
    (hreach : d.pathExists c.catalogPath = false → r.disk.isFile c.catalogPath = false)
    (hc' : s'.configuration d' = .ok c)
    (hsettings : c.settings.get d' (group.getD c.group) =
      c.settings.get r.disk (group.getD c.group))
    (hcatalog : c.loadCatalog d' = c.loadCatalog r.disk)
    (hgroup : a.group.getD c.group = group.getD c.group) :
    runShared s' dice' d' a = runShared s' dice' d' (a.naming key) := by
  rw [runShared_of_configuration hc] at hset
  subst hset
  obtain ⟨catalog, g, hload, hg, hu⟩ := update_of_setSystem hok
  obtain ⟨_, -, hstored⟩ := SettingsStore.update_stores hu
  have hplays : Context.Plays ⟨c, dice', d'⟩ (group.getD c.group) key := by
    intro catalog' hload'
    change c.loadCatalog d' = .ok catalog' at hload'
    have hsame : c.loadCatalog d' = .ok catalog := by
      obtain hkept | ⟨e, herror⟩ := Config.loadCatalog_after hstored hplace hreach
      · exact hcatalog.trans (hkept.trans hload)
      · rw [hcatalog, herror] at hload'
        cases hload'
    obtain rfl : catalog = catalog' := Except.ok.inj (hsame.symm.trans hload')
    have hactive' : c.settings.activeSystem d' (group.getD c.group) = .ok g.key := by
      have hactive := SettingsStore.activeSystem_of_update hu
      unfold SettingsStore.activeSystem at hactive ⊢
      rw [hsettings]
      exact hactive
    -- the group has the catalog's key, and that key leads to the same system
    have hchosen : c.Chooses d' catalog (group.getD c.group) none g :=
      .active hactive' (Catalog.get?_key hg)
    have hnamed : c.Chooses d' catalog (group.getD c.group) (some key) g := .named hg
    exact (Context.systemKey_of_chooses (x := ⟨c, dice', d'⟩) hchosen).trans
      (Context.systemKey_of_chooses (x := ⟨c, dice', d'⟩) hnamed).symm
  have hplan : a.plan ⟨c, dice', d'⟩ = (a.naming key).plan ⟨c, dice', d'⟩ := by
    apply Action.plan_naming
    show Context.Plays _ (a.group.getD c.group) key
    rw [hgroup]
    exact hplays
  rw [runShared_of_configuration hc', runShared_of_configuration hc']
  unfold Action.run
  rw [hplan]

/-- The working folder, with a record and one more file in it. -/
def recordDisk (record text : String) (other : Location) (content : String) : Disk :=
  ((((Disk.blank ["home"]).put ["home", "data"] .folder).put ["home", "data", "characters"]
    .folder).put ["home", "data", "characters", record] (.file text.toUTF8)).put
    (["home"] ++ other) (.file content.toUTF8)

/-- Rin has a record, and a group has a style. -/
def rinDisk : Disk :=
  recordDisk "rin_cyberpunkRed.json"
    "[\"Rin\", \"cyberpunkRed\", \x7b\"DEX\": 6\x7d, \x7b\"brawling\": 4\x7d]"
    ["data", "server_settings.json"] "\x7b\"porch\": \x7b\"diceStyle\": \"bone\"\x7d\x7d"

/-- What setting Rin's system for a table comes to, under a key in another case. -/
def cyberpunkTable : Completion :=
  runShared ⟨none, none, none, false⟩ (.ofSeed 1) rinDisk
    (.setSystem "CYBERPUNKred" (some "table"))

/-- Rin brawls at that table, in its system or in a named one. -/
def brawl (system : Option String) : Completion :=
  runShared ⟨none, none, none, false⟩ (.ofSeed 2) cyberpunkTable.disk
    (.check "Rin" "Brawling" system (some "table"))

theorem cyberpunk_is_played_as_named :
    (brawl none).error = none ∧ (brawl none).journal.output =
      ["  Rin rolls Brawling (Cyberpunk RED)", "", "  dice:   1d10 (1) = 1",
        "  bonus:  +10  DEX 6 + BRAWLING 4", "  total:  11"] ∧
    brawl none = brawl (some "CYBERPUNKred") := by
  -- both runs are evaluated at once: the second starts from the disk of the first
  have hruns : cyberpunkTable.error = none ∧
      cyberpunkTable.disk.locate Config.default.catalogPath ≠
        cyberpunkTable.disk.locate Config.default.settings.path ∧
      cyberpunkTable.disk.isFile Config.default.catalogPath = false ∧
      Shared.configuration ⟨none, none, none, false⟩ cyberpunkTable.disk = .ok .default ∧
      (brawl none).error = none ∧ (brawl none).journal.output =
        ["  Rin rolls Brawling (Cyberpunk RED)", "", "  dice:   1d10 (1) = 1",
          "  bonus:  +10  DEX 6 + BRAWLING 4", "  total:  11"] := by
    decide +kernel
  obtain ⟨hok, hplace, hreach, hc, herror, hlines⟩ := hruns
  refine ⟨herror, hlines, ?_⟩
  exact runs_as_named (r := cyberpunkTable) rfl hok (c := .default) rfl hplace
    (fun _ => hreach) hc rfl rfl rfl

/-- A catalog behind a folder that is not there: its path goes through the folder
of the data and out of it again. It has the systems of two keys that differ in
case only, each with its fields in their order. -/
def hiddenCatalog : Disk :=
  let system := "[\"House\", [\"wit\"], \x7b\x7d, null, null, \"d20\"]"
  ((Disk.blank ["home"]).put ["home", "tirada.toml"]
    (.file "catalog_path = \"data/../systems.json\"\n".toUTF8)).put ["home", "systems.json"]
    (.file ("\x7b\"DND5E\": " ++ system ++ ", \"dnd5e\": " ++ system ++ "\x7d").toUTF8)

/-- **Setting a system may bring a catalog into reach,** and then the group plays
another system than the one that the key names. The reference systems are in use
when `DND5E` is set, and their key `dnd5e` is stored; the folder that is made for
the settings opens the way to a catalog with both spellings. -/
theorem key_is_split_by_hidden_catalog :
    let s : Shared := ⟨some "tirada.toml", none, none, false⟩
    let r := runShared s (.ofSeed 1) hiddenCatalog (.setSystem "DND5E" (some "table"))
    r.error = none ∧
      r.disk.locate "data/../systems.json" = .ok ["home", "systems.json"] ∧
      r.disk.locate "data/server_settings.json" = .ok ["home", "data", "server_settings.json"] ∧
      (runShared s (.ofSeed 1) r.disk (.characters none (some "table"))).journal.output =
        ["  No characters for dnd5e."] ∧
      (runShared s (.ofSeed 1) r.disk (.characters (some "DND5E") (some "table"))).journal.output =
        ["  No characters for DND5E."] := by
  decide +kernel

end Command
end Tabletop
