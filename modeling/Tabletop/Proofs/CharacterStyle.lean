/-
# The dice style of a character

A command that sets the style of a character loads the record and saves it again,
under the name and the system that it was loaded for. So only the one file
changes, and in it only the style (`Command.style_of_character_is_set_alone`).

A check reads a record without its style (`resolve_restyled`), and all else that
it reads is in other files, unless the path of the catalog leads to the record.
So checks end as they did (`Command.check_after`), and a listing stars the
style that was set, whatever the group has (`Command.Context.listing_eq`). It still
reads the settings of the group, and fails if they cannot be read, also where
setting the style did not need them.

The options stay in force too: no configuration is in the file of a record
(`Command.configuration_after`).

Key definition: `Config.FindsRecord`.
Key theorems: `Command.Context.listing_eq`, `Command.check_after`,
`Command.configuration_after`, `Command.style_of_character_is_set_alone`.
-/
import Tabletop.Proofs.ActiveSystem
import Tabletop.Proofs.RecordTexts
import Tabletop.Proofs.Rewriting

namespace Tabletop

/-- The record of a character, and the path of its file, that a command finds in
the system that is meant. -/
structure Config.FindsRecord (c : Config) (d : Disk) (name : String) (system : Option String)
    (group : String) (g : GameSystem) (record : Character) (path : String) : Prop where
  chosen : ∃ catalog, c.loadCatalog d = .ok catalog ∧ c.Chooses d catalog group system g
  path : c.characters.path name g.key = .ok path
  loaded : c.characters.load d name g.key = .ok record

/-- The lines of a listing, with a star at each style that is a given one. -/
def DiceStyles.starred (styles : DiceStyles) (style : String) : List String :=
  styles.names.map fun n => if n = style then s!"  * {n}" else s!"    {n}"

/-! ### Records in another style -/

section Restyled

variable (g : GameSystem) (c : Character) (style : Option String) (requested : String)

/-- **A check does not depend on the style.** -/
theorem resolve_restyled :
    resolve g { c with diceStyle := style } requested = resolve g c requested := rfl

end Restyled

/-! ### After a record is saved over itself -/

namespace Config

variable {c : Config} {d d' : Disk} {name system path : String} {record : Character}
  {style : Option String}

theorem verdicts_after (h : d.Rewritten path d')
    (hcatalog : d.locate c.catalogPath ≠ d.locate path) :
    c.verdicts d' = c.verdicts d := by
  have hfind := h.find hcatalog
  unfold Config.verdicts Disk.pathExists
  rw [hfind, Disk.loadVerdicts_congr hfind]

theorem chooses_after (hp : c.characters.path name system = .ok path) (h : d.Rewritten path d')
    {catalog : Catalog} {group : String} {named : Option String} {g : GameSystem}
    (hchosen : c.Chooses d catalog group named g) : c.Chooses d' catalog group named g := by
  cases hchosen with
  | named hg => exact .named hg
  | active hactive hg =>
    refine .active ?_ hg
    unfold SettingsStore.activeSystem at hactive ⊢
    rw [settings_after hp h]
    exact hactive

/-- **The record is found again** in the new style, by whatever name it was found. -/
theorem findsRecord_after (hload : c.characters.load d name system = .ok record)
    (hsave : c.characters.saveAs d name system { record with diceStyle := style } = (.ok path, d'))
    (hcatalog : d.locate c.catalogPath ≠ d.locate path) {name' group : String}
    {named : Option String} {g : GameSystem} {record' : Character}
    (h : c.FindsRecord d name' named group g record' path) :
    c.FindsRecord d' name' named group g { record with diceStyle := style } path := by
  have hrewritten := CharacterStore.rewrites_saveAs hload hsave
  obtain ⟨hp, hstored⟩ := CharacterStore.saveAs_ok hsave
  obtain ⟨catalog, hcatalogs, hchosen⟩ := h.chosen
  refine ⟨⟨catalog, ?_, chooses_after hp hrewritten hchosen⟩, h.path,
    CharacterStore.load_of_find (CharacterStore.find_of_holds h.path hstored.holds)⟩
  unfold Config.loadCatalog at hcatalogs ⊢
  rw [verdicts_after hrewritten hcatalog]
  exact hcatalogs

end Config

namespace Command

open Telling

namespace Context

variable {x : Context} {catalog : Catalog} {named : Option String} {name group path : String}
  {g : GameSystem} {record : Character} {styles : DiceStyles}

theorem character_of_findsRecord
    (h : x.config.FindsRecord x.disk name named group g record path) (j : Journal) :
    ∃ warnings, x.character name named group j = (.ok (g.key, record), { j with warnings }) := by
  obtain ⟨catalog, hload, hchosen⟩ := h.chosen
  obtain ⟨warnings, hcatalog⟩ := catalog_of_loadCatalog hload j
  have hkey := systemKey_eq_ok (j := { j with warnings }).mpr ⟨⟨g, hchosen, rfl⟩, rfl⟩
  exact ⟨warnings, bind_eq_ok.mpr ⟨catalog, _, hcatalog, bind_eq_ok.mpr ⟨g.key, _, hkey,
    bind_eq_ok.mpr ⟨record, _, need_eq_ok.mpr ⟨h.loaded, rfl⟩, rfl⟩⟩⟩⟩

/-! ### Listings -/

/-- **A listing for a character** comes down to the settings of the group: if they
can be read it stars the style in effect, and else it fails. -/
theorem listing_eq (h : x.config.FindsRecord x.disk name named group g record path)
    (hstyles : DiceStyles.load x.disk x.config.stylesPath = .ok styles) (j : Journal) :
    ∃ warnings, x.diceStyle none (some name) named group j =
      match x.config.settings.get x.disk group with
      | .error e => (.error (.store e), { j with warnings })
      | .ok settings => (.ok .none, {
          output := j.output ++
            styles.starred (effectiveStyle (some record) settings x.config.diceStyle)
          warnings }) := by
  obtain ⟨warnings, hfound⟩ := character_of_findsRecord h j
  refine ⟨warnings, ?_⟩
  have hload : need (DiceStyles.load x.disk x.config.stylesPath) j = (.ok styles, j) :=
    need_eq_ok.mpr ⟨hstyles, rfl⟩
  rw [diceStyle_some, bind_of_ok hload, bind_of_ok hfound]
  show ((x.listStyles styles (some record) group) >>= fun _ => pure Change.none) _ = _
  unfold listStyles
  cases hsettings : x.config.settings.get x.disk group with
  | error e => rfl
  | ok settings =>
    have hlines := forM_say (fun n =>
      if n = effectiveStyle (some record) settings x.config.diceStyle then s!"  * {n}"
      else s!"    {n}") styles.names { j with warnings }
    exact bind_eq_ok.mpr ⟨(), _, bind_eq_ok.mpr ⟨settings, _, rfl, hlines⟩, rfl⟩

end Context

/-! ### Commands after a record is saved over itself -/

section After

variable {c : Config} {d d' : Disk} {dice : DieSource} {name system path : String}
  {record : Character} {style : Option String}

theorem systemKey_after (hp : c.characters.path name system = .ok path) (h : d.Rewritten path d')
    (catalog : Catalog) (named : Option String) (group : String) :
    Context.systemKey ⟨c, dice, d'⟩ catalog named group =
      Context.systemKey ⟨c, dice, d⟩ catalog named group := by
  unfold Context.systemKey SettingsStore.activeSystem
  simp only [Config.settings_after hp h]

/-- **A check ends as it did** when a record was saved over itself in another
style, unless the catalog is in its file. -/
theorem check_after (hload : c.characters.load d name system = .ok record)
    (hsave : c.characters.saveAs d name system { record with diceStyle := style } = (.ok path, d'))
    (hcatalog : d.locate c.catalogPath ≠ d.locate path) (who what : String)
    (named : Option String) (group : String) :
    Context.check ⟨c, dice, d'⟩ who what named group =
      Context.check ⟨c, dice, d⟩ who what named group := by
  have hrewritten := CharacterStore.rewrites_saveAs hload hsave
  have hp := (CharacterStore.saveAs_ok hsave).1
  have hsame : Context.catalog ⟨c, dice, d'⟩ = Context.catalog ⟨c, dice, d⟩ := by
    unfold Context.catalog
    rw [Config.verdicts_after hrewritten hcatalog]
  unfold Context.check
  rw [hsame]
  refine bind_congr fun catalog => ?_
  rw [systemKey_after hp hrewritten]
  refine bind_congr fun key => bind_congr fun g => ?_
  rcases CharacterStore.load_after hload hsave who g.key with hkept | ⟨hold, hnew⟩
  · rw [hkept]
  · rw [hold, hnew]
    rfl

/-- **The options stay in force:** no configuration is in the file of a record. -/
theorem configuration_after (hp : c.characters.path name system = .ok path)
    (hload : c.characters.load d name system = .ok record) (h : d.Rewritten path d')
    (s : Shared) : s.configuration d' = s.configuration d ∨ ∃ e, s.configuration d = .error e := by
  unfold Shared.configuration
  cases hs : s.config with
  | none => exact .inl rfl
  | some file =>
    by_cases hfile : d.locate file = d.locate path
    · -- what is in the file is a record, so it was no configuration
      obtain ⟨text, htext, hdecode⟩ := CharacterStore.text_of_load hp hload
      have hread : d.readText file = .ok text := by
        rw [← htext]
        unfold Disk.readText Disk.readBytes Disk.find
        rw [hfile]
      have hbad : Config.load d file = .error .config := by
        unfold Config.load
        rw [hread]
        exact Config.ofText_of_record hdecode
      simp only [hbad]
      exact .inr ⟨_, rfl⟩
    · have hsame : Config.load d' file = Config.load d file := by
        unfold Config.load
        rw [Disk.readText_congr (h.find hfile)]
      left
      simp only [hsame]

end After

/-! ### Setting the style of a character -/

section SetStyle

variable {s : Shared} {dice : DieSource} {d : Disk} {style name : String}
  {system group : Option String} {r : Completion}

/-- **Setting the style of a character that succeeds** finds the record and saves
it again, in its file and in the new style. -/
theorem saveAs_of_diceStyle {c : Config}
    (h : ((Action.diceStyle (some style) (some name) system group).run c dice d).error = none) :
    ∃ g record path styles,
      c.FindsRecord d name system (group.getD c.group) g record path ∧
      DiceStyles.load d c.stylesPath = .ok styles ∧ style ∈ styles.names ∧
      c.characters.saveAs d name g.key { record with diceStyle := some style } =
        (.ok path,
          ((Action.diceStyle (some style) (some name) system group).run c dice d).disk) := by
  obtain ⟨e, herror, -⟩ | ⟨change, ha, ⟨e, herror, -⟩ | ⟨lines, -, happly⟩⟩ :=
    Action.run_cases c dice d (.diceStyle (some style) (some name) system group)
  · rw [h] at herror
    cases herror
  · rw [h] at herror
    cases herror
  · cases ha with
    | nothing hr => cases hr
    | @characterStyle _ _ _ _ styles catalog g record hs hstyle hc hg hr =>
      unfold Change.apply at happly
      simp only at happly
      split at happly
      · cases happly
      · rename_i path d' hsave
        obtain ⟨hlines, rfl⟩ := Prod.mk.inj happly
        exact ⟨g, record, path, styles,
          ⟨⟨catalog, hc, hg⟩, (CharacterStore.saveAs_ok hsave).1, hr⟩, hs, hstyle, hsave⟩

/-- A check leaves the disk, so what it ends with depends on what it tells. -/
theorem run_check_congr {c : Config} {d' : Disk} {who what : String} {named group : Option String}
    (h : Context.check ⟨c, dice, d'⟩ who what named (group.getD c.group) =
      Context.check ⟨c, dice, d⟩ who what named (group.getD c.group)) :
    (Action.check who what named group).run c dice d' =
      { (Action.check who what named group).run c dice d with disk := d' } := by
  have hplan : (Action.check who what named group).plan ⟨c, dice, d'⟩ =
      (Action.check who what named group).plan ⟨c, dice, d⟩ :=
    congrArg (fun m : Telling Unit => m >>= fun _ => pure Change.none) h
  cases htold : (Action.check who what named group).plan ⟨c, dice, d⟩ .empty with
  | mk outcome j =>
    have htold' := (congrFun hplan .empty).trans htold
    cases outcome with
    | error e => rw [Action.run_of_plan_error htold, Action.run_of_plan_error htold']
    | ok change =>
      obtain rfl := none_of_bind htold
      rw [Action.run_of_plan_none htold, Action.run_of_plan_none htold']

/-- **What a listing for a character ends with:** the styles, of which the one in
effect is starred, or the error of the settings. The disk stays. -/
theorem run_listing {c : Config} {named : Option String} {g : GameSystem} {record : Character}
    {path : String} {styles : DiceStyles}
    (h : c.FindsRecord d name named (group.getD c.group) g record path)
    (hstyles : DiceStyles.load d c.stylesPath = .ok styles) :
    let listing := (Action.diceStyle none (some name) named group).run c dice d
    listing.disk = d ∧
    (∀ settings, c.settings.get d (group.getD c.group) = .ok settings → listing.error = none ∧
      listing.journal.output = styles.starred (effectiveStyle (some record) settings c.diceStyle)) ∧
    ∀ e, c.settings.get d (group.getD c.group) = .error e →
      listing.error = some (.store e) ∧ listing.journal.output = [] := by
  intro listing
  obtain ⟨warnings, hplan⟩ := Context.listing_eq (x := ⟨c, dice, d⟩) h hstyles .empty
  cases hsettings : c.settings.get d (group.getD c.group) with
  | error e =>
    simp only [hsettings] at hplan
    have hlisting : listing = ⟨d, _, some (.store e)⟩ := Action.run_of_plan_error hplan
    rw [hlisting]
    refine ⟨rfl, fun _ h => (nomatch h), fun e' he => ?_⟩
    cases he
    exact ⟨rfl, rfl⟩
  | ok settings =>
    simp only [hsettings] at hplan
    have hlisting : listing = ⟨d, _, none⟩ := Action.run_of_plan_none hplan
    rw [hlisting]
    refine ⟨rfl, fun settings' hs => ?_, fun _ h => (nomatch h)⟩
    cases hs
    exact ⟨rfl, rfl⟩

/-- **Setting the style of a character changes only that.** The command finds the
record in the system that is meant, and the style among those that are known.
Its file is the only entry that changes, and the record that is loaded from it,
under whatever name and system, is the one that there was, in the new style. No
check resolves otherwise with it.

All options that asked for this configuration still do. If the path of the
catalog does not lead to the record, every check ends as it did before, and a
listing for a character in this file, if the settings of the group can be read,
stars the style that was set and no other one; if they cannot be read it fails. -/
theorem style_of_character_is_set_alone
    (hset : runShared s dice d (.diceStyle (some style) (some name) system group) = r)
    (hok : r.error = none) :
    ∃ c g record path styles, s.configuration d = .ok c ∧
      c.FindsRecord d name system (group.getD c.group) g record path ∧
      DiceStyles.load d c.stylesPath = .ok styles ∧ style ∈ styles.names ∧
      d.Rewritten path r.disk ∧
      (∀ name' key, c.characters.path name' key = .ok path →
        c.characters.load r.disk name' key = .ok { record with diceStyle := some style }) ∧
      (∀ g' requested, resolve g' { record with diceStyle := some style } requested =
        resolve g' record requested) ∧
      ∀ s', Shared.configuration s' d = .ok c → s'.configuration r.disk = .ok c ∧
        (d.locate c.catalogPath ≠ d.locate path →
          (∀ dice' who what system' group',
            runShared s' dice' r.disk (.check who what system' group') =
              { runShared s' dice' d (.check who what system' group') with disk := r.disk }) ∧
          ∀ dice' name' system' group' g' record',
            c.FindsRecord d name' system' (group'.getD c.group) g' record' path →
            let listing := runShared s' dice' r.disk (.diceStyle none (some name') system' group')
            listing.disk = r.disk ∧
            (∀ settings, c.settings.get d (group'.getD c.group) = .ok settings →
              listing.error = none ∧ listing.journal.output = styles.starred style) ∧
            ∀ e, c.settings.get d (group'.getD c.group) = .error e →
              listing.error = some (.store e) ∧ listing.journal.output = []) := by
  cases hc : s.configuration d with
  | error e =>
    unfold runShared at hset
    rw [hc] at hset
    subst hset
    cases hok
  | ok c =>
    rw [runShared_of_configuration hc] at hset
    subst hset
    obtain ⟨g, record, path, styles, hfinds, hstyles, hstyle, hsave⟩ := saveAs_of_diceStyle hok
    generalize ((Action.diceStyle (some style) (some name) system group).run c dice d).disk = d'
      at hsave
    have hrewritten := CharacterStore.rewrites_saveAs hfinds.loaded hsave
    have hloaded : ∀ name' key, c.characters.path name' key = .ok path →
        c.characters.load d' name' key = .ok { record with diceStyle := some style } :=
      fun name' key hp => CharacterStore.load_of_find
        (CharacterStore.find_of_holds hp (CharacterStore.saveAs_ok hsave).2.holds)
    refine ⟨c, g, record, path, styles, rfl, hfinds, hstyles, hstyle, hrewritten, hloaded,
      fun g' => resolve_restyled g' record _, fun s' hc' => ?_⟩
    have hstays : s'.configuration d' = .ok c := by
      rcases configuration_after hfinds.path hfinds.loaded hrewritten s' with hsame | ⟨e, he⟩
      · exact hsame.trans hc'
      · cases he.symm.trans hc'
    refine ⟨hstays, fun hcatalog => ⟨fun dice' who what system' group' => ?_,
      fun dice' name' system' group' g' record' hfound => ?_⟩⟩
    · rw [runShared_of_configuration hstays, runShared_of_configuration hc']
      exact run_check_congr (check_after hfinds.loaded hsave hcatalog who what system' _)
    · rw [runShared_of_configuration hstays]
      have hfound' := Config.findsRecord_after hfinds.loaded hsave hcatalog hfound
      have hstyles' : DiceStyles.load d' c.stylesPath = .ok styles :=
        (Config.styles_after hfinds.path hrewritten).trans hstyles
      obtain ⟨hdisk, hstarred, hfails⟩ := run_listing hfound' hstyles'
      rw [Config.settings_after hfinds.path hrewritten] at hstarred hfails
      exact ⟨hdisk, hstarred, hfails⟩

end SetStyle

/-! ### Two disks -/

/-- Garra's record has its keys in other spellings, the older name of a field, and
another name and system than its file. -/
def garraDisk : Disk :=
  recordDisk "garra_dnd5e.json" ("\x7b\"name\": \"Garra Stormborn\", \"system\": \"5E\", " ++
    "\"attributes\": \x7b\"DEX\": 14\x7d, \"skills_proficiency\": \x7b\"Climb\": true\x7d\x7d")
    ["data", "dice_styles.json"] "[\"gold\", \"jade\"]"

/-- Garra's record is written back to the file that it was in. -/
theorem garra_rolls_gold :
    let r := runShared ⟨none, none, none, false⟩ (.ofSeed 1) garraDisk
      (.diceStyle (some "gold") (some "GARRA") (some "DND5E") none)
    r.error = none ∧ ∃ g record path,
      Config.default.FindsRecord garraDisk "GARRA" (some "DND5E") "default" g record path ∧
      garraDisk.Rewritten path r.disk ∧
      Config.default.characters.load r.disk "GARRA" g.key =
        .ok { record with diceStyle := some "gold" } := by
  have hok : (runShared ⟨none, none, none, false⟩ (.ofSeed 1) garraDisk
      (.diceStyle (some "gold") (some "GARRA") (some "DND5E") none)).error = none := by
    decide +kernel
  obtain ⟨c, g, record, path, styles, hc, hfinds, -, -, hrewritten, hloaded, -⟩ :=
    style_of_character_is_set_alone rfl hok
  obtain rfl : Config.default = c := Except.ok.inj hc
  exact ⟨hok, g, record, path, hfinds, hrewritten, hloaded _ _ hfinds.path⟩

/-- The settings of the groups on this disk cannot be read. -/
def unreadableSettings : Disk :=
  recordDisk "rin_dnd5e.json" "[\"Rin\", \"dnd5e\"]" ["data", "server_settings.json"] "?"

/-- The catalog on this disk is a record that has a game system in it. -/
def catalogInRecord : Disk :=
  recordDisk "r_d.json" ("\x7b\"name\":\"R\",\"system\":\"d\"," ++
    "\"d\":\x7b\"attributes\":[\"w\"],\"diceNotation\":\"d1\"\x7d\x7d")
    ["rc"] "catalog_path=\"data/characters/r_d.json\""

/-- **A listing may star nothing, and a check may fail,** after the style of a
character was set: the settings of the groups cannot be read, or the record that
was saved again had the catalog in its file. -/
theorem style_that_is_set_is_not_always_seen :
    (let s : Shared := ⟨none, none, none, false⟩
      let r := runShared s (.ofSeed 1) unreadableSettings
        (.diceStyle (some defaultDiceStyle) (some "Rin") (some "dnd5e") none)
      let listing := runShared s (.ofSeed 1) r.disk
        (.diceStyle none (some "Rin") (some "dnd5e") none)
      r.error = none ∧ listing.error = some (.store (.data .malformed)) ∧
        listing.journal.output = []) ∧
    (let s : Shared := ⟨some "rc", none, none, false⟩
      let r := runShared s (.ofSeed 1) catalogInRecord
        (.diceStyle (some defaultDiceStyle) (some "R") (some "d") none)
      let check : Action := .check "R" "w" (some "d") none
      r.error = none ∧ (runShared s (.ofSeed 1) catalogInRecord check).error = none ∧
        (runShared s (.ofSeed 1) r.disk check).error.isSome) := by
  constructor
  · have hconf (d : Disk) : Shared.configuration ⟨none, none, none, false⟩ d =
        .ok Config.default := rfl
    simp only [runShared_of_configuration (hconf _)]
    have hok : ((Action.diceStyle (some defaultDiceStyle) (some "Rin") (some "dnd5e") none).run
        Config.default (.ofSeed 1) unreadableSettings).error = none := by decide +kernel
    have hsettings : Config.default.settings.get unreadableSettings "default" =
        .error (.data .malformed) := by decide +kernel
    obtain ⟨g, record, path, styles, hfinds, hstyles, -, hsave⟩ := saveAs_of_diceStyle hok
    have hrewritten := CharacterStore.rewrites_saveAs hfinds.loaded hsave
    have hcatalog := Config.catalog_ne_record hfinds.path hrewritten.before rfl
    have hstyles' := (Config.styles_after hfinds.path hrewritten).trans hstyles
    obtain ⟨-, -, hfails⟩ := run_listing
      (Config.findsRecord_after hfinds.loaded hsave hcatalog hfinds) hstyles'
    exact ⟨hok, hfails _ ((Config.settings_after hfinds.path hrewritten _).trans hsettings)⟩
  · decide +kernel

end Command
end Tabletop
