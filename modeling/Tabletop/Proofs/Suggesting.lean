/-
# Suggesting never fails

A command that suggests finds the system that is meant like any other command, and
then offers its checks or the characters that are stored for it. What a command
finds on its way writes nothing (`Telling.Quiet`), so if it fails there is only a
warning to add (`Context.orWarn_error`), and the list is empty.

So the command succeeds on every disk, whatever cannot be read there, and writes all
that there is to suggest (`Config.Suggests`), or else an empty list
(`suggesting_never_fails`). As JSON it is one text, which is read as the choices again
(`Command.Completion.Offers`).

Key definitions: `Config.Means`, `Config.Suggests`, `Choice.lines`,
`Command.Completion.Offers`, `Telling.Quiet`.
Key theorems: `Config.Suggests.unique`, `Command.Context.meant_cases`,
`Command.Context.suggestions_eq`, `Command.suggesting_never_fails`.
-/
import Tabletop.Proofs.CheckJson
import Tabletop.Proofs.CommandEffects

namespace Tabletop

/-- The system that a command means: the catalog can be loaded, and the system is
in it that is named, or that the group plays. -/
def Config.Means (c : Config) (d : Disk) (named : Option String) (group : String)
    (g : GameSystem) : Prop :=
  ∃ catalog, c.loadCatalog d = .ok catalog ∧ c.Chooses d catalog group named g

/-- What there is to suggest for a text: the checks of the system that is meant, or
the characters that are stored for it and match, if they can be listed. -/
inductive Config.Suggests (c : Config) (d : Disk) (typed : String) (named : Option String)
    (group : String) : Command.SuggestKind → List Choice → Prop
  | checks {g : GameSystem} (hg : c.Means d named group g) :
      Suggests c d typed named group .checks (g.choices typed)
  | characters {g : GameSystem} {names : List String} (hg : c.Means d named group g)
      (hl : c.characters.list d g.key = .ok names) :
      Suggests c d typed named group .characters
        (Choice.filter (names.map fun n => ⟨Key.display n, n⟩) typed)

/-- The lines for choices: one text for all as JSON, an array with an object for each,
or else a line for each with a tab in it. -/
def Choice.lines (choices : List Choice) (json : Bool) : List String :=
  if json then [(Json.array (choices.map fun c =>
    .object [("name", .string c.name), ("value", .string c.value)])).pretty]
  else choices.map fun c => s!"{c.name}\t{c.value}"

/-- A command writes choices: their lines, and nothing else. What is written as JSON
is read as these choices again. -/
structure Command.Completion.Offers (r : Command.Completion) (choices : List Choice)
    (json : Bool) : Prop where
  lines : r.journal.output = Choice.lines choices json
  read : json = true → Json.decode (Json.list Choice.read) r.output = .ok choices

/-! ### What there is to suggest -/

section Unique

variable {c : Config} {d : Disk} {catalog : Catalog} {typed group : String}
  {named : Option String} {g g' : GameSystem} {kind : Command.SuggestKind}
  {choices choices' : List Choice}

theorem Config.Chooses.unique (h : c.Chooses d catalog group named g)
    (h' : c.Chooses d catalog group named g') : g = g' := by
  cases h with
  | named hg =>
    cases h' with
    | named hg' => exact Option.some.inj (hg.symm.trans hg')
  | active hkey hg =>
    cases h' with
    | active hkey' hg' =>
      cases hkey.symm.trans hkey'
      exact Option.some.inj (hg.symm.trans hg')

theorem Config.Means.unique (h : c.Means d named group g) (h' : c.Means d named group g') :
    g = g' := by
  obtain ⟨catalog, hload, hchosen⟩ := h
  obtain ⟨catalog', hload', hchosen'⟩ := h'
  cases hload.symm.trans hload'
  exact hchosen.unique hchosen'

theorem Config.Suggests.exists_means (h : c.Suggests d typed named group kind choices) :
    ∃ g, c.Means d named group g := by
  cases h with
  | checks hg => exact ⟨_, hg⟩
  | characters hg _ => exact ⟨_, hg⟩

/-- **There is one list to suggest.** -/
theorem Config.Suggests.unique (h : c.Suggests d typed named group kind choices)
    (h' : c.Suggests d typed named group kind choices') : choices = choices' := by
  cases h with
  | checks hg =>
    cases h' with
    | checks hg' => rw [hg.unique hg']
  | characters hg hl =>
    cases h' with
    | characters hg' hl' =>
      cases hg.unique hg'
      cases hl.symm.trans hl'
      rfl

end Unique

namespace Command

/-! ### Parts that write nothing -/

namespace Telling

variable {α β : Type} {m : Telling α} {f : α → Telling β} {r : Except CommandError α}
  {j j' : Journal}

/-- A part of a command that writes no line, whether it succeeds or fails. -/
def Quiet (m : Telling α) : Prop :=
  ∀ j, (m j).2.output = j.output

/-- A quiet part adds nothing but warnings. -/
theorem Quiet.eq_of_eq (hm : m.Quiet) (h : m j = (r, j')) :
    j' = { j with warnings := j'.warnings } := by
  have houtput : j'.output = j.output := by
    have hquiet := hm j
    rwa [h] at hquiet
  rw [← houtput]

theorem Quiet.bind (hm : m.Quiet) (hf : ∀ a, (f a).Quiet) : (m >>= f).Quiet := by
  intro j
  have hquiet := hm j
  cases h : m j with
  | mk r i =>
    rw [h] at hquiet
    cases r with
    | ok a =>
      rw [bind_of_ok h]
      exact (hf a i).trans hquiet
    | error e =>
      rw [bind_of_error h]
      exact hquiet

theorem quiet_pure (a : α) : (pure a : Telling α).Quiet := fun _ => rfl

theorem quiet_need (r : Except StoreError α) : (need r).Quiet := by
  intro j
  cases r <;> rfl

end Telling

open Telling

namespace Context

variable {x : Context} {catalog : Catalog} {named : Option String} {typed group : String}
  {α : Type} {m : Telling (List Choice)} {choices : List Choice} {e : CommandError}
  {j j' : Journal}

theorem quiet_catalog : x.catalog.Quiet := by
  refine (quiet_need _).bind fun verdicts => Quiet.bind (fun j => ?_) fun _ => quiet_pure _
  rw [forM_warn]

theorem quiet_lookUp (catalog : Catalog) (key : String) : (lookUp catalog key).Quiet :=
  quiet_need _

theorem quiet_systemKey (catalog : Catalog) (named : Option String) (group : String) :
    (x.systemKey catalog named group).Quiet := by
  have hlook (key : String) : (lookUp catalog key >>= fun g => pure g.key : Telling _).Quiet :=
    (quiet_lookUp catalog key).bind fun _ => quiet_pure _
  cases named with
  | some key => exact hlook key
  | none => exact (quiet_need _).bind hlook

/-! ### The system that is meant -/

/-- **What comes after the system is found** runs with it, and with nothing but
warnings told; if there is no such system, the command fails and has written
nothing. -/
theorem meant_cases (x : Context) (named : Option String) (group : String)
    (f : Catalog → String → Telling α) (j : Journal) :
    let run := x.catalog >>= fun catalog => x.systemKey catalog named group >>= f catalog
    (∃ catalog g warnings, x.config.Means x.disk named group g ∧ catalog.get? g.key = some g ∧
      run j = f catalog g.key { j with warnings }) ∨
    (∀ g, ¬x.config.Means x.disk named group g) ∧
      ∃ e warnings, run j = (.error e, { j with warnings }) := by
  intro run
  cases hload : x.config.loadCatalog x.disk with
  | error e =>
    right
    refine ⟨fun g ⟨_, hload', _⟩ => (nomatch hload'.symm.trans hload), ?_⟩
    cases hcatalog : x.catalog j with
    | mk r i =>
      cases r with
      | ok catalog => cases (catalog_eq_ok hcatalog).symm.trans hload
      | error e =>
        -- what was told before the error are warnings
        rw [quiet_catalog.eq_of_eq hcatalog] at hcatalog
        exact ⟨e, _, bind_of_error hcatalog⟩
  | ok catalog =>
    obtain ⟨warnings, hcatalog⟩ := catalog_of_loadCatalog hload j
    have hrun : run j = (x.systemKey catalog named group >>= f catalog) { j with warnings } :=
      bind_of_ok hcatalog
    cases hkey : x.systemKey catalog named group { j with warnings } with
    | mk r i =>
      cases r with
      | ok key =>
        left
        obtain ⟨⟨g, hchosen, rfl⟩, rfl⟩ := systemKey_eq_ok.mp hkey
        -- the key is that of the system, so it is found by it again
        have hget : catalog.get? g.key = some g := by
          cases hchosen with
          | named hg => exact Catalog.get?_key hg
          | active _ hg => exact Catalog.get?_key hg
        exact ⟨catalog, g, warnings, ⟨catalog, hload, hchosen⟩, hget,
          hrun.trans (bind_of_ok hkey)⟩
      | error e =>
        right
        refine ⟨fun g ⟨catalog', hload', hchosen⟩ => ?_, e, i.warnings, ?_⟩
        · cases hload'.symm.trans hload
          cases hkey.symm.trans (systemKey_eq_ok.mpr ⟨⟨g, hchosen, rfl⟩, rfl⟩)
        · have hfailed := hrun.trans (bind_of_error hkey)
          rw [(quiet_systemKey catalog named group).eq_of_eq hkey] at hfailed
          exact hfailed

/-! ### Lists that cannot be had -/

theorem orWarn_ok (message : String) (h : m j = (.ok choices, j')) :
    orWarn message m j = (.ok choices, j') := by
  simp only [orWarn, tryCatch, tryCatchThe, MonadExceptOf.tryCatch, ExceptT.tryCatch, ExceptT.mk,
    bind, StateT.bind, h]
  rfl

/-- **In place of an error there is an empty list,** and one more warning. -/
theorem orWarn_error (message : String) (h : m j = (.error e, j')) :
    orWarn message m j = (.ok [],
      { j' with warnings := j'.warnings ++ [s!"{message} error={e.message}"] }) := by
  simp only [orWarn, tryCatch, tryCatchThe, MonadExceptOf.tryCatch, ExceptT.tryCatch, ExceptT.mk,
    bind, StateT.bind, h]
  rfl

/-! ### Suggestions -/

/-- Suggests checks or characters. -/
def suggestions (x : Context) : SuggestKind → String → Option String → String →
    Telling (List Choice)
  | .checks => x.suggestChecks
  | .characters => x.suggestCharacters

theorem storedChoices_eq (x : Context) (key typed : String) (j : Journal) :
    (∃ names, x.config.characters.list x.disk key = .ok names ∧
      x.storedChoices key typed j = (.ok (CharacterStore.choicesOf names typed), j)) ∨
    (∀ names, x.config.characters.list x.disk key ≠ .ok names) ∧
      ∃ warning, x.storedChoices key typed j =
        (.ok [], { j with warnings := j.warnings ++ [warning] }) := by
  unfold storedChoices CharacterStore.choices
  cases x.config.characters.list x.disk key with
  | ok names => exact .inl ⟨names, rfl, rfl⟩
  | error e => exact .inr ⟨fun _ h => (nomatch h), _, rfl⟩

/-- **Suggestions are what there is to suggest,** or an empty list with a warning if
there is nothing that could be. -/
theorem suggestions_eq (x : Context) (kind : SuggestKind) (typed : String)
    (named : Option String) (group : String) (j : Journal) :
    ∃ choices warnings,
      x.suggestions kind typed named group j = (.ok choices, { j with warnings }) ∧
      (x.config.Suggests x.disk typed named group kind choices ∨
        choices = [] ∧ warnings ≠ [] ∧
          ∀ others, ¬x.config.Suggests x.disk typed named group kind others) := by
  cases kind with
  | checks =>
    rcases x.meant_cases named group
        (fun catalog key => lookUp catalog key >>= fun g => pure (g.choices typed)) j with
      ⟨catalog, g, warnings, hmeans, hget, hrun⟩ | ⟨hnone, e, warnings, hrun⟩
    · rw [bind_of_ok (lookUp_eq_ok.mpr ⟨hget, rfl⟩)] at hrun
      exact ⟨_, warnings, orWarn_ok _ hrun, .inl (.checks hmeans)⟩
    · have hempty := orWarn_error "no check suggestions" hrun
      refine ⟨[], _, hempty, .inr ⟨rfl, List.concat_ne_nil _ _, fun others h => ?_⟩⟩
      obtain ⟨g, hmeans⟩ := h.exists_means
      exact hnone g hmeans
  | characters =>
    rcases x.meant_cases named group (fun _ key => x.storedChoices key typed) j with
      ⟨catalog, g, warnings, hmeans, -, hrun⟩ | ⟨hnone, e, warnings, hrun⟩
    · rcases x.storedChoices_eq g.key typed { j with warnings } with
        ⟨names, hlist, hstored⟩ | ⟨hunlisted, warning, hstored⟩
      · exact ⟨_, warnings, orWarn_ok _ (hrun.trans hstored), .inl (.characters hmeans hlist)⟩
      · refine ⟨[], _, orWarn_ok _ (hrun.trans hstored),
          .inr ⟨rfl, List.concat_ne_nil _ _, fun others h => ?_⟩⟩
        cases h with
        | characters hmeans' hlist =>
          cases hmeans.unique hmeans'
          exact hunlisted _ hlist
    · have hempty := orWarn_error "no character suggestions" hrun
      refine ⟨[], _, hempty, .inr ⟨rfl, List.concat_ne_nil _ _, fun others h => ?_⟩⟩
      obtain ⟨g, hmeans⟩ := h.exists_means
      exact hnone g hmeans

theorem tellChoices_eq (choices : List Choice) (json : Bool) (j : Journal) :
    tellChoices choices json j =
      (.ok (), { j with output := j.output ++ Choice.lines choices json }) := by
  cases json with
  | true => rfl
  | false => exact forM_say (fun c : Choice => s!"{c.name}\t{c.value}") choices j

end Context

/-- **The lines for choices are what is to be written for them.** -/
theorem Completion.offers_lines {d : Disk} {warnings : List String} {error : Option CommandError}
    (choices : List Choice) (json : Bool) :
    Offers ⟨d, ⟨Choice.lines choices json, warnings⟩, error⟩ choices json where
  lines := rfl
  read hjson := by
    subst hjson
    have hread := (Json.restores_list Choice.restores).decode_pretty choices
    show Json.decode _ ("" ++ (_ ++ "\n")) = _
    rw [String.empty_append]
    exact hread

section Suggest

variable {s : Shared} {d : Disk} {c : Config}

theorem plan_suggest (x : Context) (kind : SuggestKind) (typed : String)
    (system group : Option String) (json : Bool) :
    (Action.suggest kind typed system group json).plan x =
      x.suggestions kind typed system (x.group group) >>= fun choices =>
        Context.tellChoices choices json >>= fun _ => pure Change.none := by
  cases kind <;> rfl

/-- **Suggesting never fails.** Under every configuration and on every disk the
command ends without an error and leaves the disk. It writes the choices that there
are to suggest for the system that is meant: its checks, or the characters that are
listed for it. If the catalog, the system or the list of characters cannot be had,
it writes an empty list and warns of it. -/
theorem suggesting_never_fails (h : s.configuration d = .ok c) (dice : DieSource)
    (kind : SuggestKind) (typed : String) (system group : Option String) (json : Bool) :
    let r := runShared s dice d (.suggest kind typed system group json)
    r.error = none ∧ r.exitCode = 0 ∧ r.disk = d ∧
    (∀ choices, c.Suggests d typed system (group.getD c.group) kind choices →
      r.Offers choices json) ∧
    ((∀ choices, ¬c.Suggests d typed system (group.getD c.group) kind choices) →
      r.Offers [] json ∧ r.journal.warnings ≠ []) := by
  intro r
  let x : Context := ⟨c, dice, d⟩
  obtain ⟨choices, warnings, hfound, hchoices⟩ :=
    x.suggestions_eq kind typed system (x.group group) .empty
  have hplan : (Action.suggest kind typed system group json).plan x .empty =
      (.ok .none, ⟨Choice.lines choices json, warnings⟩) := by
    rw [plan_suggest, bind_of_ok hfound, bind_of_ok (Context.tellChoices_eq choices json _)]
    rfl
  have hr : r = ⟨d, ⟨Choice.lines choices json, warnings⟩, none⟩ := by
    show runShared s dice d _ = _
    rw [runShared_of_configuration h]
    exact Action.run_of_plan_none hplan
  rw [hr]
  refine ⟨rfl, rfl, rfl, fun others hothers => ?_, fun hnone => ?_⟩
  · rcases hchoices with hsuggests | ⟨-, -, hnone⟩
    · rw [hsuggests.unique hothers]
      exact Completion.offers_lines others json
    · exact absurd hothers (hnone others)
  · rcases hchoices with hsuggests | ⟨rfl, hwarnings, -⟩
    · exact absurd hsuggests (hnone choices)
    · exact ⟨Completion.offers_lines [] json, hwarnings⟩

/-- The folder of the data, with a catalog, the settings of the groups and a stored
character. -/
def dataDisk (catalog groups : Entry) : Disk :=
  (((((Disk.blank ["home"]).put ["home", "data"] .folder).put ["home", "data", "characters"]
    .folder).put ["home", "data", "characters", "garra_house.json"] .locked).put
    ["home", "data", "game_systems.json"] catalog).put
    ["home", "data", "server_settings.json"] groups

/-- A system with a check of an attribute and one of a skill. -/
def teaHouse : GameSystem :=
  ⟨"house", "house", ["wit"], KeyMap.ofList [("tea", "wit")], .addRaw, .modifierPlusLevel, "d20",
    ⟨1, 20, 0⟩⟩

theorem teaHouse_choices :
    teaHouse.choices "A" = [⟨"Attribute: Wit", "wit"⟩, ⟨"Skill: Tea", "tea"⟩] := by
  have hsorted : teaHouse.allChoices = [⟨"Attribute: Wit", "wit"⟩, ⟨"Skill: Tea", "tea"⟩] :=
    List.mergeSort_of_pairwise (by decide +kernel)
  unfold GameSystem.choices
  rw [hsorted]
  decide +kernel

/-- Both checks of a system and a character are suggested, the system named in other
letters. The list is empty where the catalog or the settings of the groups are locked
and have to be read, and where the folder of the characters is hidden. -/
theorem garra_is_suggested :
    let s : Shared := ⟨none, none, none, false⟩
    let d := dataDisk (.file ("\x7b\"house\": \x7b\"attributes\": [\"wit\"], " ++
      "\"skills\": \x7b\"tea\": \"wit\"\x7d, \"diceNotation\": \"d20\"\x7d\x7d").toUTF8) .locked
    let hidden := d.hide ["home", "data", "characters"]
    let suggest (d : Disk) (kind : SuggestKind) (system : Option String) (json : Bool) :=
      (runShared s (.ofSeed 1) d (.suggest kind "A" system none json)).journal.output
    suggest d .checks (some "HOUSE") true = ["[\n  \x7b\n    \"name\": \"Attribute: Wit\",\n" ++
      "    \"value\": \"wit\"\n  \x7d,\n  \x7b\n    \"name\": \"Skill: Tea\",\n" ++
      "    \"value\": \"tea\"\n  \x7d\n]"] ∧
    suggest d .characters (some "HOUSE") false = ["Garra\tgarra"] ∧
    suggest d .checks none true = ["[]"] ∧
    suggest hidden .characters (some "house") true = ["[]"] ∧
    suggest (dataDisk .locked .locked) .checks (some "house") false = [] := by
  intro s d hidden suggest
  have hconf : ∀ d, s.configuration d = .ok Config.default := fun _ => rfl
  -- the system is found by its name, and its checks and a character by the text
  have hload : Config.default.loadCatalog d = .ok (.ofSystems [teaHouse]) := by decide +kernel
  have hget : (Catalog.ofSystems [teaHouse]).get? "HOUSE" = some teaHouse := by decide +kernel
  have hmeans : Config.default.Means d (some "HOUSE") "default" teaHouse :=
    ⟨_, hload, .named hget⟩
  have hlist : Config.default.characters.list d "house" = .ok ["garra"] := by decide +kernel
  obtain ⟨-, -, -, hchecks, -⟩ := suggesting_never_fails (hconf d) (.ofSeed 1) .checks "A"
    (some "HOUSE") none true
  obtain ⟨-, -, -, hcharacters, -⟩ := suggesting_never_fails (hconf d) (.ofSeed 1) .characters "A"
    (some "HOUSE") none false
  -- the settings of the groups are locked
  have hactive : Config.default.settings.activeSystem d "default" = .error (.file .refused) := by
    decide +kernel
  have hunplayed : ∀ choices, ¬Config.default.Suggests d "A" none "default" .checks choices := by
    intro choices h
    obtain ⟨_, _, _, hchosen⟩ := h.exists_means
    cases hchosen with
    | active hkey _ => cases hkey.symm.trans hactive
  obtain ⟨-, -, -, -, hplayed⟩ := suggesting_never_fails (hconf d) (.ofSeed 1) .checks "A"
    none none true
  -- the folder of the characters is hidden
  have hunlisted : ∀ choices,
      ¬Config.default.Suggests hidden "A" (some "house") "default" .characters choices := by
    rintro _ (_ | ⟨_, hl⟩)
    have hrefused : ∀ key, Config.default.characters.list hidden key = .error (.file .refused) :=
      fun _ => rfl
    cases hl.symm.trans (hrefused _)
  obtain ⟨-, -, -, -, hlisted⟩ := suggesting_never_fails (hconf hidden) (.ofSeed 1) .characters "A"
    (some "house") none true
  -- the catalog is locked
  have hlocked : Config.default.loadCatalog (dataDisk .locked .locked) =
      .error (.unreadable "data/game_systems.json" "the disk refused") := by
    decide +kernel
  have hunread : ∀ choices, ¬Config.default.Suggests (dataDisk .locked .locked) "A"
      (some "house") "default" .checks choices := by
    intro choices h
    obtain ⟨_, _, hl, _⟩ := h.exists_means
    cases hl.symm.trans hlocked
  obtain ⟨-, -, -, -, hread⟩ := suggesting_never_fails (hconf (dataDisk .locked .locked))
    (.ofSeed 1) .checks "A" (some "house") none false
  refine ⟨?_, ?_, (hplayed hunplayed).1.lines, (hlisted hunlisted).1.lines,
    (hread hunread).1.lines⟩
  · refine (hchecks _ (.checks hmeans)).lines.trans ?_
    rw [teaHouse_choices]
    decide +kernel
  · refine (hcharacters _ (.characters hmeans hlist)).lines.trans ?_
    decide +kernel

end Suggest

end Command
end Tabletop
