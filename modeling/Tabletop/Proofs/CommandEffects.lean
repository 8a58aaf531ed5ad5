/-
# What a command leaves

A command changes files with the change that it asks for, and with nothing else.
A change that succeeds writes one file, the settings or the record of a character
(`Action.Writes`), and one that fails changes no file, at whatever step. So a
command that fails leaves all files as they were, one that only reads leaves the
disk alone, and each of the others writes just its own file
(`files_after_command`).

Setting a system looks the system up once more after the file is written; it was
found before, and so it is found again (`Change.apply_of_setActiveSystem`).

Key definition: `Action.Writes`.
Key theorems: `Change.apply_error`, `Change.apply_ok`, `Action.run_cases`,
`files_after_command`.
-/
import Tabletop.Proofs.CharacterStore
import Tabletop.Proofs.Commands
import Tabletop.Proofs.SettingsStore

namespace Tabletop
namespace Command

/-! ### The file of a command -/

/-- The file that a command writes where it succeeds, and the value in it, with
all that the command has found before. -/
inductive Action.Writes (c : Config) (d : Disk) : Action → String → Json → Prop
  | activeSystem {key : String} {group : Option String} {catalog : Catalog} {g : GameSystem}
      {groups : KeyMap GroupSettings} (hc : c.loadCatalog d = .ok catalog)
      (hg : catalog.get? key = some g) (hs : c.settings.all d = .ok groups) :
      Writes c d (.setSystem key group) c.settings.path
        (SettingsStore.changed groups (group.getD c.group)
          fun settings => { settings with activeSystem := some g.key })
  | groupStyle {style : String} {system group : Option String} {styles : DiceStyles}
      {groups : KeyMap GroupSettings} (hd : DiceStyles.load d c.stylesPath = .ok styles)
      (hstyle : style ∈ styles.names) (hs : c.settings.all d = .ok groups) :
      Writes c d (.diceStyle (some style) none system group) c.settings.path
        (SettingsStore.changed groups (group.getD c.group)
          fun settings => { settings with diceStyle := some style })
  | characterStyle {style name path : String} {system group : Option String} {styles : DiceStyles}
      {catalog : Catalog} {g : GameSystem} {record : Character}
      (hd : DiceStyles.load d c.stylesPath = .ok styles) (hstyle : style ∈ styles.names)
      (hc : c.loadCatalog d = .ok catalog)
      (hg : c.Chooses d catalog (group.getD c.group) system g)
      (hr : c.characters.load d name g.key = .ok record)
      (hp : c.characters.path name g.key = .ok path) :
      Writes c d (.diceStyle (some style) (some name) system group) path
        ({ record with diceStyle := some style } : Character).json

/-! ### Changes -/

section Changes

variable {c : Config} {d d' : Disk} {a : Action} {change : Change}

/-- **Once the system of a group is written, setting it does not fail:** the key
that was stored is in the catalog. -/
theorem Change.apply_of_setActiveSystem {group key found : String} {catalog : Catalog}
    (h : c.settings.setActiveSystem d group key catalog = (.ok found, d')) :
    ∃ lines, (Change.activeSystem group key catalog).apply c d = (.ok lines, d') := by
  obtain ⟨g, hg, rfl, -⟩ := SettingsStore.setActiveSystem_eq_ok.mp h
  have hagain : catalog.get g.key = .ok g := Catalog.get_eq_ok.mpr (Catalog.get?_key hg)
  refine ⟨[s!"  Group '{group}' now plays {g.name} ({g.key})"], ?_⟩
  unfold Change.apply
  simp only [h, hagain]

theorem Change.apply_activeSystem_cases {group key : String} {catalog : Catalog}
    {r : Except StoreError (List String)}
    (h : (Change.activeSystem group key catalog).apply c d = (r, d')) :
    (∃ e, r = .error e ∧ c.settings.setActiveSystem d group key catalog = (.error e, d')) ∨
      ∃ lines found, r = .ok lines ∧
        c.settings.setActiveSystem d group key catalog = (.ok found, d') := by
  cases hset : c.settings.setActiveSystem d group key catalog with
  | mk outcome d₁ =>
    cases outcome with
    | error e =>
      unfold Change.apply at h
      simp only [hset] at h
      cases h
      exact .inl ⟨e, rfl, rfl⟩
    | ok found =>
      obtain ⟨lines, happly⟩ := Change.apply_of_setActiveSystem hset
      rw [happly] at h
      cases h
      exact .inr ⟨lines, found, rfl, rfl⟩

/-- **A change that fails changes no file.** -/
theorem Change.apply_error {e : StoreError} (h : change.apply c d = (.error e, d')) :
    d.AfterFailure e d' := by
  cases change with
  | none => cases h
  | activeSystem group key catalog =>
    obtain ⟨_, he, hset⟩ | ⟨_, _, hok, _⟩ := Change.apply_activeSystem_cases h
    · cases he
      exact SettingsStore.setActiveSystem_afterFailure hset
    · cases hok
  | groupStyle group style =>
    unfold Change.apply at h
    simp only at h
    split at h
    · rename_i hset
      cases h
      exact SettingsStore.update_afterFailure hset
    · cases h
  | characterStyle name system record style =>
    unfold Change.apply at h
    simp only at h
    split at h
    · rename_i hsave
      cases h
      exact CharacterStore.saveAs_afterFailure hsave
    · cases h

/-- **A change that succeeds writes the file of its command,** or there is no
change. -/
theorem Change.apply_ok {lines : List String} (ha : a.Asks c d change)
    (h : change.apply c d = (.ok lines, d')) :
    (a.readsOnly = true ∧ d' = d) ∨ a.readsOnly = false ∧
      ∃ path j, a.Writes c d path j ∧ d.Stored path (j.pretty.toUTF8.push 10) d' := by
  cases ha with
  | nothing hr =>
    cases h
    exact .inl ⟨hr, rfl⟩
  | activeSystem hc =>
    refine .inr ⟨rfl, ?_⟩
    obtain ⟨_, he, _⟩ | ⟨_, _, _, hset⟩ := Change.apply_activeSystem_cases h
    · cases he
    · obtain ⟨g, hg, -, hu⟩ := SettingsStore.setActiveSystem_eq_ok.mp hset
      obtain ⟨groups, hall, hstored⟩ := SettingsStore.update_stores hu
      exact ⟨_, _, .activeSystem hc hg hall, hstored⟩
  | groupStyle hd hstyle =>
    refine .inr ⟨rfl, ?_⟩
    unfold Change.apply at h
    simp only at h
    split at h
    · cases h
    · rename_i hset
      cases h
      obtain ⟨groups, hall, hstored⟩ := SettingsStore.update_stores hset
      exact ⟨_, _, .groupStyle hd hstyle hall, hstored⟩
  | characterStyle hd hstyle hc hg hr =>
    refine .inr ⟨rfl, ?_⟩
    unfold Change.apply at h
    simp only at h
    split at h
    · cases h
    · rename_i hsave
      cases h
      obtain ⟨hp, hstored⟩ := CharacterStore.saveAs_ok hsave
      exact ⟨_, _, .characterStyle hd hstyle hc hg hr hp, hstored⟩

end Changes

/-! ### Commands -/

/-- **How a command can end:** it fails on what it reads, and the disk is as it
was; or its change fails; or its change is made. -/
theorem Action.run_cases (c : Config) (dice : DieSource) (d : Disk) (a : Action) :
    (∃ e, (a.run c dice d).error = some e ∧ (a.run c dice d).disk = d) ∨
    ∃ change, a.Asks c d change ∧
      ((∃ e, (a.run c dice d).error = some (.store e) ∧
          change.apply c d = (.error e, (a.run c dice d).disk)) ∨
        ∃ lines, (a.run c dice d).error = none ∧
          change.apply c d = (.ok lines, (a.run c dice d).disk)) := by
  unfold Action.run
  cases hplan : a.plan ⟨c, dice, d⟩ .empty with
  | mk r j =>
    cases r with
    | error e => exact .inl ⟨e, rfl, rfl⟩
    | ok change =>
      refine .inr ⟨change, Action.asks_of_plan hplan, ?_⟩
      cases happly : change.apply c d with
      | mk r d' =>
        cases r with
        | error e => exact .inl ⟨e, by simp only [happly], by simp only [happly]⟩
        | ok lines => exact .inr ⟨lines, by simp only [happly], by simp only [happly]⟩

theorem runShared_of_configuration {s : Shared} {c : Config} {d : Disk}
    (h : s.configuration d = .ok c) (dice : DieSource) (a : Action) :
    runShared s dice d a = a.run c dice d := by
  unfold runShared
  rw [h]

/-- **Commands that fail or only read change no file, and the others change one.**
Under any shared options, on any disk: a command that only reads leaves the disk
as it was. A command that fails leaves every file as it was, and has made no more
than folders, and those only if the file could not be saved. A command that
changes something and succeeds writes the file of the settings, or that of the
character that is named, and leaves every other file as it was. Once the system
of a group is written, setting it succeeds. -/
theorem files_after_command (s : Shared) (dice : DieSource) (d : Disk) (a : Action) :
    (a.readsOnly = true → (runShared s dice d a).disk = d) ∧
    (∀ e, (runShared s dice d a).error = some e → d.Grows (runShared s dice d a).disk ∧
      ((runShared s dice d a).disk = d ∨ ∃ path cause, e = .store (.cannotSave path cause))) ∧
    (a.readsOnly = false → (runShared s dice d a).error = none →
      ∃ c path j, s.configuration d = .ok c ∧ a.Writes c d path j ∧
        d.Stored path (j.pretty.toUTF8.push 10) (runShared s dice d a).disk) ∧
    (∀ (c : Config) group key catalog found d',
      c.settings.setActiveSystem d group key catalog = (.ok found, d') →
      ∃ lines, (Change.activeSystem group key catalog).apply c d = (.ok lines, d')) := by
  have hset : ∀ (c : Config) group key catalog found d',
      c.settings.setActiveSystem d group key catalog = (.ok found, d') →
      ∃ lines, (Change.activeSystem group key catalog).apply c d = (.ok lines, d') :=
    fun _ _ _ _ _ _ h => Change.apply_of_setActiveSystem h
  cases hc : s.configuration d with
  | error e =>
    unfold runShared
    rw [hc]
    exact ⟨fun _ => rfl, fun _ _ => ⟨.refl d, .inl rfl⟩, fun _ h => (nomatch h), hset⟩
  | ok c =>
    rw [runShared_of_configuration hc]
    obtain ⟨e, herror, hdisk⟩ | ⟨change, ha, ⟨e, herror, happly⟩ | ⟨lines, herror, happly⟩⟩ :=
      Action.run_cases c dice d a
    · -- it fails on what it reads
      rw [herror, hdisk]
      exact ⟨fun _ => rfl, fun _ _ => ⟨.refl d, .inl rfl⟩, fun _ h => (nomatch h), hset⟩
    · -- its change fails
      have hafter := Change.apply_error happly
      rw [herror]
      refine ⟨fun hr => ?_, fun _ he => ⟨hafter.grows, ?_⟩, fun _ h => (nomatch h), hset⟩
      · obtain rfl := ha.eq_none hr
        cases happly
      · cases he
        obtain hsame | ⟨path, cause, rfl⟩ := hafter.same_or_unsaved
        · exact .inl hsame
        · exact .inr ⟨path, cause, rfl⟩
    · -- its change is made
      rw [herror]
      obtain ⟨hr, hdisk⟩ | ⟨hr, path, j, hwrites, hstored⟩ := Change.apply_ok ha happly
      · refine ⟨fun _ => hdisk, fun _ h => (nomatch h), fun hr' => ?_, hset⟩
        rw [hr] at hr'
        cases hr'
      · refine ⟨fun hr' => ?_, fun _ h => (nomatch h),
          fun _ _ => ⟨c, path, j, rfl, hwrites, hstored⟩, hset⟩
        rw [hr] at hr'
        cases hr'

/-- A system in another case is chosen on a bare disk. -/
theorem cyberpunk_is_written_alone :
    (runShared ⟨none, none, none, false⟩ (.ofSeed 1) (.blank ["home"])
      (.setSystem "CYBERPUNKred" none)).error = none ∧
    ∃ c path j, Shared.configuration ⟨none, none, none, false⟩ (.blank ["home"]) = .ok c ∧
      Action.Writes c (.blank ["home"]) (.setSystem "CYBERPUNKred" none) path j ∧
      Disk.Stored (.blank ["home"]) path (j.pretty.toUTF8.push 10)
        (runShared ⟨none, none, none, false⟩ (.ofSeed 1) (.blank ["home"])
          (.setSystem "CYBERPUNKred" none)).disk := by
  have hok : (runShared ⟨none, none, none, false⟩ (.ofSeed 1) (.blank ["home"])
      (.setSystem "CYBERPUNKred" none)).error = none := by decide +kernel
  exact ⟨hok, (files_after_command _ _ _ _).2.2.1 rfl hok⟩

end Command
end Tabletop
