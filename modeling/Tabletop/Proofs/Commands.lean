/-
# What a command finds

A command is made of parts that tell something and may fail. Running one part
after another is said once (`Telling.bind_eq_ok`), and from that what each part
has found where it succeeds: the catalog, the system that was named or that a
group plays (`Config.Chooses`), the record of a character, and last the change
that a command asks for (`Action.Asks`). A command that only reads asks for no
change, and ends with what it has told.

Key definitions: `Config.Chooses`, `Action.readsOnly`, `Action.Asks`.
Key theorems: `Command.Telling.bind_eq_ok`, `Command.Context.systemKey_eq_ok`,
`Command.Context.character_eq_ok`, `Command.Action.asks_of_plan`,
`Command.Action.run_of_plan_none`.
-/
import Tabletop.Command.Run
import Tabletop.Proofs.CatalogLookup

namespace Tabletop

/-- The system of a catalog that is meant: the one that is named, or the one
that the group plays. -/
inductive Config.Chooses (c : Config) (d : Disk) (catalog : Catalog) (group : String) :
    Option String → GameSystem → Prop
  | named {key : String} {g : GameSystem} (h : catalog.get? key = some g) :
      Chooses c d catalog group (some key) g
  | active {key : String} {g : GameSystem} (ha : c.settings.activeSystem d group = .ok key)
      (h : catalog.get? key = some g) : Chooses c d catalog group none g

namespace Command

/-! ### Parts one after the other -/

namespace Telling

variable {α β : Type} {m : Telling α} {f : α → Telling β} {a : α} {b : β} {e : CommandError}
  {c : α} {i j j' : Journal}

theorem bind_of_ok (h : m j = (.ok a, i)) : (m >>= f) j = f a i := by
  show (match m j with | (r, i) => ExceptT.bindCont f r i) = _
  rw [h]
  rfl

theorem bind_of_error (h : m j = (.error e, i)) : (m >>= f) j = (.error e, i) := by
  show (match m j with | (r, i) => ExceptT.bindCont f r i) = _
  rw [h]
  rfl

/-- **Two parts succeed** if the first does, and the second does after it. -/
theorem bind_eq_ok : (m >>= f) j = (.ok b, j') ↔
    ∃ a i, m j = (.ok a, i) ∧ f a i = (.ok b, j') := by
  cases hm : m j with
  | mk r i =>
    cases r with
    | ok a =>
      rw [bind_of_ok hm]
      constructor
      · intro h
        exact ⟨a, i, rfl, h⟩
      · rintro ⟨_, _, h, hf⟩
        cases h
        exact hf
    | error e =>
      rw [bind_of_error hm]
      exact ⟨fun h => (nomatch h), fun ⟨_, _, h, _⟩ => (nomatch h)⟩

theorem need_eq_ok {r : Except StoreError α} :
    need r j = (.ok a, j') ↔ r = .ok a ∧ j' = j := by
  cases r with
  | ok a' =>
    constructor
    · intro h
      cases h
      exact ⟨rfl, rfl⟩
    · rintro ⟨h, rfl⟩
      cases h
      rfl
  | error e => exact ⟨fun h => (nomatch h), fun ⟨h, _⟩ => (nomatch h)⟩

theorem pure_eq_ok : (pure a : Telling α) j = (.ok c, j') ↔ a = c ∧ j = j' := by
  constructor
  · intro h
    cases h
    exact ⟨rfl, rfl⟩
  · rintro ⟨rfl, rfl⟩
    rfl

end Telling

open Telling

/-! ### Telling a list -/

section Told

variable {α : Type} {act : α → Telling Unit} {f : α → String}

theorem forM_of_adds (add : List String → Journal → Journal) (hnil : ∀ j, add [] j = j)
    (happend : ∀ xs ys j, add ys (add xs j) = add (xs ++ ys) j)
    (hact : ∀ x j, act x j = (.ok (), add [f x] j)) :
    ∀ (xs : List α) (j : Journal), xs.forM act j = (.ok (), add (xs.map f) j)
  | [], j => by
    rw [List.map_nil, hnil]
    rfl
  | x :: xs, j => by
    show (act x >>= fun _ => xs.forM act) j = _
    rw [bind_of_ok (hact x j), forM_of_adds add hnil happend hact xs, happend]
    rfl

theorem forM_say (f : α → String) (xs : List α) (j : Journal) :
    (xs.forM fun x => say (f x)) j = (.ok (), { j with output := j.output ++ xs.map f }) :=
  forM_of_adds (fun lines j => { j with output := j.output ++ lines })
    (fun j => by rw [List.append_nil]) (fun xs ys j => by rw [List.append_assoc])
    (fun _ _ => rfl) xs j

theorem forM_warn (f : α → String) (xs : List α) (j : Journal) :
    (xs.forM fun x => warn (f x)) j = (.ok (), { j with warnings := j.warnings ++ xs.map f }) :=
  forM_of_adds (fun lines j => { j with warnings := j.warnings ++ lines })
    (fun j => by rw [List.append_nil]) (fun xs ys j => by rw [List.append_assoc])
    (fun _ _ => rfl) xs j

end Told

namespace Context

variable {x : Context} {catalog : Catalog} {named : Option String} {name group key : String}
  {record : Character} {j j' : Journal}

/-! ### The catalog and its systems -/

theorem catalog_eq_ok (h : x.catalog j = (.ok catalog, j')) :
    x.config.loadCatalog x.disk = .ok catalog := by
  unfold Context.catalog at h
  obtain ⟨verdicts, _, hv, h⟩ := bind_eq_ok.mp h
  obtain ⟨_, _, -, h⟩ := bind_eq_ok.mp h
  obtain ⟨rfl, -⟩ := pure_eq_ok.mp h
  obtain ⟨hv, -⟩ := need_eq_ok.mp hv
  unfold Config.loadCatalog
  cases hload : x.config.verdicts x.disk with
  | error e =>
    rw [hload] at hv
    cases hv
  | ok v =>
    rw [hload] at hv
    cases hv
    rfl

/-- **A catalog that is loaded is found,** with nothing but warnings told. -/
theorem catalog_of_loadCatalog (h : x.config.loadCatalog x.disk = .ok catalog) (j : Journal) :
    ∃ warnings, x.catalog j = (.ok catalog, { j with warnings }) := by
  unfold Config.loadCatalog at h
  cases hv : x.config.verdicts x.disk with
  | error e =>
    rw [hv] at h
    cases h
  | ok verdicts =>
    have hneed : need ((x.config.verdicts x.disk).mapError .catalog) j = (.ok verdicts, j) := by
      rw [hv]
      rfl
    rw [hv] at h
    have hcatalog : Config.catalogOf verdicts = catalog := Except.ok.inj h
    have htold := forM_warn CatalogNotice.message ((verdicts.getD []).flatMap Verdict.notices) j
    exact ⟨_, bind_eq_ok.mpr ⟨verdicts, j, hneed,
      bind_eq_ok.mpr ⟨(), _, htold, pure_eq_ok.mpr ⟨hcatalog, rfl⟩⟩⟩⟩

theorem lookUp_eq_ok {g : GameSystem} :
    lookUp catalog key j = (.ok g, j') ↔ catalog.get? key = some g ∧ j' = j := by
  unfold lookUp
  rw [need_eq_ok, ← Catalog.get_eq_ok]
  cases catalog.get key with
  | error e => exact ⟨fun h => (nomatch h.1), fun h => (nomatch h.1)⟩
  | ok g' => exact ⟨fun ⟨h, hj⟩ => ⟨by cases h; rfl, hj⟩, fun ⟨h, hj⟩ => ⟨by cases h; rfl, hj⟩⟩

/-- **The key of the system that is meant** is found exactly if there is such a
system, and nothing is told of it. -/
theorem systemKey_eq_ok : x.systemKey catalog named group j = (.ok key, j') ↔
    (∃ g, x.config.Chooses x.disk catalog group named g ∧ g.key = key) ∧ j' = j := by
  have hlook : ∀ requested : String,
      ((lookUp catalog requested >>= fun g => pure g.key) : Telling String) j = (.ok key, j') ↔
        (∃ g, catalog.get? requested = some g ∧ g.key = key) ∧ j' = j := fun requested => by
    rw [bind_eq_ok]
    constructor
    · rintro ⟨g, i, hg, h⟩
      obtain ⟨hget, rfl⟩ := lookUp_eq_ok.mp hg
      obtain ⟨rfl, rfl⟩ := pure_eq_ok.mp h
      exact ⟨⟨g, hget, rfl⟩, rfl⟩
    · rintro ⟨⟨g, hget, rfl⟩, rfl⟩
      exact ⟨g, j', lookUp_eq_ok.mpr ⟨hget, rfl⟩, rfl⟩
  cases named with
  | some requested =>
    refine (hlook requested).trans (and_congr_left fun _ => ?_)
    constructor
    · rintro ⟨g, hget, rfl⟩
      exact ⟨g, .named hget, rfl⟩
    · rintro ⟨g, hchosen, rfl⟩
      cases hchosen with
      | named hget => exact ⟨g, hget, rfl⟩
  | none =>
    have hunfold : x.systemKey catalog none group =
        need (x.config.settings.activeSystem x.disk group) >>= fun requested =>
          lookUp catalog requested >>= fun g => pure g.key := rfl
    rw [hunfold, bind_eq_ok]
    constructor
    · rintro ⟨requested, i, hneed, h⟩
      obtain ⟨hactive, rfl⟩ := need_eq_ok.mp hneed
      obtain ⟨⟨g, hget, rfl⟩, rfl⟩ := (hlook requested).mp h
      exact ⟨⟨g, .active hactive hget, rfl⟩, rfl⟩
    · rintro ⟨⟨g, hchosen, rfl⟩, rfl⟩
      cases hchosen with
      | active hactive hget =>
        exact ⟨_, j', need_eq_ok.mpr ⟨hactive, rfl⟩, (hlook _).mpr ⟨⟨g, hget, rfl⟩, rfl⟩⟩

theorem character_eq_ok
    (h : x.character name named group j = (.ok (key, record), j')) :
    ∃ catalog g, x.config.loadCatalog x.disk = .ok catalog ∧
      x.config.Chooses x.disk catalog group named g ∧ g.key = key ∧
      x.config.characters.load x.disk name key = .ok record := by
  unfold Context.character at h
  obtain ⟨catalog, _, hcatalog, h⟩ := bind_eq_ok.mp h
  obtain ⟨key', _, hkey, h⟩ := bind_eq_ok.mp h
  obtain ⟨record', _, hrecord, h⟩ := bind_eq_ok.mp h
  obtain ⟨hpair, -⟩ := pure_eq_ok.mp h
  obtain ⟨rfl, rfl⟩ := Prod.mk.inj hpair
  obtain ⟨⟨g, hchosen, rfl⟩, -⟩ := systemKey_eq_ok.mp hkey
  exact ⟨catalog, g, catalog_eq_ok hcatalog, hchosen, rfl, (need_eq_ok.mp hrecord).1⟩

end Context

/-! ### What a command asks for -/

namespace Action

/-- Commands that only read. -/
def readsOnly : Action → Bool
  | .setSystem _ _ => false
  | .diceStyle (some _) _ _ _ => false
  | _ => true

/-- The change that a command asks for, with all that it has found before. -/
inductive Asks (c : Config) (d : Disk) : Action → Change → Prop
  | nothing {a : Action} (h : a.readsOnly = true) : Asks c d a .none
  | activeSystem {key : String} {group : Option String} {catalog : Catalog}
      (hc : c.loadCatalog d = .ok catalog) :
      Asks c d (.setSystem key group) (.activeSystem (group.getD c.group) key catalog)
  | groupStyle {style : String} {system group : Option String} {styles : DiceStyles}
      (hs : DiceStyles.load d c.stylesPath = .ok styles) (hstyle : style ∈ styles.names) :
      Asks c d (.diceStyle (some style) none system group)
        (.groupStyle (group.getD c.group) style)
  | characterStyle {style name : String} {system group : Option String} {styles : DiceStyles}
      {catalog : Catalog} {g : GameSystem} {record : Character}
      (hs : DiceStyles.load d c.stylesPath = .ok styles) (hstyle : style ∈ styles.names)
      (hc : c.loadCatalog d = .ok catalog)
      (hg : c.Chooses d catalog (group.getD c.group) system g)
      (hr : c.characters.load d name g.key = .ok record) :
      Asks c d (.diceStyle (some style) (some name) system group)
        (.characterStyle name g.key record style)

theorem Asks.eq_none {c : Config} {d : Disk} {a : Action} {change : Change}
    (h : a.Asks c d change) (hr : a.readsOnly = true) : change = .none := by
  cases h with
  | nothing _ => rfl
  | activeSystem _ => cases hr
  | groupStyle _ _ => cases hr
  | characterStyle _ _ _ _ _ => cases hr

end Action

theorem mem_of_validate {styles : DiceStyles} {style : String}
    (h : styles.validate style = .ok ()) : style ∈ styles.names := by
  unfold DiceStyles.validate at h
  split at h
  · rename_i hc
    exact List.contains_iff_mem.mp hc
  · cases h

section Plans

variable {x : Context} {style named named' : Option String} {name group : String}
  {change : Change} {j j' : Journal}

/-- What is done with the record of a character once it is found. -/
theorem diceStyle_some : x.diceStyle style (some name) named group =
    need (DiceStyles.load x.disk x.config.stylesPath) >>= fun styles =>
      x.character name named group >>= fun found =>
        match style with
        | none => x.listStyles styles (some found.2) group >>= fun _ => pure .none
        | some style => need (styles.validate style) >>= fun _ =>
            pure (.characterStyle name found.1 found.2 style) := by
  cases style <;> rfl

theorem diceStyle_none : x.diceStyle style none named group =
    need (DiceStyles.load x.disk x.config.stylesPath) >>= fun styles =>
      match style with
      | none => x.listStyles styles none group >>= fun _ => pure .none
      | some style => need (styles.validate style) >>= fun _ => pure (.groupStyle group style) := by
  cases style <;> rfl

theorem none_of_bind {α : Type} {m : Telling α}
    (h : (m >>= fun _ => pure Change.none) j = (.ok change, j')) : change = .none := by
  obtain ⟨_, _, -, h⟩ := bind_eq_ok.mp h
  exact (pure_eq_ok.mp h).1.symm

theorem none_of_listStyles (h : x.diceStyle none named' named group j = (.ok change, j')) :
    change = .none := by
  cases named' with
  | none =>
    rw [diceStyle_none] at h
    obtain ⟨_, _, -, h⟩ := bind_eq_ok.mp h
    exact none_of_bind h
  | some name =>
    rw [diceStyle_some] at h
    obtain ⟨_, _, -, h⟩ := bind_eq_ok.mp h
    obtain ⟨_, _, -, h⟩ := bind_eq_ok.mp h
    exact none_of_bind h

end Plans

/-- **A command asks for the change that goes with what it has found.** -/
theorem Action.asks_of_plan {x : Context} {a : Action} {change : Change} {j j' : Journal}
    (h : a.plan x j = (.ok change, j')) : a.Asks x.config x.disk change := by
  cases a with
  | check who what system group => exact none_of_bind h ▸ .nothing rfl
  | roll dice unrestricted faces group => exact none_of_bind h ▸ .nothing rfl
  | systems => exact none_of_bind h ▸ .nothing rfl
  | characters system group => exact none_of_bind h ▸ .nothing rfl
  | setSystem key group =>
    obtain ⟨catalog, _, hcatalog, h⟩ := bind_eq_ok.mp h
    rw [← (pure_eq_ok.mp h).1]
    exact .activeSystem (Context.catalog_eq_ok hcatalog)
  | suggest kind typed system group json =>
    cases kind with
    | checks =>
      obtain ⟨_, _, -, h⟩ := bind_eq_ok.mp h
      exact none_of_bind h ▸ .nothing rfl
    | characters =>
      obtain ⟨_, _, -, h⟩ := bind_eq_ok.mp h
      exact none_of_bind h ▸ .nothing rfl
  | diceStyle style name system group =>
    change x.diceStyle style name system (x.group group) j = _ at h
    cases style with
    | none => exact none_of_listStyles h ▸ .nothing rfl
    | some style =>
      cases name with
      | none =>
        rw [diceStyle_none] at h
        obtain ⟨styles, _, hstyles, h⟩ := bind_eq_ok.mp h
        obtain ⟨_, _, hvalid, h⟩ := bind_eq_ok.mp h
        rw [← (pure_eq_ok.mp h).1]
        exact .groupStyle (need_eq_ok.mp hstyles).1 (mem_of_validate (need_eq_ok.mp hvalid).1)
      | some name =>
        rw [diceStyle_some] at h
        obtain ⟨styles, _, hstyles, h⟩ := bind_eq_ok.mp h
        obtain ⟨⟨key, record⟩, _, hfound, h⟩ := bind_eq_ok.mp h
        obtain ⟨_, _, hvalid, h⟩ := bind_eq_ok.mp h
        rw [← (pure_eq_ok.mp h).1]
        obtain ⟨catalog, g, hcatalog, hchosen, rfl, hload⟩ := Context.character_eq_ok hfound
        exact .characterStyle (need_eq_ok.mp hstyles).1
          (mem_of_validate (need_eq_ok.mp hvalid).1) hcatalog hchosen hload

/-! ### Commands without a change -/

section Ends

variable {c : Config} {dice : DieSource} {d : Disk} {a : Action} {e : CommandError} {j : Journal}

theorem Action.run_of_plan_error (h : a.plan ⟨c, dice, d⟩ .empty = (.error e, j)) :
    a.run c dice d = ⟨d, j, some e⟩ := by
  unfold Action.run
  rw [h]

theorem Action.run_of_plan_none (h : a.plan ⟨c, dice, d⟩ .empty = (.ok .none, j)) :
    a.run c dice d = ⟨d, j, none⟩ := by
  unfold Action.run
  rw [h]
  exact congrArg (fun lines => (⟨d, ⟨lines, j.warnings⟩, none⟩ : Completion)) (List.append_nil _)

end Ends

end Command
end Tabletop
