/-
# Snapshots over calls

A handle has one catalog in place. It is put there as a whole, by a call that gives
it or by one that loads it from a file, and the file is whatever it is when the call
is made. A file holds one catalog or none (`Disk.loadCatalog_eq_ok`,
`Disk.loadCatalog_eq_error`); from one that holds none nothing is loaded, and the
catalog in place stays.

So after any calls the catalog in place is the one that the last of them which could
put one there has put there (`CatalogHandle.snapshot_run`), and what each call gives
is told by the calls before it (`CatalogHandle.turns_run`). Systems come into a
catalog only after they were judged: in every snapshot that is ever given the
systems are without errors and throw the dice of their notation
(`Catalog.Sourced.sound`).

Key definitions: `Disk.HasCatalog`, `Disk.LacksCatalog`, `Catalog.Sourced`,
`CatalogCall`, `CatalogHandle.run`, `Snapshot.after`, `Snapshot.Turns`.
Key theorems: `Catalog.Reflects.unique`, `Disk.loadCatalog_eq_ok`,
`Disk.loadCatalog_eq_error`, `CatalogHandle.snapshot_run`,
`CatalogHandle.turns_run`, `CatalogHandle.snapshots_follow_calls`.
-/
import Tabletop.Catalog.Handle
import Tabletop.Proofs.CatalogExport
import Tabletop.Proofs.CatalogLookup
import Tabletop.Proofs.SystemConsistency
import Tabletop.Store.Files

namespace Tabletop

/-! ### Catalogs in files -/

namespace Catalog

variable {c c' : Catalog} {es : List (String × Json.Draft)}

/-- **The entries of a text make one catalog.** -/
theorem Reflects.unique (h : c.Reflects es) (h' : c'.Reflects es) : c = c' := by
  have hsystems : c.systems = c'.systems := by
    apply KeyMap.ext_get?
    intro key
    apply Option.ext
    intro g
    rw [h.held, h'.held]
  have hnodup : ∀ {c : Catalog}, c.Reflects es → c.rejected.Nodup := fun h =>
    List.Nodup.of_map _ (KeyMap.nodup_of_ascending h.rejected_ascend)
  have hrejected : c.rejected = c'.rejected := by
    have hperm : c.rejected.Perm c'.rejected :=
      (List.perm_ext_iff_of_nodup (hnodup h) (hnodup h')).mpr fun r => by
        rw [h.listed r.key r.error, h'.listed r.key r.error]
    have hanti : ∀ a b, a ∈ c.rejected → b ∈ c'.rejected → a.key < b.key → b.key < a.key → a = b :=
      fun a b _ _ hab hba => absurd (String.lt_trans hab hba) (String.lt_irrefl _)
    exact hperm.eq_of_pairwise hanti (List.pairwise_map.mp h.rejected_ascend)
      (List.pairwise_map.mp h'.rejected_ascend)
  cases c
  cases c'
  cases hsystems
  cases hrejected
  rfl

variable {text : String}

theorem ofText_of_tree_error {e : Json.ReadError} (h : Json.tree text = .error e) :
    ofText text = .error .notJson := by
  unfold ofText judgeAll
  rw [h]
  rfl

theorem ofText_of_tree_object {ms : Json.Members} (h : Json.tree text = .ok (.object ms)) :
    ofText text = .ok (ofVerdicts (judgeMembers ms)) := by
  unfold ofText judgeAll
  rw [h]
  rfl

theorem ofText_of_tree_other {j : Json.Draft} (h : Json.tree text = .ok j)
    (hother : ∀ ms, j ≠ .object ms) : ofText text = .error .notObject := by
  unfold ofText judgeAll
  rw [h]
  cases j with
  | object ms => exact absurd rfl (hother ms)
  | _ => rfl

end Catalog

namespace Disk

variable {d : Disk} {path text : String} {c : Catalog} {e : CatalogError}

/-- A file holds a catalog: its text is an object, and the catalog reflects the
entries of it. -/
inductive HasCatalog (d : Disk) (path : String) (c : Catalog) : Prop
  | object {text : String} {es : List (String × Json.Draft)} (h : d.readText path = .ok text)
      (hes : Json.objectMembers text = some es) (hc : c.Reflects es)

/-- Why a file holds no catalog: it is not there, no text can be read from it, or the
text is no JSON, or no object. -/
inductive LacksCatalog (d : Disk) (path : String) : CatalogError → Prop
  | missing (h : d.find path = .error .notFound) :
      LacksCatalog d path (.unreadable path FileError.notFound.message)
  | unreadable {e : FileError} (h : d.readText path = .error e) :
      LacksCatalog d path (.unreadable path e.message)
  | notJson {text : String} {e : Json.ReadError} (h : d.readText path = .ok text)
      (htree : Json.tree text = .error e) : LacksCatalog d path .notJson
  | notObject {text : String} {j : Json.Draft} (h : d.readText path = .ok text)
      (htree : Json.tree text = .ok j) (hother : ∀ ms, j ≠ .object ms) :
      LacksCatalog d path .notObject

theorem loadCatalog_of_readText (h : d.readText path = .ok text) :
    d.loadCatalog path = Catalog.ofText text := by
  unfold loadCatalog loadVerdicts
  rw [h]
  rfl

theorem loadCatalog_of_readText_error {e : FileError} (h : d.readText path = .error e) :
    d.loadCatalog path = .error (.unreadable path e.message) := by
  unfold loadCatalog loadVerdicts
  rw [h]
  rfl

theorem readText_of_missing (h : d.find path = .error .notFound) :
    d.readText path = .error .notFound := by
  unfold readText readBytes
  rw [h]
  rfl

theorem ofText_of_loadCatalog (h : d.loadCatalog path = .ok c) :
    ∃ text, d.readText path = .ok text ∧ Catalog.ofText text = .ok c := by
  cases hread : d.readText path with
  | error e =>
    rw [loadCatalog_of_readText_error hread] at h
    cases h
  | ok text =>
    rw [loadCatalog_of_readText hread] at h
    exact ⟨text, rfl, h⟩

/-- **The catalog that a file holds is loaded,** and no other one. -/
theorem loadCatalog_eq_ok : d.loadCatalog path = .ok c ↔ d.HasCatalog path c := by
  constructor
  · intro h
    obtain ⟨text, hread, htext⟩ := ofText_of_loadCatalog h
    cases hes : Json.objectMembers text with
    | none =>
      rw [Catalog.ofText_of_objectMembers_eq_none hes] at htext
      cases htext
    | some es =>
      rw [Catalog.ofText_of_objectMembers hes] at htext
      cases htext
      exact .object hread hes (Catalog.reflects_ofEntries es)
  · rintro ⟨hread, hes, hc⟩
    rw [loadCatalog_of_readText hread, Catalog.ofText_of_objectMembers hes,
      hc.unique (Catalog.reflects_ofEntries _)]

/-- **Where a file holds no catalog nothing is loaded,** and the error says why. -/
theorem loadCatalog_eq_error : d.loadCatalog path = .error e ↔ d.LacksCatalog path e := by
  constructor
  · intro h
    cases hread : d.readText path with
    | error cause =>
      rw [loadCatalog_of_readText_error hread] at h
      cases h
      exact .unreadable hread
    | ok text =>
      rw [loadCatalog_of_readText hread] at h
      cases htree : Json.tree text with
      | error cause =>
        rw [Catalog.ofText_of_tree_error htree] at h
        cases h
        exact .notJson hread htree
      | ok j =>
        by_cases hobject : ∃ ms, j = .object ms
        · obtain ⟨ms, rfl⟩ := hobject
          rw [Catalog.ofText_of_tree_object htree] at h
          cases h
        · have hother : ∀ ms, j ≠ .object ms := fun ms hj => hobject ⟨ms, hj⟩
          rw [Catalog.ofText_of_tree_other htree hother] at h
          cases h
          exact .notObject hread htree hother
  · intro h
    cases h with
    | missing h => exact loadCatalog_of_readText_error (readText_of_missing h)
    | unreadable h => exact loadCatalog_of_readText_error h
    | notJson h htree =>
      rw [loadCatalog_of_readText h]
      exact Catalog.ofText_of_tree_error htree
    | notObject h htree hother =>
      rw [loadCatalog_of_readText h]
      exact Catalog.ofText_of_tree_other htree hother

end Disk

/-! ### Catalogs that were judged -/

/-- A system that can be played: it has no errors, and its dice are those of its
notation. -/
structure GameSystem.Sound (g : GameSystem) : Prop where
  no_error : ∀ i ∈ g.issues, i.isError = false
  dice : Dice.parse g.diceText = .ok g.primary

instance (g : GameSystem) : Decidable g.Sound :=
  decidable_of_iff ((∀ i ∈ g.issues, i.isError = false) ∧ Dice.parse g.diceText = .ok g.primary)
    ⟨fun ⟨herrors, hdice⟩ => ⟨herrors, hdice⟩, fun h => ⟨h.no_error, h.dice⟩⟩

theorem GameSystem.sound_of_ofSource {g : GameSystem} {key : String} {s : SystemSource}
    (h : ofSource key s = .ok g) : g.Sound :=
  ⟨no_error_iff.mpr (consistent_of_ofSource h), (follows_of_ofSource h).primary⟩

namespace Catalog

variable {c : Catalog} {g : GameSystem}

/-- A catalog that came with the library or was read from a text. -/
inductive Sourced : Catalog → Prop
  | builtin : Sourced builtin
  | text {text : String} {c : Catalog} (h : ofText text = .ok c) : Sourced c

theorem sound_builtin : ∀ g ∈ builtin.toList, g.Sound := by
  decide +kernel

/-- **The systems of such a catalog are sound.** -/
theorem Sourced.sound (h : c.Sourced) (hg : g ∈ c.toList) : g.Sound := by
  cases h with
  | builtin => exact sound_builtin g hg
  | text h =>
    obtain ⟨s, hs⟩ := exists_source_of_ofText h (mem_toList_iff.mp hg)
    exact GameSystem.sound_of_ofSource hs

end Catalog

/-! ### Calls -/

/-- A call on a handle. One that loads a file has the disk as it is then. -/
inductive CatalogCall where
  | replace (c : Catalog)
  | reload (d : Disk) (path : String)
  | snapshot

/-- What a call gives. -/
inductive CatalogAnswer where
  | replaced (before : Snapshot)
  | reloaded (result : Except CatalogError Snapshot)
  | taken (s : Snapshot)

/-- The snapshot that is given, if there is one. -/
def CatalogAnswer.snapshot? : CatalogAnswer → Option Snapshot
  | replaced s => some s
  | reloaded r => r.toOption
  | taken s => some s

namespace CatalogHandle

/-- Takes a call. -/
def call (h : CatalogHandle) : CatalogCall → CatalogAnswer × CatalogHandle
  | .replace c => (.replaced (h.replace c).1, (h.replace c).2)
  | .reload d path =>
    (.reloaded (h.reload (d.loadCatalog path)).1, (h.reload (d.loadCatalog path)).2)
  | .snapshot => (.taken h.snapshot, h)

/-- Takes calls; gives what each of them gave. -/
def run (h : CatalogHandle) : List CatalogCall → List CatalogAnswer × CatalogHandle
  | [] => ([], h)
  | q :: qs =>
    let (a, h) := h.call q
    let (as, h) := h.run qs
    (a :: as, h)

end CatalogHandle

/-- The catalog that a call puts in place, if there is one. -/
def CatalogCall.puts : CatalogCall → Option Catalog
  | replace c => some c
  | reload d path => (d.loadCatalog path).toOption
  | snapshot => none

namespace Snapshot

variable {s s' t : Snapshot} {q : CatalogCall} {a : CatalogAnswer}

/-- What is in place after calls: the last catalog that one of them puts there, or else
the first one. The calls that put one there are counted. -/
def after (s : Snapshot) (qs : List CatalogCall) : Snapshot where
  catalog := (qs.reverse.findSome? CatalogCall.puts).getD s.catalog
  revision := s.revision + qs.countP fun q => q.puts.isSome

theorem after_append (s : Snapshot) (as bs : List CatalogCall) :
    s.after (as ++ bs) = (s.after as).after bs := by
  unfold after
  rw [List.reverse_append, List.findSome?_append, Option.getD_or, List.countP_append, Nat.add_assoc]

/-- What a call gives, and which snapshot is in place before it and after it. -/
inductive Turns : Snapshot → CatalogCall → CatalogAnswer → Snapshot → Prop
  | replaced (s : Snapshot) (c : Catalog) :
      Turns s (.replace c) (.replaced s) ⟨c, s.revision + 1⟩
  | reloaded {d : Disk} {path : String} {c : Catalog} (s : Snapshot) (h : d.HasCatalog path c) :
      Turns s (.reload d path) (.reloaded (.ok ⟨c, s.revision + 1⟩)) ⟨c, s.revision + 1⟩
  | failed {d : Disk} {path : String} {e : CatalogError} (s : Snapshot)
      (h : d.LacksCatalog path e) : Turns s (.reload d path) (.reloaded (.error e)) s
  | taken (s : Snapshot) : Turns s .snapshot (.taken s) s

/-- A snapshot that is given was in place before the call, or is after it. -/
theorem Turns.given (h : Turns s q a s') (ha : a.snapshot? = some t) : t = s ∨ t = s' := by
  cases h with
  | replaced => exact .inl (Option.some.inj ha).symm
  | reloaded => exact .inr (Option.some.inj ha).symm
  | failed => cases ha
  | taken => exact .inl (Option.some.inj ha).symm

theorem Turns.next (h : Turns s q a s') : s' = s.after [q] := by
  cases h with
  | replaced c => rfl
  | taken => rfl
  | reloaded _ h =>
    have hload := Disk.loadCatalog_eq_ok.mpr h
    simp [after, CatalogCall.puts, hload, Except.toOption]
  | failed _ h =>
    have hload := Disk.loadCatalog_eq_error.mpr h
    simp [after, CatalogCall.puts, hload, Except.toOption]

theorem sourced_of_puts {c : Catalog} (h : q.puts = some c)
    (hq : ∀ c, q = .replace c → c.Sourced) : c.Sourced := by
  cases q with
  | replace c' =>
    cases h
    exact hq c rfl
  | reload d path =>
    cases hload : d.loadCatalog path with
    | error e =>
      rw [CatalogCall.puts, hload] at h
      cases h
    | ok c' =>
      rw [CatalogCall.puts, hload] at h
      cases h
      obtain ⟨_, -, htext⟩ := Disk.ofText_of_loadCatalog hload
      exact .text htext
  | snapshot => cases h

/-- **What is in place was sourced,** if all that was given was. -/
theorem sourced_after {qs : List CatalogCall} (hs : s.catalog.Sourced)
    (hqs : ∀ c, .replace c ∈ qs → c.Sourced) : (s.after qs).catalog.Sourced := by
  unfold after
  cases hput : qs.reverse.findSome? CatalogCall.puts with
  | none => exact hs
  | some c =>
    obtain ⟨q, hq, hputs⟩ := List.exists_of_findSome?_eq_some hput
    exact sourced_of_puts hputs fun c h => hqs c (h ▸ List.mem_reverse.mp hq)

end Snapshot

/-! ### Runs -/

namespace CatalogHandle

open Snapshot (Turns)

/-- **One call turns the snapshot in place.** -/
theorem turns_call (h : CatalogHandle) (q : CatalogCall) :
    Turns h.snapshot q (h.call q).1 (h.call q).2.snapshot := by
  cases q with
  | replace c => exact .replaced _ c
  | snapshot => exact .taken _
  | reload d path =>
    simp only [call]
    cases hload : d.loadCatalog path with
    | ok c => exact .reloaded _ (Disk.loadCatalog_eq_ok.mp hload)
    | error e => exact .failed _ (Disk.loadCatalog_eq_error.mp hload)

/-- **After any calls the catalog that was put in place last is there.** -/
theorem snapshot_run (h : CatalogHandle) (qs : List CatalogCall) :
    (h.run qs).2.snapshot = h.snapshot.after qs := by
  induction qs generalizing h with
  | nil => rfl
  | cons q qs ih =>
    have hrest : (h.run (q :: qs)).2 = ((h.call q).2.run qs).2 := rfl
    rw [hrest, ih, (turns_call h q).next, ← Snapshot.after_append, List.singleton_append]

theorem length_run (h : CatalogHandle) (qs : List CatalogCall) :
    (h.run qs).1.length = qs.length := by
  induction qs generalizing h with
  | nil => rfl
  | cons q qs ih => exact congrArg Nat.succ (ih (h.call q).2)

/-- What a call in a run gives is what it gives after the calls before it. -/
theorem getElem?_run (h : CatalogHandle) {qs : List CatalogCall} {n : Nat} {q : CatalogCall}
    (hq : qs[n]? = some q) : (h.run qs).1[n]? = some ((h.run (qs.take n)).2.call q).1 := by
  induction qs generalizing h n with
  | nil => cases hq
  | cons p qs ih =>
    cases n with
    | zero =>
      cases hq
      rfl
    | succ n => exact ih (h.call p).2 hq

/-- **Each call of a run turns the snapshot that the calls before it have left.** -/
theorem turns_run (h : CatalogHandle) {qs : List CatalogCall} {n : Nat} {q : CatalogCall}
    (hq : qs[n]? = some q) : ∃ a, (h.run qs).1[n]? = some a ∧
      Turns (h.snapshot.after (qs.take n)) q a (h.snapshot.after (qs.take (n + 1))) := by
  refine ⟨_, h.getElem?_run hq, ?_⟩
  have hturns := turns_call (h.run (qs.take n)).2 q
  have hnext : qs.take (n + 1) = qs.take n ++ [q] := by
    rw [List.take_add_one, hq]
    rfl
  rwa [hturns.next, snapshot_run, ← Snapshot.after_append, ← hnext] at hturns

/-- **Every snapshot that a run gives was sourced,** if all that was given was. -/
theorem sourced_run {h : CatalogHandle} {qs : List CatalogCall} {a : CatalogAnswer} {s : Snapshot}
    (hfirst : h.snapshot.catalog.Sourced) (hcalls : ∀ c, .replace c ∈ qs → c.Sourced)
    (ha : a ∈ (h.run qs).1) (hs : a.snapshot? = some s) : s.catalog.Sourced := by
  obtain ⟨n, hn⟩ := List.mem_iff_getElem?.mp ha
  have hlt : n < qs.length := by
    rw [← length_run h qs]
    exact (List.getElem?_eq_some_iff.mp hn).1
  obtain ⟨a', hn', hturns⟩ := turns_run h (List.getElem?_eq_getElem hlt)
  obtain rfl : a = a' := Option.some.inj (hn.symm.trans hn')
  -- it is one of two snapshots that were in place, and those were sourced
  have hafter : ∀ m, (h.snapshot.after (qs.take m)).catalog.Sourced := fun m =>
    Snapshot.sourced_after hfirst fun c hc => hcalls c (List.mem_of_mem_take hc)
  rcases hturns.given hs with rfl | rfl
  · exact hafter n
  · exact hafter (n + 1)

/-- **Snapshots follow the calls.** Let the first catalog and those that replace it
have come with the library or been read from texts. Then each call of a run gives what
is in place, which is the catalog that the last successful call has put there as a
whole: a snapshot is that catalog, and replacing it gives the one that was there just
before. Loading a file that holds a catalog puts that one in place; loading a file that
is missing, cannot be read, or is no JSON or no object fails and changes nothing. In
every snapshot that is given all systems are sound. -/
theorem snapshots_follow_calls {h : CatalogHandle} {qs : List CatalogCall}
    (hfirst : h.snapshot.catalog.Sourced) (hcalls : ∀ c, .replace c ∈ qs → c.Sourced) :
    (∀ n q, qs[n]? = some q → ∃ a, (h.run qs).1[n]? = some a ∧
      Turns (h.snapshot.after (qs.take n)) q a (h.snapshot.after (qs.take (n + 1)))) ∧
    (∀ n d path e, qs[n]? = some (.reload d path) → d.LacksCatalog path e →
      (h.run qs).1[n]? = some (.reloaded (.error e)) ∧
        h.snapshot.after (qs.take (n + 1)) = h.snapshot.after (qs.take n)) ∧
    ((h.run qs).1.length = qs.length ∧ (h.run qs).2.snapshot = h.snapshot.after qs) ∧
    ∀ a ∈ (h.run qs).1, ∀ s, a.snapshot? = some s → ∀ g ∈ s.catalog.toList, g.Sound := by
  refine ⟨fun n q hq => turns_run h hq, fun n d path e hq hlacks => ?_,
    ⟨length_run h qs, snapshot_run h qs⟩, fun a ha s hs g hg => ?_⟩
  · obtain ⟨a, ha, hturns⟩ := turns_run h hq
    have hload := Disk.loadCatalog_eq_error.mpr hlacks
    generalize h.snapshot.after (qs.take (n + 1)) = later at hturns ⊢
    cases hturns with
    | reloaded _ hhas =>
      have hloaded := Disk.loadCatalog_eq_ok.mpr hhas
      rw [hload] at hloaded
      cases hloaded
    | failed _ hlacks' =>
      obtain rfl := Except.error.inj (hload.symm.trans (Disk.loadCatalog_eq_error.mpr hlacks'))
      exact ⟨ha, rfl⟩
  · exact (sourced_run hfirst hcalls ha hs).sound hg

/-- The working folder with a file of a catalog. -/
def houseDisk (text : String) : Disk :=
  (Disk.blank ["home"]).put ["home", "house.json"] (.file text.toUTF8)

/-- A file that is not there yet, then has a system and an entry that is none, and
then is no object any more; what it had when it could be loaded is in place until it
is replaced. -/
theorem house_stays_until_replaced :
    let house := "\x7b\"house\": \x7b\"attributes\": [\"Wit\"], \"diceNotation\": \"2d6\"\x7d, " ++
      "\"tea\": 7\x7d"
    let qs : List CatalogCall := [.reload (.blank ["home"]) "house.json",
      .reload (houseDisk house) "house.json", .reload (houseDisk "[7]") "house.json",
      .replace .builtin, .snapshot]
    let r := (ofCatalog .builtin).run qs
    r.1[0]? = some (.reloaded (.error (.unreadable "house.json" "no such file or directory"))) ∧
    r.1[2]? = some (.reloaded (.error .notObject)) ∧
    (∃ s, r.1[3]? = some (.replaced s) ∧ s.catalog.keys = ["house"] ∧
      s.catalog.rejected.map (·.key) = ["tea"] ∧ ∀ g ∈ s.catalog.toList, g.Sound) ∧
    r.1[4]? = some (.taken ⟨.builtin, 2⟩) := by
  intro house qs r
  have hcalls : ∀ c, .replace c ∈ qs → c.Sourced := by
    intro c hc
    simp only [qs, List.mem_cons, reduceCtorEq, CatalogCall.replace.injEq, List.not_mem_nil,
      false_or, or_false] at hc
    exact hc ▸ .builtin
  obtain ⟨hturns, hfails, -, hsound⟩ := snapshots_follow_calls (h := ofCatalog .builtin) .builtin
    hcalls
  have hmissing := hfails 0 _ _ _ rfl (.missing (by decide +kernel))
  have hread : (houseDisk "[7]").readText "house.json" = .ok "[7]" := by decide +kernel
  have hother := hfails 2 _ _ _ rfl (.notObject hread rfl nofun)
  have hreplaced : r.1[3]? =
      some (.replaced ((ofCatalog .builtin).snapshot.after (qs.take 3))) := by
    obtain ⟨a, ha, hturn⟩ := hturns 3 _ rfl
    generalize (ofCatalog .builtin).snapshot.after (qs.take 4) = later at hturn
    cases hturn
    exact ha
  have htaken : r.1[4]? = some (.taken ((ofCatalog .builtin).snapshot.after (qs.take 4))) := by
    obtain ⟨a, ha, hturn⟩ := hturns 4 _ rfl
    generalize (ofCatalog .builtin).snapshot.after (qs.take 5) = later at hturn
    cases hturn
    exact ha
  have hlast : (ofCatalog .builtin).snapshot.after (qs.take 4) = ⟨.builtin, 2⟩ := by decide +kernel
  exact ⟨hmissing.1, hother.1, ⟨_, hreplaced, by decide +kernel, by decide +kernel,
    hsound _ (List.mem_of_getElem? hreplaced) _ rfl⟩, hlast ▸ htaken⟩

end CatalogHandle
end Tabletop
