/-
# Looking up a system again

A key that a catalog has is looked up as it stands. Any other key is compared
with those of the catalog without regard to the case of ASCII letters, and the
first one that has the same letters is taken (`Catalog.get_eq_ok_iff`). Whatever
key a system was found under, it has its own key in the catalog, and under that
key it is found again (`Catalog.get?_key`), also where another key has the same
letters. So the catalog's spelling of a key can be kept and asked for later.

Key definition: `Catalog.Finds`.
Key theorems: `Catalog.held_of_get?`, `Catalog.get?_key`,
`Catalog.get_eq_ok_iff`, `Catalog.get?_ofSystems`,
`Catalog.lookup_is_canonical`.
-/
import Tabletop.Catalog.Basic

namespace Tabletop
namespace Catalog

variable {c : Catalog} {key : String} {g g' : GameSystem}

theorem get_eq_ok : c.get key = .ok g ↔ c.get? key = some g := by
  unfold get
  cases c.get? key with
  | none => exact ⟨fun h => (nomatch h), fun h => (nomatch h)⟩
  | some g' => exact ⟨fun h => congrArg some (Except.ok.inj h), fun h => by rw [Option.some.inj h]⟩

theorem key_of_held (h : c.systems.get? key = some g) : g.key = key :=
  c.keyed _ ((c.systems.mem_entries_iff key g).mpr h)

/-- **A system that was found is held at its own key.** -/
theorem held_of_get? (h : c.get? key = some g) : c.systems.get? g.key = some g := by
  unfold get? at h
  cases hexact : c.systems.get? key with
  | some g' =>
    rw [hexact, Option.some_or] at h
    cases h
    rw [key_of_held hexact, hexact]
  | none =>
    rw [hexact, Option.none_or] at h
    obtain ⟨e, he, rfl⟩ := List.mem_map.mp (List.mem_of_find?_eq_some h)
    rw [c.keyed e he]
    exact (c.systems.mem_entries_iff e.1 e.2).mp he

theorem get?_of_held (h : c.systems.get? g.key = some g) : c.get? g.key = some g := by
  unfold get?
  rw [h]
  rfl

/-- **A system that was found is found again under its own key.** -/
theorem get?_key (h : c.get? key = some g) : c.get? g.key = some g :=
  get?_of_held (held_of_get? h)

/-! ### Keys and systems -/

theorem mem_toList_iff : g ∈ c.toList ↔ c.systems.get? g.key = some g := by
  unfold toList KeyMap.values
  rw [List.mem_map, ← KeyMap.mem_entries_iff]
  constructor
  · rintro ⟨e, he, rfl⟩
    rw [c.keyed e he]
    exact he
  · intro h
    exact ⟨_, h, rfl⟩

theorem keys_eq : c.keys = c.toList.map (·.key) := by
  unfold keys toList KeyMap.keys KeyMap.values
  rw [List.map_map]
  exact List.map_congr_left fun e he => (c.keyed e he).symm

/-- **A catalog of some systems holds the last one of each key.** -/
theorem get?_ofSystems (gs : List GameSystem) (key : String) :
    (ofSystems gs).systems.get? key = gs.reverse.find? (·.key == key) := by
  -- the systems are put in one after the other, over what is there already
  have hfold : ∀ (gs : List GameSystem) (c : Catalog), (gs.foldl add c).systems.get? key =
      (gs.reverse.find? (·.key == key)).or (c.systems.get? key) := by
    intro gs
    induction gs with
    | nil => intro c; simp
    | cons g gs ih =>
      intro c
      have hadd : (c.add g).systems.get? key = if key = g.key then some g else c.systems.get? key :=
        KeyMap.get?_insert _ _ _ _
      rw [List.foldl_cons, ih, hadd, List.reverse_cons, List.find?_append, Option.or_assoc]
      by_cases hk : key = g.key
      · simp [hk]
      · simp [hk, Ne.symm hk]
  have hnone : empty.systems.get? key = none := rfl
  rw [ofSystems, hfold, hnone, Option.or_none]

/-! ### What is found -/

/-- The system that is meant by a key: the one with that very key; or else, of
those whose keys have the same letters, the one with the first key. -/
inductive Finds (c : Catalog) (key : String) : GameSystem → Prop
  | exact {g : GameSystem} (h : c.systems.get? key = some g) : Finds c key g
  | respelled {g : GameSystem} (h : c.systems.get? key = none)
      (hg : c.systems.get? g.key = some g) (same : sameLetters g.key key = true)
      (first : ∀ k ∈ c.keys, sameLetters k key = true → g.key ≤ k) : Finds c key g

theorem finds_of_get? (h : c.get? key = some g) : c.Finds key g := by
  have hheld := held_of_get? h
  unfold get? at h
  cases hexact : c.systems.get? key with
  | some g' =>
    rw [hexact, Option.some_or] at h
    cases h
    exact .exact hexact
  | none =>
    rw [hexact, Option.none_or] at h
    have hsame := List.find?_some h
    refine .respelled hexact hheld hsame fun k hk hletters => ?_
    -- the systems are searched in the order of their keys
    have hentry : c.systems.entries.find? (fun e => sameLetters e.2.key key) =
        some (g.key, g) := by
      unfold toList KeyMap.values at h
      rw [List.find?_map, Option.map_eq_some_iff] at h
      obtain ⟨e, he, rfl⟩ := h
      have hkey : e.2.key = e.1 := c.keyed e (List.mem_of_find?_eq_some he)
      rw [hkey]
      exact he
    obtain ⟨e, he, rfl⟩ := List.mem_map.mp hk
    refine KeyMap.le_of_find? c.systems.ascending hentry e he ?_
    rw [c.keyed e he]
    exact hletters

theorem Finds.unique (h : c.Finds key g) (h' : c.Finds key g') : g = g' := by
  cases h with
  | exact h =>
    cases h' with
    | exact h' => exact Option.some.inj (h.symm.trans h')
    | respelled h' => cases h.symm.trans h'
  | respelled h hg same first =>
    cases h' with
    | exact h' => cases h.symm.trans h'
    | respelled _ hg' same' first' =>
      have hkey : g.key = g'.key := String.le_antisymm
        (first _ (KeyMap.mem_keys_of_get? hg') same') (first' _ (KeyMap.mem_keys_of_get? hg) same)
      rw [hkey] at hg
      exact Option.some.inj (hg.symm.trans hg')

theorem Finds.sameKey (h : c.Finds key g) : g.key ∈ c.keys ∧ sameLetters g.key key = true := by
  cases h with
  | exact h =>
    rw [key_of_held h]
    exact ⟨KeyMap.mem_keys_of_get? h, by simp [sameLetters]⟩
  | respelled _ hg same _ => exact ⟨KeyMap.mem_keys_of_get? hg, same⟩

theorem get?_eq_none_iff :
    c.get? key = none ↔ ∀ k ∈ c.keys, sameLetters k key = false := by
  constructor
  · intro h k hk
    unfold get? at h
    obtain ⟨-, hnone⟩ := Option.or_eq_none_iff.mp h
    rw [keys_eq] at hk
    obtain ⟨g, hg, rfl⟩ := List.mem_map.mp hk
    simpa using List.find?_eq_none.mp hnone g hg
  · intro h
    cases hget : c.get? key with
    | none => rfl
    | some g =>
      obtain ⟨hkey, hsame⟩ := (finds_of_get? hget).sameKey
      rw [h _ hkey] at hsame
      cases hsame

/-- **What is found is the system that is meant,** and it is found if there is
one. -/
theorem get_eq_ok_iff : c.get key = .ok g ↔ c.Finds key g := by
  rw [get_eq_ok]
  refine ⟨finds_of_get?, fun h => ?_⟩
  cases hget : c.get? key with
  | some g' => rw [h.unique (finds_of_get? hget)]
  | none =>
    obtain ⟨hkey, hsame⟩ := h.sameKey
    rw [get?_eq_none_iff.mp hget _ hkey] at hsame
    cases hsame

theorem get_eq_error_iff {e : UnknownSystem} : c.get key = .error e ↔
    (∀ k ∈ c.keys, sameLetters k key = false) ∧ e = ⟨key, c.keys⟩ := by
  rw [← get?_eq_none_iff]
  unfold get
  cases c.get? key with
  | none =>
    constructor
    · intro h
      exact ⟨rfl, (Except.error.inj h).symm⟩
    · rintro ⟨-, rfl⟩
      rfl
  | some g => exact ⟨fun h => (nomatch h), fun h => (nomatch h.1)⟩

/-- **Looking up a system is canonical,** in every catalog, however it was made.
A text finds a system exactly if a key of the catalog has the same letters. It
is the system with that very key, or else the one with the first such key, and
under its own key it is found again. Every system is found under its own key,
whatever other keys have the same letters. Where nothing is found, the error
lists all the keys, which are those of the systems, ascending. A catalog of
given systems holds the last one of each key. -/
theorem lookup_is_canonical :
    (∀ (c : Catalog) (key : String),
      ((∃ g, c.get key = .ok g) ↔ ∃ k ∈ c.keys, sameLetters k key = true) ∧
      (∀ g, c.get key = .ok g ↔ c.Finds key g) ∧
      (∀ g, c.get key = .ok g → c.get g.key = .ok g) ∧
      ∀ e, c.get key = .error e ↔
        (∀ k ∈ c.keys, sameLetters k key = false) ∧ e = ⟨key, c.keys⟩) ∧
    (∀ c : Catalog, (∀ g ∈ c.toList, c.get g.key = .ok g) ∧
      c.keys = c.toList.map (·.key) ∧ c.keys.Pairwise (· < ·)) ∧
    ∀ gs key, (ofSystems gs).systems.get? key = gs.reverse.find? (·.key == key) := by
  refine ⟨fun c key => ⟨?_, fun g => get_eq_ok_iff, fun g h => ?_, fun e => get_eq_error_iff⟩,
    fun c => ⟨fun g hg => ?_, keys_eq, c.systems.pairwise_keys⟩, get?_ofSystems⟩
  · constructor
    · rintro ⟨g, hg⟩
      exact ⟨g.key, (get_eq_ok_iff.mp hg).sameKey⟩
    · rintro ⟨k, hk, hsame⟩
      cases hget : c.get key with
      | ok g => exact ⟨g, rfl⟩
      | error e =>
        have hother := (get_eq_error_iff.mp hget).1 k hk
        rw [hsame] at hother
        cases hother
  · exact get_eq_ok.mpr (get?_key (get_eq_ok.mp h))
  · exact get_eq_ok.mpr (get?_of_held (mem_toList_iff.mp hg))

/-- Three systems with keys of the same letters, of which one came twice, and a
key with a letter beyond ASCII. -/
theorem first_of_same_letters_is_found :
    let system (key name : String) : GameSystem := { GameSystem.dnd5e with key, name }
    let c := ofSystems [system "zoë" "Zoë", system "gurps" "old", system "Gurps" "other",
      system "gurps" "new"]
    c.get "GURPS" = .ok (system "Gurps" "other") ∧ c.get "gurps" = .ok (system "gurps" "new") ∧
    c.get "Gurps" = .ok (system "Gurps" "other") ∧ c.get "ZOë" = .ok (system "zoë" "Zoë") ∧
    c.get "zoË" = .error ⟨"zoË", ["Gurps", "gurps", "zoë"]⟩ := by
  intro system c
  obtain ⟨hfound, hall, -⟩ := lookup_is_canonical
  have hkeys : c.keys = ["Gurps", "gurps", "zoë"] := by decide +kernel
  have hfirst : c.Finds "GURPS" (system "Gurps" "other") := by
    refine .respelled (by decide +kernel) (by decide +kernel) (by decide) ?_
    rw [hkeys]
    decide
  have hother := ((hfound c "GURPS").2.1 _).mpr hfirst
  have hzoe : c.Finds "ZOë" (system "zoë" "Zoë") := by
    refine .respelled (by decide +kernel) (by decide +kernel) (by decide) ?_
    rw [hkeys]
    decide
  refine ⟨hother, (hall c).1 (system "gurps" "new") (by decide +kernel),
    (hfound c "GURPS").2.2.1 _ hother, ((hfound c "ZOë").2.1 _).mpr hzoe, ?_⟩
  rw [← hkeys]
  refine ((hfound c "zoË").2.2.2 _).mpr ⟨?_, rfl⟩
  rw [hkeys]
  decide

end Catalog
end Tabletop
