/-
# Spelling does not matter

A record may spell its keys in many ways. Where no two keys of a map normalize to
the same (`KeyMap.Unambiguous`), looking up finds the one entry whose key has the
normal form that is asked for, be it an exact hit or not
(`Character.lookUp_eq_some_iff`). Respelling the keys reorders the map, but leaves
each value at the same normal form (`KeyMap.get?_respell`), so both maps have the
same for each key (`Character.lookUp_respell`).

A check reads a record by looking up only, and of the request it uses the normal
form; so two requests with one normal form resolve alike on records that differ
in spelling (`resolve_ignores_spelling`).

Key definitions: `KeyMap.respell`, `KeyMap.Unambiguous`, `KeyMap.Respelled`,
`Character.Respelled`.
Key theorems: `Character.lookUp_eq_some_iff`, `Character.lookUp_respell`,
`skillTerms_congr`, `resolve_ignores_spelling`.
-/
import Mathlib.Data.List.Nodup
import Tabletop.Proofs.Resolution

namespace Tabletop

/-! ### Maps spelled otherwise -/

namespace KeyMap

variable {α : Type} {m m' : KeyMap α} {spell : String → String} {k k' : String} {v : α}

/-- The map with its keys spelled otherwise. -/
def respell (m : KeyMap α) (spell : String → String) : KeyMap α :=
  ofList (m.entries.map fun e => (spell e.1, e.2))

/-- No two keys of the map normalize to the same. -/
def Unambiguous (m : KeyMap α) : Prop :=
  (m.keys.map Key.normalize).Nodup

instance (m : KeyMap α) : Decidable m.Unambiguous :=
  inferInstanceAs (Decidable (List.Nodup _))

/-- A spelling of the keys of a map, each by a text that normalizes to the
same. -/
def Spells (m : KeyMap α) (spell : String → String) : Prop :=
  ∀ k ∈ m.keys, Key.normalize (spell k) = Key.normalize k

instance (m : KeyMap α) (spell : String → String) : Decidable (m.Spells spell) :=
  inferInstanceAs (Decidable (∀ k ∈ m.keys, _ = _))

/-- The one map is the other one, up to the spelling of its keys. -/
def Respelled (m m' : KeyMap α) : Prop :=
  ∃ spell, m.Spells spell ∧ m' = m.respell spell

theorem Unambiguous.eq_of_normalize (h : m.Unambiguous) (hk : m.get? k = some v) {v' : α}
    (hk' : m.get? k' = some v') (hs : Key.normalize k = Key.normalize k') : k = k' :=
  List.inj_on_of_nodup_map h (mem_keys_of_get? hk) (mem_keys_of_get? hk') hs

theorem Spells.map_normalize (hs : m.Spells spell) :
    ((m.entries.map fun e => (spell e.1, e.2)).map (·.1)).map Key.normalize =
      m.keys.map Key.normalize := by
  unfold keys
  rw [List.map_map, List.map_map, List.map_map]
  exact List.map_congr_left fun e he => hs e.1 (List.mem_map_of_mem he)

theorem perm_entries_respell (h : m.Unambiguous) (hs : m.Spells spell) :
    (m.respell spell).entries.Perm (m.entries.map fun e => (spell e.1, e.2)) := by
  have hnodup := h
  unfold Unambiguous at hnodup
  rw [← hs.map_normalize] at hnodup
  exact perm_entries_ofList (List.Nodup.of_map _ hnodup)

theorem unambiguous_respell (h : m.Unambiguous) (hs : m.Spells spell) :
    (m.respell spell).Unambiguous := by
  have hperm := ((perm_entries_respell h hs).map (·.1)).map Key.normalize
  rw [hs.map_normalize] at hperm
  exact hperm.nodup_iff.mpr h

/-- **A value stands at the new spelling of its key.** -/
theorem get?_respell (h : m.Unambiguous) (hs : m.Spells spell) :
    (m.respell spell).get? k = some v ↔ ∃ k₀, m.get? k₀ = some v ∧ spell k₀ = k := by
  rw [← mem_entries_iff, (perm_entries_respell h hs).mem_iff, List.mem_map]
  constructor
  · rintro ⟨⟨k₀, v₀⟩, he, heq⟩
    obtain ⟨rfl, rfl⟩ := Prod.mk.inj heq
    exact ⟨k₀, (m.mem_entries_iff _ _).mp he, rfl⟩
  · rintro ⟨k₀, hk₀, rfl⟩
    exact ⟨(k₀, v), (m.mem_entries_iff _ _).mpr hk₀, rfl⟩

end KeyMap

/-! ### What is looked up -/

namespace Character

variable {α : Type} {m m' : KeyMap α} {spell : String → String} {key key' : String} {v : α}

/-- **Looking up finds the entry with the normal form of the key,** which is
one if the map is unambiguous. -/
theorem lookUp_eq_some_iff (h : m.Unambiguous) :
    lookUp m key = some v ↔ ∃ k, m.get? k = some v ∧ Key.normalize k = Key.normalize key := by
  have hrecorded := recorded_lookUp m key
  constructor
  · intro hv
    rw [hv] at hrecorded
    cases hrecorded with
    | exact hk => exact ⟨key, hk, rfl⟩
    | respelled _ hk hsame => exact ⟨_, hk, hsame⟩
  · rintro ⟨k, hk, hsame⟩
    generalize lookUp m key = o at hrecorded
    cases hrecorded with
    | exact hkey =>
      obtain rfl := h.eq_of_normalize hk hkey hsame
      exact hkey.symm.trans hk
    | respelled _ hfirst hsame' =>
      obtain rfl := h.eq_of_normalize hk hfirst (hsame.trans hsame'.symm)
      exact hfirst.symm.trans hk
    | missing hnone => exact absurd hsame (hnone k (KeyMap.mem_keys_of_get? hk))

/-- **Looking up is blind to spelling,** of the keys of the map and of the key
that is asked for. -/
theorem lookUp_respell (h : m.Unambiguous) (hm : m.Respelled m')
    (hkey : Key.normalize key' = Key.normalize key) : lookUp m' key' = lookUp m key := by
  obtain ⟨spell, hs, rfl⟩ := hm
  refine Option.ext fun v => ?_
  rw [lookUp_eq_some_iff h, lookUp_eq_some_iff (KeyMap.unambiguous_respell h hs), hkey]
  constructor
  · rintro ⟨k, hk, hsame⟩
    obtain ⟨k₀, hk₀, rfl⟩ := (KeyMap.get?_respell h hs).mp hk
    exact ⟨k₀, hk₀, (hs k₀ (KeyMap.mem_keys_of_get? hk₀)).symm.trans hsame⟩
  · rintro ⟨k₀, hk₀, hsame⟩
    exact ⟨spell k₀, (KeyMap.get?_respell h hs).mpr ⟨k₀, hk₀, rfl⟩,
      (hs k₀ (KeyMap.mem_keys_of_get? hk₀)).trans hsame⟩

/-- Two records with the same numbers, up to the spelling of their keys. -/
structure Respelled (c c' : Character) : Prop where
  attributes : c.attributes.Respelled c'.attributes
  skills : c.skills.Respelled c'.skills
  proficiency : c.proficiency.Respelled c'.proficiency
  proficiencyBonus : c'.proficiencyBonus = c.proficiencyBonus

/-- No two keys of one map in a record normalize to the same. -/
structure Unambiguous (c : Character) : Prop where
  attributes : c.attributes.Unambiguous
  skills : c.skills.Unambiguous
  proficiency : c.proficiency.Unambiguous

end Character

/-! ### Checks -/

section

variable {g : GameSystem} {c c' : Character} {requested requested' : String}

/-- The terms of a skill depend on what the record has for its key and for the
one of its attribute. -/
theorem skillTerms_congr {skill attr : String} (hscore : c'.score attr = c.score attr)
    (hlevel : c'.level skill = c.level skill)
    (hproficient : c'.isProficient skill = c.isProficient skill)
    (hbonus : c'.proficiencyBonus = c.proficiencyBonus) :
    skillTerms g c' skill attr = skillTerms g c skill attr := by
  unfold skillTerms
  rw [hscore, hlevel, hproficient, hbonus]

/-- **Resolution ignores spelling,** in every game system. Take two requests
with one normal form, and two records of which the one spells the keys of the
other in its own way, with no two keys of a map that normalize to the same. Then
both requests resolve to the same, with the same terms and description; or both
are no check, and the errors differ in nothing but the requests that they
repeat. -/
theorem resolve_ignores_spelling (g : GameSystem)
    (hkey : Key.normalize requested' = Key.normalize requested) (hc : c.Respelled c')
    (hu : c.Unambiguous) :
    (∃ r, resolve g c requested = .ok r ∧ resolve g c' requested' = .ok r) ∨
    ∃ e, resolve g c requested = .error e ∧
      resolve g c' requested' = .error { e with requested := requested' } := by
  have hscore : ∀ attr, c'.score attr = c.score attr := fun attr =>
    Character.lookUp_respell hu.attributes hc.attributes rfl
  have hlevel : ∀ skill, c'.level skill = c.level skill := fun skill =>
    congrArg (·.getD 0) (Character.lookUp_respell hu.skills hc.skills rfl)
  have hproficient : ∀ skill, c'.isProficient skill = c.isProficient skill := fun skill =>
    congrArg (·.getD false) (Character.lookUp_respell hu.proficiency hc.proficiency rfl)
  have hchecks := resolve_cases g c requested
  rw [← hkey] at hchecks
  rcases hchecks with ⟨ha, h⟩ | ⟨attr, ha, hs, h⟩ | ⟨ha, hs, h⟩
  · refine .inl ⟨_, h, ?_⟩
    rw [resolve_attribute ha, hscore]
  · refine .inl ⟨_, h, ?_⟩
    rw [resolve_skill ha hs,
      skillTerms_congr (hscore attr) (hlevel _) (hproficient _) hc.proficiencyBonus]
  · refine .inr ⟨_, h, ?_⟩
    rw [resolve_neither ha hs]
    unfold unknownCheck
    rw [hkey]

/-- Keys in other letters, which come in another order once they are respelled. -/
theorem garra_resolves_as_respelled :
    let c : Character := { Character.blank "Garra" "dnd5e" with
      attributes := .ofList [("dex", 7), ("str", 14)]
      proficiency := .ofList [("sleight_of_hand", true), ("stealth", false)]
      proficiencyBonus := 3 }
    let c' : Character := { Character.blank "Garra" "dnd5e" with
      attributes := .ofList [("STR", 14), ("dex", 7)]
      proficiency := .ofList [("Stealth", false), ("sleight  of Hand", true)]
      proficiencyBonus := 3 }
    ∃ r, resolve .dnd5e c "sleight_of_hand" = .ok r ∧
      resolve .dnd5e c' "Sleight of HAND " = .ok r := by
  intro c c'
  have hattributes : c.attributes.Respelled c'.attributes :=
    ⟨fun k => if k = "str" then "STR" else k, by decide +kernel, by decide +kernel⟩
  have hproficiency : c.proficiency.Respelled c'.proficiency :=
    ⟨fun k => if k = "stealth" then "Stealth" else "sleight  of Hand", by decide +kernel,
      by decide +kernel⟩
  have hkey : Key.normalize "Sleight of HAND " = Key.normalize "sleight_of_hand" := by
    decide +kernel
  have ha : Key.normalize "sleight_of_hand" ∉ GameSystem.dnd5e.attributes := by decide +kernel
  have hs : GameSystem.dnd5e.skills.get? (Key.normalize "sleight_of_hand") = some "dex" := by
    decide +kernel
  rcases resolve_ignores_spelling .dnd5e hkey
    ⟨hattributes, ⟨id, by decide, by decide⟩, hproficiency, rfl⟩
    ⟨by decide +kernel, by decide, by decide +kernel⟩ with h | ⟨e, h, -⟩
  · exact h
  · cases (resolve_skill ha hs).symm.trans h

end

end Tabletop
