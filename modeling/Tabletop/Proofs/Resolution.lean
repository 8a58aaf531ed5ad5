/-
# A check is worth what the rules say

The rules of a game system, in plain integers: what a score is worth under a
formula (`ModifierFormula.worth`, with the floor of the exact quotient), and
what a skill is worth under a composition (`GameSystem.skillWorth`). What a
record has for a key is said by a relation of its own
(`Character.Recorded`): the entry at the key itself, or else the first one
that is spelled otherwise, or none.

`resolve` works in 64 bits. A score, a level and a bonus have 32, and a check
has two terms at most, so no sum of terms wraps (`bonus_ofTerms`), and the
bonus is the one of the rules (`resolve_follows_rules`).

Key definitions: `Character.Recorded`, `ModifierFormula.worth`,
`GameSystem.attributeWorth`, `GameSystem.skillWorth`, `Term.Small`.
Key theorems: `Character.recorded_iff`, `bonus_ofTerms`,
`resolve_follows_rules`.
-/
import Mathlib.Data.Rat.Floor
import Tabletop.Check.Resolution
import Tabletop.GameSystem.Preset
import Tabletop.Proofs.Rolls

namespace Tabletop

/-! ### What a record has for a key -/

namespace Character

variable {α : Type} {m : KeyMap α} {key : String}

/-- What a map has for a key: the value at the key as it stands; or else the
value at the first key that normalizes to the same; or nothing, if no key
does. -/
inductive Recorded (m : KeyMap α) (key : String) : Option α → Prop
  | exact {v : α} (h : m.get? key = some v) : Recorded m key (some v)
  | respelled {k : String} {v : α} (h : m.get? key = none) (hk : m.get? k = some v)
      (same : Key.normalize k = Key.normalize key)
      (first : ∀ k' ∈ m.keys, Key.normalize k' = Key.normalize key → k ≤ k') :
      Recorded m key (some v)
  | missing (h : ∀ k ∈ m.keys, Key.normalize k ≠ Key.normalize key) : Recorded m key none

/-- Looking up finds what the map has for the key. -/
theorem recorded_lookUp (m : KeyMap α) (key : String) : Recorded m key (lookUp m key) := by
  unfold lookUp
  cases hx : m.get? key with
  | some v => exact .exact hx
  | none =>
    cases hf : m.entries.find? fun e => Key.normalize e.1 == Key.normalize key with
    | none =>
      refine .missing fun k hk he => ?_
      obtain ⟨e, hm, rfl⟩ := List.mem_map.mp hk
      have := List.find?_eq_none.mp hf e hm
      simp [he] at this
    | some e =>
      have hm : e ∈ m.entries := List.mem_of_find?_eq_some hf
      have hp := List.find?_some hf
      refine .respelled hx ((m.mem_entries_iff e.1 e.2).mp hm) (by simpa using hp) ?_
      intro k' hk' hn
      obtain ⟨e', hm', rfl⟩ := List.mem_map.mp hk'
      exact KeyMap.le_of_find? m.ascending hf e' hm' (by simpa using hn)

theorem Recorded.unique {a b : Option α} (ha : Recorded m key a) (hb : Recorded m key b) :
    a = b := by
  have hkey : ∀ {k : String} {v : α}, m.get? k = some v → k ∈ m.keys := fun hv =>
    (m.mem_keys_iff _).mpr (by simp [hv])
  cases ha with
  | exact h =>
    cases hb with
    | exact h' => rw [← h, ← h']
    | respelled h' => rw [h] at h'; cases h'
    | missing h' => exact absurd rfl (h' key (hkey h))
  | @respelled k v h hk same first =>
    cases hb with
    | exact h' => rw [h] at h'; cases h'
    | @respelled k' v' _ hk' same' first' =>
      have : k = k' := String.le_antisymm (first k' (hkey hk') same') (first' k (hkey hk) same)
      subst this
      rw [← hk, ← hk']
    | missing h' => exact absurd same (h' k (hkey hk))
  | missing h =>
    cases hb with
    | exact h' => exact absurd rfl (h key (hkey h'))
    | respelled _ hk same => exact absurd same (h _ (hkey hk))
    | missing => rfl

theorem recorded_iff {o : Option α} : Recorded m key o ↔ lookUp m key = o :=
  ⟨fun h => (recorded_lookUp m key).unique h, fun h => h ▸ recorded_lookUp m key⟩

end Character

/-! ### The rules in integers -/

/-- What a score is worth: half of what it exceeds ten by, rounded down, or
the score itself. -/
def ModifierFormula.worth : ModifierFormula → Int → Int
  | .linearMod, s => ⌊((s : ℚ) - 10) / 2⌋
  | .directStat, s => s
  | .addRaw, s => s

namespace GameSystem

/-- What an attribute check is worth to a character. A missing score is 0. -/
def attributeWorth (g : GameSystem) (c : Character) (attr : String) : Int :=
  g.formula.worth ((c.score attr).getD 0).toInt

/-- What a skill check is worth to a character. Levels stack on the raw score
where the composition says so, on the modifier otherwise. -/
def skillWorth (g : GameSystem) (c : Character) (skill attr : String) : Int :=
  match g.composition with
  | .proficiencyGated =>
    g.attributeWorth c attr + if c.isProficient skill then c.proficiencyBonus.toInt else 0
  | .statSum => ((c.score attr).getD 0).toInt + (c.level skill).toInt
  | .modifierPlusLevel => g.attributeWorth c attr + (c.level skill).toInt

end GameSystem

theorem ModifierFormula.worth_linearMod (s : Int) : linearMod.worth s = (s - 10) / 2 := by
  have : ((s : ℚ) - 10) / 2 = ((s - 10 : Int) : ℚ) / ((2 : Nat) : ℚ) := by push_cast; rfl
  show ⌊((s : ℚ) - 10) / 2⌋ = (s - 10) / 2
  rw [this, Rat.floor_intCast_div_natCast]
  rfl

/-- The formula gives what the score is worth, in 64 bits. -/
theorem ModifierFormula.toInt_apply (f : ModifierFormula) (s : Int32) :
    (f.apply s).toInt = f.worth s.toInt := by
  have h1 := s.le_toInt
  have h2 := s.toInt_lt
  cases f with
  | linearMod =>
    rw [worth_linearMod]
    exact Int64.toInt_ofInt_of_le (by omega) (by omega)
  | directStat => exact Int32.toInt_toInt64 s
  | addRaw => exact Int32.toInt_toInt64 s

theorem ModifierFormula.worth_bounds (f : ModifierFormula) (s : Int32) :
    -2 ^ 31 ≤ f.worth s.toInt ∧ f.worth s.toInt < 2 ^ 31 := by
  have h1 := s.le_toInt
  have h2 := s.toInt_lt
  cases f with
  | linearMod => rw [worth_linearMod]; omega
  | directStat => exact ⟨h1, h2⟩
  | addRaw => exact ⟨h1, h2⟩

/-! ### Sums of terms -/

namespace Term

/-- A term that adds a number of 32 bits. -/
def Small (t : Term) : Prop := -2 ^ 31 ≤ t.value.toInt ∧ t.value.toInt < 2 ^ 31

@[simp] theorem toInt_value_level (key : String) (n : Int32) :
    (level key n).value.toInt = n.toInt := n.toInt_toInt64

@[simp] theorem toInt_value_proficiency (bonus : Int32) :
    (proficiency bonus).value.toInt = bonus.toInt := bonus.toInt_toInt64

@[simp] theorem toInt_value_score (key : String) (n : Int32) :
    (score key n none).value.toInt = n.toInt := n.toInt_toInt64

theorem small_of_eq {t : Term} {n : Int32} (h : t.value.toInt = n.toInt) : t.Small := by
  unfold Small
  rw [h]
  exact ⟨n.le_toInt, n.toInt_lt⟩

end Term

@[simp] theorem toInt_value_scoreTerm (f : ModifierFormula) (key : String) (s : Int32) :
    (scoreTerm f key s).value.toInt = f.worth s.toInt := by
  rw [← f.toInt_apply]
  cases f <;> rfl

theorem small_scoreTerm (f : ModifierFormula) (key : String) (s : Int32) :
    (scoreTerm f key s).Small := by
  unfold Term.Small
  rw [toInt_value_scoreTerm]
  exact f.worth_bounds s

/-- The bonus of a resolution of few small terms is the sum of their values. -/
theorem bonus_ofTerms (check : String) (kind : CheckKind) {ts : List Term}
    (hs : ∀ t ∈ ts, t.Small) (hl : ts.length ≤ 2) :
    (Resolution.ofTerms check kind ts).bonus.toInt = (ts.map fun t => t.value.toInt).sum := by
  have hvalues : ∀ n ∈ ts.map fun t => t.value.toInt, -2 ^ 31 ≤ n ∧ n ≤ 2 ^ 31 - 1 :=
    List.forall_mem_map.mpr fun t ht => by
      obtain ⟨hlow, hhigh⟩ := hs t ht
      omega
  obtain ⟨hlow, hhigh⟩ := sum_between_of_length hvalues (by decide) (by decide) (k := 2)
    (by rw [List.length_map]; exact hl)
  have hsum : (ts.map Term.value).sum = .ofInt (ts.map fun t => t.value.toInt).sum := by
    rw [sum_eq_ofInt, List.map_map]
    rfl
  show (ts.map Term.value).sum.toInt = _
  rw [hsum, Int64.toInt_ofInt_of_le (by omega) (by omega)]

/-! ### The terms of a check -/

section Terms

variable (g : GameSystem) (c : Character) (skill attr : String)

theorem small_skillTerms : ∀ t ∈ skillTerms g c skill attr, t.Small := by
  unfold skillTerms
  intro t ht
  cases hc : g.composition with
  | proficiencyGated =>
    simp only [hc, List.mem_cons] at ht
    rcases ht with rfl | ht
    · exact small_scoreTerm _ _ _
    · split at ht
      · rw [List.mem_singleton.mp ht]
        exact Term.small_of_eq (Term.toInt_value_proficiency _)
      · cases ht
  | statSum =>
    simp only [hc, List.mem_cons, List.not_mem_nil, or_false] at ht
    rcases ht with rfl | rfl
    · exact Term.small_of_eq (Term.toInt_value_score _ _)
    · exact Term.small_of_eq (Term.toInt_value_level _ _)
  | modifierPlusLevel =>
    simp only [hc, List.mem_cons, List.not_mem_nil, or_false] at ht
    rcases ht with rfl | rfl
    · exact small_scoreTerm _ _ _
    · exact Term.small_of_eq (Term.toInt_value_level _ _)

theorem length_skillTerms : (skillTerms g c skill attr).length ≤ 2 := by
  unfold skillTerms
  cases g.composition with
  | proficiencyGated => simp only; split <;> simp
  | statSum => simp
  | modifierPlusLevel => simp

/-- The terms of a skill add up to what the skill is worth. -/
theorem sum_skillTerms :
    ((skillTerms g c skill attr).map fun t => t.value.toInt).sum = g.skillWorth c skill attr := by
  unfold skillTerms GameSystem.skillWorth GameSystem.attributeWorth
  cases g.composition with
  | proficiencyGated =>
    simp only [List.map_cons, List.sum_cons, toInt_value_scoreTerm]
    split <;> simp
  | statSum => simp
  | modifierPlusLevel => simp

end Terms

/-! ### Resolving -/

section Resolving

variable {g : GameSystem} {c : Character} {requested : String}

theorem resolve_attribute (h : Key.normalize requested ∈ g.attributes) :
    resolve g c requested = .ok (.ofTerms (Key.normalize requested) .attr
      [scoreTerm g.formula (Key.normalize requested)
        ((c.score (Key.normalize requested)).getD 0)]) := by
  have : g.isAttribute (Key.normalize requested) = true := List.contains_iff_mem.mpr h
  unfold resolve
  simp only [this, if_true]

theorem resolve_skill {attr : String} (h : Key.normalize requested ∉ g.attributes)
    (hs : g.skills.get? (Key.normalize requested) = some attr) :
    resolve g c requested = .ok (.ofTerms (Key.normalize requested) (.skill attr)
      (skillTerms g c (Key.normalize requested) attr)) := by
  have : g.isAttribute (Key.normalize requested) = false := by
    simpa [GameSystem.isAttribute] using h
  unfold resolve
  simp only [this, Bool.false_eq_true, if_false, GameSystem.skillAttribute, hs]

theorem resolve_neither (h : Key.normalize requested ∉ g.attributes)
    (hs : g.skills.get? (Key.normalize requested) = none) :
    resolve g c requested = .error (unknownCheck g requested) := by
  have : g.isAttribute (Key.normalize requested) = false := by
    simpa [GameSystem.isAttribute] using h
  unfold resolve
  simp only [this, Bool.false_eq_true, if_false, GameSystem.skillAttribute, hs]

/-- A request is an attribute, else a skill, else neither. -/
theorem resolve_cases (g : GameSystem) (c : Character) (requested : String) :
    (Key.normalize requested ∈ g.attributes ∧
      resolve g c requested = .ok (.ofTerms (Key.normalize requested) .attr
        [scoreTerm g.formula (Key.normalize requested)
          ((c.score (Key.normalize requested)).getD 0)])) ∨
    (∃ attr, Key.normalize requested ∉ g.attributes ∧
      g.skills.get? (Key.normalize requested) = some attr ∧
      resolve g c requested = .ok (.ofTerms (Key.normalize requested) (.skill attr)
        (skillTerms g c (Key.normalize requested) attr))) ∨
    (Key.normalize requested ∉ g.attributes ∧ g.skills.get? (Key.normalize requested) = none ∧
      resolve g c requested = .error (unknownCheck g requested)) := by
  by_cases h : Key.normalize requested ∈ g.attributes
  · exact .inl ⟨h, resolve_attribute h⟩
  · cases hs : g.skills.get? (Key.normalize requested) with
    | some attr => exact .inr (.inl ⟨attr, h, rfl, resolve_skill h hs⟩)
    | none => exact .inr (.inr ⟨h, rfl, resolve_neither h hs⟩)

end Resolving

/-- **A check is worth what the rules say.** A request is refused exactly if
its key is neither an attribute nor a skill. An attribute, even one with the
name of a skill, is worth its score under the formula, a skill what the
composition makes of the score of its attribute; scores, levels and
proficiencies are what the record has for the key. The bonus is the sum of the
terms, and the description shows each of them in order. -/
theorem resolve_follows_rules (g : GameSystem) (c : Character) (requested : String) :
    ((∃ e, resolve g c requested = .error e) ↔
      Key.normalize requested ∉ g.attributes ∧ Key.normalize requested ∉ g.skills.keys) ∧
    (Key.normalize requested ∈ g.attributes →
      ∃ r, resolve g c requested = .ok r ∧ r.check = Key.normalize requested ∧ r.kind = .attr ∧
        r.bonus.toInt = g.attributeWorth c (Key.normalize requested)) ∧
    (∀ attr, Key.normalize requested ∉ g.attributes →
      g.skills.get? (Key.normalize requested) = some attr →
      ∃ r, resolve g c requested = .ok r ∧ r.check = Key.normalize requested ∧
        r.kind = .skill attr ∧
        r.bonus.toInt = g.skillWorth c (Key.normalize requested) attr) ∧
    (∀ r, resolve g c requested = .ok r →
      r.bonus.toInt = (r.terms.map fun t => t.value.toInt).sum ∧
      r.description = " + ".intercalate (r.terms.map Term.text)) ∧
    (∀ key, Character.Recorded c.attributes key (c.score key)) ∧
    (∀ key, ∃ o, Character.Recorded c.skills key o ∧ c.level key = o.getD 0) ∧
    (∀ key, ∃ o, Character.Recorded c.proficiency key o ∧ c.isProficient key = o.getD false) := by
  refine ⟨?_, ?_, ?_, ?_, fun key => Character.recorded_lookUp _ _,
    fun key => ⟨_, Character.recorded_lookUp _ _, rfl⟩,
    fun key => ⟨_, Character.recorded_lookUp _ _, rfl⟩⟩
  · rw [g.skills.mem_keys_iff]
    rcases resolve_cases g c requested with ⟨ha, h⟩ | ⟨attr, ha, hs, h⟩ | ⟨ha, hs, h⟩
    · simp [h, ha]
    · simp [h, hs]
    · simp [h, ha, hs]
  · intro ha
    refine ⟨_, resolve_attribute ha, rfl, rfl, ?_⟩
    rw [bonus_ofTerms _ _ (by simpa using small_scoreTerm _ _ _) (by simp)]
    simp [GameSystem.attributeWorth]
  · intro attr ha hs
    refine ⟨_, resolve_skill ha hs, rfl, rfl, ?_⟩
    rw [bonus_ofTerms _ _ (small_skillTerms _ _ _ _) (length_skillTerms _ _ _ _), sum_skillTerms]
  · intro r hr
    rcases resolve_cases g c requested with ⟨-, h⟩ | ⟨attr, -, -, h⟩ | ⟨-, -, h⟩
    · obtain rfl := Except.ok.inj (h.symm.trans hr)
      exact ⟨bonus_ofTerms _ _ (by simpa using small_scoreTerm _ _ _) (by simp), rfl⟩
    · obtain rfl := Except.ok.inj (h.symm.trans hr)
      exact ⟨bonus_ofTerms _ _ (small_skillTerms _ _ _ _) (length_skillTerms _ _ _ _), rfl⟩
    · rw [h] at hr
      cases hr

/-- A dexterity of 7 is worth -2, also where the record spells it `DEX`, and a
proficiency adds to it. -/
theorem sleight_of_hand_with_respelled_entries :
    let c : Character := { Character.blank "Garra" "dnd5e" with
      attributes := .ofList [("DEX", 7), ("str", 14)]
      proficiency := .ofList [("Sleight of Hand", true)]
      proficiencyBonus := 3 }
    Key.normalize "Sleight  of Hand" ∉ GameSystem.dnd5e.attributes ∧
    GameSystem.dnd5e.skills.get? (Key.normalize "Sleight  of Hand") = some "dex" ∧
    ∃ r, resolve GameSystem.dnd5e c "Sleight  of Hand" = .ok r ∧
      r.kind = .skill "dex" ∧ r.bonus.toInt = 1 ∧
      r.description = "DEX 7 (mod -2) + Prof. +3" := by
  intro c
  have ha : Key.normalize "Sleight  of Hand" ∉ GameSystem.dnd5e.attributes := by decide
  have hs : GameSystem.dnd5e.skills.get? (Key.normalize "Sleight  of Hand") = some "dex" := by
    decide
  obtain ⟨r, h, -, hk, hb⟩ :=
    (resolve_follows_rules GameSystem.dnd5e c "Sleight  of Hand").2.2.1 "dex" ha hs
  have hresolved : resolve GameSystem.dnd5e c "Sleight  of Hand" = .ok ⟨"sleight_of_hand",
      .skill "dex", 1, [.score "dex" 7 (some (-2)), .proficiency 3],
      "DEX 7 (mod -2) + Prof. +3"⟩ := by
    decide +kernel
  have hdescription : r.description = "DEX 7 (mod -2) + Prof. +3" := by
    rw [Except.ok.inj (h.symm.trans hresolved)]
  exact ⟨ha, hs, r, h, hk, hb.trans (by decide +kernel), hdescription⟩

end Tabletop
