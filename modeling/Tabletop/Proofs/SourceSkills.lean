/-
# Which skills of a source survive

Building a system collects the skills of its source under their keys before
anything is looked at. So of several spellings of one skill the last one counts,
and the attributes that the others name are dropped without a word, even those
that there are not. Every spelling still resolves as the skill, but under the
attribute of the last one (`GameSystem.skill_follows_last_spelling`). A skill
keeps its attribute in each spelling exactly if the spellings of each key agree
(`SystemSource.Agrees`).

Key definition: `SystemSource.Agrees`.
Key theorems: `SystemSource.exists_governs`, `SystemSource.agrees_iff`,
`GameSystem.skill_follows_last_spelling`.
-/
import Tabletop.Proofs.CheckNames

namespace Tabletop

/-! ### Spellings of a skill -/

namespace SystemSource

variable {s : SystemSource} {name attr : String}

/-- All spellings of one skill name one attribute, up to its spelling. -/
def Agrees (s : SystemSource) : Prop :=
  ∀ e ∈ s.skills.entries, ∀ e' ∈ s.skills.entries,
    Key.normalize e.1 = Key.normalize e'.1 → Key.normalize e.2 = Key.normalize e'.2

instance (s : SystemSource) : Decidable s.Agrees :=
  inferInstanceAs (Decidable (∀ e ∈ s.skills.entries, ∀ e' ∈ s.skills.entries, _ → _))

theorem exists_governs (h : s.skills.get? name = some attr) :
    ∃ governor, s.Governs (Key.normalize name) governor := by
  have hkey : Key.normalize name ∈ s.normalSkills.keys :=
    mem_keys_normalSkills.mpr ⟨name, KeyMap.mem_keys_of_get? h, rfl⟩
  obtain ⟨governor, hget⟩ := Option.isSome_iff_exists.mp ((KeyMap.mem_keys_iff _ _).mp hkey)
  exact ⟨governor, get?_normalSkills.mp hget⟩

/-- **Every skill is governed by the attribute that it names** exactly if the
spellings of each skill agree. -/
theorem agrees_iff : s.Agrees ↔ ∀ name attr, s.skills.get? name = some attr →
    s.Governs (Key.normalize name) (Key.normalize attr) := by
  constructor
  · intro hagrees name attr h
    obtain ⟨governor, hgoverns⟩ := exists_governs h
    -- the last spelling names the same attribute as this one
    have hsame : Key.normalize attr = governor := by
      obtain ⟨hlast, hname, hgovernor, -⟩ := hgoverns
      have hspelled := hagrees (name, attr) ((s.skills.mem_entries_iff _ _).mpr h) _
        ((s.skills.mem_entries_iff _ _).mpr hlast) hname.symm
      exact hspelled.trans hgovernor
    rw [hsame]
    exact hgoverns
  · intro hall e he e' he' hname
    have hgoverns := hall e.1 e.2 ((s.skills.mem_entries_iff _ _).mp he)
    rw [hname] at hgoverns
    exact hgoverns.unique (hall e'.1 e'.2 ((s.skills.mem_entries_iff _ _).mp he'))

end SystemSource

/-! ### Checks of skills -/

namespace GameSystem

variable {g : GameSystem} {key skill text : String} {s : SystemSource} {c : Character}

theorem ResolvesAs.unique {name name' : String} {kind kind' : CheckKind}
    (h : g.ResolvesAs c text name kind) (h' : g.ResolvesAs c text name' kind') :
    name = name' ∧ kind = kind' := by
  obtain ⟨r, hr, rfl, rfl⟩ := h
  obtain ⟨r', hr', rfl, rfl⟩ := h'
  obtain rfl := Except.ok.inj (hr.symm.trans hr')
  exact ⟨rfl, rfl⟩

/-- A text with the key of a skill resolves as that skill, under the attribute
that governs it in the source, and under no other. -/
theorem resolvesAs_skill_iff (h : ofSource key s = .ok g) {attr : String}
    (hskill : ∃ name ∈ s.skills.keys, Key.normalize name = skill)
    (ht : Key.normalize text = skill) :
    g.ResolvesAs c text skill (.skill attr) ↔ s.Governs skill attr := by
  have hsame := (follows_of_ofSource h).skills
  have hgoverned : ∀ {governor}, s.Governs skill governor →
      g.ResolvesAs c text skill (.skill governor) := fun hg =>
    resolvesAs_skill (consistent_of_ofSource h) ((hsame _ _).mpr hg) ht
  refine ⟨fun hresolves => ?_, hgoverned⟩
  obtain ⟨name, hname, rfl⟩ := hskill
  obtain ⟨attr', hget⟩ := Option.isSome_iff_exists.mp ((KeyMap.mem_keys_iff _ _).mp hname)
  obtain ⟨governor, hgoverns⟩ := SystemSource.exists_governs hget
  obtain ⟨-, hkind⟩ := hresolves.unique (hgoverned hgoverns)
  rw [CheckKind.skill.inj hkind]
  exact hgoverns

/-- **A skill follows its last spelling.** In a system that was built, every text
with the key of a skill of the source resolves as that skill, for any character,
and under one attribute: the one that the last spelling of the skill names. So
all skills resolve under the attributes that they name exactly if the spellings
of each skill agree. -/
theorem skill_follows_last_spelling (h : ofSource key s = .ok g) (c : Character) :
    (∀ name ∈ s.skills.keys, ∀ text, Key.normalize text = Key.normalize name →
      ∃ governor, s.Governs (Key.normalize name) governor ∧
        ∀ attr, g.ResolvesAs c text (Key.normalize name) (.skill attr) ↔ attr = governor) ∧
    ((∀ name attr, s.skills.get? name = some attr →
        g.ResolvesAs c name (Key.normalize name) (.skill (Key.normalize attr))) ↔ s.Agrees) := by
  constructor
  · intro name hname text ht
    obtain ⟨attr', hget⟩ := Option.isSome_iff_exists.mp ((KeyMap.mem_keys_iff _ _).mp hname)
    obtain ⟨governor, hgoverns⟩ := SystemSource.exists_governs hget
    refine ⟨governor, hgoverns, fun attr => ?_⟩
    rw [resolvesAs_skill_iff h ⟨name, hname, rfl⟩ ht]
    constructor
    · exact fun hattr => hattr.unique hgoverns
    · rintro rfl
      exact hgoverns
  · have hskill : ∀ {name attr}, s.skills.get? name = some attr →
        (g.ResolvesAs c name (Key.normalize name) (.skill (Key.normalize attr)) ↔
          s.Governs (Key.normalize name) (Key.normalize attr)) := fun hget =>
      resolvesAs_skill_iff h ⟨_, KeyMap.mem_keys_of_get? hget, rfl⟩ rfl
    rw [SystemSource.agrees_iff]
    exact ⟨fun hall name attr hget => (hskill hget).mp (hall name attr hget),
      fun hall name attr hget => (hskill hget).mpr (hall name attr hget)⟩

/-- A system with two spellings of one skill is built, and the first one resolves
under the attribute that the second one names. -/
theorem climb_resolves_under_str :
    let source : SystemSource := ⟨none, ["str", "dex"],
      KeyMap.ofList [("Climb", "dex"), ("climb", "str")], none, none, some "d20", none⟩
    let system : GameSystem := ⟨"k", "k", ["str", "dex"], KeyMap.ofList [("climb", "str")],
      .addRaw, .modifierPlusLevel, "d20", ⟨1, 20, 0⟩⟩
    ofSource "k" source = .ok system ∧ source.skills.get? "Climb" = some "dex" ∧
      system.ResolvesAs (.blank "Rin" "k") "Climb" (Key.normalize "Climb") (.skill "str") ∧
      ¬system.ResolvesAs (.blank "Rin" "k") "Climb" (Key.normalize "Climb")
        (.skill (Key.normalize "dex")) := by
  intro source system
  have hbuilt : ofSource "k" source = .ok system := by decide +kernel
  have hstr : system.ResolvesAs (.blank "Rin" "k") "Climb" (Key.normalize "Climb")
      (.skill "str") := resolvesAs_skill (consistent_of_ofSource hbuilt) (by decide +kernel) rfl
  refine ⟨hbuilt, by decide, hstr, fun hdex => ?_⟩
  exact absurd (hstr.unique hdex).2 (by decide +kernel)

/-- Two spellings of a skill that name one attribute. -/
theorem climb_keeps_its_attribute :
    let source : SystemSource := ⟨none, ["STR", "dex"],
      KeyMap.ofList [("Climb", "str"), ("climb", "STR")], none, none, some "d20", none⟩
    let system : GameSystem := ⟨"k", "k", ["str", "dex"], KeyMap.ofList [("climb", "str")],
      .addRaw, .modifierPlusLevel, "d20", ⟨1, 20, 0⟩⟩
    ofSource "k" source = .ok system ∧ source.Agrees ∧
      system.ResolvesAs (.blank "Rin" "k") "Climb" (Key.normalize "Climb")
        (.skill (Key.normalize "str")) := by
  intro source system
  have hbuilt : ofSource "k" source = .ok system := by decide +kernel
  have hagrees : source.Agrees := by decide +kernel
  have hkept := (skill_follows_last_spelling hbuilt (.blank "Rin" "k")).2.mpr hagrees
  exact ⟨hbuilt, hagrees, hkept "Climb" "str" (by decide)⟩

end GameSystem
end Tabletop
