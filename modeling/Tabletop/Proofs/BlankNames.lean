/-
# Blank requests

A request of nothing but blanks has the empty key. When a system is built, an
attribute with that key is an issue, but a skill with it is none, as long as its
attribute is there. So no attribute is ever named by a blank request, and a skill is
exactly if the source has one with a blank name
(`GameSystem.blank_request_refused_iff`).

Key theorems: `GameSystem.mem_skills_iff`, `GameSystem.blank_request_refused_iff`.
-/
import Tabletop.Proofs.SourceSkills

namespace Tabletop
namespace GameSystem

variable {g : GameSystem} {key skill requested : String} {s : SystemSource}

theorem mem_skills_iff (h : ofSource key s = .ok g) :
    skill ∈ g.skills.keys ↔ ∃ name ∈ s.skills.keys, Key.normalize name = skill := by
  obtain ⟨_, _, -, -, rfl, -⟩ := ofSource_eq_ok.mp h
  exact SystemSource.mem_keys_normalSkills

theorem empty_mem_skills_iff (h : ofSource key s = .ok g) :
    "" ∈ g.skills.keys ↔ ∃ name ∈ s.skills.keys, Key.Blank name := by
  simp only [mem_skills_iff h, Key.blank_iff]

theorem resolve_blank (h : ofSource key s = .ok g) (c : Character) (hblank : Key.Blank requested) :
    resolve g c requested = .error (unknownCheck g requested) ↔ "" ∉ g.skills.keys := by
  have hempty : Key.normalize requested = "" := Key.blank_iff.mp hblank
  have hnamed : Key.normalize requested ∉ g.attributes :=
    hempty ▸ (consistent_of_ofSource h).named
  constructor
  · intro hrefused hskill
    obtain ⟨attr, hattr⟩ := Option.isSome_iff_exists.mp ((g.skills.mem_keys_iff _).mp hskill)
    cases hrefused.symm.trans (resolve_skill hnamed (hempty ▸ hattr))
  · intro hskill
    refine resolve_neither hnamed ?_
    rw [hempty]
    exact Option.not_isSome_iff_eq_none.mp fun hsome => hskill ((g.skills.mem_keys_iff _).mpr hsome)

/-- **A blank request is refused exactly if no skill has a blank name.** In a system
that was built no attribute has the empty key, and a skill has it exactly if the
source has a skill with a blank name. With such a skill every blank request resolves,
for any character, as that skill under the attribute that governs it. -/
theorem blank_request_refused_iff (h : ofSource key s = .ok g) (c : Character)
    (hblank : Key.Blank requested) :
    "" ∉ g.attributes ∧ ("" ∈ g.skills.keys ↔ ∃ name ∈ s.skills.keys, Key.Blank name) ∧
    (resolve g c requested = .error (unknownCheck g requested) ↔
      ∀ name ∈ s.skills.keys, ¬Key.Blank name) ∧
    ∀ name ∈ s.skills.keys, Key.Blank name →
      ∃ attr, s.Governs "" attr ∧ g.ResolvesAs c requested "" (.skill attr) := by
  have hempty : Key.normalize requested = "" := Key.blank_iff.mp hblank
  refine ⟨(consistent_of_ofSource h).named, empty_mem_skills_iff h, ?_, fun name hname hb => ?_⟩
  · rw [resolve_blank h c hblank, empty_mem_skills_iff h]
    exact ⟨fun hnone name hname hb => hnone ⟨name, hname, hb⟩,
      fun hall ⟨name, hname, hb⟩ => hall name hname hb⟩
  · have hskill : Key.normalize name = "" := Key.blank_iff.mp hb
    obtain ⟨attr', hget⟩ := Option.isSome_iff_exists.mp ((s.skills.mem_keys_iff _).mp hname)
    obtain ⟨attr, hgoverns⟩ := SystemSource.exists_governs hget
    rw [hskill] at hgoverns
    exact ⟨attr, hgoverns,
      (resolvesAs_skill_iff h ⟨name, hname, hskill⟩ hempty).mpr hgoverns⟩

/-- A system with a skill of a blank name is built, and a blank request is a check
of it. -/
theorem blank_skill_resolves :
    let source : SystemSource := ⟨none, ["str"], KeyMap.ofList [(" ", "str")], none, none,
      some "d20", none⟩
    let system : GameSystem := ⟨"k", "k", ["str"], KeyMap.ofList [("", "str")], .addRaw,
      .modifierPlusLevel, "d20", ⟨1, 20, 0⟩⟩
    ofSource "k" source = .ok system ∧ Key.Blank "  " ∧ "" ∈ system.skills.keys ∧
      ∃ r, resolve system (.blank "Rin" "k") "  " = .ok r ∧ r.kind = .skill "str" := by
  intro source system
  have hbuilt : ofSource "k" source = .ok system := by decide +kernel
  have hskill : system.skills.get? (Key.normalize "  ") = some "str" := by decide +kernel
  have hattr : Key.normalize "  " ∉ system.attributes := by decide +kernel
  exact ⟨hbuilt, by decide, by decide, _, resolve_skill hattr hskill, rfl⟩

/-- A blank request where each skill has a name. -/
theorem blank_request_refused :
    let source : SystemSource := ⟨none, ["Str"], KeyMap.ofList [("Sleight of Hand", "STR")],
      none, none, some "d20", none⟩
    let system : GameSystem := ⟨"k", "k", ["str"], KeyMap.ofList [("sleight_of_hand", "str")],
      .addRaw, .modifierPlusLevel, "d20", ⟨1, 20, 0⟩⟩
    ofSource "k" source = .ok system ∧ Key.Blank " \t" ∧
      resolve system (.blank "Rin" "k") " \t" = .error (unknownCheck system " \t") := by
  intro source system
  have hbuilt : ofSource "k" source = .ok system := by decide +kernel
  have hblank : Key.Blank " \t" := by decide
  obtain ⟨-, -, hrefused, -⟩ := blank_request_refused_iff hbuilt (.blank "Rin" "k") hblank
  exact ⟨hbuilt, hblank, hrefused.mpr (by decide)⟩

end GameSystem
end Tabletop
