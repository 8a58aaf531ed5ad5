/-
# Outcomes of checks are read back from their JSON

Whatever is written of a check is read back as it was: its kind, its terms, what it
came to, the roll with its throw, and the choices and settings around it. A case of
a choice is read back as its name alone (`readsBack_bare`) or as its only member
(`readsBack_case`), and a record if its members are (`Json.readsBack_record`), so
each type is restored because the types inside it are. Texts without blanks and
texts over several lines are decoded alike (`Json.Restores.roundTrips`).

Key definitions: `Json.RoundTrips`.
Key theorems: `Json.readsBack_case`, `Roll.restores`, `Term.restores`,
`Resolution.restores`, `Outcome.restores`, `what_is_written_of_a_check_is_read_back`.
-/
import Tabletop.Check.Json
import Tabletop.GameSystem.Json
import Tabletop.Proofs.JsonRecord
import Tabletop.Proofs.SystemJson

namespace Tabletop

namespace Json

variable {α : Type}

/-- Every value is decoded from its text, with blanks and without. -/
def RoundTrips (r : Reader α) (write : α → Json) : Prop :=
  ∀ a, decode r (write a).compact = .ok a ∧ decode r (write a).pretty = .ok a

theorem Restores.roundTrips {r : Reader α} {write : α → Json} (h : Restores r write) :
    RoundTrips r write := by
  intro a
  have hfits : (write a).Fits := h.fits a
  have hread : r .text (draft (write a)) = .ok a := h.read .text a
  constructor
  · rw [decode_of_ofText r (ofText_compact hfits), hread]
  · have hnone : ∀ c ∈ ([] : List Char), isGap c = true := fun _ h => nomatch h
    have hpretty := decode_render r blank_roomy hfits hnone
    rw [List.append_nil] at hpretty
    exact hpretty.trans hread

/-! ### Choices -/

section Choices

variable {cases : List (String × Case α)} {name : String} {a : α}

theorem readsBack_bare (h : cases.lookup name = some (.bare a)) :
    ReadsBack (readChoice cases) (.string name) a where
  fits := trivial
  read source := by
    have hfind : findCase cases name = .ok (.bare a) := by unfold findCase; rw [h]
    show readChoice cases source (.string name) = _
    rw [readChoice, hfind]
    rfl

/-- **A case with a record is read back** from an object with its name as the only key,
if the record is. -/
theorem readsBack_case {r : Reader α} {ms : List (String × Json)}
    (h : cases.lookup name = some (.record r)) (hr : ReadsBack r (.object ms) a) :
    ReadsBack (readChoice cases) (.object [(name, .object ms)]) a where
  fits := ⟨hr.fits, trivial⟩
  read source := by
    have hfind : findCase cases name = .ok (.record r) := by unfold findCase; rw [h]
    have hread := hr.read source
    show readChoice cases source
      (.object (.cons (.string name) (.object (draftMembers ms)) .closed)) = _
    -- a text and a tree are read by different equations
    cases source with
    | text =>
      rw [readChoice, readKey, ok_bind, hfind, ok_bind]
      show (r .text (draft (.object ms)) >>= fun a => _) = _
      rw [hread]
      rfl
    | tree =>
      rw [readChoice, readKey, ok_bind, hfind, ok_bind]
      exact hread

end Choices

end Json

open Json

/-! ### Formulas and compositions -/

theorem ModifierFormula.restores : Restores ModifierFormula.read ModifierFormula.json where
  fits _ := trivial
  read _ f := congrArg Except.ok f.ofName_name

theorem SkillComposition.restores : Restores SkillComposition.read SkillComposition.json where
  fits _ := trivial
  read _ c := congrArg Except.ok c.ofName_name

/-! ### Throws and rolls -/

theorem Dice.restores : Restores Dice.read Dice.json := by
  refine restores_of_readsBack fun d => ?_
  refine readsBack_record "struct DiceExpression" ?_ (by simp) fun source => ?_
  · simp only [List.forall_mem_cons]
    exact ⟨carries_needed restores_uint32 _ rfl, carries_needed restores_uint32 _ rfl,
      carries_needed restores_int32 _ rfl, fun _ h => nomatch h⟩
  · rw [need_written restores_uint32 d.count rfl, ok_bind,
      need_written restores_uint32 d.sides rfl, ok_bind,
      need_written restores_int32 d.modifier rfl, ok_bind]
    rfl

theorem Roll.restores : Restores Roll.read Roll.json := by
  have hvalues := restores_list restores_uint32
  refine restores_of_readsBack fun r => ?_
  refine readsBack_record "struct DiceRollResult" ?_ (by simp) fun source => ?_
  · simp only [List.forall_mem_cons]
    exact ⟨carries_needed Dice.restores _ rfl, carries_needed hvalues _ rfl,
      carries_needed restores_int64 _ rfl, carries_needed restores_int32 _ rfl,
      carries_needed restores_int64 _ rfl, fun _ h => nomatch h⟩
  · rw [need_written Dice.restores r.dice rfl, ok_bind, need_written hvalues r.values rfl, ok_bind,
      need_written restores_int64 r.sum rfl, ok_bind,
      need_written restores_int32 r.modifier rfl, ok_bind,
      need_written restores_int64 r.total rfl, ok_bind]
    rfl

/-! ### Checks -/

theorem CheckKind.restores : Restores CheckKind.read CheckKind.json := by
  refine restores_of_readsBack fun k => ?_
  cases k with
  | attr => exact readsBack_bare rfl
  | skill governor =>
    refine readsBack_case rfl (readsBack_record _ ?_ (by simp) fun source => ?_)
    · simp only [List.forall_mem_cons]
      exact ⟨carries_needed restores_text _ rfl, fun _ h => nomatch h⟩
    · rw [need_written restores_text governor rfl]
      rfl

/-- A modifier is a number, or the null that stands for none. -/
theorem restores_modifier :
    Restores (option int64) (.ofOption fun n : Int64 => .number n.toInt) :=
  restores_option restores_int64 fun n (h : Draft.integer n.toInt = .null) => nomatch h

theorem Term.restores : Restores Term.read Term.json := by
  refine restores_of_readsBack fun t => ?_
  cases t with
  | score key n modifier =>
    refine readsBack_case rfl (readsBack_record _ ?_ (by simp) fun source => ?_)
    · simp only [List.forall_mem_cons]
      exact ⟨carries_needed restores_text _ rfl, carries_needed restores_int32 _ rfl,
        carries_needed restores_modifier _ rfl, fun _ h => nomatch h⟩
    · rw [need_written restores_text key rfl, ok_bind, need_written restores_int32 n rfl, ok_bind,
        get_written restores_modifier modifier _ rfl, ok_bind]
      rfl
  | proficiency bonus =>
    refine readsBack_case rfl (readsBack_record _ ?_ (by simp) fun source => ?_)
    · simp only [List.forall_mem_cons]
      exact ⟨carries_needed restores_int32 _ rfl, fun _ h => nomatch h⟩
    · rw [need_written restores_int32 bonus rfl]
      rfl
  | level key n =>
    refine readsBack_case rfl (readsBack_record _ ?_ (by simp) fun source => ?_)
    · simp only [List.forall_mem_cons]
      exact ⟨carries_needed restores_text _ rfl, carries_needed restores_int32 _ rfl,
        fun _ h => nomatch h⟩
    · rw [need_written restores_text key rfl, ok_bind, need_written restores_int32 n rfl, ok_bind]
      rfl

theorem Resolution.restores : Restores Resolution.read Resolution.json := by
  have hterms := restores_list Term.restores
  refine restores_of_readsBack fun r => ?_
  refine readsBack_record "struct CheckResolution" ?_ (by simp) fun source => ?_
  · simp only [List.forall_mem_cons]
    exact ⟨carries_needed restores_text _ rfl, carries_needed CheckKind.restores _ rfl,
      carries_needed restores_int64 _ rfl, carries_needed hterms _ rfl,
      carries_needed restores_text _ rfl, fun _ h => nomatch h⟩
  · rw [need_written restores_text r.check rfl, ok_bind,
      need_written CheckKind.restores r.kind rfl, ok_bind,
      need_written restores_int64 r.bonus rfl, ok_bind, need_written hterms r.terms rfl, ok_bind,
      need_written restores_text r.description rfl, ok_bind]
    rfl

/-- **An outcome is restored,** with what it came from and the roll. -/
theorem Outcome.restores : Restores Outcome.read Outcome.json := by
  refine restores_of_readsBack fun o => ?_
  refine readsBack_record "struct CheckOutcome" ?_ (by simp) fun source => ?_
  · simp only [List.forall_mem_cons]
    exact ⟨carries_needed restores_text _ rfl, carries_needed restores_text _ rfl,
      carries_needed restores_text _ rfl, carries_needed Resolution.restores _ rfl,
      carries_needed Roll.restores _ rfl, carries_needed restores_int64 _ rfl,
      fun _ h => nomatch h⟩
  · rw [need_written restores_text o.character rfl, ok_bind,
      need_written restores_text o.system rfl, ok_bind,
      need_written restores_text o.requested rfl, ok_bind,
      need_written Resolution.restores o.resolution rfl, ok_bind,
      need_written Roll.restores o.roll rfl, ok_bind,
      need_written restores_int64 o.total rfl, ok_bind]
    rfl

theorem Choice.restores : Restores Choice.read Choice.json := by
  refine restores_of_readsBack fun c => ?_
  refine readsBack_record "struct Choice" ?_ (by simp) fun source => ?_
  · simp only [List.forall_mem_cons]
    exact ⟨carries_needed restores_text _ rfl, carries_needed restores_text _ rfl,
      fun _ h => nomatch h⟩
  · rw [need_written restores_text c.name rfl, ok_bind, need_written restores_text c.value rfl,
      ok_bind]
    rfl

/-- **What is written of a check is read back,** exactly as it was: outcomes with all
that they are made of, choices, the settings of groups, formulas and compositions,
whatever their texts, their numbers, their lists and what they leave open. -/
theorem what_is_written_of_a_check_is_read_back :
    RoundTrips Outcome.read Outcome.json ∧
    RoundTrips Resolution.read Resolution.json ∧
    RoundTrips CheckKind.read CheckKind.json ∧
    RoundTrips Term.read Term.json ∧
    RoundTrips Roll.read Roll.json ∧
    RoundTrips Dice.read Dice.json ∧
    RoundTrips Choice.read Choice.json ∧
    RoundTrips GroupSettings.read GroupSettings.json ∧
    RoundTrips ModifierFormula.read ModifierFormula.json ∧
    RoundTrips SkillComposition.read SkillComposition.json :=
  ⟨Outcome.restores.roundTrips, Resolution.restores.roundTrips, CheckKind.restores.roundTrips,
    Term.restores.roundTrips, Roll.restores.roundTrips, Dice.restores.roundTrips,
    Choice.restores.roundTrips, GroupSettings.restores.roundTrips,
    ModifierFormula.restores.roundTrips, SkillComposition.restores.roundTrips⟩

end Tabletop
