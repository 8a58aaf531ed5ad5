/-
# What the review of a record warns of

A review reports in words, and within one game system the words tell the
issues apart (`RecordIssue.eq_of_message`). So each report says what it means:
an attribute or a skill is called unknown if the system has none with its
normal form, an attribute is called missing if the record has no score for it.

A check looks up names of the system, and these are normalized. An entry that is
called unknown has another normal form, so no lookup comes to it
(`Character.lookUp_filter`): without these entries every check resolves as
before. The score that a check shows is 0 if its attribute is called missing,
else that of an entry that is not called unknown
(`warnings_mean_what_they_say`).

Key definitions: `Character.Reports`, `Character.withoutUnknown`.
Key theorems: `RecordIssue.eq_of_message`, `Character.reports_message_iff`,
`resolve_withoutUnknown`, `warnings_mean_what_they_say`.
-/
import Tabletop.Character.Review
import Tabletop.Proofs.Spelling
import Tabletop.Proofs.SystemConsistency

namespace Tabletop

/-! ### The words of an issue -/

namespace RecordIssue

variable {i j : RecordIssue} {system : String}

/-- The issue names no system but a given one as that of the review. -/
def Names (system : String) : RecordIssue → Prop
  | foreignSystem _ s => s = system
  | unknownAttribute _ s => s = system
  | missingAttribute _ => True
  | unknownSkill _ s => s = system

/-- How the message of an issue begins. -/
def opening : RecordIssue → String
  | foreignSystem _ _ => "record belongs to system '"
  | unknownAttribute _ _ => "unknown attribute '"
  | missingAttribute _ => "attribute '"
  | unknownSkill _ _ => "unknown skill '"

/-- What an issue is about: a system, an attribute or a skill. -/
def topic : RecordIssue → String
  | foreignSystem own _ => own
  | unknownAttribute attr _ => attr
  | missingAttribute attr => attr
  | unknownSkill skill _ => skill

/-- How the message of an issue ends. -/
def closing : RecordIssue → String
  | foreignSystem _ system => "', not '" ++ system ++ "'"
  | unknownAttribute _ system => "' in system '" ++ system ++ "'"
  | missingAttribute _ => "' is missing, rolls as 0"
  | unknownSkill _ system => "' in system '" ++ system ++ "'"

theorem message_eq (i : RecordIssue) : i.message = i.opening ++ i.topic ++ i.closing := by
  cases i <;> simp only [opening, topic, closing, ← String.append_assoc] <;> rfl

/-- The first and the ninth character of a message give away the kind of issue. -/
theorem opening_eq_of_message (h : i.message = j.message) : i.opening = j.opening := by
  have hfirst := congrArg (·.toList[0]?) h
  have hninth := congrArg (·.toList[8]?) h
  simp only [message_eq] at hfirst hninth
  cases i <;> cases j <;> simp [opening] at hfirst hninth <;> rfl

/-- **The messages of one system tell its issues apart.** -/
theorem eq_of_message (hi : i.Names system) (hj : j.Names system) (h : i.message = j.message) :
    i = j := by
  have hopening := opening_eq_of_message h
  rw [message_eq, message_eq, hopening, String.append_assoc, String.append_assoc,
    String.append_right_inj] at h
  -- what the messages end with is settled by the kind of issue and the system
  have htopic (hclosing : i.closing = j.closing) : i.topic = j.topic := by
    rw [hclosing] at h
    exact (String.append_left_inj _).mp h
  cases i <;> cases j <;> simp [opening] at hopening
  case foreignSystem own s own' s' =>
    obtain rfl : s = system := hi
    obtain rfl : s' = s := hj
    obtain rfl : own = own' := htopic rfl
    rfl
  case unknownAttribute attr s attr' s' =>
    obtain rfl : s = system := hi
    obtain rfl : s' = s := hj
    obtain rfl : attr = attr' := htopic rfl
    rfl
  case missingAttribute attr attr' =>
    obtain rfl : attr = attr' := htopic rfl
    rfl
  case unknownSkill skill s skill' s' =>
    obtain rfl : s = system := hi
    obtain rfl : s' = s := hj
    obtain rfl : skill = skill' := htopic rfl
    rfl

end RecordIssue

/-! ### What is reported -/

namespace Character

variable {g : GameSystem} {c : Character} {i : RecordIssue} {attr k skill : String}

/-- What is amiss with a record in a game system. -/
inductive Amiss (g : GameSystem) (c : Character) : RecordIssue → Prop
  | foreign (h : Catalog.sameLetters c.system g.key = false) :
      Amiss g c (.foreignSystem c.system g.key)
  | strayScore {k : String} (hk : k ∈ c.attributes.keys) (h : Key.normalize k ∉ g.attributes) :
      Amiss g c (.unknownAttribute k g.key)
  | unscored {attr : String} (ha : attr ∈ g.attributes) (h : c.score attr = none) :
      Amiss g c (.missingAttribute attr)
  | straySkill {k : String} (hk : k ∈ c.skills.keys ∨ k ∈ c.proficiency.keys)
      (h : g.skills.get? (Key.normalize k) = none) :
      Amiss g c (.unknownSkill k g.key)

theorem Amiss.names (h : c.Amiss g i) : i.Names g.key := by
  cases h with
  | foreign => rfl
  | strayScore => rfl
  | unscored => trivial
  | straySkill => rfl

/-- **The review finds what is amiss.** -/
theorem mem_review : i ∈ c.review g ↔ c.Amiss g i := by
  unfold review
  rw [List.mem_append, List.mem_append, List.mem_append]
  constructor
  · rintro (((h | h) | h) | h)
    · split at h
      · cases h
      · rename_i hsystem
        rw [List.mem_singleton.mp h]
        exact .foreign (Bool.not_eq_true _ ▸ hsystem)
    · obtain ⟨k, hk, rfl⟩ := List.mem_map.mp h
      obtain ⟨hk, hunknown⟩ := List.mem_filter.mp hk
      exact .strayScore hk (by simpa [GameSystem.isAttribute] using hunknown)
    · obtain ⟨attr, ha, rfl⟩ := List.mem_map.mp h
      obtain ⟨ha, hmissing⟩ := List.mem_filter.mp ha
      exact .unscored ha (Option.isNone_iff_eq_none.mp hmissing)
    · obtain ⟨k, hk, rfl⟩ := List.mem_map.mp h
      obtain ⟨hk, hunknown⟩ := List.mem_filter.mp hk
      exact .straySkill (List.mem_append.mp hk) (Option.isNone_iff_eq_none.mp hunknown)
  · rintro (hsystem | ⟨hk, hunknown⟩ | ⟨ha, hmissing⟩ | ⟨hk, hunknown⟩)
    · exact .inl (.inl (.inl (by simp [hsystem])))
    · refine .inl (.inl (.inr (List.mem_map_of_mem (List.mem_filter.mpr ⟨hk, ?_⟩))))
      simpa [GameSystem.isAttribute] using hunknown
    · refine .inl (.inr (List.mem_map_of_mem (List.mem_filter.mpr ⟨ha, ?_⟩)))
      exact Option.isNone_iff_eq_none.mpr hmissing
    · refine .inr (List.mem_map_of_mem (List.mem_filter.mpr ⟨List.mem_append.mpr hk, ?_⟩))
      exact Option.isNone_iff_eq_none.mpr hunknown

/-- The review of a record says so. -/
def Reports (g : GameSystem) (c : Character) (message : String) : Prop :=
  message ∈ (c.review g).map RecordIssue.message

instance (message : String) : Decidable (c.Reports g message) :=
  inferInstanceAs (Decidable (message ∈ (c.review g).map RecordIssue.message))

/-- **A report means what it says:** the issue that it names. -/
theorem reports_message_iff (hi : i.Names g.key) : c.Reports g i.message ↔ c.Amiss g i := by
  unfold Reports
  rw [List.mem_map]
  constructor
  · rintro ⟨j, hj, hmessage⟩
    have hj := mem_review.mp hj
    rwa [← RecordIssue.eq_of_message hj.names hi hmessage]
  · intro h
    exact ⟨i, mem_review.mpr h, rfl⟩

theorem reports_unknownAttribute : c.Reports g (RecordIssue.unknownAttribute k g.key).message ↔
    k ∈ c.attributes.keys ∧ Key.normalize k ∉ g.attributes := by
  have hnames : (RecordIssue.unknownAttribute k g.key).Names g.key := rfl
  rw [reports_message_iff hnames]
  constructor
  · rintro ⟨⟩
    exact ⟨‹_›, ‹_›⟩
  · rintro ⟨hk, h⟩
    exact .strayScore hk h

theorem reports_missingAttribute : c.Reports g (RecordIssue.missingAttribute attr).message ↔
    attr ∈ g.attributes ∧ c.score attr = none := by
  have hnames : (RecordIssue.missingAttribute attr).Names g.key := trivial
  rw [reports_message_iff hnames]
  constructor
  · rintro ⟨⟩
    exact ⟨‹_›, ‹_›⟩
  · rintro ⟨ha, h⟩
    exact .unscored ha h

theorem reports_unknownSkill : c.Reports g (RecordIssue.unknownSkill k g.key).message ↔
    (k ∈ c.skills.keys ∨ k ∈ c.proficiency.keys) ∧ g.skills.get? (Key.normalize k) = none := by
  have hnames : (RecordIssue.unknownSkill k g.key).Names g.key := rfl
  rw [reports_message_iff hnames]
  constructor
  · rintro ⟨⟩
    exact ⟨‹_›, ‹_›⟩
  · rintro ⟨hk, h⟩
    exact .straySkill hk h

/-! ### The record without what is unknown -/

/-- The review does not report the key of an attribute as unknown. -/
def knowsAttribute (g : GameSystem) (c : Character) (k : String) : Bool :=
  !decide (c.Reports g (RecordIssue.unknownAttribute k g.key).message)

/-- The review does not report the key of a skill as unknown. -/
def knowsSkill (g : GameSystem) (c : Character) (k : String) : Bool :=
  !decide (c.Reports g (RecordIssue.unknownSkill k g.key).message)

/-- The record without the entries that its review reports as unknown. -/
def withoutUnknown (g : GameSystem) (c : Character) : Character :=
  { c with
    attributes := c.attributes.filter (c.knowsAttribute g)
    skills := c.skills.filter (c.knowsSkill g)
    proficiency := c.proficiency.filter (c.knowsSkill g) }

/-- **Keys of another normal form do not matter** to a lookup. -/
theorem lookUp_filter {α : Type} (m : KeyMap α) {keep : String → Bool} {key : String}
    (h : ∀ k, Key.normalize k = Key.normalize key → keep k = true) :
    lookUp (m.filter keep) key = lookUp m key := by
  have hfind : (m.filter keep).entries.find? (fun e => Key.normalize e.1 == Key.normalize key) =
      m.entries.find? fun e => Key.normalize e.1 == Key.normalize key := by
    show (m.entries.filter fun e => keep e.1).find? _ = _
    rw [List.find?_filter]
    refine congrArg (m.entries.find? ·) (funext fun e => ?_)
    cases hsame : Key.normalize e.1 == Key.normalize key with
    | false => simp
    | true => simp [h e.1 (beq_iff_eq.mp hsame)]
  unfold lookUp
  rw [KeyMap.get?_filter, if_pos (h key rfl), hfind]

theorem score_withoutUnknown (ha : attr ∈ g.attributes) (hnormal : Key.normalize attr = attr) :
    (c.withoutUnknown g).score attr = c.score attr := by
  have hknown : ∀ k, Key.normalize k = Key.normalize attr → c.knowsAttribute g k = true := by
    intro k hk
    have hreports : ¬c.Reports g (RecordIssue.unknownAttribute k g.key).message := fun h =>
      (reports_unknownAttribute.mp h).2 (by rwa [hk, hnormal])
    simp [knowsAttribute, hreports]
  exact lookUp_filter c.attributes hknown

theorem knowsSkill_of_normalize (hs : g.skills.get? skill = some attr)
    (hnormal : Key.normalize skill = skill) (hk : Key.normalize k = Key.normalize skill) :
    c.knowsSkill g k = true := by
  have hreports : ¬c.Reports g (RecordIssue.unknownSkill k g.key).message := by
    intro h
    have hnone := (reports_unknownSkill.mp h).2
    rw [hk, hnormal, hs] at hnone
    cases hnone
  simp [knowsSkill, hreports]

theorem level_withoutUnknown (hs : g.skills.get? skill = some attr)
    (hnormal : Key.normalize skill = skill) :
    (c.withoutUnknown g).level skill = c.level skill := by
  have hstays : lookUp (c.skills.filter (c.knowsSkill g)) skill = lookUp c.skills skill :=
    lookUp_filter c.skills fun _ => knowsSkill_of_normalize hs hnormal
  exact congrArg (·.getD 0) hstays

theorem isProficient_withoutUnknown (hs : g.skills.get? skill = some attr)
    (hnormal : Key.normalize skill = skill) :
    (c.withoutUnknown g).isProficient skill = c.isProficient skill := by
  have hstays : lookUp (c.proficiency.filter (c.knowsSkill g)) skill =
      lookUp c.proficiency skill :=
    lookUp_filter c.proficiency fun _ => knowsSkill_of_normalize hs hnormal
  exact congrArg (·.getD false) hstays

end Character

/-! ### Checks -/

section

variable {key requested : String} {s : SystemSource} {g : GameSystem}

/-- **What is reported as unknown does not matter** to any check. -/
theorem resolve_withoutUnknown (h : GameSystem.ofSource key s = .ok g) (c : Character)
    (requested : String) : resolve g (c.withoutUnknown g) requested = resolve g c requested := by
  have hnormal := GameSystem.normal_of_ofSource h
  have hconsistent := GameSystem.consistent_of_ofSource h
  have hscore : ∀ attr ∈ g.attributes, (c.withoutUnknown g).score attr = c.score attr :=
    fun attr ha => Character.score_withoutUnknown ha (hnormal attr (List.mem_append_left _ ha))
  rcases resolve_cases g c requested with ⟨ha, hr⟩ | ⟨attr, ha, hs, hr⟩ | ⟨ha, hs, hr⟩
  · rw [hr, resolve_attribute ha, hscore _ ha]
  · have hskill := hnormal _ (List.mem_append_right _ (KeyMap.mem_keys_of_get? hs))
    rw [hr, resolve_skill ha hs, skillTerms_congr (hscore attr (hconsistent.governed _ _ hs))
      (Character.level_withoutUnknown hs hskill)
      (Character.isProficient_withoutUnknown hs hskill) rfl]
  · rw [hr, resolve_neither ha hs]

/-- The term of an attribute. -/
def Term.isScore : Term → Bool
  | score _ _ _ => true
  | _ => false

theorem scoreTerm_eq (f : ModifierFormula) (attr : String) (n : Int32) :
    ∃ modifier, scoreTerm f attr n = .score attr n modifier := by
  cases f with
  | linearMod => exact ⟨_, rfl⟩
  | directStat => exact ⟨_, rfl⟩
  | addRaw => exact ⟨_, rfl⟩

/-- A check shows the score of one attribute of the system, as the record has it. -/
theorem score_of_resolve (hconsistent : g.Consistent) {c : Character} {r : Resolution}
    (hr : resolve g c requested = .ok r) : ∃ attr ∈ g.attributes, ∃ modifier,
      r.terms.filter Term.isScore = [.score attr ((c.score attr).getD 0) modifier] := by
  rcases resolve_cases g c requested with ⟨ha, h⟩ | ⟨attr, -, hs, h⟩ | ⟨-, -, h⟩
  · obtain rfl := Except.ok.inj (h.symm.trans hr)
    obtain ⟨modifier, hterm⟩ := scoreTerm_eq g.formula (Key.normalize requested)
      ((c.score (Key.normalize requested)).getD 0)
    exact ⟨_, ha, modifier, by rw [hterm]; rfl⟩
  · obtain rfl := Except.ok.inj (h.symm.trans hr)
    obtain ⟨modifier, hterm⟩ := scoreTerm_eq g.formula attr ((c.score attr).getD 0)
    refine ⟨attr, hconsistent.governed _ _ hs, ?_⟩
    unfold skillTerms Resolution.ofTerms
    cases hcomposition : g.composition with
    | proficiencyGated =>
      refine ⟨modifier, ?_⟩
      simp only [hterm]
      split <;> rfl
    | statSum => exact ⟨none, rfl⟩
    | modifierPlusLevel => exact ⟨modifier, by simp only [hterm]; rfl⟩
  · rw [h] at hr
    cases hr

/-- What a record has for an attribute of a system stands at an entry that is not
reported as unknown, unless the attribute is reported as missing. -/
theorem exists_entry_of_score {c : Character} {attr : String} (ha : attr ∈ g.attributes)
    (hnormal : Key.normalize attr = attr)
    (hscored : ¬c.Reports g (RecordIssue.missingAttribute attr).message) :
    ∃ k, c.attributes.get? k = some ((c.score attr).getD 0) ∧ Key.normalize k = attr ∧
      ¬c.Reports g (RecordIssue.unknownAttribute k g.key).message := by
  have hsome : c.score attr ≠ none := fun hnone =>
    hscored (Character.reports_missingAttribute.mpr ⟨ha, hnone⟩)
  obtain ⟨n, hn⟩ := Option.ne_none_iff_exists'.mp hsome
  obtain ⟨k, hk, hsame⟩ : ∃ k, c.attributes.get? k = some n ∧ Key.normalize k = attr := by
    have hrecorded := Character.recorded_iff.mpr hn
    cases hrecorded with
    | exact hkey => exact ⟨attr, hkey, hnormal⟩
    | respelled _ hkey hsame => exact ⟨_, hkey, hsame.trans hnormal⟩
  refine ⟨k, by rw [hn]; exact hk, hsame, fun hunknown => ?_⟩
  exact (Character.reports_unknownAttribute.mp hunknown).2 (by rwa [hsame])

/-- **Warnings mean what they say,** in every game system that is built from a
source, for every record and every request. Without the entries that are reported
as unknown the request resolves to the same, be it a result or an error. Where it
has a result, this shows one score: 0 if its attribute is reported as missing,
else the score of an entry of which the key normalizes to the attribute and which
is not reported as unknown. And reported are just the entries of no attribute and
no skill of the system, and its attributes without a score. -/
theorem warnings_mean_what_they_say (h : GameSystem.ofSource key s = .ok g) (c : Character)
    (requested : String) :
    resolve g (c.withoutUnknown g) requested = resolve g c requested ∧
    (∀ r, resolve g c requested = .ok r → ∃ attr n modifier,
      r.terms.filter Term.isScore = [.score attr n modifier] ∧
      (c.Reports g (RecordIssue.missingAttribute attr).message → n = 0) ∧
      (¬c.Reports g (RecordIssue.missingAttribute attr).message →
        ∃ k, c.attributes.get? k = some n ∧ Key.normalize k = attr ∧
          ¬c.Reports g (RecordIssue.unknownAttribute k g.key).message)) ∧
    (∀ k, c.Reports g (RecordIssue.unknownAttribute k g.key).message ↔
      k ∈ c.attributes.keys ∧ Key.normalize k ∉ g.attributes) ∧
    (∀ k, c.Reports g (RecordIssue.unknownSkill k g.key).message ↔
      (k ∈ c.skills.keys ∨ k ∈ c.proficiency.keys) ∧ Key.normalize k ∉ g.skills.keys) ∧
    ∀ attr, c.Reports g (RecordIssue.missingAttribute attr).message ↔
      attr ∈ g.attributes ∧ c.score attr = none := by
  refine ⟨resolve_withoutUnknown h c requested, fun r hr => ?_,
    fun k => Character.reports_unknownAttribute, fun k => ?_,
    fun attr => Character.reports_missingAttribute⟩
  · obtain ⟨attr, ha, modifier, hterms⟩ :=
      score_of_resolve (GameSystem.consistent_of_ofSource h) hr
    have hnormal := GameSystem.normal_of_ofSource h attr (List.mem_append_left _ ha)
    refine ⟨attr, _, modifier, hterms, fun hmissing => ?_, exists_entry_of_score ha hnormal⟩
    rw [(Character.reports_missingAttribute.mp hmissing).2]
    rfl
  · rw [Character.reports_unknownSkill, KeyMap.mem_keys_iff g.skills, Option.not_isSome_iff_eq_none]

/-- A stray luck, a dexterity that shadows another one, a strength that is
missing, and a skill that is spelled in two ways next to one that is unknown. -/
theorem climb_without_luck_and_hacking :
    let source : SystemSource := ⟨none, ["STR", " Dex "], KeyMap.ofList [("Climb", "dex")], none,
      none, some "d20", none⟩
    let g : GameSystem := ⟨"k", "k", ["str", "dex"], KeyMap.ofList [("climb", "dex")], .addRaw,
      .modifierPlusLevel, "d20", ⟨1, 20, 0⟩⟩
    let c : Character := { Character.blank "Razor" "K" with
      attributes := .ofList [("DEX", 7), ("dex", 12), ("luck", 3)]
      skills := .ofList [("CLIMB ", 2), ("Climb", 5), ("hacking", 9)] }
    GameSystem.ofSource "k" source = .ok g ∧
    (c.withoutUnknown g).attributes = .ofList [("DEX", 7), ("dex", 12)] ∧
    (c.withoutUnknown g).skills = .ofList [("CLIMB ", 2), ("Climb", 5)] ∧
    resolve g (c.withoutUnknown g) "climb" = resolve g c "climb" ∧
    c.Reports g (RecordIssue.missingAttribute "str").message ∧
    ∀ r, resolve g c "STR" = .ok r → ∃ modifier,
      r.terms.filter Term.isScore = [.score "str" 0 modifier] := by
  intro source g c
  have hbuilt : GameSystem.ofSource "k" source = .ok g := by decide +kernel
  have hmissing : c.Reports g (RecordIssue.missingAttribute "str").message := by decide +kernel
  refine ⟨hbuilt, by decide +kernel, by decide +kernel,
    (warnings_mean_what_they_say hbuilt c "climb").1, hmissing, fun r hr => ?_⟩
  obtain ⟨attr, n, modifier, hterms, hzero, -⟩ :=
    (warnings_mean_what_they_say hbuilt c "STR").2.1 r hr
  have hattr : attr = "str" := by
    have hresolved : resolve g c "STR" = .ok (.ofTerms "str" .attr [.score "str" 0 none]) := by
      decide +kernel
    obtain rfl := Except.ok.inj (hresolved.symm.trans hr)
    have hterms : [Term.score "str" 0 none] = [Term.score attr n modifier] := hterms
    cases hterms
    rfl
  subst hattr
  exact ⟨modifier, hzero hmissing ▸ hterms⟩

end

end Tabletop
