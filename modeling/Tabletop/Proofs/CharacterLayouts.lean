/-
# A record is read however it is laid out

A member of an object is for the part of a record that goes by its name
(`Character.Part.ofKey?`); the proficiency flags go by two. If each part is given at
most once, by a draft of what the record holds (`Character.Gives`), and the parts
that are not given hold what is assumed without them (`Character.Leaves`), the object
is read as the record: in any order, under either name of the flags, and with any
members between that are for no part (`Character.read_object`). An array gives the
parts in their order and may end before those that hold what is assumed
(`Character.read_array`).

The other way round, an object that is read gives no part twice, and gives the name
and the system (`Character.names_of_read`).

Key definitions: `Character.Part`, `Character.Part.ofKey?`, `Character.Gives`,
`Character.Leaves`, `Character.Tells`.
Key theorems: `Character.ofForm_of_tells`, `Character.read_object`,
`Character.read_array`, `Character.names_of_read`,
`Character.layouts_are_read_alike`.
-/
import Mathlib.Data.List.Nodup
import Tabletop.Proofs.JsonRecord

namespace Tabletop
namespace Character

open Json (Draft Document Field Form Items Members Source)

/-! ### The parts of a record -/

/-- What a record is made of. -/
inductive Part where
  | name
  | system
  | attributes
  | skills
  | proficiency
  | bonus
  | diceStyle
  deriving DecidableEq, Repr

namespace Part

/-- The parts in the order in which an array gives them. -/
def all : List Part :=
  [name, system, attributes, skills, proficiency, bonus, diceStyle]

/-- The names of a member that gives a part. -/
def names : Part → List String
  | name => ["name"]
  | system => ["system"]
  | attributes => ["attributes"]
  | skills => ["skills"]
  | proficiency => ["skillProficiency", "skills_proficiency"]
  | bonus => ["proficiencyBonus"]
  | diceStyle => ["diceStyle"]

/-- The part that a member is for; none if it is unknown. -/
def ofKey? (key : String) : Option Part :=
  all.find? fun p => key ∈ p.names

/-- The field of a part. -/
def field : Part → Field
  | name => .needed "name" Json.text
  | system => .needed "system" Json.text
  | attributes => .withDefault "attributes" (Json.map Json.int32) []
  | skills => .withDefault "skills" (Json.map Json.int32) []
  | proficiency => .withDefault "skillProficiency" (Json.map Json.truth) ["skills_proficiency"]
  | bonus => .withDefault "proficiencyBonus" Json.int32 []
  | diceStyle => .withDefault "diceStyle" (Json.option Json.text) []

theorem fields_eq : fields = all.map field := rfl

theorem field_name_injective : Function.Injective fun p : Part => p.field.name := by
  intro p q h
  revert h
  cases p <;> cases q <;> decide

theorem answersTo_field (p : Part) (key : String) :
    p.field.answersTo key = decide (key ∈ p.names) := by
  have hname : ∀ s : String, (s == key) = decide (key = s) := fun s => by
    rw [Bool.eq_iff_iff, beq_iff_eq, decide_eq_true_iff, eq_comm]
  cases p <;> simp [field, names, Field.answersTo, Field.needed, Field.withDefault, hname]

theorem mem_names_of_ofKey? {p : Part} {key : String} (h : ofKey? key = some p) :
    key ∈ p.names :=
  of_decide_eq_true (List.find?_some (p := fun p : Part => key ∈ p.names) h)

theorem find?_fields (key : String) :
    fields.find? (·.answersTo key) = (ofKey? key).map field := by
  rw [fields_eq, List.find?_map, ofKey?]
  congr 2
  exact funext fun p => answersTo_field p key

end Part

/-! ### What is said of a record -/

/-- A draft of a part of a record. A map may be in any order; a dice style that there
is none of may be null. -/
def Gives (c : Character) : Part → Draft → Prop
  | .name, d => d = .string c.name
  | .system, d => d = .string c.system
  | .attributes, d => Json.IsMap (fun n : Int32 => .number n.toInt) c.attributes d
  | .skills, d => Json.IsMap (fun n : Int32 => .number n.toInt) c.skills d
  | .proficiency, d => Json.IsMap .bool c.proficiency d
  | .bonus, d => d = .integer c.proficiencyBonus.toInt
  | .diceStyle, d => d = (c.diceStyle.map .string).getD .null

/-- A record has what is assumed where nothing is said of a part. -/
def Leaves (c : Character) : Part → Prop
  | .name => False
  | .system => False
  | .attributes => c.attributes = ∅
  | .skills => c.skills = ∅
  | .proficiency => c.proficiency = ∅
  | .bonus => c.proficiencyBonus = 0
  | .diceStyle => c.diceStyle = none

/-- Drafts of parts say all of a record: no part is given twice, each by a draft of what
the record has, and the record has what is assumed of those that are not given. -/
structure Tells (given : List (Part × Draft)) (c : Character) : Prop where
  once : (given.map (·.1)).Nodup
  gives : ∀ e ∈ given, c.Gives e.1 e.2
  leaves : ∀ p, p ∉ given.map (·.1) → c.Leaves p

/-- The members of an object that give parts. -/
def partsOf (es : List (String × Draft)) : List (Part × Draft) :=
  es.filterMap fun e => (Part.ofKey? e.1).map fun p => (p, e.2)

variable {c : Character} {given : List (Part × Draft)} {source : Source}

/-! ### Reading the parts -/

theorem read_diceStyle {d : Draft} (h : c.Gives .diceStyle d) (source : Source) :
    Json.option Json.text source d = .ok c.diceStyle := by
  obtain rfl : d = (c.diceStyle.map .string).getD .null := h
  cases c.diceStyle <;> rfl

theorem read_bonus {d : Draft} (h : c.Gives .bonus d) (source : Source) :
    Json.int32 source d = .ok c.proficiencyBonus := by
  obtain rfl : d = .integer c.proficiencyBonus.toInt := h
  exact Json.restores_int32.read source _

theorem check_of_gives {p : Part} {d : Draft} (h : c.Gives p d) (source : Source) :
    p.field.check source d = .ok () := by
  cases p with
  | name => exact Json.check_of_read (show Json.text source d = .ok c.name by rw [h]; rfl)
  | system => exact Json.check_of_read (show Json.text source d = .ok c.system by rw [h]; rfl)
  | attributes => exact Json.check_of_read (Json.IsMap.read Json.restores_int32 h source)
  | skills => exact Json.check_of_read (Json.IsMap.read Json.restores_int32 h source)
  | proficiency => exact Json.check_of_read (Json.IsMap.read Json.restores_truth h source)
  | bonus => exact Json.check_of_read (read_bonus h source)
  | diceStyle => exact Json.check_of_read (read_diceStyle h source)

theorem assumed_of_leaves {p : Part} (h : c.Leaves p) : p.field.assumed = true := by
  cases p with
  | name => exact h.elim
  | system => exact h.elim
  | _ => rfl

/-- The form of parts that are given. -/
def formOf (given : List (Part × Draft)) : Form :=
  (given.map fun e => (e.1.field.name, e.2)).reverse

theorem Tells.nodup_names (h : Tells given c) :
    ((given.map fun e => (e.1.field.name, e.2)).map (·.1)).Nodup := by
  have hnames := List.Nodup.map Part.field_name_injective h.once
  rw [List.map_map] at hnames ⊢
  exact hnames

/-- What stands for a part in the form is a draft of it, and a part for which nothing
stands is left out. -/
theorem lookup_formOf (h : Tells given c) (p : Part) :
    (∃ d, (formOf given).lookup p.field.name = some d ∧ c.Gives p d) ∨
      ((formOf given).lookup p.field.name = none ∧ c.Leaves p) := by
  by_cases hp : p ∈ given.map (·.1)
  · obtain ⟨⟨q, d⟩, hmem, rfl⟩ := List.mem_map.mp hp
    have hstands : (q.field.name, d) ∈ given.map fun e => (e.1.field.name, e.2) :=
      List.mem_map.mpr ⟨(q, d), hmem, rfl⟩
    exact .inl ⟨d, Json.lookup_collected h.nodup_names hstands, h.gives _ hmem⟩
  · refine .inr ⟨List.lookup_eq_none_iff.mpr fun e he => ?_, h.leaves p hp⟩
    obtain ⟨g, hmem, rfl⟩ := List.mem_map.mp (List.mem_reverse.mp he)
    have hother : p ≠ g.1 := fun heq => hp (List.mem_map.mpr ⟨g, hmem, heq.symm⟩)
    exact bne_iff_ne.mpr (Part.field_name_injective.ne hother)

section

variable {α : Type} {p : Part} {r : Json.Reader α} {a : α}

theorem need_of_tells (h : Tells given c) (hleaves : ¬ c.Leaves p)
    (hr : ∀ d, c.Gives p d → r source d = .ok a) :
    (formOf given).need source p.field.name r = .ok a := by
  unfold Form.need
  obtain ⟨d, hl, hd⟩ | ⟨-, hp⟩ := lookup_formOf h p
  · rw [hl]
    exact hr d hd
  · exact absurd hp hleaves

theorem get_of_tells {default : α} (h : Tells given c) (hleaves : c.Leaves p → a = default)
    (hr : ∀ d, c.Gives p d → r source d = .ok a) :
    (formOf given).get source p.field.name r default = .ok a := by
  unfold Form.get
  obtain ⟨d, hl, hd⟩ | ⟨hl, hp⟩ := lookup_formOf h p
  · rw [hl]
    exact hr d hd
  · rw [hl, hleaves hp]

end

/-- **The record is put together** from what all of it is said by. -/
theorem ofForm_of_tells (h : Tells given c) : ofForm (formOf given) source = .ok c := by
  have hname : (formOf given).need source "name" Json.text = .ok c.name :=
    need_of_tells (p := .name) h id fun _ hd => by rw [hd]; rfl
  have hsystem : (formOf given).need source "system" Json.text = .ok c.system :=
    need_of_tells (p := .system) h id fun _ hd => by rw [hd]; rfl
  have hattributes :
      (formOf given).get source "attributes" (Json.map Json.int32) ∅ = .ok c.attributes :=
    get_of_tells (p := .attributes) h id fun _ hd => hd.read Json.restores_int32 source
  have hskills : (formOf given).get source "skills" (Json.map Json.int32) ∅ = .ok c.skills :=
    get_of_tells (p := .skills) h id fun _ hd => hd.read Json.restores_int32 source
  have hproficiency : (formOf given).get source "skillProficiency" (Json.map Json.truth) ∅ =
      .ok c.proficiency :=
    get_of_tells (p := .proficiency) h id fun _ hd => hd.read Json.restores_truth source
  have hbonus : (formOf given).get source "proficiencyBonus" Json.int32 0 =
      .ok c.proficiencyBonus :=
    get_of_tells (p := .bonus) h id fun _ hd => read_bonus hd source
  have hstyle : (formOf given).get source "diceStyle" (Json.option Json.text) none =
      .ok c.diceStyle :=
    get_of_tells (p := .diceStyle) h id fun _ hd => read_diceStyle hd source
  unfold ofForm
  rw [hname, Json.ok_bind, hsystem, Json.ok_bind, hattributes, Json.ok_bind, hskills,
    Json.ok_bind, hproficiency, Json.ok_bind, hbonus, Json.ok_bind, hstyle]
  rfl

/-! ### Objects -/

theorem entryOf_eq (e : String × Draft) :
    Json.entryOf fields e = (Part.ofKey? e.1).map fun p => (p.field.name, e.2) := by
  rw [Json.entryOf, Part.find?_fields, Option.map_map]
  rfl

theorem filterMap_entryOf (es : List (String × Draft)) :
    es.filterMap (Json.entryOf fields) = (partsOf es).map fun e => (e.1.field.name, e.2) := by
  rw [partsOf, List.map_filterMap]
  congr 1
  exact funext fun e => by rw [entryOf_eq, Option.map_map]; rfl

/-- **An object that says all of a record is read as the record,** in whatever order
its members stand and whatever stands between them for no part. -/
theorem read_object {es : List (String × Draft)} (h : Tells (partsOf es) c)
    (hwhole : ∀ e ∈ es, Part.ofKey? e.1 = none → e.2.isWhole = true) (source : Source) :
    read source (.object (Members.ofList es)) = .ok c := by
  have hpasses : ∀ e ∈ es, Json.Passes source fields e := by
    intro e he
    unfold Json.Passes
    rw [Part.find?_fields]
    cases hk : Part.ofKey? e.1 with
    | none => exact hwhole e he hk
    | some p =>
      refine check_of_gives (h.gives (p, e.2) ?_) source
      exact List.mem_filterMap.mpr ⟨e, he, by rw [hk]; rfl⟩
  have hnodup : ((es.filterMap (Json.entryOf fields)).map (·.1)).Nodup := by
    rw [filterMap_entryOf]
    exact h.nodup_names
  show (Json.readFields source fields (Members.ofList es) [] >>= fun form =>
    ofForm form source) = _
  rw [Json.readFields_ofList es [] hpasses hnodup fun _ _ => rfl, Json.ok_bind, List.append_nil,
    filterMap_entryOf]
  exact ofForm_of_tells h

/-! ### Arrays -/

/-- **An array that says all of a record is read as the record:** it gives parts in
their order, and ends before some that are left out. -/
theorem read_array (h : Tells given c) (horder : given.map (·.1) <+: Part.all) (source : Source) :
    read source (.array (Items.ofList (given.map (·.2)))) = .ok c := by
  obtain ⟨rest, hall⟩ := horder
  have hdisjoint : (given.map (·.1)).Disjoint rest := by
    have hnodup : Part.all.Nodup := by decide
    rw [← hall] at hnodup
    exact List.disjoint_of_nodup_append hnodup
  have hassumed : ∀ f ∈ rest.map Part.field, f.assumed = true := by
    intro f hf
    obtain ⟨p, hp, rfl⟩ := List.mem_map.mp hf
    exact assumed_of_leaves (h.leaves p fun hgiven => hdisjoint hgiven hp)
  have hcheck : ∀ e ∈ given.map fun e => (e.1.field, e.2), e.1.check source e.2 = .ok () := by
    intro e he
    obtain ⟨g, hg, rfl⟩ := List.mem_map.mp he
    exact check_of_gives (h.gives g hg) source
  have hfields : fields =
      (given.map fun e => (e.1.field, e.2)).map (·.1) ++ rest.map Part.field := by
    rw [Part.fields_eq, ← hall, List.map_append, List.map_map, List.map_map]
    rfl
  have hitems : given.map (·.2) = (given.map fun e => (e.1.field, e.2)).map (·.2) := by
    rw [List.map_map]
    rfl
  have hform : formOf given =
      ((given.map fun e => (e.1.field, e.2)).map fun e => (e.1.name, e.2)).reverse ++ [] := by
    rw [List.map_map, List.append_nil]
    rfl
  show (Json.readRow source "struct CharacterRecord" 7 fields (Items.ofList (given.map (·.2))) 0 []
    >>= fun form => ofForm form source) = _
  rw [hfields, hitems, Json.readRow_ofList hassumed _ 0 [] hcheck, ← hform]
  exact ofForm_of_tells h

/-! ### Objects that are no record -/

theorem fieldOf_eq (key : String) :
    Json.fieldOf fields key = (Part.ofKey? key).map (·.field.name) := by
  rw [Json.fieldOf, Part.find?_fields, Option.map_map]
  rfl

theorem mem_names_of_mem_collected {ms : Members} {form : Form} {p : Part} {name : String}
    (h : Json.readFields source fields ms [] = .ok form) (hform : name ∈ form.map (·.1))
    (hfield : p.field.name = name) (honly : p.names = [name]) : name ∈ ms.names := by
  obtain ⟨hnames, -, -⟩ := Json.names_of_readFields h
  rw [hnames, List.map_nil, List.append_nil, List.mem_reverse] at hform
  obtain ⟨key, hkey, hof⟩ := List.mem_filterMap.mp hform
  rw [fieldOf_eq] at hof
  obtain ⟨q, hq, hname⟩ := Option.map_eq_some_iff.mp hof
  obtain rfl : q = p := Part.field_name_injective (hname.trans hfield.symm)
  have hmem := Part.mem_names_of_ofKey? hq
  rw [honly] at hmem
  rwa [List.mem_singleton.mp hmem] at hkey

/-- **An object that is read gives no part twice,** and gives the name and the
system. -/
theorem names_of_read {ms : Members} (h : read source (.object ms) = .ok c) :
    (ms.names.filterMap Part.ofKey?).Nodup ∧ "name" ∈ ms.names ∧ "system" ∈ ms.names := by
  obtain ⟨form, hform, hbuilt⟩ := Json.exists_of_bind_eq_ok h
  have hcollected : Json.readFields source fields ms [] = .ok form := hform
  obtain ⟨name, hname, hbuilt⟩ := Json.exists_of_bind_eq_ok hbuilt
  obtain ⟨system, hsystem, -⟩ := Json.exists_of_bind_eq_ok hbuilt
  have hnodup : ((ms.names.filterMap Part.ofKey?).map (·.field.name)).Nodup := by
    obtain ⟨-, hnodup, -⟩ := Json.names_of_readFields hcollected
    rw [List.map_filterMap]
    simpa only [fieldOf_eq] using hnodup
  exact ⟨.of_map _ hnodup,
    mem_names_of_mem_collected (p := .name) hcollected (Json.mem_of_need_eq_ok hname) rfl rfl,
    mem_names_of_mem_collected (p := .system) hcollected (Json.mem_of_need_eq_ok hsystem) rfl rfl⟩

/-! ### All layouts -/

/-- A draft is read as a record: from a tree, and from a text that it is the whole
of. -/
def ReadsAs (d : Draft) (c : Character) : Prop :=
  (∀ source, read source d = .ok c) ∧
    ∀ text, Document.ofText text = ⟨d, true⟩ → Json.decode read text = .ok c

/-- A draft is refused: from a tree, and from a text that begins with it. -/
def Refused (d : Draft) : Prop :=
  (∀ source, ∃ e, read source d = .error e) ∧
    ∀ text, (Document.ofText text).root = d → ∃ e, Json.decode read text = .error e

theorem readsAs_of_read {d : Draft} (h : ∀ source, read source d = .ok c) : ReadsAs d c :=
  ⟨h, fun _ htext => by rw [Json.decode_of_ofText read htext, h]⟩

theorem refused_of_read {d : Draft} (h : ∀ source, ∃ e, read source d = .error e) :
    Refused d := by
  refine ⟨h, fun text htext => ?_⟩
  obtain ⟨e, he⟩ := h .text
  rw [← htext] at he
  exact ⟨e, Json.decode_eq_error_of_root he⟩

/-- **A record is read however it is laid out.** An object may give its parts in any
order, the proficiency flags under either name and each map in any order, leave out
what holds what is assumed, and have any other members, of any names and values, in
any places. An array gives the parts in their order, up to where only such are left
as hold what is assumed. Whatever record this says is read, from a text or from a
tree.

An object that gives a part twice, if only under both names of the flags, is refused,
whatever else it has, and so is one without a name or without a system. -/
theorem layouts_are_read_alike :
    (∀ (c : Character) (es : List (String × Draft)), Tells (partsOf es) c →
      (∀ e ∈ es, Part.ofKey? e.1 = none → e.2.isWhole = true) →
      ReadsAs (.object (Members.ofList es)) c) ∧
    (∀ (c : Character) (given : List (Part × Draft)), Tells given c →
      given.map (·.1) <+: Part.all → ReadsAs (.array (Items.ofList (given.map (·.2)))) c) ∧
    ∀ ms : Members,
      ¬ (ms.names.filterMap Part.ofKey?).Nodup ∨ "name" ∉ ms.names ∨ "system" ∉ ms.names →
      Refused (.object ms) := by
  refine ⟨fun c es h hwhole => readsAs_of_read (read_object h hwhole),
    fun c given h horder => readsAs_of_read (read_array h horder), fun ms h => ?_⟩
  refine refused_of_read fun source => ?_
  cases hread : read source (.object ms) with
  | error e => exact ⟨e, rfl⟩
  | ok c =>
    obtain ⟨hnodup, hname, hsystem⟩ := names_of_read hread
    obtain h | h | h := h
    · exact absurd hnodup h
    · exact absurd hname h
    · exact absurd hsystem h

/-- One record from an object in another order, with the other name of the flags, a
note and a null, and from an array that ends after the flags; and an object with the
flags under both names. -/
theorem rin_in_three_layouts :
    let attributes : Json := .object [("wit", .number (-1)), ("dex", .number 3)]
    let flags : Json := .object [("stealth", .bool true)]
    let rin : Character := ⟨"Rin", "dnd5e", KeyMap.ofList [("dex", 3), ("wit", -1)], ∅,
      KeyMap.ofList [("stealth", true)], 0, none⟩
    let members : List (String × Json) := [
      ("skills_proficiency", flags),
      ("notes", .array [.object [("name", .null)], .number 7]),
      ("system", .string "dnd5e"),
      ("attributes", attributes),
      ("diceStyle", .null),
      ("name", .string "Rin")]
    let items : List Json :=
      [.string "Rin", .string "dnd5e", attributes, .object [], flags]
    let twice : List (String × Json) := ("skillProficiency", flags) :: members
    Json.decode read (Json.object members).compact = .ok rin ∧
    Json.decode read (Json.array items).compact = .ok rin ∧
    ∃ e, Json.decode read (Json.object twice).compact = .error e := by
  intro attributes flags rin members items twice
  obtain ⟨hobject, harray, hrefused⟩ := layouts_are_read_alike
  have hattributes : rin.Gives .attributes (Json.draft attributes) :=
    ⟨[("wit", -1), ("dex", 3)], by decide, rfl⟩
  have hflags : rin.Gives .proficiency (Json.draft flags) := ⟨[("stealth", true)], rfl, rfl⟩
  have hmembers : Tells (partsOf (members.map fun e => (e.1, Json.draft e.2))) rin := by
    have hparts : partsOf (members.map fun e => (e.1, Json.draft e.2)) = [
      (.proficiency, Json.draft flags), (.system, .string "dnd5e"),
      (.attributes, Json.draft attributes), (.diceStyle, .null), (.name, .string "Rin")] := rfl
    rw [hparts]
    refine ⟨by decide, ?_, ?_⟩
    · simp only [List.forall_mem_cons]
      exact ⟨hflags, rfl, hattributes, rfl, rfl, fun _ h => nomatch h⟩
    · intro p hp
      cases p <;> first | rfl | exact absurd (by decide) hp
  have hwhole : ∀ e ∈ members.map fun e => (e.1, Json.draft e.2),
      Part.ofKey? e.1 = none → e.2.isWhole = true := by
    simp only [members, List.map_cons, List.map_nil, List.forall_mem_cons]
    exact ⟨fun _ => rfl, fun _ => rfl, fun _ => rfl, fun _ => rfl, fun _ => rfl, fun _ => rfl,
      fun _ h => nomatch h⟩
  let given : List (Part × Draft) := [
    (.name, .string "Rin"), (.system, .string "dnd5e"), (.attributes, Json.draft attributes),
    (.skills, Json.draft (.object [])), (.proficiency, Json.draft flags)]
  have hgiven : Tells given rin := by
    refine ⟨by decide, ?_, ?_⟩
    · simp only [given, List.forall_mem_cons]
      exact ⟨rfl, rfl, hattributes, ⟨[], rfl, rfl⟩, hflags, fun _ h => nomatch h⟩
    · intro p hp
      cases p <;> first | rfl | exact absurd (by decide) hp
  have htwice : ¬ ((Members.ofList (twice.map fun e => (e.1, Json.draft e.2))).names.filterMap
      Part.ofKey?).Nodup := by
    show ¬ [Part.proficiency, .proficiency, .system, .attributes, .diceStyle, .name].Nodup
    decide
  have hfits : (Json.object twice).Fits := by
    simp [twice, members, attributes, flags, Json.Fits, Json.FitMembers, Json.FitItems]
  have hfitsItems : (Json.array items).Fits := by
    simp [items, attributes, flags, Json.Fits, Json.FitMembers, Json.FitItems]
  refine ⟨?_, ?_, ?_⟩
  · exact (hobject rin _ hmembers hwhole).2 _ (Json.ofText_object hfits.2)
  · exact (harray rin given hgiven ⟨[.bonus, .diceStyle], rfl⟩).2 _ (Json.ofText_compact hfitsItems)
  · exact (hrefused _ (.inl htwice)).2 _ (congrArg Document.root (Json.ofText_object hfits))

end Character
end Tabletop
