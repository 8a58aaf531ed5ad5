/-
# Readers that give back what is written

A reader restores a writer if it gives every value back from what is written
of it (`Json.Restores`), whether it reads a text or a tree. The simple readers
restore their writers, a map of values does if the values do, and a record is read
back if its members go by the names of fields, each once, and every field takes the
value of its member (`readsBack_record`).

The members of an object may stand in any order, with others between them that no
field knows (`readFields_ofList`), and an array of the fields may end before those
that are assumed (`readRow_ofList`). The other way round, what is collected stands for
the members in their order and for no field twice (`names_of_readFields`), so an object
with two members for one field is refused (`readFields_twice`).

Key definitions: `Json.Restores`, `Json.ReadsBack`, `Json.IsMap`, `Json.Passes`,
`Json.Members.names`, `Json.Members.Has`, `Json.Takes`, `Json.Carries`, `Json.formOf`.
Key theorems: `Json.readFields_ofList`, `Json.names_of_readFields`,
`Json.readFields_twice`, `Json.readRow_ofList`, `Json.readForm_written`,
`Json.readsBack_record`, `Json.restores_map`, `Character.restores`,
`GroupSettings.restores`, `Json.Restores.decode_pretty`.
-/
import Mathlib.Data.List.Basic
import Mathlib.Data.List.Pairwise
import Tabletop.Character.Json
import Tabletop.Proofs.JsonText
import Tabletop.Store.Settings

namespace Tabletop
namespace Json

variable {α β : Type}

/-- A reader gives back every value from what is written of it. -/
structure Restores (r : Reader α) (write : α → Json) : Prop where
  fits : ∀ a, (write a).Fits
  read : ∀ source a, r source (draft (write a)) = .ok a

theorem Restores.decode_pretty {r : Reader α} {write : α → Json} (h : Restores r write) (a : α) :
    decode r ((write a).pretty ++ "\n") = .ok a := by
  rw [Json.decode_pretty r (h.fits a), h.read]

theorem decode_eq_error_of_root {r : Reader α} {s : String} {e : ReadError}
    (h : r .text (Document.ofText s).root = .error e) : decode r s = .error e := by
  unfold decode
  simp only [h]
  rfl

@[simp] theorem ok_bind {ε : Type} (a : α) (f : α → Except ε β) : (Except.ok a >>= f) = f a := rfl

theorem exists_of_bind_eq_ok {ε : Type} {x : Except ε α} {f : α → Except ε β} {b : β}
    (h : (x >>= f) = .ok b) : ∃ a, x = .ok a ∧ f a = .ok b := by
  cases x with
  | error e => cases h
  | ok a => exact ⟨a, rfl, h⟩

/-! ### Simple values -/

theorem restores_text : Restores text .string where
  fits _ := trivial
  read _ _ := rfl

theorem restores_truth : Restores truth .bool where
  fits _ := trivial
  read _ _ := rfl

theorem integer_eq_ok {low high n : Int} (h : low ≤ n ∧ n ≤ high) (expected : String)
    (source : Source) : integer low high expected source (.integer n) = .ok n :=
  if_pos h

theorem restores_int32 : Restores int32 fun n => .number n.toInt where
  fits n := by
    have h1 := n.le_toInt
    have h2 := n.toInt_lt
    show -2 ^ 63 ≤ n.toInt ∧ n.toInt < 2 ^ 64
    omega
  read source n := by
    have h : Int32.minValue.toInt ≤ n.toInt ∧ n.toInt ≤ Int32.maxValue.toInt :=
      ⟨n.le_toInt, Int.le_sub_one_of_lt n.toInt_lt⟩
    show (integer Int32.minValue.toInt Int32.maxValue.toInt "i32" source
      (.integer n.toInt)).map Int32.ofInt = _
    rw [integer_eq_ok h]
    exact congrArg Except.ok (Int32.ofInt_toInt n)

theorem restores_uint32 : Restores uint32 fun n => .number n.toNat where
  fits n := by
    have h := n.toNat_lt
    show -2 ^ 63 ≤ (n.toNat : Int) ∧ (n.toNat : Int) < 2 ^ 64
    omega
  read source n := by
    have h : (0 : Int) ≤ n.toNat ∧ (n.toNat : Int) ≤ UInt32.size - 1 := by
      have hlt : n.toNat < UInt32.size := n.toNat_lt
      omega
    show (integer 0 (UInt32.size - 1) "u32" source (.integer n.toNat)).map
      (fun n => UInt32.ofNat n.toNat) = _
    rw [integer_eq_ok h]
    exact congrArg Except.ok UInt32.ofNat_toNat

theorem restores_int64 : Restores int64 fun n => .number n.toInt where
  fits n := by
    have h1 := n.le_toInt
    have h2 := n.toInt_lt
    show -2 ^ 63 ≤ n.toInt ∧ n.toInt < 2 ^ 64
    omega
  read source n := by
    have h : Int64.minValue.toInt ≤ n.toInt ∧ n.toInt ≤ Int64.maxValue.toInt :=
      ⟨n.le_toInt, Int.le_sub_one_of_lt n.toInt_lt⟩
    show (integer Int64.minValue.toInt Int64.maxValue.toInt "i64" source
      (.integer n.toInt)).map Int64.ofInt = _
    rw [integer_eq_ok h]
    exact congrArg Except.ok (Int64.ofInt_toInt n)

theorem option_of_ne_null {r : Reader α} {d : Draft} (h : d ≠ .null) (source : Source) :
    option r source d = (r source d).map some := by
  cases d <;> first | rfl | exact absurd rfl h

/-- **An optional value is restored if the value is,** and is never written as the null
that stands for none. -/
theorem restores_option {r : Reader α} {write : α → Json} (h : Restores r write)
    (hn : ∀ a, draft (write a) ≠ .null) : Restores (option r) (ofOption write) where
  fits
    | none => trivial
    | some a => h.fits a
  read source
    | none => rfl
    | some a => by
      show option r source (draft (write a)) = _
      rw [option_of_ne_null (hn a), h.read]
      rfl

/-! ### Arrays and maps -/

theorem fitItems_of_forall {xs : List Json} (h : ∀ x ∈ xs, x.Fits) : FitItems xs := by
  induction xs with
  | nil => trivial
  | cons x xs ih =>
    exact ⟨h x List.mem_cons_self, ih fun y hy => h y (List.mem_cons_of_mem _ hy)⟩

/-- **A list is restored if its items are.** -/
theorem restores_list {r : Reader α} {write : α → Json} (h : Restores r write) :
    Restores (list r) fun as => .array (as.map write) where
  fits as := fitItems_of_forall fun x hx => by
    obtain ⟨a, -, rfl⟩ := List.mem_map.mp hx
    exact h.fits a
  read source as := by
    show readAll (r source) (draftItems (as.map write)) = _
    induction as with
    | nil => rfl
    | cons a as ih =>
      show (r source (draft (write a)) >>= fun x => _) = _
      rw [h.read, ok_bind, ih]
      rfl

theorem fitMembers_of_forall {xs : List (String × Json)} (h : ∀ e ∈ xs, e.2.Fits) :
    FitMembers xs := by
  induction xs with
  | nil => trivial
  | cons e xs ih =>
    exact ⟨h e List.mem_cons_self, ih fun x hx => h x (List.mem_cons_of_mem _ hx)⟩

theorem readEntries_written {r : Draft → Except ReadError α} {write : α → Json}
    (h : ∀ a, r (draft (write a)) = .ok a) (es : List (String × α)) (m : KeyMap α) :
    readEntries r (draftMembers (es.map fun e => (e.1, write e.2))) m =
      .ok (es.foldl (fun m e => m.insert e.1 e.2) m) := by
  induction es generalizing m with
  | nil => rfl
  | cons e es ih =>
    show (r (draft (write e.2)) >>= fun a => readEntries r _ (m.insert e.1 a)) = _
    rw [h]
    exact ih _

/-- A draft of a map: an object with its entries in any order, where of two with one
key the later counts. -/
def IsMap (write : α → Json) (m : KeyMap α) (d : Draft) : Prop :=
  ∃ es, KeyMap.ofList es = m ∧ d = draft (.object (es.map fun e => (e.1, write e.2)))

/-- **A map is read in whatever order it is written.** -/
theorem IsMap.read {r : Reader α} {write : α → Json} {m : KeyMap α} {d : Draft}
    (h : Restores r write) (hd : IsMap write m d) (source : Source) :
    map r source d = .ok m := by
  obtain ⟨es, rfl, rfl⟩ := hd
  exact readEntries_written (h.read source) es ∅

/-- **A map is restored if its values are:** the entries come in the order of
the keys, and each key comes once. -/
theorem restores_map {r : Reader α} {write : α → Json} (h : Restores r write) :
    Restores (map r) (ofMap write) where
  fits m := fitMembers_of_forall fun e he => by
    obtain ⟨e', -, rfl⟩ := List.mem_map.mp he
    exact h.fits e'.2
  read source m := IsMap.read h ⟨m.entries, m.ofList_entries, rfl⟩ source

/-! ### Records -/

/-- The entry that a member makes in the form of a record; none if no field goes
by its name. -/
def entryOf (fields : List Field) (e : String × Draft) : Option (String × Draft) :=
  (fields.find? (·.answersTo e.1)).map fun f => (f.name, e.2)

/-- A member is no obstacle: a field goes by its name and takes its value, or
none goes by its name and the value is whole. -/
def Passes (source : Source) (fields : List Field) (e : String × Draft) : Prop :=
  match fields.find? (·.answersTo e.1) with
  | some f => f.check source e.2 = .ok ()
  | none => e.2.isWhole = true

/-- **The fields of an object are collected,** if every member passes and no
field has two of them. -/
theorem readFields_ofList {source : Source} {fields : List Field} :
    ∀ (es : List (String × Draft)) (form : Form), (∀ e ∈ es, Passes source fields e) →
    ((es.filterMap (entryOf fields)).map (·.1)).Nodup →
    (∀ e ∈ es.filterMap (entryOf fields), form.lookup e.1 = none) →
    readFields source fields (Members.ofList es) form =
      .ok ((es.filterMap (entryOf fields)).reverse ++ form)
  | [], _, _, _, _ => rfl
  | e :: es, form, hp, hd, hn => by
    have hpass : Passes source fields e := hp e List.mem_cons_self
    have hrest : ∀ x ∈ es, Passes source fields x := fun x hx => hp x (List.mem_cons_of_mem _ hx)
    show readFields source fields (.cons (.string e.1) e.2 (Members.ofList es)) form = _
    rw [readFields]
    unfold Passes at hpass
    cases hf : fields.find? (·.answersTo e.1) with
    | none =>
      have hskip : entryOf fields e = none := by rw [entryOf, hf]; rfl
      rw [hf] at hpass
      rw [List.filterMap_cons_none hskip] at hd hn ⊢
      simp only [readKey, ok_bind, hf, hpass, if_true]
      exact readFields_ofList es form hrest hd hn
    | some f =>
      have htake : entryOf fields e = some (f.name, e.2) := by rw [entryOf, hf]; rfl
      rw [hf] at hpass
      rw [List.filterMap_cons_some htake] at hd hn ⊢
      obtain ⟨hfresh, hd⟩ := List.nodup_cons.mp hd
      have hnew : form.lookup f.name = none := hn _ List.mem_cons_self
      simp only [readKey, ok_bind, hf, hnew, hpass, Option.isSome_none, Bool.false_eq_true,
        if_false]
      rw [readFields_ofList es _ hrest hd]
      · simp
      · intro x hx
        have hne : x.1 ≠ f.name := fun he => hfresh (List.mem_map.mpr ⟨x, hx, he⟩)
        rw [List.lookup_cons, beq_eq_false_iff_ne.mpr hne]
        exact hn x (List.mem_cons_of_mem _ hx)

theorem lookup_collected {fs : List (String × Draft)} {name : String} {d : Draft}
    (hd : (fs.map (·.1)).Nodup) (hm : (name, d) ∈ fs) : fs.reverse.lookup name = some d := by
  refine KeyMap.lookup_eq_some_of_mem ?_ (List.mem_reverse.mpr hm)
  rw [List.pairwise_reverse]
  exact (List.pairwise_map.mp hd).imp Ne.symm

/-! ### One member for each field -/

section Names

variable {source : Source} {fields : List Field} {f : Field} {name other : String}
  {ms tail : Members} {key value : Draft} {form collected : Form}

/-- The names of the members of an object. -/
def Members.names : Members → List String
  | .cons (.string name) _ tail => name :: tail.names
  | .cons _ _ tail => tail.names
  | _ => []

/-- The name of the field that goes by a name. -/
def fieldOf (fields : List Field) (name : String) : Option String :=
  (fields.find? (·.answersTo name)).map (·.name)

theorem names_cons (h : readKey key = .ok name) :
    (Members.cons key value tail).names = name :: tail.names := by
  cases key <;> cases h
  rfl

/-- What comes before members that are read: one that no field goes by and that is
whole, or one for a field that has none yet and takes its value. -/
theorem readFields_cons_eq_ok
    (h : readFields source fields (.cons key value tail) form = .ok collected) :
    ∃ name, readKey key = .ok name ∧
      ((fields.find? (·.answersTo name) = none ∧ value.isWhole = true ∧
          readFields source fields tail form = .ok collected) ∨
        ∃ f, fields.find? (·.answersTo name) = some f ∧ form.lookup f.name = none ∧
          f.check source value = .ok () ∧
          readFields source fields tail ((f.name, value) :: form) = .ok collected) := by
  rw [readFields] at h
  cases hk : readKey key with
  | error e =>
    rw [hk] at h
    cases h
  | ok name =>
    rw [hk, ok_bind] at h
    refine ⟨name, rfl, ?_⟩
    cases hf : fields.find? (·.answersTo name) with
    | none =>
      simp only [hf] at h
      split at h
      · rename_i hwhole
        exact .inl ⟨rfl, hwhole, h⟩
      · cases h
    | some f =>
      simp only [hf] at h
      split at h
      · cases h
      · rename_i hfresh
        cases hc : f.check source value with
        | error e =>
          rw [hc] at h
          cases h
        | ok _ =>
          rw [hc] at h
          exact .inr ⟨f, rfl, Option.not_isSome_iff_eq_none.mp hfresh, hc, h⟩

/-- **What is collected stands for the members in their order:** for no field twice,
and for none that had been collected before. -/
theorem names_of_readFields : ∀ {ms : Members} {form : Form},
    readFields source fields ms form = .ok collected →
    collected.map (·.1) = (ms.names.filterMap (fieldOf fields)).reverse ++ form.map (·.1) ∧
      (ms.names.filterMap (fieldOf fields)).Nodup ∧
      ∀ name ∈ ms.names.filterMap (fieldOf fields), form.lookup name = none
  | .closed, form, h => by
    cases h
    exact ⟨rfl, List.nodup_nil, fun _ h => nomatch h⟩
  | .broken, _, h => nomatch h
  | .cons key value tail, form, h => by
    obtain ⟨name, hk, ⟨hf, -, hrest⟩ | ⟨f, hf, hfresh, -, hrest⟩⟩ := readFields_cons_eq_ok h
    · have hskip : fieldOf fields name = none := by rw [fieldOf, hf]; rfl
      rw [names_cons hk, List.filterMap_cons_none hskip]
      exact names_of_readFields hrest
    · have htake : fieldOf fields name = some f.name := by rw [fieldOf, hf]; rfl
      obtain ⟨hnames, hnodup, hfree⟩ := names_of_readFields hrest
      have hothers : ∀ x ∈ tail.names.filterMap (fieldOf fields),
          x ≠ f.name ∧ form.lookup x = none := by
        intro x hx
        have hx := hfree x hx
        rw [KeyMap.lookup_cons_ite] at hx
        split at hx
        · cases hx
        · rename_i hne
          exact ⟨hne, hx⟩
      rw [names_cons hk, List.filterMap_cons_some htake, List.reverse_cons, List.append_assoc]
      refine ⟨hnames, List.nodup_cons.mpr ⟨fun hm => (hothers _ hm).1 rfl, hnodup⟩, ?_⟩
      exact List.forall_mem_cons.mpr ⟨hfresh, fun x hx => (hothers x hx).2⟩

end Names

/-! ### Arrays of the fields -/

section Rows

variable {source : Source} {expected : String} {total : Nat}

/-- Fields that are assumed need no items. -/
theorem readRow_closed (fields : List Field) (n : Nat) (form : Form)
    (h : ∀ f ∈ fields, f.assumed = true) :
    readRow source expected total fields .closed n form = .ok form := by
  induction fields generalizing n with
  | nil => rfl
  | cons f fields ih =>
    obtain ⟨hf, hfields⟩ := List.forall_mem_cons.mp h
    rw [readRow, if_pos hf]
    exact ih (n + 1) hfields

/-- **The items of an array are collected for the fields in their order,** if each field
takes its item and those that get none are assumed. -/
theorem readRow_ofList {rest : List Field} (hrest : ∀ f ∈ rest, f.assumed = true)
    (es : List (Field × Draft)) (n : Nat) (form : Form)
    (hcheck : ∀ e ∈ es, e.1.check source e.2 = .ok ()) :
    readRow source expected total (es.map (·.1) ++ rest) (Items.ofList (es.map (·.2))) n form =
      .ok ((es.map fun e => (e.1.name, e.2)).reverse ++ form) := by
  induction es generalizing n form with
  | nil => exact readRow_closed rest n form hrest
  | cons e es ih =>
    obtain ⟨he, hes⟩ := List.forall_mem_cons.mp hcheck
    show readRow source expected total (e.1 :: (es.map (·.1) ++ rest))
      (.cons e.2 (Items.ofList (es.map (·.2)))) n form = _
    rw [readRow, he, ok_bind, ih _ _ hes]
    simp

end Rows

/-! ### Written records -/

theorem draftMembers_eq_ofList (ms : List (String × Json)) :
    draftMembers ms = Members.ofList (ms.map fun e => (e.1, draft e.2)) := by
  induction ms with
  | nil => rfl
  | cons e ms ih => rw [draftMembers, ih]; rfl

theorem ofText_object {ms : List (String × Json)} (h : (Json.object ms).Fits) :
    Document.ofText (Json.object ms).compact =
      ⟨.object (Members.ofList (ms.map fun e => (e.1, draft e.2))), true⟩ := by
  rw [ofText_compact h, ← draftMembers_eq_ofList]
  rfl

/-- Among the fields there is one with the name of a member, and it takes the
member's value. -/
def Takes (source : Source) (fields : List Field) (e : String × Json) : Prop :=
  ∃ f, fields.find? (·.answersTo e.1) = some f ∧ f.name = e.1 ∧
    f.check source (draft e.2) = .ok ()

theorem Takes.passes {source : Source} {fields : List Field} {e : String × Json}
    (h : Takes source fields e) : Passes source fields (e.1, draft e.2) := by
  obtain ⟨f, hf, -, hcheck⟩ := h
  unfold Passes
  simp only [hf, hcheck]

theorem Takes.entryOf_eq {source : Source} {fields : List Field} {e : String × Json}
    (h : Takes source fields e) : entryOf fields (e.1, draft e.2) = some (e.1, draft e.2) := by
  obtain ⟨f, hf, hname, -⟩ := h
  unfold entryOf
  simp only [hf, Option.map_some, hname]

/-- What is collected from written members. -/
def formOf (ms : List (String × Json)) : Form :=
  (ms.map fun e => (e.1, draft e.2)).reverse

/-- **The fields of a written record are collected,** if each member goes by
the name of a field that takes its value, and no name comes twice. -/
theorem readForm_written {source : Source} {fields : List Field} {ms : List (String × Json)}
    (expected : String) (ht : ∀ e ∈ ms, Takes source fields e) (hd : (ms.map (·.1)).Nodup) :
    readForm expected fields source (draft (.object ms)) = .ok (formOf ms) := by
  have hentries : (ms.map fun e => (e.1, draft e.2)).filterMap (entryOf fields) =
      ms.map fun e => (e.1, draft e.2) := by
    rw [List.filterMap_map]
    exact List.filterMap_eq_map_iff_forall_eq_some.mpr fun e he => (ht e he).entryOf_eq
  show readFields source fields (draftMembers ms) [] = _
  rw [draftMembers_eq_ofList, readFields_ofList _ [] ?_ ?_ fun _ _ => rfl, hentries,
    List.append_nil]
  · rfl
  · intro x hx
    obtain ⟨e, he, rfl⟩ := List.mem_map.mp hx
    exact (ht e he).passes
  · rw [hentries, List.map_map]
    exact hd

theorem lookup_formOf {ms : List (String × Json)} {name : String} {j : Json}
    (hd : (ms.map (·.1)).Nodup) (hm : (name, j) ∈ ms) :
    (formOf ms).lookup name = some (draft j) := by
  refine lookup_collected ?_ (List.mem_map_of_mem hm)
  rw [List.map_map]
  exact hd

/-- A member can be written of a record: its numbers fit, and a field of its name takes
its value. -/
structure Carries (fields : List Field) (e : String × Json) : Prop where
  fits : e.2.Fits
  takes : ∀ source, Takes source fields e

/-- A reader gives back one value from what is written of it. -/
structure ReadsBack (r : Reader α) (j : Json) (a : α) : Prop where
  fits : j.Fits
  read : ∀ source, r source (draft j) = .ok a

theorem restores_of_readsBack {r : Reader α} {write : α → Json}
    (h : ∀ a, ReadsBack r (write a) a) : Restores r write where
  fits a := (h a).fits
  read source a := (h a).read source

/-- **A written record is read back** if each of its members is carried by a field, no
name comes twice, and the value is put together from what is collected. -/
theorem readsBack_record {fields : List Field} {ms : List (String × Json)}
    {build : Form → Source → Except ReadError α} {a : α} (expected : String)
    (hc : ∀ e ∈ ms, Carries fields e) (hd : (ms.map (·.1)).Nodup)
    (hb : ∀ source, build (formOf ms) source = .ok a) :
    ReadsBack (fun source d => readForm expected fields source d >>= fun form => build form source)
      (.object ms) a where
  fits := fitMembers_of_forall fun e he => (hc e he).fits
  read source := by
    show (readForm expected fields source (draft (.object ms)) >>= fun form =>
      build form source) = _
    rw [readForm_written expected (fun e he => (hc e he).takes source) hd, ok_bind, hb]

section Fields

variable {source : Source} {fields : List Field} {name : String} {r : Reader α}
  {write : α → Json} {form : Form}

theorem check_of_read {d : Draft} {a : α} (h : r source d = .ok a) :
    (r source d).map (fun _ => ()) = .ok () := by
  rw [h]
  rfl

theorem carries_needed (h : Restores r write) (a : α)
    (hf : fields.find? (·.answersTo name) = some (.needed name r)) :
    Carries fields (name, write a) :=
  ⟨h.fits a, fun source => ⟨_, hf, rfl, check_of_read (h.read source a)⟩⟩

theorem carries_withDefault (h : Restores r write) (a : α) (others : List String)
    (hf : fields.find? (·.answersTo name) = some (.withDefault name r others)) :
    Carries fields (name, write a) :=
  ⟨h.fits a, fun source => ⟨_, hf, rfl, check_of_read (h.read source a)⟩⟩

theorem need_written (h : Restores r write) (a : α)
    (hl : form.lookup name = some (draft (write a))) : form.need source name r = .ok a := by
  unfold Form.need
  rw [hl]
  exact h.read source a

theorem mem_of_need_eq_ok {a : α} (h : form.need source name r = .ok a) :
    name ∈ form.map (·.1) := by
  unfold Form.need at h
  cases hl : form.lookup name with
  | none =>
    rw [hl] at h
    cases h
  | some d => exact List.mem_map_of_mem (KeyMap.mem_of_lookup_eq_some hl)

theorem passes_withDefault {key : String} {d : Draft} {a : α} {others : List String}
    (hf : fields.find? (·.answersTo key) = some (.withDefault name r others))
    (hr : r source d = .ok a) : Passes source fields (key, d) := by
  unfold Passes
  simp only [hf]
  exact check_of_read hr

theorem get_of_lookup {d : Draft} {a : α} (default : α) (hl : form.lookup name = some d)
    (hr : r source d = .ok a) : form.get source name r default = .ok a := by
  unfold Form.get
  rw [hl]
  exact hr

theorem get_written (h : Restores r write) (a default : α)
    (hl : form.lookup name = some (draft (write a))) :
    form.get source name r default = .ok a :=
  get_of_lookup default hl (h.read source a)

theorem carries_optional (style : Option String) (others : List String)
    (hf : fields.find? (·.answersTo name) = some (.withDefault name (option text) others)) :
    ∀ e ∈ optional name .string style, Carries fields e := by
  intro e he
  cases style with
  | none => cases he
  | some s =>
    rw [List.mem_singleton.mp he]
    exact ⟨trivial, fun _ => ⟨_, hf, rfl, rfl⟩⟩

theorem get_optional {style : Option String}
    (hl : form.lookup name = style.map fun s => draft (.string s)) :
    form.get source name (option text) none = .ok style := by
  unfold Form.get
  rw [hl]
  cases style <;> rfl

end Fields

end Json

namespace Character

open Json

/-- What is written of a record, member by member. -/
def members (c : Character) : List (String × Json) := [
  ("name", .string c.name),
  ("system", .string c.system),
  ("attributes", .ofMap (fun n : Int32 => .number n.toInt) c.attributes),
  ("skills", .ofMap (fun n : Int32 => .number n.toInt) c.skills),
  ("skillProficiency", .ofMap .bool c.proficiency),
  ("proficiencyBonus", .number c.proficiencyBonus.toInt)] ++
  Json.optional "diceStyle" .string c.diceStyle

theorem carries_members (c : Character) : ∀ e ∈ c.members, Carries fields e := by
  unfold members
  simp only [List.cons_append, List.nil_append, List.forall_mem_cons]
  exact ⟨carries_needed restores_text _ rfl, carries_needed restores_text _ rfl,
    carries_withDefault (restores_map restores_int32) _ _ rfl,
    carries_withDefault (restores_map restores_int32) _ _ rfl,
    carries_withDefault (restores_map restores_truth) _ _ rfl,
    carries_withDefault restores_int32 _ _ rfl, carries_optional _ _ rfl⟩

theorem nodup_members (c : Character) : (c.members.map (·.1)).Nodup := by
  unfold members
  cases c.diceStyle <;> simp [Json.optional]

/-- **A record is restored,** whatever its texts, its numbers and its maps. -/
theorem restores : Restores read json := by
  refine restores_of_readsBack fun c => ?_
  have hobject : c.json = .object c.members := rfl
  rw [hobject]
  refine readsBack_record _ c.carries_members c.nodup_members fun source => ?_
  have hmember : ∀ {name j}, (name, j) ∈ c.members →
      (formOf c.members).lookup name = some (draft j) := lookup_formOf c.nodup_members
  have hstyle : (formOf c.members).lookup "diceStyle" =
      c.diceStyle.map fun s => draft (.string s) := by
    unfold formOf members
    cases c.diceStyle <;> rfl
  unfold ofForm
  rw [need_written restores_text c.name (hmember (by simp [members])), ok_bind,
    need_written restores_text c.system (hmember (by simp [members])), ok_bind,
    get_written (restores_map restores_int32) c.attributes _ (hmember (by simp [members])),
    ok_bind,
    get_written (restores_map restores_int32) c.skills _ (hmember (by simp [members])), ok_bind,
    get_written (restores_map restores_truth) c.proficiency _ (hmember (by simp [members])),
    ok_bind,
    get_written restores_int32 c.proficiencyBonus _ (hmember (by simp [members])), ok_bind,
    get_optional hstyle, ok_bind]
  rfl

end Character

namespace GroupSettings

open Json

/-- What is written of a group's settings, member by member. -/
def members (g : GroupSettings) : List (String × Json) :=
  Json.optional "activeSystem" .string g.activeSystem ++
  Json.optional "diceStyle" .string g.diceStyle

/-- The fields of the settings of a group. -/
def fields : List Field := [
  .withDefault "activeSystem" (Json.option Json.text) [],
  .withDefault "diceStyle" (Json.option Json.text) []]

theorem carries_members (g : GroupSettings) : ∀ e ∈ g.members, Carries fields e :=
  List.forall_mem_append.mpr ⟨carries_optional _ _ rfl, carries_optional _ _ rfl⟩

theorem nodup_members (g : GroupSettings) : (g.members.map (·.1)).Nodup := by
  unfold members
  cases g.activeSystem <;> cases g.diceStyle <;> simp [Json.optional]

/-- **The settings of a group are restored,** whether something is chosen or
not. -/
theorem restores : Restores read json := by
  refine restores_of_readsBack fun g => ?_
  have hobject : g.json = .object g.members := rfl
  rw [hobject]
  refine readsBack_record _ g.carries_members g.nodup_members fun source => ?_
  have hsystem : (formOf g.members).lookup "activeSystem" =
      g.activeSystem.map fun s => draft (.string s) := by
    unfold formOf members
    cases g.activeSystem <;> cases g.diceStyle <;> rfl
  have hstyle : (formOf g.members).lookup "diceStyle" =
      g.diceStyle.map fun s => draft (.string s) := by
    unfold formOf members
    cases g.activeSystem <;> cases g.diceStyle <;> rfl
  rw [get_optional hsystem, ok_bind, get_optional hstyle, ok_bind]
  rfl

end GroupSettings
end Tabletop
