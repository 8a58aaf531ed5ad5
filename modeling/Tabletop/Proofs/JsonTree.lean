/-
# Texts read as trees

A tree is read from a whole text, and its objects hold each key once, in order.
What the outermost object of a text holds is named here in the order of the
text, with every key that comes twice still there twice (`objectMembers`): the
tree is the object with the later of two such members (`tree_of_objectMembers`),
and a text without such members is no object (`tree_of_objectMembers_eq_none`).

A written value keeps its texts, and so do its arrays and maps of them, when it
is settled; of a written object the members come back in some order.

Key definitions: `Json.objectMembers`, `Json.Kept`.
Key theorems: `Json.tree_of_objectMembers`, `Json.tree_of_objectMembers_eq_none`,
`Json.settleAt_entries`, `Json.objectMembers_render`.
-/
import Tabletop.Proofs.JsonRecord

namespace Tabletop
namespace Json

variable {α : Type}

/-! ### The outermost object of a text -/

/-- The members of the object that a whole text is, in the order of the text,
each with its settled value. There are none if the text is no object, or if it
cannot be read as a tree: it is no JSON, a string holds half of a surrogate
pair, a number is not finite or too many brackets are open at once. -/
def objectMembers (text : String) : Option (List (String × Draft)) :=
  match Document.ofText text with
  | ⟨.object members, true⟩ => members.settleAt (maxDepth - 1)
  | _ => none

variable {text : String}

theorem exists_of_settle_eq_object {d : Draft} {ms : Members}
    (h : d.settle = some (.object ms)) :
    ∃ members es, d = .object members ∧ members.settleAt (maxDepth - 1) = some es := by
  unfold Draft.settle at h
  cases d with
  | object members =>
    rw [Draft.settleAt, if_neg (by decide), Option.map_eq_some_iff] at h
    obtain ⟨es, hes, -⟩ := h
    exact ⟨members, es, rfl, hes⟩
  | array items =>
    rw [Draft.settleAt, if_neg (by decide), Option.map_eq_some_iff] at h
    obtain ⟨ds, -, hd⟩ := h
    cases hd
  | real r =>
    rw [Draft.settleAt] at h
    split at h
    · cases h
    · cases h
  | broken => cases h
  | null => cases h
  | bool b => cases h
  | integer n => cases h
  | string s => cases h
  | garbled => cases h

/-- **The tree of an object holds its members by their keys,** of two with one
key the later. -/
theorem tree_of_objectMembers {es : List (String × Draft)} (h : objectMembers text = some es) :
    tree text = .ok (.object (Members.ofMap (KeyMap.ofList es))) := by
  unfold objectMembers at h
  split at h
  · rename_i members hdoc
    have hsettle : (Draft.object members).settle =
        some (.object (Members.ofMap (KeyMap.ofList es))) := by
      rw [Draft.settle, Draft.settleAt, if_neg (by decide), h]
      rfl
    unfold tree
    simp only [hdoc, hsettle]
  · cases h

theorem tree_of_objectMembers_eq_none (h : objectMembers text = none) (ms : Members) :
    tree text ≠ .ok (.object ms) := by
  intro ht
  unfold tree at ht
  simp only at ht
  split at ht
  · rename_i d hsettle hended
    cases ht
    obtain ⟨members, es, hroot, hes⟩ := exists_of_settle_eq_object hsettle
    have hdoc : Document.ofText text = ⟨.object members, true⟩ := by
      rw [← hroot, ← hended]
    unfold objectMembers at h
    rw [hdoc] at h
    simp only [hes] at h
    cases h
  · cases ht

/-! ### Written values -/

/-- A written value is settled as it is where `n` brackets may be open. -/
def Kept (n : Nat) (j : Json) : Prop :=
  (draft j).settleAt n = some (draft j)

theorem kept_string (n : Nat) (s : String) : Kept n (.string s) := rfl

theorem settleAt_items {n : Nat} : ∀ {xs : List Json}, (∀ x ∈ xs, Kept n x) →
    (draftItems xs).settleAt n = some (xs.map draft)
  | [], _ => rfl
  | x :: xs, h => by
    have hx : (draft x).settleAt n = some (draft x) := h x List.mem_cons_self
    have hxs := settleAt_items fun y hy => h y (List.mem_cons_of_mem x hy)
    simp only [draftItems, Items.settleAt, hx, hxs]
    rfl

theorem draftItems_eq_ofList : ∀ xs : List Json, draftItems xs = Items.ofList (xs.map draft)
  | [] => rfl
  | x :: xs => by rw [draftItems, draftItems_eq_ofList xs]; rfl

theorem kept_strings (n : Nat) (ss : List String) : Kept (n + 1) (.strings ss) := by
  have hitems : (draftItems (ss.map Json.string)).settleAt n =
      some ((ss.map Json.string).map draft) := by
    refine settleAt_items fun x hx => ?_
    obtain ⟨s, -, rfl⟩ := List.mem_map.mp hx
    exact kept_string n s
  show Draft.settleAt (n + 1) (.array (draftItems (ss.map Json.string))) = some (.array _)
  rw [Draft.settleAt, if_neg n.succ_ne_zero, Nat.add_sub_cancel, hitems, Option.map_some,
    draftItems_eq_ofList]

/-- **Written entries are settled one by one,** each to what its value is
settled to. -/
theorem settleAt_entries {n : Nat} (write : α → Json) (settled : α → Draft) :
    ∀ {es : List (String × α)}, (∀ e ∈ es, (draft (write e.2)).settleAt n = some (settled e.2)) →
      (draftMembers (es.map fun e => (e.1, write e.2))).settleAt n =
        some (es.map fun e => (e.1, settled e.2))
  | [], _ => rfl
  | e :: es, h => by
    have he : (draft (write e.2)).settleAt n = some (settled e.2) := h e List.mem_cons_self
    have hes := settleAt_entries write settled fun x hx => h x (List.mem_cons_of_mem e hx)
    simp only [List.map_cons, draftMembers, Members.settleAt, he, hes]

/-- An object with the texts of a map is kept: its keys are in order already. -/
theorem kept_ofMap (n : Nat) (m : KeyMap String) : Kept (n + 1) (.ofMap .string m) := by
  have hentries : (draftMembers (m.entries.map fun e => (e.1, Json.string e.2))).settleAt n =
      some (m.map Draft.string).entries :=
    settleAt_entries .string .string fun e _ => kept_string n e.2
  have hdraft : draftMembers (m.entries.map fun e => (e.1, Json.string e.2)) =
      Members.ofMap (m.map Draft.string) := by
    rw [draftMembers_eq_ofList, List.map_map]
    rfl
  show Draft.settleAt (n + 1) (.object (draftMembers (m.entries.map fun e => (e.1, .string e.2)))) =
    some (.object (draftMembers (m.entries.map fun e => (e.1, .string e.2))))
  rw [Draft.settleAt, if_neg n.succ_ne_zero, Nat.add_sub_cancel, hentries, Option.map_some,
    KeyMap.ofList_entries, hdraft]

/-- The draft of a written object when it is settled: its members in the order
of their keys. -/
def settledObject (ms : List (String × Json)) : Draft :=
  .object (Members.ofMap (KeyMap.ofList (ms.map fun e => (e.1, draft e.2))))

theorem settleAt_members {n : Nat} {ms : List (String × Json)} (h : ∀ e ∈ ms, Kept n e.2) :
    (draftMembers ms).settleAt n = some (ms.map fun e => (e.1, draft e.2)) := by
  have hsame : (ms.map fun e => (e.1, id e.2)) = ms := List.map_id ms
  have hsettle : (draftMembers (ms.map fun e => (e.1, id e.2))).settleAt n = _ :=
    settleAt_entries id draft h
  rwa [hsame] at hsettle

theorem settleAt_object {n : Nat} {ms : List (String × Json)} (h : ∀ e ∈ ms, Kept n e.2) :
    (draft (.object ms)).settleAt (n + 1) = some (settledObject ms) := by
  show Draft.settleAt (n + 1) (.object (draftMembers ms)) = _
  rw [Draft.settleAt, if_neg n.succ_ne_zero, Nat.add_sub_cancel, settleAt_members h]
  rfl

/-- **The members of a written object are found in its text,** in any layout
and also where a key comes twice. -/
theorem objectMembers_render {l : Layout} (hl : l.Blank) {ms : List (String × Json)}
    {es : List (String × Draft)} (hfits : ∀ e ∈ ms, e.2.Fits)
    (hsettle : (draftMembers ms).settleAt (maxDepth - 1) = some es) :
    objectMembers (String.ofList (render l 0 (.object ms))) = some es := by
  have hfit : (Json.object ms).Fits := fitMembers_of_forall hfits
  have hnone : ∀ c ∈ ([] : List Char), isGap c = true := fun _ h => nomatch h
  have hdoc := ofText_render hl hfit hnone
  rw [List.append_nil] at hdoc
  unfold objectMembers
  rw [hdoc]
  exact hsettle

end Json
end Tabletop
