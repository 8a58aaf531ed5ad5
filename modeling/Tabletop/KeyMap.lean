/-
# Maps from keys

A finite map from texts to values, held as the list of its entries in
ascending order of the keys, by code point. Two maps with the same values at
the same keys are equal (`KeyMap.ext_get?`), so a map can be compared, printed
and read back without a word on the order in which it was filled.

Key definitions: `KeyMap`, `KeyMap.insert`, `KeyMap.get?`, `KeyMap.ofList`,
`KeyMap.filter`, `KeyMap.map`.
Key theorems: `KeyMap.get?_insert`, `KeyMap.mem_entries_iff`,
`KeyMap.ext_get?`, `KeyMap.ofList_entries`, `KeyMap.perm_entries_ofList`,
`KeyMap.get?_filter`.
-/

namespace Tabletop

universe u

/-- A map with text keys: its entries, in ascending order of the keys. -/
structure KeyMap (α : Type u) where
  entries : List (String × α)
  ascending : entries.Pairwise fun a b => a.1 < b.1

namespace KeyMap

variable {α : Type u}

instance [DecidableEq α] : DecidableEq (KeyMap α) := fun a b =>
  decidable_of_iff (a.entries = b.entries) ⟨fun h => by cases a; cases b; cases h; rfl, (· ▸ rfl)⟩

instance [Repr α] : Repr (KeyMap α) := ⟨fun m => reprPrec m.entries⟩

/-- The map without entries. -/
def empty : KeyMap α := ⟨[], .nil⟩

instance : EmptyCollection (KeyMap α) := ⟨empty⟩

instance : Inhabited (KeyMap α) := ⟨empty⟩

@[simp] theorem entries_empty : (∅ : KeyMap α).entries = [] := rfl

/-- The value at a key. -/
def get? (m : KeyMap α) (k : String) : Option α :=
  m.entries.lookup k

/-- Whether the map has a value at a key. -/
def contains (m : KeyMap α) (k : String) : Bool :=
  (m.get? k).isSome

/-- The keys, ascending. -/
def keys (m : KeyMap α) : List String :=
  m.entries.map (·.1)

/-- The values, in the order of their keys. -/
def values (m : KeyMap α) : List α :=
  m.entries.map (·.2)

/-- The number of entries. -/
def size (m : KeyMap α) : Nat :=
  m.entries.length

/-- Whether the map has no entries. -/
def isEmpty (m : KeyMap α) : Bool :=
  m.entries.isEmpty

/-- The entries with a value put at a key, over the one that was there. -/
def insertEntry (k : String) (v : α) : List (String × α) → List (String × α)
  | [] => [(k, v)]
  | e :: es =>
    if k < e.1 then (k, v) :: e :: es
    else if k = e.1 then (k, v) :: es
    else e :: insertEntry k v es

theorem key_mem_insertEntry {k : String} {v : α} {es : List (String × α)} {e : String × α}
    (h : e ∈ insertEntry k v es) : e = (k, v) ∨ e ∈ es := by
  induction es with
  | nil => simpa [insertEntry] using h
  | cons a es ih =>
    simp only [insertEntry] at h
    split at h
    · simpa using h
    · split at h
      · simp only [List.mem_cons] at h ⊢
        exact h.imp_right .inr
      · simp only [List.mem_cons] at h ⊢
        rcases h with h | h
        · exact .inr (.inl h)
        · exact (ih h).imp_right .inr

theorem lt_of_not_lt_of_ne {a b : String} (h : ¬a < b) (hne : a ≠ b) : b < a :=
  Decidable.byContradiction fun hba =>
    hne (String.le_antisymm (String.not_lt.1 hba) (String.not_lt.1 h))

theorem pairwise_insertEntry (k : String) (v : α) {es : List (String × α)}
    (h : es.Pairwise fun a b => a.1 < b.1) :
    (insertEntry k v es).Pairwise fun a b => a.1 < b.1 := by
  induction es with
  | nil => simp [insertEntry]
  | cons e es ih =>
    obtain ⟨hall, hrest⟩ := List.pairwise_cons.1 h
    simp only [insertEntry]
    split
    · rename_i hlt
      refine List.pairwise_cons.2 ⟨fun a ha => ?_, h⟩
      rcases List.mem_cons.1 ha with rfl | ha
      · exact hlt
      · exact String.lt_trans hlt (hall a ha)
    · split
      · rename_i heq
        exact List.pairwise_cons.2 ⟨fun a ha => heq ▸ hall a ha, hrest⟩
      · rename_i hlt hne
        refine List.pairwise_cons.2 ⟨fun a ha => ?_, ih hrest⟩
        rcases key_mem_insertEntry ha with rfl | ha
        · exact lt_of_not_lt_of_ne hlt hne
        · exact hall a ha

/-- Puts a value at a key, over the one that was there. -/
def insert (m : KeyMap α) (k : String) (v : α) : KeyMap α :=
  ⟨insertEntry k v m.entries, pairwise_insertEntry k v m.ascending⟩

/-- The map of a list of entries; of two with one key the later counts. -/
def ofList (es : List (String × α)) : KeyMap α :=
  es.foldl (fun m e => m.insert e.1 e.2) ∅

/-- Replaces the value at a key by a function of it, or of `init` where there
is none. -/
def update (m : KeyMap α) (k : String) (init : α) (change : α → α) : KeyMap α :=
  m.insert k (change ((m.get? k).getD init))

@[simp] theorem get?_empty (k : String) : (∅ : KeyMap α).get? k = none := rfl

theorem lookup_cons_ite (e : String × α) (es : List (String × α)) (x : String) :
    (e :: es).lookup x = if x = e.1 then some e.2 else es.lookup x := by
  obtain ⟨a, v⟩ := e
  by_cases hx : x = a
  · simp [hx]
  · simp [List.lookup_cons, hx, beq_eq_false_iff_ne.2 hx]

theorem lookup_insertEntry (k : String) (v : α) (x : String) {es : List (String × α)}
    (h : es.Pairwise fun a b => a.1 < b.1) :
    (insertEntry k v es).lookup x = if x = k then some v else es.lookup x := by
  induction es with
  | nil => simp [insertEntry, lookup_cons_ite]
  | cons e es ih =>
    simp only [insertEntry]
    split
    · simp [lookup_cons_ite]
    · split
      · rename_i heq
        by_cases hx : x = k <;> simp [lookup_cons_ite, hx, ← heq]
      · rename_i hne
        by_cases hx : x = e.1
        · have : x ≠ k := fun h => hne (h ▸ hx)
          simp [lookup_cons_ite, hx, Ne.symm hne]
        · simp [lookup_cons_ite, hx, ih (List.pairwise_cons.1 h).2]

/-- **A map holds what was put last at a key,** and nothing else changes. -/
theorem get?_insert (m : KeyMap α) (k : String) (v : α) (x : String) :
    (m.insert k v).get? x = if x = k then some v else m.get? x :=
  lookup_insertEntry k v x m.ascending

/-- The entries are the keys with their values. -/
theorem mem_entries_iff (m : KeyMap α) (k : String) (v : α) :
    (k, v) ∈ m.entries ↔ m.get? k = some v := by
  obtain ⟨es, h⟩ := m
  simp only [get?]
  induction es with
  | nil => simp
  | cons e es ih =>
    obtain ⟨a, w⟩ := e
    obtain ⟨hall, hrest⟩ := List.pairwise_cons.1 h
    by_cases hk : k = a
    · subst hk
      simp only [List.mem_cons, Prod.mk.injEq, true_and, List.lookup_cons, beq_self_eq_true,
        Option.some.injEq]
      refine ⟨fun hm => ?_, fun hv => .inl hv.symm⟩
      rcases hm with hv | hm
      · exact hv.symm
      · exact absurd (hall _ hm) (String.lt_irrefl k)
    · simp [List.lookup_cons, beq_eq_false_iff_ne.2 hk, hk, ih hrest]

theorem mem_keys_iff (m : KeyMap α) (k : String) : k ∈ m.keys ↔ (m.get? k).isSome := by
  simp only [keys, List.mem_map, Option.isSome_iff_exists]
  constructor
  · rintro ⟨⟨a, v⟩, hm, rfl⟩
    exact ⟨v, (m.mem_entries_iff _ _).1 hm⟩
  · rintro ⟨v, hv⟩
    exact ⟨(k, v), (m.mem_entries_iff _ _).2 hv, rfl⟩

theorem mem_keys_of_get? {m : KeyMap α} {k : String} {v : α} (h : m.get? k = some v) :
    k ∈ m.keys :=
  (m.mem_keys_iff k).mpr (by rw [h]; rfl)

/-- The keys ascend strictly, so no key occurs twice. -/
theorem pairwise_keys (m : KeyMap α) : m.keys.Pairwise (· < ·) := by
  rw [keys, List.pairwise_map]
  exact m.ascending

/-- In an ascending list the first hit of a search has the least key of all
hits. -/
theorem le_of_find? {es : List (String × α)} (hs : es.Pairwise fun a b => a.1 < b.1)
    {p : String × α → Bool} {e : String × α} (h : es.find? p = some e) :
    ∀ e' ∈ es, p e' = true → e.1 ≤ e'.1 := by
  obtain ⟨-, as, bs, rfl, hno⟩ := List.find?_eq_some_iff_append.mp h
  intro e' he' hp
  rcases List.mem_append.mp he' with hm | hm
  · have := hno e' hm
    simp [hp] at this
  · rcases List.mem_cons.mp hm with rfl | hm
    · exact String.le_refl _
    · have hpw := (List.pairwise_append.mp hs).2.1
      have hlt := (List.pairwise_cons.mp hpw).1 e' hm
      exact String.not_lt.mp fun hgt => String.lt_irrefl _ (String.lt_trans hlt hgt)

/-- **Maps with the same values at the same keys are equal.** -/
theorem ext_get? {m n : KeyMap α} (h : ∀ k, m.get? k = n.get? k) : m = n := by
  have hmem : ∀ e : String × α, e ∈ m.entries ↔ e ∈ n.entries := fun e => by
    rw [m.mem_entries_iff, n.mem_entries_iff, h]
  have heq : m.entries = n.entries := by
    obtain ⟨as, ha⟩ := m
    obtain ⟨bs, hb⟩ := n
    simp only at hmem ⊢
    clear h
    induction as generalizing bs with
    | nil =>
      cases bs with
      | nil => rfl
      | cons b bs => exact absurd ((hmem b).2 (.head _)) (List.not_mem_nil)
    | cons a as ih =>
      cases bs with
      | nil => exact absurd ((hmem a).1 (.head _)) (List.not_mem_nil)
      | cons b bs =>
        obtain ⟨haa, hra⟩ := List.pairwise_cons.1 ha
        obtain ⟨hbb, hrb⟩ := List.pairwise_cons.1 hb
        have hab : a = b := by
          rcases List.mem_cons.1 ((hmem a).1 (.head _)) with h | h
          · exact h
          · rcases List.mem_cons.1 ((hmem b).2 (.head _)) with h' | h'
            · exact h'.symm
            · exact absurd (String.lt_trans (hbb a h) (haa b h')) (String.lt_irrefl _)
        subst hab
        have : as = bs := ih hra bs hrb fun e => by
          have := hmem e
          simp only [List.mem_cons] at this
          constructor
          · intro he
            rcases this.1 (.inr he) with rfl | h
            · exact absurd (haa _ he) (String.lt_irrefl _)
            · exact h
          · intro he
            rcases this.2 (.inr he) with rfl | h
            · exact absurd (hbb _ he) (String.lt_irrefl _)
            · exact h
        rw [this]
  cases m
  cases n
  cases heq
  rfl

theorem get?_foldl_insert (es : List (String × α)) (m : KeyMap α) (x : String) :
    (es.foldl (fun m e => m.insert e.1 e.2) m).get? x =
      ((es.reverse.lookup x).or (m.get? x)) := by
  induction es generalizing m with
  | nil => simp
  | cons e es ih =>
    rw [List.foldl_cons, ih, get?_insert, List.reverse_cons, List.lookup_append]
    cases hl : es.reverse.lookup x with
    | some v => simp
    | none =>
      by_cases hx : x = e.1 <;> simp [lookup_cons_ite, hx]

/-- Of two entries with one key the later counts. -/
theorem get?_ofList (es : List (String × α)) (x : String) :
    (ofList es).get? x = es.reverse.lookup x := by
  simp [ofList, get?_foldl_insert]

theorem lookup_eq_some_of_mem {es : List (String × α)} {k : String} {v : α}
    (hd : es.Pairwise fun a b => a.1 ≠ b.1) (hm : (k, v) ∈ es) : es.lookup k = some v := by
  induction es with
  | nil => simp at hm
  | cons e es ih =>
    obtain ⟨hall, hrest⟩ := List.pairwise_cons.1 hd
    rcases List.mem_cons.1 hm with rfl | hm
    · simp
    · have hne : k ≠ e.1 := fun h => hall _ hm h.symm
      rw [lookup_cons_ite, if_neg hne, ih hrest hm]

theorem mem_of_lookup_eq_some {es : List (String × α)} {k : String} {v : α}
    (h : es.lookup k = some v) : (k, v) ∈ es := by
  induction es with
  | nil => simp at h
  | cons e es ih =>
    by_cases hk : k = e.1
    · obtain ⟨a, w⟩ := e
      subst hk
      simp only [List.lookup_cons, beq_self_eq_true, Option.some.injEq] at h
      simp [h]
    · rw [lookup_cons_ite, if_neg hk] at h
      exact .tail _ (ih h)

/-- Filling a map with the entries of a map gives that map again. -/
theorem ofList_entries (m : KeyMap α) : ofList m.entries = m := by
  have hd : m.entries.Pairwise fun a b => a.1 ≠ b.1 :=
    m.ascending.imp fun {a b} h (heq : a.1 = b.1) => String.lt_irrefl b.1 (heq ▸ h)
  have hr : m.entries.reverse.Pairwise fun a b => a.1 ≠ b.1 :=
    List.pairwise_reverse.2 (hd.imp fun h => h.symm)
  apply ext_get?
  intro k
  rw [get?_ofList]
  cases hv : m.get? k with
  | some v =>
    exact lookup_eq_some_of_mem hr (List.mem_reverse.2 ((m.mem_entries_iff k v).2 hv))
  | none =>
    cases hl : m.entries.reverse.lookup k with
    | none => rfl
    | some v =>
      have := (m.mem_entries_iff k v).1 (List.mem_reverse.1 (mem_of_lookup_eq_some hl))
      simp [hv] at this

/-- A list in ascending order of its keys is filled in as it is. -/
theorem entries_ofList_of_ascending {es : List (String × α)}
    (h : es.Pairwise fun a b => a.1 < b.1) : (ofList es).entries = es :=
  congrArg entries (ofList_entries ⟨es, h⟩)

/-- What a filled map holds stands in the list. -/
theorem mem_of_mem_ofList {es : List (String × α)} {e : String × α}
    (h : e ∈ (ofList es).entries) : e ∈ es := by
  obtain ⟨k, v⟩ := e
  rw [mem_entries_iff, get?_ofList] at h
  exact List.mem_reverse.1 (mem_of_lookup_eq_some h)

/-- The keys of a filled map are those of the list. -/
theorem mem_keys_ofList {es : List (String × α)} {k : String} :
    k ∈ (ofList es).keys ↔ k ∈ es.map (·.1) := by
  rw [mem_keys_iff, get?_ofList]
  constructor
  · intro h
    obtain ⟨v, hv⟩ := Option.isSome_iff_exists.1 h
    exact List.mem_map_of_mem (List.mem_reverse.1 (mem_of_lookup_eq_some hv))
  · intro h
    obtain ⟨e, he, rfl⟩ := List.mem_map.1 h
    rw [Option.isSome_iff_ne_none]
    intro hnone
    have hother := List.lookup_eq_none_iff.1 hnone e (List.mem_reverse.2 he)
    simp at hother

/-- Texts that ascend strictly are all different. -/
theorem nodup_of_ascending {ks : List String} (h : ks.Pairwise fun a b => a < b) : ks.Nodup :=
  h.imp fun {a b} (hlt : a < b) (heq : a = b) => String.lt_irrefl b (heq ▸ hlt)

theorem nodup_keys (m : KeyMap α) : m.keys.Nodup :=
  nodup_of_ascending m.pairwise_keys

theorem nodup_entries (m : KeyMap α) : m.entries.Nodup :=
  m.ascending.imp fun {a b} h (heq : a = b) => String.lt_irrefl b.1 (heq ▸ h)

/-- **A list in which no key comes twice is kept whole:** filling a map with it
only puts it in order. -/
theorem perm_entries_ofList {es : List (String × α)} (hd : (es.map (·.1)).Nodup) :
    (ofList es).entries.Perm es := by
  have hes : es.Pairwise fun a b => a.1 ≠ b.1 := List.pairwise_map.1 hd
  have hnodup : es.Nodup := hes.imp fun {a b} h (heq : a = b) => h (heq ▸ rfl)
  refine (List.perm_ext_iff_of_nodup (nodup_entries _) hnodup).2 fun e => ?_
  refine ⟨mem_of_mem_ofList, fun he => ?_⟩
  obtain ⟨k, v⟩ := e
  rw [mem_entries_iff, get?_ofList]
  exact lookup_eq_some_of_mem (List.pairwise_reverse.2 (hes.imp Ne.symm)) (List.mem_reverse.2 he)

/-- Where no key comes twice the order of the entries does not matter. -/
theorem lookup_perm {es es' : List (String × α)} (hperm : es.Perm es')
    (hd : (es.map (·.1)).Nodup) (k : String) : es.lookup k = es'.lookup k := by
  have hes : es.Pairwise fun a b => a.1 ≠ b.1 := List.pairwise_map.1 hd
  have hes' : es'.Pairwise fun a b => a.1 ≠ b.1 :=
    List.pairwise_map.1 ((hperm.map _).nodup_iff.1 hd)
  refine Option.ext fun v => ⟨fun h => ?_, fun h => ?_⟩
  · exact lookup_eq_some_of_mem hes' (hperm.mem_iff.1 (mem_of_lookup_eq_some h))
  · exact lookup_eq_some_of_mem hes (hperm.mem_iff.2 (mem_of_lookup_eq_some h))

/-! ### Some of the keys -/

/-- The map without the keys that are not kept. -/
def filter (m : KeyMap α) (keep : String → Bool) : KeyMap α :=
  ⟨m.entries.filter fun e => keep e.1, m.ascending.filter _⟩

theorem get?_filter (m : KeyMap α) (keep : String → Bool) (k : String) :
    (m.filter keep).get? k = if keep k then m.get? k else none := by
  refine Option.ext fun v => ?_
  rw [← mem_entries_iff, filter, List.mem_filter, mem_entries_iff]
  by_cases hk : keep k = true
  · simp [hk]
  · simp [hk]

/-! ### Functions on values -/

/-- The map with a function of each value. -/
def map {β : Type u} (f : α → β) (m : KeyMap α) : KeyMap β :=
  ⟨m.entries.map fun e => (e.1, f e.2), List.pairwise_map.2 m.ascending⟩

theorem get?_map {β : Type u} (f : α → β) (m : KeyMap α) (k : String) :
    (m.map f).get? k = (m.get? k).map f := by
  unfold map get?
  simp only
  induction m.entries with
  | nil => rfl
  | cons e es ih =>
    rw [List.map_cons, lookup_cons_ite, lookup_cons_ite, ih]
    by_cases hk : k = e.1
    · rw [if_pos hk, if_pos hk]
      rfl
    · rw [if_neg hk, if_neg hk]

end KeyMap
end Tabletop
