/-
# Following paths

Where a path leads depends on the working folder alone (`locate_eq_place`),
and a path that can be followed stays so while no folder goes
(`locate_of_folders`). A plain name within a folder is the name of an entry
right below it, whether the folder's path ends with a slash or not
(`locate_join`).

Making folders adds folders where there was nothing, and does nothing else: the
disk grows (`Disk.Grows`).

Key definitions: `Path.Plain`, `Disk.Grows`.
Key theorems: `Disk.locate_eq_place`, `Disk.locate_of_folders`,
`Disk.locate_join`, `Disk.makeFolders_grows`.
-/
import Tabletop.Disk.Basic

namespace Tabletop

namespace Path

/-! ### Parts of joined paths -/

/-- A name that leads to an entry of its own: one part, and none with a meaning
for paths. -/
structure Plain (name : String) : Prop where
  noSlash : '/' ∉ name.toList
  ne_empty : name ≠ ""
  ne_dot : name ≠ "."
  ne_dots : name ≠ ".."

theorem splitAtSlash_ne_nil : ∀ cs : List Char, splitAtSlash cs ≠ []
  | [] => List.cons_ne_nil _ _
  | c :: cs => by
    unfold splitAtSlash
    split
    · exact List.cons_ne_nil _ _
    · split <;> exact List.cons_ne_nil _ _

theorem splitAtSlash_of_not_mem : ∀ {cs : List Char}, '/' ∉ cs → splitAtSlash cs = [cs]
  | [], _ => rfl
  | c :: cs, h => by
    rw [List.mem_cons, not_or] at h
    obtain ⟨hc, hcs⟩ := h
    rw [splitAtSlash, if_neg (Ne.symm hc), splitAtSlash_of_not_mem hcs]

theorem splitAtSlash_append (b : List Char) : ∀ a : List Char,
    splitAtSlash (a ++ '/' :: b) = splitAtSlash a ++ splitAtSlash b
  | [] => by
    show splitAtSlash ('/' :: b) = [[]] ++ splitAtSlash b
    rw [splitAtSlash, if_pos rfl]
    rfl
  | c :: a => by
    rw [List.cons_append, splitAtSlash, splitAtSlash_append b a]
    by_cases hc : c = '/'
    · rw [if_pos hc, splitAtSlash, if_pos hc]
      rfl
    · rw [if_neg hc, splitAtSlash, if_neg hc]
      cases hs : splitAtSlash a with
      | nil => exact absurd hs (splitAtSlash_ne_nil a)
      | cons p ps => rfl

theorem parts_of_noSlash {name : String} (h : '/' ∉ name.toList) : parts name = [name] := by
  unfold parts
  rw [splitAtSlash_of_not_mem h]
  exact congrArg (· :: []) String.ofList_toList

theorem parts_append_slash (a b : String) : parts (a ++ "/" ++ b) = parts a ++ parts b := by
  have h : (a ++ "/" ++ b).toList = a.toList ++ '/' :: b.toList := by
    rw [String.toList_append, String.toList_append, List.append_assoc]
    rfl
  unfold parts
  rw [h, splitAtSlash_append, List.map_append]

theorem isAbsolute_append {a : String} (ha : a ≠ "") (b : String) :
    isAbsolute (a ++ b) = isAbsolute a := by
  unfold isAbsolute
  rw [String.toList_append]
  cases h : a.toList with
  | nil => exact absurd (String.toList_eq_nil_iff.mp h) ha
  | cons c cs => rfl

/-- The path of a plain name in a folder is the folder's path, up to a part that
leads nowhere, and the name. -/
theorem parts_join (folder : String) {name : String} (h : Plain name) :
    ∃ ps, parts (join folder name) = ps ++ [name] ∧
      isAbsolute (join folder name) = isAbsolute folder ∧
      (parts folder = ps ∨ parts folder = ps ++ [""]) := by
  have hhead : name.toList.head? ≠ some '/' := fun he =>
    h.noSlash (List.mem_of_mem_head? he)
  have hparts := parts_of_noSlash h.noSlash
  unfold join
  rw [if_neg hhead]
  by_cases he : folder = ""
  · subst he
    rw [if_pos (.inl rfl), String.empty_append]
    exact ⟨[], hparts, by unfold isAbsolute; rw [decide_eq_false hhead]; rfl, .inr rfl⟩
  · by_cases hl : folder.toList.getLast? = some '/'
    · obtain ⟨cs, hcs⟩ := List.getLast?_eq_some_iff.mp hl
      have hfolder : folder = String.ofList cs ++ "/" ++ "" := by
        rw [String.append_empty, ← String.ofList_toList (s := folder), hcs, String.ofList_append]
      rw [if_pos (.inr hl)]
      refine ⟨parts (String.ofList cs), ?_, isAbsolute_append he _, .inr ?_⟩
      · rw [hfolder, String.append_empty, parts_append_slash, hparts]
      · rw [hfolder, parts_append_slash]
        rfl
    · rw [if_neg (by simp [he, hl])]
      refine ⟨parts folder, by rw [parts_append_slash, hparts], ?_, .inl rfl⟩
      rw [String.append_assoc]
      exact isAbsolute_append he _

end Path

namespace Disk

variable {d d' : Disk} {l target : Location} {path : String}

/-! ### Where paths lead -/

theorem opensAt_eq_ok : d.opensAt l = .ok () ↔ d.entryAt l = some .folder := by
  unfold opensAt
  split
  · rename_i h
    simp [h]
  · rename_i hother h
    rw [h]
    exact iff_of_false nofun fun he => hother (Option.some.inj he)
  · rename_i h
    simp [h]

theorem follow_cons {part : String} {rest : List String} :
    d.follow l (part :: rest) = .ok target ↔
      d.entryAt l = some .folder ∧
        ∃ l', stepTo l part = .ok l' ∧ d.follow l' rest = .ok target := by
  rw [← opensAt_eq_ok, follow]
  cases d.opensAt l with
  | error e => simp [bind, Except.bind]
  | ok _ => cases stepTo l part <;> simp [bind, Except.bind]

theorem follow_concat {part : String} : ∀ {parts : List String} {l : Location},
    d.follow l (parts ++ [part]) = .ok target →
      ∃ l', d.follow l parts = .ok l' ∧ d.entryAt l' = some .folder ∧ stepTo l' part = .ok target
  | [], l, h => by
    obtain ⟨hl, l', hs, hr⟩ := follow_cons.mp h
    cases hr
    exact ⟨l, rfl, hl, hs⟩
  | p :: parts, l, h => by
    obtain ⟨hl, l', hs, hr⟩ := follow_cons.mp h
    obtain ⟨l'', hf, hd⟩ := follow_concat hr
    exact ⟨l'', follow_cons.mpr ⟨hl, l', hs, hf⟩, hd⟩

/-- Where parts lead if every folder on the way is there. -/
def placeFrom (l : Location) (parts : List String) : Location :=
  parts.foldl (fun l part => (stepTo l part).toOption.getD l) l

theorem follow_eq_placeFrom : ∀ {parts : List String} {l : Location},
    d.follow l parts = .ok target → target = placeFrom l parts
  | [], l, h => by
    cases h
    rfl
  | part :: rest, l, h => by
    obtain ⟨-, l', hs, hr⟩ := follow_cons.mp h
    show target = placeFrom ((stepTo l part).toOption.getD l) rest
    rw [hs]
    exact follow_eq_placeFrom hr

theorem follow_of_folders (hf : ∀ l, d.entryAt l = some .folder → d'.entryAt l = some .folder) :
    ∀ {parts : List String} {l : Location}, d.follow l parts = .ok target →
      d'.follow l parts = .ok target
  | [], _, h => h
  | part :: rest, l, h => by
    obtain ⟨hl, l', hs, hr⟩ := follow_cons.mp h
    exact follow_cons.mpr ⟨hf l hl, l', hs, follow_of_folders hf hr⟩

theorem locate_eq_ok : d.locate path = .ok target ↔ path ≠ "" ∧ pathFits path = true ∧
    d.follow (if Path.isAbsolute path then [] else d.home) (Path.parts path) = .ok target := by
  unfold locate
  split
  · rename_i he
    simp [he]
  · rename_i he
    split
    · rename_i hf
      simp [he, hf]
    · rename_i hf
      simp [hf]

/-- **Where a path leads does not depend on what there is,** if it leads
anywhere. -/
theorem locate_eq_place (h : d.locate path = .ok target) : target = d.place path :=
  follow_eq_placeFrom (locate_eq_ok.mp h).2.2

theorem place_congr (hhome : d'.home = d.home) (path : String) : d'.place path = d.place path := by
  unfold place
  rw [hhome]

/-- **A path leads to the same place** as long as the folders on its way stay. -/
theorem locate_of_folders (hhome : d'.home = d.home)
    (hf : ∀ l, d.entryAt l = some .folder → d'.entryAt l = some .folder)
    (h : d.locate path = .ok target) : d'.locate path = .ok target := by
  obtain ⟨he, hp, h⟩ := locate_eq_ok.mp h
  rw [← hhome] at h
  exact locate_eq_ok.mpr ⟨he, hp, follow_of_folders hf h⟩

theorem find_eq_ok {e : Entry} : d.find path = .ok e ↔
    ∃ l, d.locate path = .ok l ∧ d.entryAt l = some e := by
  unfold find
  cases d.locate path with
  | error _ => simp [bind, Except.bind]
  | ok l => cases h : d.entryAt l <;> simp [bind, Except.bind, h]

theorem stepTo_plain {name : String} (h : Path.Plain name) (hs : stepTo l name = .ok target) :
    target = l ++ [name] := by
  unfold stepTo at hs
  rw [if_neg (by simp [h.ne_empty, h.ne_dot]), if_neg h.ne_dots] at hs
  split at hs <;> cases hs
  rfl

/-- **A plain name in a folder is an entry right below the folder.** -/
theorem locate_join {folder name : String} (hn : Path.Plain name)
    (h : d.locate (Path.join folder name) = .ok target) :
    target = d.place folder ++ [name] ∧ d.entryAt (d.place folder) = some .folder := by
  obtain ⟨ps, hparts, habs, hfolder⟩ := Path.parts_join folder hn
  obtain ⟨-, -, hfollow⟩ := locate_eq_ok.mp h
  rw [hparts, habs] at hfollow
  obtain ⟨l, hl, hopen, hs⟩ := follow_concat hfollow
  have hplace : l = d.place folder := by
    rw [follow_eq_placeFrom hl]
    unfold place
    rcases hfolder with hfolder | hfolder
    · rw [hfolder]
      rfl
    · rw [hfolder, List.foldl_append]
      rfl
  rw [← hplace]
  exact ⟨stepTo_plain hn hs, hopen⟩

/-! ### Entries apart -/

theorem entryAt_put_of_ne (d : Disk) (e : Entry) {x : Location} (h : x ≠ l) :
    (d.put l e).entryAt x = d.entryAt x := by
  rw [entryAt_put, if_neg h]
  split
  · rename_i h0
    rw [h0]
    rfl
  · rfl

theorem entryAt_put_self (d : Disk) (e : Entry) (h : l ≠ []) : (d.put l e).entryAt l = some e := by
  rw [entryAt_put, if_neg h, if_pos rfl]

theorem entryAt_erase_of_ne (d : Disk) {x : Location} (h : x ≠ l) :
    (d.erase l).entryAt x = d.entryAt x := by
  rw [entryAt_erase, if_neg h]
  split
  · rename_i h0
    rw [h0]
    rfl
  · rfl

theorem entryAt_erase_self (d : Disk) (h : l ≠ []) : (d.erase l).entryAt l = none := by
  rw [entryAt_erase, if_neg h, if_pos rfl]

theorem ne_of_entryAt {x : Location} {e : Entry} (h : d.entryAt l = none)
    (he : d.entryAt x = some e) : x ≠ l := by
  rintro rfl
  rw [h] at he
  cases he

theorem ne_root_of_entryAt (h : d.entryAt l = none) : l ≠ [] :=
  Ne.symm (ne_of_entryAt h (rfl : d.entryAt [] = some .folder))

/-! ### Growing -/

/-- A disk has all that another one has, and besides it only folders. -/
structure Grows (d d' : Disk) : Prop where
  home : d'.home = d.home
  refuses : d'.refuses = d.refuses
  kept : ∀ {l e}, d.entryAt l = some e → d'.entryAt l = some e
  added : ∀ {l e}, d'.entryAt l = some e → d.entryAt l = some e ∨ e = .folder

theorem Grows.refl (d : Disk) : d.Grows d :=
  ⟨rfl, rfl, fun h => h, fun h => .inl h⟩

theorem Grows.trans {d'' : Disk} (h : d.Grows d') (h' : d'.Grows d'') : d.Grows d'' where
  home := h'.home.trans h.home
  refuses := h'.refuses.trans h.refuses
  kept he := h'.kept (h.kept he)
  added he := by
    rcases h'.added he with he | he
    · exact h.added he
    · exact .inr he

theorem grows_put (h : d.entryAt l = none) : d.Grows (d.put l .folder) where
  home := rfl
  refuses := rfl
  kept he := by
    rw [entryAt_put_of_ne _ _ (ne_of_entryAt h he)]
    exact he
  added {x e} he := by
    by_cases hx : x = l
    · rw [hx, entryAt_put_self _ _ (ne_root_of_entryAt h)] at he
      cases he
      exact .inr rfl
    · rw [entryAt_put_of_ne _ _ hx] at he
      exact .inl he

theorem makeAlong_grows : ∀ (parts : List String) (d : Disk) (l : Location),
    d.Grows (d.makeAlong l parts).2
  | [], d, _ => .refl d
  | part :: rest, d, l => by
    unfold makeAlong
    split
    · exact .refl d
    · split
      · exact makeAlong_grows rest d _
      · exact .refl d
      · rename_i hnone
        exact (grows_put hnone).trans (makeAlong_grows rest _ _)

/-- **Making folders adds folders** where there was nothing, also if it fails on
its way. -/
theorem makeFolders_grows (d : Disk) (path : String) : d.Grows (d.makeFolders path).2 := by
  unfold makeFolders
  split
  · exact makeAlong_grows _ _ _
  · exact .refl d

end Disk
end Tabletop
