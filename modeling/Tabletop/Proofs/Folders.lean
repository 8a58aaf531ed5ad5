/-
# Saving into a folder that is there

If a folder is there (`Disk.HasFolder`), a save of a plain name within it makes
no other folder: the path of the folder that it makes where it is missing is
the folder's own, up to parts that lead nowhere. So such a save changes the one
entry and nothing else, whether it succeeds or fails (`Disk.save_within`), and
where the names within the folder lead does not change (`Disk.locate_join_congr`).

What a save keeps is shown for any property of disks that files can be put and
erased under (`Disk.save_preserves`): that there is no folder that was not there,
and that no name comes twice within a folder.

Key definitions: `Disk.HasFolder`, `Disk.FileClosed`, `Saving.Keeps`,
`Disk.Spares`.
Key theorems: `Disk.makeFolders_within`, `Disk.save_preserves`,
`Disk.save_within`, `Disk.locate_join_congr`, `Disk.nodup_namesWithin_put`.
-/
import Mathlib.Data.List.Basic
import Tabletop.Proofs.Saving

namespace Tabletop

namespace Path

/-! ### The folder of a path -/

/-- Parts that lead nowhere. -/
def Idle (part : String) : Prop :=
  part = "" ∨ part = "."

theorem not_mem_of_mem_splitAtSlash : ∀ {cs p : List Char}, p ∈ splitAtSlash cs → '/' ∉ p
  | [], p, h => by
    rw [splitAtSlash, List.mem_singleton] at h
    rw [h]
    exact List.not_mem_nil
  | c :: cs, p, h => by
    rw [splitAtSlash] at h
    split at h
    · rcases List.mem_cons.mp h with rfl | h
      · exact List.not_mem_nil
      · exact not_mem_of_mem_splitAtSlash h
    · rename_i hc
      split at h
      · rename_i hnil
        exact absurd hnil (splitAtSlash_ne_nil cs)
      · rename_i q qs hq
        have hrest : ∀ x ∈ splitAtSlash cs, '/' ∉ x := fun x hx => not_mem_of_mem_splitAtSlash hx
        rw [hq] at hrest
        rcases List.mem_cons.mp h with rfl | h
        · rw [List.mem_cons, not_or]
          exact ⟨Ne.symm hc, hrest q List.mem_cons_self⟩
        · exact hrest p (List.mem_cons_of_mem q h)

theorem parts_ne_nil (path : String) : parts path ≠ [] :=
  fun h => splitAtSlash_ne_nil _ (List.map_eq_nil_iff.mp h)

theorem of_mem_names {path name : String} (h : name ∈ names path) :
    '/' ∉ name.toList ∧ ¬Idle name := by
  obtain ⟨hpart, hnamed⟩ := List.mem_filter.mp h
  obtain ⟨p, hp, rfl⟩ := List.mem_map.mp hpart
  rw [Bool.and_eq_true, bne_iff_ne, bne_iff_ne] at hnamed
  rw [String.toList_ofList]
  exact ⟨not_mem_of_mem_splitAtSlash hp, not_or.mpr hnamed⟩

theorem names_join (folder : String) {name : String} (h : Plain name) :
    names (join folder name) = names folder ++ [name] := by
  obtain ⟨ps, hparts, -, hfolder⟩ := parts_join folder h
  have hname : [name].filter (fun p => p != "" && p != ".") = [name] := by
    simp [h.ne_empty, h.ne_dot]
  unfold names
  rw [hparts, List.filter_append, hname]
  rcases hfolder with hfolder | hfolder
  · rw [hfolder]
  · rw [hfolder, List.filter_append]
    simp

theorem parts_intercalate : ∀ {ps : List String}, ps ≠ [] → (∀ p ∈ ps, '/' ∉ p.toList) →
    parts ("/".intercalate ps) = ps
  | [], h, _ => absurd rfl h
  | [p], _, h => parts_of_noSlash (h p List.mem_cons_self)
  | p :: q :: ps, _, h => by
    have hp := parts_of_noSlash (h p List.mem_cons_self)
    have hps := parts_intercalate (List.cons_ne_nil q ps)
      fun x hx => h x (List.mem_cons_of_mem p hx)
    rw [String.intercalate_cons_cons, parts_append_slash, hp, hps]
    rfl

theorem isAbsolute_intercalate {p : String} (hp : '/' ∉ p.toList) (hne : p ≠ "")
    (ps : List String) : isAbsolute ("/".intercalate (p :: ps)) = false := by
  have hplain : isAbsolute p = false :=
    decide_eq_false fun h => hp (List.mem_of_mem_head? h)
  cases ps with
  | nil => exact hplain
  | cons q ps =>
    rw [String.intercalate_cons_cons, String.append_assoc, isAbsolute_append hne]
    exact hplain

/-- **The folder of a path has the names of the path but the last,** behind
parts that lead nowhere. -/
theorem parts_folder (path : String) : ∃ idle, (∀ p ∈ idle, Idle p) ∧
    parts (folder path) = idle ++ (names path).dropLast ∧
      isAbsolute (folder path) = isAbsolute path := by
  have hnames : ∀ p ∈ (names path).dropLast, '/' ∉ p.toList ∧ ¬Idle p :=
    fun p hp => of_mem_names (List.dropLast_subset _ hp)
  unfold folder
  cases hlast : (names path).dropLast with
  | nil =>
    cases habs : isAbsolute path with
    | true => exact ⟨["", ""], by simp [Idle], by decide, by decide⟩
    | false => exact ⟨["."], by simp [Idle], by decide, by decide⟩
  | cons p ps =>
    rw [hlast] at hnames
    obtain ⟨hp, hne⟩ := hnames p List.mem_cons_self
    have hparts := parts_intercalate (List.cons_ne_nil p ps) fun x hx => (hnames x hx).1
    have hrelative := isAbsolute_intercalate hp (fun h => hne (.inl h)) ps
    cases habs : isAbsolute path with
    | true =>
      have hslash : "/" ≠ "" := by decide
      refine ⟨[""], by simp [Idle], ?_, isAbsolute_append hslash _⟩
      have hroot : "/" ++ "/".intercalate (p :: ps) = "" ++ "/" ++ "/".intercalate (p :: ps) := by
        rw [String.empty_append]
      show parts ("/" ++ "/".intercalate (p :: ps)) = _
      rw [hroot, parts_append_slash, hparts]
      rfl
    | false => exact ⟨[], by simp, hparts, hrelative⟩

end Path

namespace Disk

open Tabletop.Path (Idle Plain)

variable {d d' : Disk} {l target : Location} {path folder name text : String}

/-! ### Folders that are there -/

/-- Where following a path begins. -/
def start (d : Disk) (path : String) : Location :=
  if Path.isAbsolute path then [] else d.home

/-- Every folder on the way of a path is there, and the one that it leads to. -/
structure HasFolder (d : Disk) (path : String) : Prop where
  follow : d.follow (d.start path) (Path.parts path) = .ok (d.place path)
  isFolder : d.entryAt (d.place path) = some .folder

theorem HasFolder.kept (h : d.HasFolder path) (hhome : d'.home = d.home)
    (hf : ∀ l, d.entryAt l = some .folder → d'.entryAt l = some .folder) : d'.HasFolder path := by
  have hplace := place_congr hhome path
  have hstart : d'.start path = d.start path := by
    unfold start
    rw [hhome]
  refine ⟨?_, ?_⟩
  · rw [hstart, hplace]
    exact follow_of_folders hf h.follow
  · rw [hplace]
    exact hf _ h.isFolder

theorem HasFolder.start (h : d.HasFolder path) : d.entryAt (d.start path) = some .folder := by
  obtain ⟨p, ps, hparts⟩ := List.exists_cons_of_ne_nil (Path.parts_ne_nil path)
  have hfollow := h.follow
  rw [hparts] at hfollow
  exact (follow_cons.mp hfollow).1

theorem of_listFolder {files : List String} (h : d.listFolder path = .ok files) :
    d.locate path = .ok (d.place path) ∧ d.HasFolder path ∧ d.hides (d.place path) = false ∧
      files = d.namesWithin (d.place path) := by
  unfold listFolder at h
  cases hl : d.locate path with
  | error e =>
    rw [hl] at h
    cases h
  | ok l =>
    rw [hl, Json.ok_bind] at h
    cases ho : d.opensAt l with
    | error e =>
      rw [ho] at h
      cases h
    | ok _ =>
      rw [ho, Json.ok_bind] at h
      obtain rfl := locate_eq_place hl
      split at h
      · cases h
      · rename_i hshown
        cases h
        exact ⟨rfl, ⟨(locate_eq_ok.mp hl).2.2, opensAt_eq_ok.mp ho⟩,
          Bool.eq_false_iff.mpr hshown, rfl⟩

/-- A folder that was listed once is listed again as long as it is there and is not
hidden. -/
theorem listFolder_of_hasFolder {files : List String} (h : d.listFolder path = .ok files)
    (h' : d'.HasFolder path) (hhome : d'.home = d.home) (hhides : d'.hides = d.hides) :
    d'.listFolder path = .ok (d'.namesWithin (d'.place path)) := by
  obtain ⟨hl, -, hshown, -⟩ := of_listFolder h
  obtain ⟨hne, hfits, -⟩ := locate_eq_ok.mp hl
  have hl' : d'.locate path = .ok (d'.place path) := locate_eq_ok.mpr ⟨hne, hfits, h'.follow⟩
  have hshown' : d'.hides (d'.place path) = false := by
    rw [hhides, place_congr hhome]
    exact hshown
  unfold listFolder
  rw [hl', Json.ok_bind, opensAt_eq_ok.mpr h'.isFolder, Json.ok_bind, hshown']
  rfl

/-! ### Names within a folder -/

theorem stepTo_idle {part : String} (h : Idle part) : stepTo l part = .ok l :=
  if_pos h

theorem follow_append : ∀ (ps qs : List String) (l : Location),
    d.follow l (ps ++ qs) = d.follow l ps >>= fun l' => d.follow l' qs
  | [], _, _ => rfl
  | p :: ps, qs, l => by
    rw [List.cons_append, follow, follow]
    cases d.opensAt l with
    | error e => rfl
    | ok _ =>
      rw [Json.ok_bind, Json.ok_bind]
      cases stepTo l p with
      | error e => rfl
      | ok l' => exact follow_append ps qs l'

/-- The parts of a folder's path lead to it also without an empty one at the
end. -/
theorem HasFolder.follow_init {ps : List String} (h : d.HasFolder folder)
    (hps : Path.parts folder = ps ∨ Path.parts folder = ps ++ [""]) :
    d.follow (d.start folder) ps = .ok (d.place folder) := by
  have hfollow := h.follow
  rcases hps with hps | hps
  · rw [hps] at hfollow
    exact hfollow
  · rw [hps] at hfollow
    obtain ⟨l', hl', -, hstep⟩ := follow_concat hfollow
    rw [stepTo_idle (.inl rfl)] at hstep
    rw [hl', hstep]

/-- A folder within which a plain name leads anywhere is there. -/
theorem hasFolder_of_locate (hn : Plain name)
    (h : d.locate (Path.join folder name) = .ok target) : d.HasFolder folder := by
  obtain ⟨ps, hparts, habs, hfolder⟩ := Path.parts_join folder hn
  obtain ⟨-, hopen⟩ := locate_join hn h
  obtain ⟨-, -, hfollow⟩ := locate_eq_ok.mp h
  rw [hparts, habs] at hfollow
  obtain ⟨l, hl, hopens, -⟩ := follow_concat hfollow
  have hall : d.follow (d.start folder) (Path.parts folder) = .ok l := by
    rcases hfolder with hfolder | hfolder
    · rw [hfolder]
      exact hl
    · rw [hfolder, follow_append]
      show d.follow (if Path.isAbsolute folder then [] else d.home) ps >>= _ = _
      rw [hl, Json.ok_bind]
      exact follow_cons.mpr ⟨hopens, l, stepTo_idle (.inl rfl), rfl⟩
  have hplace : l = d.place folder := follow_eq_placeFrom hall
  exact ⟨hplace ▸ hall, hopen⟩

/-- **Where a plain name leads within a folder that is there** depends on the
lengths of the name and of the path only. -/
theorem locate_join_eq (h : d.HasFolder folder) (hn : Plain name) :
    d.locate (Path.join folder name) =
      if pathFits (Path.join folder name) ∧ nameFits name then .ok (d.place folder ++ [name])
      else .error .badName := by
  obtain ⟨ps, hparts, habs, hfolder⟩ := Path.parts_join folder hn
  have hne : Path.join folder name ≠ "" := by
    intro he
    rw [he] at hparts
    have hsame : ps ++ [name] = [] ++ [""] := hparts.symm
    exact hn.ne_empty (List.singleton_inj.mp (List.append_inj_right' hsame rfl))
  have hstart : (if Path.isAbsolute (Path.join folder name) then [] else d.home) =
      d.start folder := by
    rw [habs]
    rfl
  have hstep : d.follow (d.place folder) [name] = stepTo (d.place folder) name := by
    unfold follow
    rw [opensAt_eq_ok.mpr h.isFolder, Json.ok_bind]
    cases stepTo (d.place folder) name <;> rfl
  unfold locate
  rw [if_neg hne, hstart, hparts, follow_append, h.follow_init hfolder, Json.ok_bind, hstep,
    stepTo, if_neg (not_or.mpr ⟨hn.ne_empty, hn.ne_dot⟩), if_neg hn.ne_dots]
  by_cases hpath : pathFits (Path.join folder name) = true
  · by_cases hname : nameFits name = true
    · rw [if_pos hpath, if_pos hname, if_pos ⟨hpath, hname⟩]
    · rw [if_pos hpath, if_neg hname, if_neg fun hboth => hname hboth.2]
  · rw [if_neg hpath, if_neg fun hboth => hpath hboth.1]

theorem locate_join_congr (h : d.HasFolder folder) (h' : d'.HasFolder folder)
    (hhome : d'.home = d.home) (hn : Plain name) :
    d'.locate (Path.join folder name) = d.locate (Path.join folder name) := by
  rw [locate_join_eq h hn, locate_join_eq h' hn, place_congr hhome]

theorem nodup_namesWithin_erase (h : (d.namesWithin l).Nodup) (x : Location) :
    ((d.erase x).namesWithin l).Nodup :=
  h.sublist (List.filter_sublist.filterMap _)

theorem nodup_namesWithin_put (h : (d.namesWithin l).Nodup) (x : Location) (e : Entry) :
    ((d.put x e).namesWithin l).Nodup := by
  have hrest : ((d.entries.filter (·.1 ≠ x)).filterMap (nameInside l)).Nodup :=
    nodup_namesWithin_erase h x
  show (((x, e) :: d.entries.filter (·.1 ≠ x)).filterMap (nameInside l)).Nodup
  cases hx : nameInside l (x, e) with
  | none =>
    rw [List.filterMap_cons_none hx]
    exact hrest
  | some name =>
    rw [List.filterMap_cons_some hx]
    refine List.nodup_cons.mpr ⟨fun hmem => ?_, hrest⟩
    obtain ⟨y, hy, hname⟩ := List.mem_filterMap.mp hmem
    have hsame : y.1 = x := (nameInside_eq_some.mp hname).trans (nameInside_eq_some.mp hx).symm
    have hother := (List.mem_filter.mp hy).2
    simp [hsame] at hother

/-! ### Making folders that are there -/

/-- Following names is following the parts between which they stand. -/
theorem follow_names : ∀ {ps : List String} {l : Location}, d.follow l ps = .ok target →
    d.follow l (ps.filter fun p => p != "" && p != ".") = .ok target
  | [], _, h => h
  | p :: ps, l, h => by
    obtain ⟨hl, l', hstep, hrest⟩ := follow_cons.mp h
    have ih := follow_names hrest
    by_cases hp : (p != "" && p != ".") = true
    · rw [List.filter_cons, if_pos hp]
      exact follow_cons.mpr ⟨hl, l', hstep, ih⟩
    · rw [List.filter_cons, if_neg hp]
      have hidle : Idle p := by
        rw [Bool.and_eq_true, bne_iff_ne, bne_iff_ne, ← not_or, not_not] at hp
        exact hp
      rw [stepTo_idle hidle] at hstep
      cases hstep
      exact ih

theorem makeAlong_of_follow : ∀ {ps : List String} {l : Location},
    d.follow l ps = .ok target → d.entryAt target = some .folder → d.makeAlong l ps = (.ok (), d)
  | [], _, _, _ => rfl
  | p :: ps, l, h, ht => by
    obtain ⟨-, l', hstep, hrest⟩ := follow_cons.mp h
    have hl' : d.entryAt l' = some .folder := by
      cases ps with
      | nil =>
        cases hrest
        exact ht
      | cons q qs => exact (follow_cons.mp hrest).1
    unfold makeAlong
    simp only [hstep, hl']
    exact makeAlong_of_follow hrest ht

theorem makeAlong_idle (hl : d.entryAt l = some .folder) (rest : List String) :
    ∀ {idle : List String}, (∀ p ∈ idle, Idle p) → d.makeAlong l (idle ++ rest) = d.makeAlong l rest
  | [], _ => rfl
  | p :: idle, h => by
    rw [List.cons_append, makeAlong, stepTo_idle (h p List.mem_cons_self)]
    simp only [hl]
    exact makeAlong_idle hl rest fun q hq => h q (List.mem_cons_of_mem p hq)

/-- **No folder is made for a plain name** within a folder that is there. -/
theorem makeFolders_within (h : d.HasFolder folder) (hn : Plain name) :
    (d.makeFolders (Path.folder (Path.join folder name))).2 = d := by
  obtain ⟨idle, hidle, hparts, habs⟩ := Path.parts_folder (Path.join folder name)
  obtain ⟨-, -, hsame, -⟩ := Path.parts_join folder hn
  have hnames : (Path.names (Path.join folder name)).dropLast = Path.names folder := by
    rw [Path.names_join folder hn, List.dropLast_concat]
  have halong : d.makeAlong (d.start folder) (Path.names folder) = (.ok (), d) :=
    makeAlong_of_follow (follow_names h.follow) h.isFolder
  have hstart : (if Path.isAbsolute (Path.folder (Path.join folder name)) then [] else d.home) =
      d.start folder := by
    rw [habs, hsame]
    rfl
  unfold makeFolders
  split
  · rw [hstart, hparts, hnames, makeAlong_idle h.start _ hidle, halong]
  · rfl

end Disk

/-! ### What a save keeps -/

/-- A property of disks that stays when files are put and entries erased. -/
structure Disk.FileClosed (P : Disk → Prop) : Prop where
  put : ∀ {d : Disk} {l : Location} {content : ByteArray}, P d → P (d.put l (.file content))
  erase : ∀ {d : Disk} {l : Location}, P d → P (d.erase l)

namespace Saving

variable {P : Disk → Prop} {s : Saving} {path : String} {body : ByteArray}

/-- A state of a save with some property of its disk; the temporary file is a
file. -/
structure Keeps (P : Disk → Prop) (s : Saving) : Prop where
  disk : P s.disk
  temporary : ∀ {place}, s.temporary = some place →
    ∃ content, s.disk.entryAt place = some (.file content)

theorem Keeps.put (hP : Disk.FileClosed P) (h : Keeps P s) {place : Location} (hne : place ≠ [])
    (content : ByteArray) : Keeps P ⟨s.disk.put place (.file content), some place⟩ where
  disk := hP.put h.disk
  temporary {l} hl := by
    cases hl
    exact ⟨content, Disk.entryAt_put_self _ _ hne⟩

theorem Keeps.fill (hP : Disk.FileClosed P) (h : Keeps P s) (content : ByteArray) :
    Keeps P (s.fill content).2 := by
  unfold Saving.fill
  split
  · rename_i place hplace
    have hne : place ≠ [] := by
      rintro rfl
      obtain ⟨_, hfile⟩ := h.temporary hplace
      cases hfile
    have hput := h.put hP hne content
    rw [← hplace] at hput
    exact hput
  · exact h

/-- **A step that makes no folders keeps what stays under putting and erasing
files.** -/
theorem step_keeps (hP : Disk.FileClosed P) (h : Keeps P s) {n : SaveStep}
    (hn : n ≠ .makeFolders) : Keeps P (s.step path body n).2 := by
  unfold step
  split
  · exact h
  · cases n with
    | makeFolders => exact absurd rfl hn
    | makeTemporary =>
      unfold act
      simp only
      split
      · exact h
      · split
        · exact h
        · split
          · exact h
          · exact h.put hP (List.append_ne_nil_of_right_ne_nil _ (List.cons_ne_nil _ _)) _
    | writeBody => exact h.fill hP _
    | writeEnd => exact h.fill hP _
    | flush => exact h
    | rename =>
      unfold act
      simp only
      split
      · exact h
      · exact h
      · rename_i place target hplace _
        obtain ⟨content, hfile⟩ := h.temporary hplace
        split
        · exact h
        · rename_i e he _
          rw [hfile] at he
          cases he
          exact ⟨hP.put (hP.erase h.disk), fun h => nomatch h⟩
        · exact h

theorem run_keeps (hP : Disk.FileClosed P) : ∀ (ns : List SaveStep) {s : Saving},
    .makeFolders ∉ ns → Keeps P s → Keeps P (run path body s ns).2
  | [], _, _, h => h
  | n :: ns, s, hns, h => by
    rw [List.mem_cons, not_or] at hns
    have hstep : Keeps P (s.step path body n).2 := step_keeps hP h (Ne.symm hns.1)
    unfold run
    split
    · rename_i t ht
      rw [ht] at hstep
      exact run_keeps hP ns hns.2 hstep
    · rename_i e t ht
      rw [ht] at hstep
      exact hstep

theorem Keeps.cleared (hP : Disk.FileClosed P) (h : Keeps P s) : P s.cleared := by
  unfold Saving.cleared
  split
  · exact hP.erase h.disk
  · exact h.disk

end Saving

namespace Disk

open Tabletop.Path (Plain)

variable {P : Disk → Prop} {d d' : Disk} {path folder name text : String}

/-- **A save keeps a property that stays under putting and erasing files,** if
making the folders above the target keeps it. -/
theorem save_preserves (hP : FileClosed P) (hd : P d)
    (hmake : P (d.makeFolders (Path.folder path)).2) : P (d.save path text).2 := by
  -- only the first step makes folders, and it makes them on the disk as it was
  have hfirst : Saving.Keeps P (Saving.step path text.toUTF8 ⟨d, none⟩ .makeFolders).2 := by
    unfold Saving.step
    split
    · exact ⟨hd, fun h => nomatch h⟩
    · unfold Saving.act
      exact ⟨hmake, fun h => nomatch h⟩
  have hrun : Saving.Keeps P (Saving.run path text.toUTF8 ⟨d, none⟩ Saving.steps).2 := by
    unfold Saving.steps Saving.run
    split
    · rename_i s hs
      rw [hs] at hfirst
      exact Saving.run_keeps hP _ (by decide) hfirst
    · rename_i e s hs
      rw [hs] at hfirst
      exact hfirst
  exact hrun.cleared hP

/-- That all folders have some property stays, if the root has it. -/
theorem fileClosed_folders {Q : Location → Prop} (hQ : Q []) :
    FileClosed fun d' => ∀ l, d'.entryAt l = some .folder → Q l where
  put {x l content} h l' hl' := by
    by_cases he : l' = l
    · by_cases hroot : l' = []
      · rw [hroot]
        exact hQ
      · rw [he] at hl' hroot
        rw [entryAt_put_self _ _ hroot] at hl'
        cases hl'
    · rw [entryAt_put_of_ne _ _ he] at hl'
      exact h l' hl'
  erase {x l} h l' hl' := by
    by_cases he : l' = l
    · by_cases hroot : l' = []
      · rw [hroot]
        exact hQ
      · rw [he] at hl' hroot
        rw [entryAt_erase_self _ hroot] at hl'
        cases hl'
    · rw [entryAt_erase_of_ne _ he] at hl'
      exact h l' hl'

theorem fileClosed_hides {hidden : Location → Bool} : FileClosed fun d => d.hides = hidden where
  put h := h
  erase h := h

theorem fileClosed_nodup (l : Location) : FileClosed fun d => (d.namesWithin l).Nodup where
  put h := nodup_namesWithin_put h _ _
  erase h := nodup_namesWithin_erase h _

theorem Stored.place_join {content : ByteArray} (hn : Plain name)
    (h : d.Stored (Path.join folder name) content d') :
    d.place (Path.join folder name) = d.place folder ++ [name] := by
  rw [(locate_join hn h.located).1, place_congr h.home]

/-- A save of a plain name only adds to what there is besides its target, and
leaves all folders. -/
theorem save_adds (hn : Plain name) {r : Except FileError Unit}
    (hs : d.save (Path.join folder name) text = (r, d')) :
    d'.home = d.home ∧ (∀ l, d.entryAt l = some .folder → d'.entryAt l = some .folder) ∧
      ∀ l e, l ≠ d.place folder ++ [name] → (d.entryAt l = some e → d'.entryAt l = some e) ∧
        (d'.entryAt l = some e → d.entryAt l = some e ∨ e = .folder) := by
  obtain ⟨_, -, hg⟩ | ⟨-, hstored⟩ := save_cases hs
  · exact ⟨hg.home, fun _ => hg.kept, fun _ _ _ => ⟨hg.kept, hg.added⟩⟩
  · refine ⟨hstored.home, fun _ => hstored.folder, fun l e hl => ?_⟩
    rw [← hstored.place_join hn] at hl
    exact ⟨hstored.kept hl, hstored.added hl⟩

/-- What a save leaves as it is: the working folder, which folders are hidden, a
folder that it saves into, every entry but one, and that no name comes twice within
a folder. -/
structure Spares (d : Disk) (folder name : String) (d' : Disk) : Prop where
  home : d'.home = d.home
  hides : d'.hides = d.hides
  hasFolder : d'.HasFolder folder
  others : ∀ l, l ≠ d.place folder ++ [name] → d'.entryAt l = d.entryAt l
  nodup : ∀ l, (d.namesWithin l).Nodup → (d'.namesWithin l).Nodup

/-- **A save of a plain name within a folder that is there changes that entry
only,** whether it succeeds or fails. -/
theorem save_within (h : d.HasFolder folder) (hn : Plain name) {r : Except FileError Unit}
    (hs : d.save (Path.join folder name) text = (r, d')) : d.Spares folder name d' := by
  obtain ⟨hhome, hfolders, hadds⟩ := save_adds hn hs
  have hpreserves : ∀ {P : Disk → Prop}, FileClosed P → P d → P d' := fun {P} hP hd => by
    have hsave : P (d.save (Path.join folder name) text).2 :=
      save_preserves hP hd ((makeFolders_within h hn).symm ▸ hd)
    rw [hs] at hsave
    exact hsave
  have hnone := hpreserves (fileClosed_folders (Q := fun l => d.entryAt l = some .folder) rfl)
    fun _ hl => hl
  refine ⟨hhome, hpreserves fileClosed_hides rfl, h.kept hhome hfolders, fun l hl => ?_,
    fun l => hpreserves (fileClosed_nodup l)⟩
  apply Option.ext
  intro e
  constructor
  · intro he
    -- what is new could only be a folder, and there is no new one
    rcases (hadds l e hl).2 he with hd | rfl
    · exact hd
    · exact hnone l he
  · exact (hadds l e hl).1

theorem saveJson_within {j : Json} (h : d.HasFolder folder) (hn : Plain name)
    {r : Except StoreError Unit} (hs : d.saveJson (Path.join folder name) j = (r, d')) :
    d.Spares folder name d' := by
  unfold saveJson at hs
  split at hs
  · rename_i hsave
    cases hs
    exact save_within h hn hsave
  · rename_i hsave
    cases hs
    exact save_within h hn hsave

end Disk
end Tabletop
