/-
# The way of a path

A path leads past the places on its way: those of its first names, one after
the other (`Disk.OnWay`). Following it asks what there is on its way and nowhere
else (`Disk.locate_congr`), and making the folders that it names puts folders on
its way where there was nothing, and does nothing else
(`Disk.makeFolders_changes`).

A save of a plain name within a folder begins with the way to the folder and
goes on right below it. So at every moment of it, after any of its steps, no
more has changed than that (`Saving.run_near`); and when it is over, no more
than the way and the one entry (`Disk.save_changes`).

Key definitions: `Disk.OnWay`, `Disk.MadeFolder`, `Saving.Near`.
Key theorems: `Disk.locate_congr`, `Disk.find_congr`, `Disk.makeFolders_changes`,
`Saving.step_near`, `Saving.run_near`, `Disk.save_changes`.
-/
import Tabletop.Proofs.Folders

namespace Tabletop

namespace Path

open Tabletop.Path (Idle Plain)

theorem filter_names (path : String) :
    (names path).filter (fun p => p != "" && p != ".") = names path := by
  unfold names
  rw [List.filter_filter]
  simp only [Bool.and_self]

theorem names_folder_join (folder : String) {name : String} (h : Plain name) :
    names (Path.folder (join folder name)) = names folder := by
  obtain ⟨idle, hidle, hparts, -⟩ := parts_folder (join folder name)
  have hnone : idle.filter (fun p => p != "" && p != ".") = [] := by
    rw [List.filter_eq_nil_iff]
    intro p hp hnamed
    rw [Bool.and_eq_true, bne_iff_ne, bne_iff_ne] at hnamed
    exact (not_or.mpr hnamed) (hidle p hp)
  have hnames : names (Path.folder (join folder name)) =
      (idle ++ (names (join folder name)).dropLast).filter fun p => p != "" && p != "." := by
    rw [← hparts]
    rfl
  rw [hnames, List.filter_append, hnone, List.nil_append, names_join folder h, List.dropLast_concat,
    filter_names]

end Path

namespace Disk

open Tabletop.Path (Idle Plain)

variable {d d' : Disk} {l : Location} {path folder name text : String}

/-! ### Places on the way -/

/-- A place that a path leads past, from where it begins to where it ends. -/
def OnWay (d : Disk) (path : String) (l : Location) : Prop :=
  ∃ ps, ps <+: Path.names path ∧ l = placeFrom (d.start path) ps

theorem placeFrom_cons {part : String} {target : Location} (h : stepTo l part = .ok target)
    (ps : List String) : placeFrom l (part :: ps) = placeFrom target ps := by
  show placeFrom ((stepTo l part).toOption.getD l) ps = _
  rw [h]
  rfl

/-- Parts that lead nowhere do not matter for where the others lead. -/
theorem placeFrom_names : ∀ (ps : List String) (l : Location),
    placeFrom l (ps.filter fun p => p != "" && p != ".") = placeFrom l ps
  | [], _ => rfl
  | p :: ps, l => by
    by_cases hp : (p != "" && p != ".") = true
    · rw [List.filter_cons, if_pos hp]
      exact placeFrom_names ps _
    · rw [List.filter_cons, if_neg hp]
      have hidle : Idle p := by
        rw [Bool.and_eq_true, bne_iff_ne, bne_iff_ne, ← not_or, not_not] at hp
        exact hp
      rw [placeFrom_cons (stepTo_idle hidle)]
      exact placeFrom_names ps l

theorem place_eq (d : Disk) (path : String) :
    d.place path = placeFrom (d.start path) (Path.names path) :=
  (placeFrom_names (Path.parts path) (d.start path)).symm

theorem onWay_of_parts {ps : List String} (h : ps <+: Path.parts path) :
    d.OnWay path (placeFrom (d.start path) ps) :=
  ⟨_, h.filter _, (placeFrom_names ps _).symm⟩

theorem onWay_place (d : Disk) (path : String) : d.OnWay path (d.place path) :=
  ⟨_, List.prefix_rfl, place_eq d path⟩

theorem start_congr (h : d'.home = d.home) (path : String) : d'.start path = d.start path := by
  unfold start
  rw [h]

theorem onWay_congr (h : d'.home = d.home) : d'.OnWay path l ↔ d.OnWay path l := by
  unfold OnWay
  rw [start_congr h]

theorem start_join (d : Disk) (folder : String) {name : String} (h : Plain name) :
    d.start (Path.join folder name) = d.start folder := by
  obtain ⟨-, -, hsame, -⟩ := Path.parts_join folder h
  unfold start
  rw [hsame]

theorem start_folder_join (d : Disk) (folder : String) {name : String} (h : Plain name) :
    d.start (Path.folder (Path.join folder name)) = d.start folder := by
  obtain ⟨-, -, -, habs⟩ := Path.parts_folder (Path.join folder name)
  rw [← start_join d folder h]
  unfold start
  rw [habs]

theorem onWay_folder_join (h : Plain name) :
    d.OnWay (Path.folder (Path.join folder name)) l ↔ d.OnWay folder l := by
  unfold OnWay
  rw [Path.names_folder_join folder h, start_folder_join d folder h]

theorem place_folder_join (d : Disk) (folder : String) {name : String} (h : Plain name) :
    d.place (Path.folder (Path.join folder name)) = d.place folder := by
  rw [place_eq, place_eq, Path.names_folder_join folder h, start_folder_join d folder h]

theorem place_join (d : Disk) (folder : String) {name : String} (h : Plain name) :
    d.place (Path.join folder name) =
      (stepTo (d.place folder) name).toOption.getD (d.place folder) := by
  rw [place_eq, place_eq, start_join d folder h, Path.names_join folder h]
  exact List.foldl_append

/-- **The way of a plain name within a folder** is the way to the folder, and the
entry of that name right below it. -/
theorem onWay_join (h : Plain name) (hl : d.OnWay (Path.join folder name) l) :
    d.OnWay folder l ∨ l = d.place folder ++ [name] := by
  obtain ⟨ps, hps, rfl⟩ := hl
  rw [Path.names_join folder h] at hps
  rw [start_join d folder h]
  rcases List.prefix_concat_iff.mp hps with rfl | hps
  · rw [← Path.names_join folder h, ← start_join d folder h, ← place_eq, place_join d folder h]
    cases hstep : stepTo (d.place folder) name with
    | error e => exact .inl (onWay_place d folder)
    | ok target => exact .inr (stepTo_plain h hstep)
  · exact .inl ⟨ps, hps, rfl⟩

/-! ### What following a path asks -/

theorem opensAt_congr (h : d'.entryAt l = d.entryAt l) : d'.opensAt l = d.opensAt l := by
  unfold opensAt
  rw [h]

theorem follow_congr : ∀ {ps : List String} {l : Location},
    (∀ qs, qs <+: ps → d'.opensAt (placeFrom l qs) = d.opensAt (placeFrom l qs)) →
      d'.follow l ps = d.follow l ps
  | [], _, _ => rfl
  | p :: ps, l, h => by
    have hopens : d'.opensAt l = d.opensAt l := h [] List.nil_prefix
    rw [follow, follow, hopens]
    cases hstep : stepTo l p with
    | error e => rfl
    | ok target =>
      -- past `p` the way goes on from where `p` leads
      have hrest : d'.follow target ps = d.follow target ps := follow_congr fun qs hqs => by
        rw [← placeFrom_cons hstep]
        exact h (p :: qs) (List.prefix_cons_inj p |>.mpr hqs)
      show (d.opensAt l >>= fun _ => d'.follow target ps) =
          d.opensAt l >>= fun _ => d.follow target ps
      rw [hrest]

/-- **Where a path leads depends on its way only:** on what there can be gone
on from. -/
theorem locate_congr (hhome : d'.home = d.home)
    (h : ∀ l, d.OnWay path l → d'.opensAt l = d.opensAt l) : d'.locate path = d.locate path := by
  have hfollow : d'.follow (d.start path) (Path.parts path) =
      d.follow (d.start path) (Path.parts path) :=
    follow_congr fun qs hqs => h _ (onWay_of_parts hqs)
  have hstart := start_congr hhome path
  unfold locate
  split
  · rfl
  · split
    · show d'.follow (d'.start path) _ = d.follow (d.start path) _
      rw [hstart, hfollow]
    · rfl

/-- **What a path leads to depends on what there is on its way only.** -/
theorem find_congr (hhome : d'.home = d.home)
    (h : ∀ l, d.OnWay path l → d'.entryAt l = d.entryAt l) : d'.find path = d.find path := by
  unfold find
  rw [locate_congr hhome fun l hl => opensAt_congr (h l hl)]
  cases hl : d.locate path with
  | error e => rfl
  | ok l =>
    obtain rfl := locate_eq_place hl
    rw [Json.ok_bind, Json.ok_bind, h _ (onWay_place d path)]

/-! ### What making folders changes -/

/-- There is a folder on the way of a path where there was nothing. -/
structure MadeFolder (d : Disk) (path : String) (d' : Disk) (l : Location) : Prop where
  onWay : d.OnWay path l
  before : d.entryAt l = none
  after : d'.entryAt l = some .folder

theorem makeAlong_changes {x : Location} : ∀ (ps : List String) (d : Disk) (l : Location),
    (d.makeAlong l ps).2.entryAt x ≠ d.entryAt x → ∃ qs, qs <+: ps ∧ x = placeFrom l qs
  | [], _, _, h => absurd rfl h
  | p :: ps, d, l, h => by
    unfold makeAlong at h
    cases hstep : stepTo l p with
    | error e =>
      rw [hstep] at h
      exact absurd rfl h
    | ok target =>
      have hon : ∀ {qs}, qs <+: ps → ∃ rs, rs <+: p :: ps ∧ placeFrom target qs = placeFrom l rs :=
        fun {qs} hqs => ⟨p :: qs, (List.prefix_cons_inj p).mpr hqs, (placeFrom_cons hstep qs).symm⟩
      rw [hstep] at h
      simp only at h
      split at h
      · obtain ⟨qs, hqs, rfl⟩ := makeAlong_changes ps d target h
        exact hon hqs
      · exact absurd rfl h
      · by_cases hx : x = target
        · rw [hx]
          exact hon List.nil_prefix
        · rw [← entryAt_put_of_ne d .folder hx] at h
          obtain ⟨qs, hqs, rfl⟩ := makeAlong_changes ps _ target h
          exact hon hqs

/-- **Making folders makes folders on the way** where there was nothing, and
changes nothing else. -/
theorem makeFolders_changes (d : Disk) (path : String) (l : Location) :
    (d.makeFolders path).2.entryAt l = d.entryAt l ∨
      d.MadeFolder path (d.makeFolders path).2 l := by
  by_cases h : (d.makeFolders path).2.entryAt l = d.entryAt l
  · exact .inl h
  · have hgrows := makeFolders_grows d path
    have hbefore : d.entryAt l = none := Option.eq_none_iff_forall_ne_some.mpr fun e he => by
      rw [hgrows.kept he, he] at h
      exact h rfl
    have hafter : (d.makeFolders path).2.entryAt l = some .folder := by
      cases he : (d.makeFolders path).2.entryAt l with
      | none =>
        rw [he, hbefore] at h
        exact absurd rfl h
      | some e =>
        obtain hold | rfl := hgrows.added he
        · rw [hbefore] at hold
          cases hold
        · rfl
    refine .inr ⟨?_, hbefore, hafter⟩
    unfold makeFolders at h
    split at h
    · obtain ⟨qs, hqs, rfl⟩ := makeAlong_changes _ _ _ h
      exact onWay_of_parts hqs
    · exact absurd rfl h

end Disk

/-! ### What a save changes at every moment -/

namespace Saving

open Tabletop.Path (Plain)

variable {d : Disk} {s : Saving} {folder name : String} {body : ByteArray}

/-- A state of a save into a folder: there are new folders on the way to it, and
else no more than entries right below it have changed, of which the temporary
file is one. -/
structure Near (d : Disk) (folder : String) (s : Saving) : Prop where
  home : s.disk.home = d.home
  changed : ∀ l, s.disk.entryAt l = d.entryAt l ∨ d.MadeFolder folder s.disk l ∨
    ∃ x, l = d.place folder ++ [x]
  temporary : ∀ {l}, s.temporary = some l → ∃ x, l = d.place folder ++ [x]

theorem near_start (d : Disk) (folder : String) : Near d folder ⟨d, none⟩ where
  home := rfl
  changed _ := .inl rfl
  temporary h := by cases h

theorem Near.change (h : Near d folder s) (t : Saving) (x : String)
    (hhome : t.disk.home = s.disk.home)
    (hother : ∀ l, l ≠ d.place folder ++ [x] → t.disk.entryAt l = s.disk.entryAt l)
    (ht : ∀ l, t.temporary = some l → ∃ x, l = d.place folder ++ [x]) : Near d folder t where
  home := hhome.trans h.home
  changed l := by
    by_cases hl : l = d.place folder ++ [x]
    · exact .inr (.inr ⟨x, hl⟩)
    · rcases h.changed l with hsame | hmade | hbelow
      · exact .inl ((hother l hl).trans hsame)
      · exact .inr (.inl ⟨hmade.onWay, hmade.before, (hother l hl).trans hmade.after⟩)
      · exact .inr (.inr hbelow)
  temporary {l} hl := ht l hl

theorem Near.put (h : Near d folder s) (x : String) (content : ByteArray) :
    Near d folder
      ⟨s.disk.put (d.place folder ++ [x]) (.file content), some (d.place folder ++ [x])⟩ :=
  h.change _ x rfl (fun _ hl => Disk.entryAt_put_of_ne s.disk _ hl) fun _ ht => by
    cases ht
    exact ⟨x, rfl⟩

theorem Near.fill (h : Near d folder s) (content : ByteArray) :
    Near d folder (s.fill content).2 := by
  unfold Saving.fill
  split
  · rename_i place hplace
    obtain ⟨x, rfl⟩ := h.temporary hplace
    have hput := h.put x content
    rw [← hplace] at hput
    exact hput
  · exact h

/-- The folders above a plain name are on the way to the folder that it is in. -/
theorem Near.makeFolders (hn : Plain name) (h : Near d folder s) :
    Near d folder
      ⟨(s.disk.makeFolders (Path.folder (Path.join folder name))).2, s.temporary⟩ := by
  have hgrows := Disk.makeFolders_grows s.disk (Path.folder (Path.join folder name))
  have hchanges := Disk.makeFolders_changes s.disk (Path.folder (Path.join folder name))
  generalize (s.disk.makeFolders (Path.folder (Path.join folder name))).2 = d' at hgrows hchanges
  refine ⟨hgrows.home.trans h.home, fun l => ?_, h.temporary⟩
  rcases hchanges l with hsame | ⟨hway, hbefore, hafter⟩
  · rcases h.changed l with hold | hmade | hbelow
    · exact .inl (hsame.trans hold)
    · exact .inr (.inl ⟨hmade.onWay, hmade.before, hsame.trans hmade.after⟩)
    · exact .inr (.inr hbelow)
  · rw [Disk.onWay_folder_join hn, Disk.onWay_congr h.home] at hway
    rcases h.changed l with hold | hmade | hbelow
    · exact .inr (.inl ⟨hway, hold ▸ hbefore, hafter⟩)
    · rw [hmade.after] at hbefore
      cases hbefore
    · exact .inr (.inr hbelow)

/-- **Each step of a save stays near the folder,** whether it succeeds or
fails. -/
theorem step_near (hn : Plain name) (h : Near d folder s) (n : SaveStep) :
    Near d folder (s.step (Path.join folder name) body n).2 := by
  unfold step
  split
  · exact h
  · cases n with
    | makeFolders =>
      have hmade := h.makeFolders hn
      unfold act
      exact hmade
    | makeTemporary =>
      unfold act
      simp only
      split
      · exact h
      · rename_i l hl
        split
        · exact h
        · split
          · exact h
          · have hplace : l = d.place folder := by
              rw [Disk.locate_eq_place hl, Disk.place_folder_join _ _ hn, Disk.place_congr h.home]
            rw [hplace]
            exact h.put _ _
    | writeBody => exact h.fill _
    | writeEnd => exact h.fill _
    | flush => exact h
    | rename =>
      unfold act
      simp only
      split
      · exact h
      · exact h
      · rename_i place target hplace htarget
        obtain ⟨x, rfl⟩ := h.temporary hplace
        have hbelow : target = d.place folder ++ [name] := by
          rw [(Disk.locate_join hn htarget).1, Disk.place_congr h.home]
        split
        · exact h
        · -- first the temporary file goes, then the target changes
          have herased : Near d folder ⟨s.disk.erase (d.place folder ++ [x]), none⟩ :=
            h.change _ x rfl (fun _ hl => Disk.entryAt_erase_of_ne s.disk hl) fun _ ht => nomatch ht
          rw [hbelow]
          exact herased.change _ name rfl (fun _ hl => Disk.entryAt_put_of_ne _ _ hl)
            fun _ ht => nomatch ht
        · exact h

/-- **At every moment of a save** no more has changed than the way to the folder
and entries right below it, whatever steps have been taken. -/
theorem run_near (hn : Plain name) : ∀ (ns : List SaveStep) {s : Saving}, Near d folder s →
    Near d folder (run (Path.join folder name) body s ns).2
  | [], _, h => h
  | n :: ns, s, h => by
    have hstep : Near d folder (s.step (Path.join folder name) body n).2 := step_near hn h n
    unfold run
    split
    · rename_i t ht
      rw [ht] at hstep
      exact run_near hn ns hstep
    · rename_i e t ht
      rw [ht] at hstep
      exact hstep

end Saving

namespace Disk

open Tabletop.Path (Plain)

variable {d d' : Disk} {folder name text : String}

/-- **A save of a plain name within a folder changes that entry,** and makes
folders on the way to the folder; it changes nothing else, whether it succeeds or
fails. -/
theorem save_changes (hn : Plain name) {r : Except FileError Unit}
    (hs : d.save (Path.join folder name) text = (r, d')) (l : Location)
    (hl : l ≠ d.place folder ++ [name]) :
    d'.entryAt l = d.entryAt l ∨ d.MadeFolder folder d' l := by
  obtain ⟨-, -, hadds⟩ := save_adds hn hs
  -- every folder was there before or is on the way, also once the folders above are made
  have hclosed : FileClosed fun d' => ∀ l, d'.entryAt l = some .folder →
      d.entryAt l = some .folder ∨ d.OnWay folder l := fileClosed_folders (.inl rfl)
  have hfolders : ∀ l, (d.save (Path.join folder name) text).2.entryAt l = some .folder →
      d.entryAt l = some .folder ∨ d.OnWay folder l := by
    refine save_preserves hclosed (fun _ h => .inl h) fun l hl => ?_
    rcases makeFolders_changes d (Path.folder (Path.join folder name)) l with hsame | hmade
    · exact .inl (hsame ▸ hl)
    · exact .inr ((onWay_folder_join hn).mp hmade.onWay)
  rw [hs] at hfolders
  cases hbefore : d.entryAt l with
  | some e => exact .inl ((hadds l e hl).1 hbefore)
  | none =>
    cases hafter : d'.entryAt l with
    | none => exact .inl rfl
    | some e =>
      rcases (hadds l e hl).2 hafter with hd | rfl
      · rw [hbefore] at hd
        cases hd
      · rcases hfolders l hafter with hd | hway
        · rw [hbefore] at hd
          cases hd
        · exact .inr ⟨hway, hbefore, hafter⟩

end Disk
end Tabletop
