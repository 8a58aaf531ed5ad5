/-
# What a save does to the disk

A step of a save can be stopped at any point of it, and what it has done so far
stays behind: some of the folders, or a part of the temporary file
(`Saving.Goes`). What steps do one after the other is a course
(`Saving.Course`); the one that the disk itself takes is one of them
(`Saving.course_run`).

Up to its last step a save goes through states in which nothing of the disk
has changed but for new folders and the temporary file (`Saving.Safe`). The
last step puts the temporary file in the place of the target. So a save that
fails leaves all files as they were (`Disk.save_error`), and one that succeeds
stores the text and leaves all other files as they were (`Disk.save_ok`).

A text that is stored is read back from its path, and stays there while the
disk grows and while other paths are saved to (`Disk.Holds`).

Key definitions: `Disk.nameInside`, `Saving.Goes`, `Saving.Course`,
`Saving.Safe`, `Disk.Stored`, `Disk.Holds`, `Disk.AfterFailure`.
Key theorems: `Disk.mem_namesWithin`, `Saving.goes_safe`, `Saving.course_safe`,
`Disk.course_cases`, `Disk.save_cases`, `Disk.save_error`, `Disk.save_ok`,
`Disk.Holds.readJson`.
-/
import Tabletop.Proofs.JsonRecord
import Tabletop.Proofs.Paths
import Tabletop.Store.Files

namespace Tabletop

/-! ### A name that is free -/

namespace Disk

theorem le_foldl_max (names : List String) : ∀ n : Nat,
    n ≤ names.foldl (fun n name => max n name.length) n ∧
      ∀ name ∈ names, name.length ≤ names.foldl (fun n name => max n name.length) n := by
  induction names with
  | nil => exact fun n => ⟨Nat.le_refl n, fun _ h => by cases h⟩
  | cons a names ih =>
    intro n
    obtain ⟨hstart, hall⟩ := ih (max n a.length)
    refine ⟨Nat.le_trans (Nat.le_max_left _ _) hstart, fun name hname => ?_⟩
    rcases List.mem_cons.mp hname with rfl | hname
    · exact Nat.le_trans (Nat.le_max_right _ _) hstart
    · exact hall name hname

/-- The name that an entry has within a folder, if it is in it. -/
def nameInside (l : Location) (e : Location × Entry) : Option String :=
  if e.1 ≠ [] ∧ e.1.dropLast = l then e.1.getLast? else none

theorem nameInside_eq_some {l : Location} {e : Location × Entry} {name : String} :
    nameInside l e = some name ↔ e.1 = l ++ [name] := by
  unfold nameInside
  constructor
  · intro h
    split at h
    · rename_i hin
      obtain ⟨ys, hys⟩ := List.getLast?_eq_some_iff.mp h
      rw [hys, List.dropLast_concat] at hin
      rw [hys, hin.2]
    · cases h
  · intro h
    have hne : l ++ [name] ≠ [] := List.append_ne_nil_of_right_ne_nil _ (List.cons_ne_nil _ _)
    rw [h, if_pos ⟨hne, List.dropLast_concat⟩, List.getLast?_concat]

/-- **The names within a folder are those of the entries right below it.** -/
theorem mem_namesWithin {d : Disk} {l : Location} {name : String} :
    name ∈ d.namesWithin l ↔ (d.entryAt (l ++ [name])).isSome := by
  have hne : l ++ [name] ≠ [] := List.append_ne_nil_of_right_ne_nil _ (List.cons_ne_nil _ _)
  have hnames : d.namesWithin l = d.entries.filterMap (nameInside l) := rfl
  unfold entryAt
  rw [if_neg hne, hnames, List.mem_filterMap]
  simp only [nameInside_eq_some]
  constructor
  · rintro ⟨e, he, hl⟩
    rw [Option.isSome_iff_ne_none]
    intro hnone
    have hother := List.lookup_eq_none_iff.mp hnone e he
    simp [hl] at hother
  · intro h
    obtain ⟨v, hv⟩ := Option.isSome_iff_exists.mp h
    obtain ⟨as, bs, hes, -⟩ := List.lookup_eq_some_iff.mp hv
    exact ⟨(l ++ [name], v), by rw [hes]; simp, rfl⟩

theorem length_lt_freshName (d : Disk) {l target : Location} {name : String}
    (h : name ∈ d.namesWithin l ++ target) : name.length < (d.freshName l target).length := by
  have hle := (le_foldl_max (d.namesWithin l ++ target) 0).2 _ h
  have hlen : (d.freshName l target).length =
      4 + (d.namesWithin l ++ target).foldl (fun n name => max n name.length) 0 := by
    unfold freshName
    rw [String.length_ofList, List.length_append, List.length_replicate]
    rfl
  omega

/-- **The fresh name is free** within the folder. -/
theorem entryAt_freshName (d : Disk) (l target : Location) :
    d.entryAt (l ++ [d.freshName l target]) = none := by
  rw [← Option.not_isSome_iff_eq_none, ← mem_namesWithin]
  intro hmem
  exact Nat.lt_irrefl _ (d.length_lt_freshName (List.mem_append_left target hmem))

theorem freshName_ne (d : Disk) (l target : Location) : l ++ [d.freshName l target] ≠ target := by
  have hlast : ∀ {name}, l ++ [name] = target → name ∈ target := fun he =>
    he ▸ List.mem_append_right l List.mem_cons_self
  exact fun he => Nat.lt_irrefl _ (d.length_lt_freshName (List.mem_append_right _ (hlast he)))

end Disk

/-! ### How steps can go -/

namespace Saving

/-- How a step of a save can go. It does what the disk lets it do; or something
outside of the disk stops it, before it has done anything, or when it has made
some of the folders, or when the temporary file has any content. The temporary
file may get any name that is free and that is not the target's. -/
inductive Goes (path : String) (body : ByteArray) (s : Saving) :
    SaveStep → Except FileError Unit → Saving → Prop
  | acts {n : SaveStep} {r : Except FileError Unit} (h : (s.act path body n).1 = r) :
      Goes path body s n r (s.act path body n).2
  | stops (n : SaveStep) (e : FileError) : Goes path body s n (.error e) s
  | someFolders (k : Nat) (e : FileError) : Goes path body s .makeFolders (.error e)
      { s with
        disk := (s.disk.makeAlong (if Path.isAbsolute (Path.folder path) then [] else s.disk.home)
          ((Path.parts (Path.folder path)).take k)).2 }
  | otherName {l : Location} {name : String} (hl : s.disk.locate (Path.folder path) = .ok l)
      (hfolder : s.disk.opensAt l = .ok ()) (hfree : s.disk.entryAt (l ++ [name]) = none)
      (hne : l ++ [name] ≠ s.disk.place path) : Goes path body s .makeTemporary (.ok ())
      ⟨s.disk.put (l ++ [name]) (.file ByteArray.empty), some (l ++ [name])⟩
  | someBytes {n : SaveStep} {place : Location} (hn : n = .writeBody ∨ n = .writeEnd)
      (hplace : s.temporary = some place) (part : ByteArray) (e : FileError) :
      Goes path body s n (.error e) { s with disk := s.disk.put place (.file part) }

/-- Steps that are taken one after the other as long as they succeed. -/
inductive Course (path : String) (body : ByteArray) :
    Saving → List SaveStep → Except FileError Unit → Saving → Prop
  | done (s : Saving) : Course path body s [] (.ok ()) s
  | fails {s t : Saving} {n : SaveStep} {ns : List SaveStep} {e : FileError}
      (h : Goes path body s n (.error e) t) : Course path body s (n :: ns) (.error e) t
  | goes {s t u : Saving} {n : SaveStep} {ns : List SaveStep} {r : Except FileError Unit}
      (h : Goes path body s n (.ok ()) t) (hrest : Course path body t ns r u) :
      Course path body s (n :: ns) r u

variable {d : Disk} {s t : Saving} {path : String} {body : ByteArray} {place : Location}

theorem goes_step (path : String) (body : ByteArray) (s : Saving) (n : SaveStep) :
    Goes path body s n (s.step path body n).1 (s.step path body n).2 := by
  unfold step
  split
  · exact .stops n .refused
  · exact .acts rfl

theorem course_run (path : String) (body : ByteArray) : ∀ (ns : List SaveStep) (s : Saving),
    Course path body s ns (run path body s ns).1 (run path body s ns).2
  | [], s => .done s
  | n :: ns, s => by
    have hstep := goes_step path body s n
    unfold run
    split
    · rename_i t ht
      rw [ht] at hstep
      exact .goes hstep (course_run path body ns t)
    · rename_i e t ht
      rw [ht] at hstep
      exact .fails hstep

theorem course_append (ms ns : List SaveStep) {r : Except FileError Unit}
    (h : Course path body s (ms ++ ns) r t) :
    (∃ e, r = .error e ∧ Course path body s ms (.error e) t) ∨
      ∃ u, Course path body s ms (.ok ()) u ∧ Course path body u ns r t := by
  induction ms generalizing s with
  | nil => exact .inr ⟨s, .done s, h⟩
  | cons n ms ih =>
    rw [List.cons_append] at h
    cases h with
    | fails h => exact .inl ⟨_, rfl, .fails h⟩
    | goes h hrest =>
      rcases ih hrest with ⟨e, rfl, hms⟩ | ⟨u, hms, hns⟩
      · exact .inl ⟨e, rfl, .goes h hms⟩
      · exact .inr ⟨u, .goes h hms, hns⟩

/-! ### The states of a save -/

/-- A state of a save before it is done: the disk has what it had at first, and
besides it only folders and the temporary file, which is not the target. -/
structure Safe (d : Disk) (path : String) (s : Saving) : Prop where
  home : s.disk.home = d.home
  refuses : s.disk.refuses = d.refuses
  kept : ∀ {l e}, d.entryAt l = some e → s.disk.entryAt l = some e
  added : ∀ {l e}, s.disk.entryAt l = some e →
    d.entryAt l = some e ∨ e = .folder ∨ s.temporary = some l
  temporary : ∀ {place}, s.temporary = some place →
    d.entryAt place = none ∧ ∃ content, s.disk.entryAt place = some (.file content)
  apart : s.temporary ≠ some (d.place path)

theorem safe_start (d : Disk) (path : String) : Safe d path ⟨d, none⟩ where
  home := rfl
  refuses := rfl
  kept h := h
  added h := .inl h
  temporary h := by cases h
  apart h := by cases h

theorem Safe.grow (h : Safe d path s) {d' : Disk} (hg : s.disk.Grows d') :
    Safe d path { s with disk := d' } where
  home := hg.home.trans h.home
  refuses := hg.refuses.trans h.refuses
  kept he := hg.kept (h.kept he)
  added he := by
    rcases hg.added he with he | he
    · exact h.added he
    · exact .inr (.inl he)
  temporary ht := by
    obtain ⟨hnone, content, hfile⟩ := h.temporary ht
    exact ⟨hnone, content, hg.kept hfile⟩
  apart := h.apart

theorem Safe.put (h : Safe d path s) (hfree : d.entryAt place = none) (hne : place ≠ d.place path)
    (hone : ∀ l, s.temporary = some l → l = place) (content : ByteArray) :
    Safe d path ⟨s.disk.put place (.file content), some place⟩ where
  home := h.home
  refuses := h.refuses
  kept he := by
    show (s.disk.put place _).entryAt _ = _
    rw [Disk.entryAt_put_of_ne _ _ (Disk.ne_of_entryAt hfree he)]
    exact h.kept he
  added {l e} he := by
    change (s.disk.put place _).entryAt l = some e at he
    by_cases hl : l = place
    · exact .inr (.inr (congrArg some hl.symm))
    · rw [Disk.entryAt_put_of_ne _ _ hl] at he
      rcases h.added he with hd | hd | hd
      · exact .inl hd
      · exact .inr (.inl hd)
      · exact absurd (hone l hd) hl
  temporary {l} hl := by
    cases hl
    exact ⟨hfree, content, Disk.entryAt_put_self _ _ (Disk.ne_root_of_entryAt hfree)⟩
  apart he := hne (Option.some.inj he)

theorem Safe.make (h : Safe d path s) (hone : s.temporary = none)
    (hfree : s.disk.entryAt place = none) (hne : place ≠ s.disk.place path) :
    Safe d path ⟨s.disk.put place (.file ByteArray.empty), some place⟩ := by
  have hbefore : d.entryAt place = none := Option.eq_none_iff_forall_ne_some.mpr fun e he => by
    rw [h.kept he] at hfree
    cases hfree
  rw [Disk.place_congr h.home] at hne
  exact h.put hbefore hne (fun l hl => by rw [hone] at hl; cases hl) _

theorem Safe.refill (h : Safe d path s) (hplace : s.temporary = some place) (content : ByteArray) :
    Safe d path { s with disk := s.disk.put place (.file content) } := by
  have hput := h.put (h.temporary hplace).1 (fun he => h.apart (he ▸ hplace))
    (fun l hl => by rw [hplace] at hl; cases hl; rfl) content
  rw [← hplace] at hput
  exact hput

theorem Safe.cleared (h : Safe d path s) : d.Grows s.cleared := by
  unfold Saving.cleared
  split
  · rename_i place hplace
    obtain ⟨hfree, -⟩ := h.temporary hplace
    refine ⟨h.home, h.refuses, fun he => ?_, fun {l e} he => ?_⟩
    · rw [Disk.entryAt_erase_of_ne _ (Disk.ne_of_entryAt hfree he)]
      exact h.kept he
    · by_cases hl : l = place
      · rw [hl, Disk.entryAt_erase_self _ (Disk.ne_root_of_entryAt hfree)] at he
        cases he
      · rw [Disk.entryAt_erase_of_ne _ hl] at he
        rcases h.added he with hd | hd | hd
        · exact .inl hd
        · exact .inr hd
        · rw [hplace] at hd
          cases hd
          exact absurd rfl hl
  · rename_i hnone
    refine ⟨h.home, h.refuses, fun he => h.kept he, fun he => ?_⟩
    rcases h.added he with hd | hd | hd
    · exact .inl hd
    · exact .inr hd
    · rw [hnone] at hd
      cases hd

/-! ### Steps -/

section Steps

variable {n : SaveStep} {r : Except FileError Unit}

theorem fill_safe (h : Safe d path s) (content : ByteArray) : Safe d path (s.fill content).2 := by
  unfold fill
  split
  · rename_i place hplace
    exact h.refill hplace content
  · exact h

theorem act_safe (h : Safe d path s) (hn : n ≠ .rename)
    (hone : n = .makeTemporary → s.temporary = none) : Safe d path (s.act path body n).2 := by
  cases n with
  | makeFolders => exact h.grow (Disk.makeFolders_grows _ _)
  | makeTemporary =>
    unfold act
    simp only
    split
    · exact h
    · split
      · exact h
      · split
        · exact h
        · exact h.make (hone rfl) (s.disk.entryAt_freshName _ _) (s.disk.freshName_ne _ _)
  | writeBody => exact fill_safe h _
  | writeEnd => exact fill_safe h _
  | flush => exact h
  | rename => exact absurd rfl hn

/-- **A step before the last one keeps a save safe,** however it goes. -/
theorem goes_safe (h : Safe d path s) (hg : Goes path body s n r t) (hn : n ≠ .rename)
    (hone : n = .makeTemporary → s.temporary = none) : Safe d path t := by
  cases hg with
  | acts => exact act_safe h hn hone
  | stops => exact h
  | someFolders => exact h.grow (Disk.makeAlong_grows _ _ _)
  | otherName _ _ hfree hne => exact h.make (hone rfl) hfree hne
  | someBytes _ hplace => exact h.refill hplace _

/-- Only making the temporary file and the last step change which file it is. -/
theorem goes_temporary (hg : Goes path body s n r t) (hn : n ≠ .rename) (hm : n ≠ .makeTemporary) :
    t.temporary = s.temporary := by
  have hfill : ∀ content, (s.fill content).2.temporary = s.temporary := fun content => by
    unfold fill
    split <;> rfl
  cases hg with
  | acts =>
    cases n with
    | makeFolders => rfl
    | makeTemporary => exact absurd rfl hm
    | writeBody => exact hfill _
    | writeEnd => exact hfill _
    | flush => rfl
    | rename => exact absurd rfl hn
  | stops => rfl
  | someFolders => rfl
  | otherName => exact absurd rfl hm
  | someBytes => rfl

theorem goes_writeEnd (h : Safe d path s) (hg : Goes path body s .writeEnd (.ok ()) t) :
    ∃ place, t.temporary = some place ∧ t.disk.entryAt place = some (.file (body.push 10)) := by
  cases hg with
  | acts hact =>
    change (s.fill (body.push 10)).1 = _ at hact
    show ∃ place, (s.fill (body.push 10)).2.temporary = _ ∧
      (s.fill (body.push 10)).2.disk.entryAt place = _
    unfold fill at hact ⊢
    split at hact
    · rename_i place hplace
      have hfree := (h.temporary hplace).1
      exact ⟨place, hplace, Disk.entryAt_put_self _ _ (Disk.ne_root_of_entryAt hfree)⟩
    · cases hact

theorem goes_flush (hg : Goes path body s .flush (.ok ()) t) : t = s := by
  cases hg
  rfl

theorem goes_rename {content : ByteArray} (hplace : s.temporary = some place)
    (hfile : s.disk.entryAt place = some (.file content))
    (hg : Goes path body s .rename (.ok ()) t) :
    ∃ target, s.disk.locate path = .ok target ∧ s.disk.entryAt target ≠ some .folder ∧
      t = ⟨(s.disk.erase place).put target (.file content), none⟩ := by
  cases hg with
  | acts hact =>
    unfold act at hact ⊢
    simp only [hplace] at hact ⊢
    cases hl : s.disk.locate path with
    | error e =>
      rw [hl] at hact
      cases hact
    | ok target =>
      rw [hl] at hact
      simp only at hact ⊢
      split at hact
      · cases hact
      · rename_i e he hfolder
        rw [hfile] at he
        cases he
        exact ⟨target, rfl, hfolder, rfl⟩
      · cases hact

theorem goes_rename_error {e : FileError} (hg : Goes path body s .rename (.error e) t) : t = s := by
  cases hg with
  | acts hact =>
    unfold act at hact ⊢
    simp only at hact ⊢
    split at hact
    · rfl
    · rfl
    · split at hact
      · rfl
      · cases hact
      · rfl
  | stops => rfl
  | someBytes hn => rcases hn with hn | hn <;> cases hn

end Steps

/-! ### Courses -/

/-- **Any number of steps before the last one keeps a save safe,** if the
temporary file is made once. -/
theorem course_safe {ns : List SaveStep} {r : Except FileError Unit}
    (hc : Course path body s ns r t) (h : Safe d path s) (hr : .rename ∉ ns) (hd : ns.Nodup)
    (hone : .makeTemporary ∈ ns → s.temporary = none) : Safe d path t := by
  induction hc with
  | done => exact h
  | fails hg =>
    rw [List.mem_cons, not_or] at hr
    exact goes_safe h hg (Ne.symm hr.1) fun hn => hone (hn ▸ List.mem_cons_self)
  | goes hg _ ih =>
    rw [List.mem_cons, not_or] at hr
    obtain ⟨hfirst, hd⟩ := List.nodup_cons.mp hd
    have hsafe := goes_safe h hg (Ne.symm hr.1) fun hn => hone (hn ▸ List.mem_cons_self)
    refine ih hsafe hr.2 hd fun hm => ?_
    rw [goes_temporary hg (Ne.symm hr.1) fun hn => hfirst (hn ▸ hm)]
    exact hone (List.mem_cons_of_mem _ hm)

/-- The steps before the last one. -/
def filling : List SaveStep := [.makeFolders, .makeTemporary, .writeBody, .writeEnd, .flush]

/-- The first ones of the steps before the last one keep a save safe. -/
theorem course_filling_safe {ns : List SaveStep} (hns : ns <+: filling) {r : Except FileError Unit}
    (hc : Course path body ⟨d, none⟩ ns r t) : Safe d path t := by
  have hrename : SaveStep.rename ∉ ns := fun h => absurd (hns.subset h) (by decide)
  have honce : ns.Nodup := hns.sublist.nodup (by decide)
  exact course_safe hc (safe_start d path) hrename honce fun _ => rfl

/-- Once the steps before the last one are taken, the temporary file has the
whole content. -/
theorem course_filling (hc : Course path body ⟨d, none⟩ filling (.ok ()) t) :
    ∃ place, t.temporary = some place ∧ t.disk.entryAt place = some (.file (body.push 10)) := by
  obtain ⟨e, he, -⟩ | ⟨u, hu, hrest⟩ :=
    course_append [.makeFolders, .makeTemporary, .writeBody] [.writeEnd, .flush] hc
  · cases he
  · have hsafe := course_filling_safe (by decide) hu
    cases hrest with
    | goes hend hrest =>
      cases hrest with
      | goes hflush hrest =>
        cases hrest
        rw [goes_flush hflush]
        exact goes_writeEnd hsafe hend

end Saving

/-! ### Whole saves -/

namespace Disk

variable {d d' : Disk} {path text : String} {content : ByteArray}

/-- A disk is another one with a file stored at a path: there are folders on
the way to the file, and besides it the disk has only grown. -/
structure Stored (d : Disk) (path : String) (content : ByteArray) (d' : Disk) : Prop where
  home : d'.home = d.home
  refuses : d'.refuses = d.refuses
  located : d'.locate path = .ok (d.place path)
  content : d'.entryAt (d.place path) = some (.file content)
  noFolder : d.entryAt (d.place path) ≠ some .folder
  kept : ∀ {l e}, l ≠ d.place path → d.entryAt l = some e → d'.entryAt l = some e
  added : ∀ {l e}, l ≠ d.place path → d'.entryAt l = some e → d.entryAt l = some e ∨ e = .folder

theorem Stored.of_safe {s : Saving} (h : Saving.Safe d path s) {place target : Location}
    (hplace : s.temporary = some place) (hfile : s.disk.entryAt place = some (.file content))
    (htarget : s.disk.locate path = .ok target)
    (hfolder : s.disk.entryAt target ≠ some .folder) :
    d.Stored path content ((s.disk.erase place).put target (.file content)) := by
  obtain ⟨hfree, -⟩ := h.temporary hplace
  have hroot : target ≠ [] := fun h0 => hfolder (by rw [h0]; rfl)
  have hlocation : target = d.place path := by
    rw [locate_eq_place htarget, place_congr h.home]
  have hother : ∀ {x}, x ≠ target → x ≠ place →
      ((s.disk.erase place).put target (.file content)).entryAt x = s.disk.entryAt x :=
    fun ht hp => by rw [entryAt_put_of_ne _ _ ht, entryAt_erase_of_ne _ hp]
  have hcontent : ((s.disk.erase place).put target (.file content)).entryAt target =
      some (.file content) := entryAt_put_self _ _ hroot
  subst hlocation
  refine ⟨h.home, h.refuses, ?_, hcontent, fun he => hfolder (h.kept he), ?_, ?_⟩
  · -- neither of the two places that change is a folder
    refine locate_of_folders (d := s.disk) rfl (fun l hl => ?_) htarget
    have ht : l ≠ d.place path := fun ht => hfolder (ht ▸ hl)
    have hp : l ≠ place := fun hp => by
      rw [hp, hfile] at hl
      cases hl
    rw [hother ht hp]
    exact hl
  · intro l e hl he
    rw [hother hl (ne_of_entryAt hfree he)]
    exact h.kept he
  · intro l e hl he
    by_cases hp : l = place
    · rw [hp] at hl he
      rw [entryAt_put_of_ne _ _ hl, entryAt_erase_self _ (ne_root_of_entryAt hfree)] at he
      cases he
    · rw [hother hl hp] at he
      rcases h.added he with hd | hd | hd
      · exact .inl hd
      · exact .inr hd
      · rw [hplace] at hd
        cases hd
        exact absurd rfl hp

theorem Stored.folder (h : d.Stored path content d') {l : Location}
    (hl : d.entryAt l = some .folder) : d'.entryAt l = some .folder :=
  h.kept (fun he => h.noFolder (he ▸ hl)) hl

/-- **However the steps of a save go,** it fails in a safe state, or it stores the
content. -/
theorem course_cases {body : ByteArray} {r : Except FileError Unit} {t : Saving}
    (hc : Saving.Course path body ⟨d, none⟩ Saving.steps r t) :
    (∃ e, r = .error e ∧ Saving.Safe d path t) ∨
      r = .ok () ∧ t.temporary = none ∧ d.Stored path (body.push 10) t.disk := by
  obtain ⟨e, rfl, hfill⟩ | ⟨u, hu, hlast⟩ :=
    Saving.course_append Saving.filling [.rename] hc
  · exact .inl ⟨e, rfl, Saving.course_filling_safe List.prefix_rfl hfill⟩
  · have hsafe := Saving.course_filling_safe List.prefix_rfl hu
    cases hlast with
    | fails hrename =>
      rw [Saving.goes_rename_error hrename]
      exact .inl ⟨_, rfl, hsafe⟩
    | goes hrename hend =>
      cases hend
      obtain ⟨place, hplace, hfile⟩ := Saving.course_filling hu
      obtain ⟨target, htarget, hfolder, rfl⟩ := Saving.goes_rename hplace hfile hrename
      exact .inr ⟨rfl, rfl, .of_safe hsafe hplace hfile htarget hfolder⟩

theorem course_save {r : Except FileError Unit} (h : d.save path text = (r, d')) :
    ∃ t, Saving.Course path text.toUTF8 ⟨d, none⟩ Saving.steps r t ∧ d' = t.cleared := by
  have hcourse := Saving.course_run path text.toUTF8 Saving.steps ⟨d, none⟩
  unfold Disk.save at h
  cases h
  exact ⟨_, hcourse, rfl⟩

theorem save_cases {r : Except FileError Unit} (h : d.save path text = (r, d')) :
    (∃ e, r = .error e ∧ d.Grows d') ∨
      r = .ok () ∧ d.Stored path (text.toUTF8.push 10) d' := by
  obtain ⟨t, hc, rfl⟩ := course_save h
  obtain ⟨e, rfl, hsafe⟩ | ⟨rfl, hnone, hstored⟩ := course_cases hc
  · exact .inl ⟨e, rfl, hsafe.cleared⟩
  · refine .inr ⟨rfl, ?_⟩
    unfold Saving.cleared
    rw [hnone]
    exact hstored

/-- **A save that fails leaves all files as they were,** and makes no other. -/
theorem save_error {e : FileError} (h : d.save path text = (.error e, d')) : d.Grows d' := by
  obtain ⟨-, -, hg⟩ | ⟨hr, -⟩ := save_cases h
  · exact hg
  · cases hr

/-- **A save that succeeds stores the text** with a line feed, and leaves all
other files as they were. -/
theorem save_ok (h : d.save path text = (.ok (), d')) :
    d.Stored path (text.toUTF8.push 10) d' := by
  obtain ⟨e, hr, -⟩ | ⟨-, hs⟩ := save_cases h
  · cases hr
  · exact hs

/-! ### What a path holds -/

/-- There is a file with some content at a path. -/
def Holds (d : Disk) (path : String) (content : ByteArray) : Prop :=
  ∃ l, d.locate path = .ok l ∧ d.entryAt l = some (.file content)

theorem holds_iff : d.Holds path content ↔ d.find path = .ok (.file content) :=
  find_eq_ok.symm

theorem Holds.readBytes (h : d.Holds path content) : d.readBytes path = .ok content := by
  unfold Disk.readBytes
  simp only [holds_iff.mp h, Json.ok_bind]

theorem holds_of_readBytes (h : d.readBytes path = .ok content) : d.Holds path content := by
  unfold Disk.readBytes at h
  cases hf : d.find path with
  | error e =>
    rw [hf] at h
    cases h
  | ok e =>
    rw [hf, Json.ok_bind] at h
    cases e with
    | locked => cases h
    | folder => cases h
    | file content' =>
      cases h
      exact holds_iff.mpr hf

theorem Stored.holds (h : d.Stored path content d') : d'.Holds path content :=
  ⟨_, h.located, h.content⟩

theorem Holds.grows (h : d.Holds path content) (hg : d.Grows d') : d'.Holds path content := by
  obtain ⟨l, hl, hc⟩ := h
  exact ⟨l, locate_of_folders hg.home (fun _ => hg.kept) hl, hg.kept hc⟩

theorem Holds.stored (h : d.Holds path content) {path' : String} {content' : ByteArray}
    (hs : d.Stored path' content' d') (hne : d.place path ≠ d.place path') :
    d'.Holds path content := by
  obtain ⟨l, hl, hc⟩ := h
  refine ⟨l, locate_of_folders hs.home (fun _ => hs.folder) hl, hs.kept ?_ hc⟩
  rw [locate_eq_place hl]
  exact hne

theorem fromUTF8?_push (text : String) :
    String.fromUTF8? (text.toUTF8.push 10) = some (text ++ "\n") := by
  have hbytes : text.toUTF8.push 10 = (text ++ "\n").toByteArray := by
    rw [String.toByteArray_append]
    exact ByteArray.append_toByteArray_singleton.symm
  rw [hbytes]
  unfold String.fromUTF8?
  exact dif_pos (text ++ "\n").isValidUTF8

/-- **What is stored is read back.** -/
theorem Holds.readText (h : d.Holds path (text.toUTF8.push 10)) :
    d.readText path = .ok (text ++ "\n") := by
  unfold Disk.readText
  simp only [h.readBytes, Json.ok_bind, fromUTF8?_push]

/-- **A value that is stored is read back.** -/
theorem Holds.readJson {α : Type} {r : Json.Reader α} {write : α → Json}
    (hr : Json.Restores r write) {a : α} (h : d.Holds path ((write a).pretty.toUTF8.push 10)) :
    d.readJson path r = .ok (some a) := by
  unfold Disk.readJson
  rw [h.readText]
  simp only [hr.decode_pretty]

theorem saveJson_ok {j : Json} (h : d.saveJson path j = (.ok (), d')) :
    d.Stored path (j.pretty.toUTF8.push 10) d' := by
  unfold saveJson at h
  split at h
  · rename_i hs
    cases h
    exact save_ok hs
  · cases h

theorem saveJson_error {j : Json} {e : StoreError} (h : d.saveJson path j = (.error e, d')) :
    (∃ cause, e = .cannotSave path cause) ∧ d.Grows d' := by
  unfold saveJson at h
  split at h
  · cases h
  · rename_i cause _ hs
    cases h
    exact ⟨⟨cause, rfl⟩, save_error hs⟩

/-- How a disk is left where a store fails: no file has changed, and folders are
new only if it was the file that could not be saved. -/
structure AfterFailure (d : Disk) (e : StoreError) (d' : Disk) : Prop where
  grows : d.Grows d'
  same_or_unsaved : d' = d ∨ ∃ path cause, e = .cannotSave path cause

theorem AfterFailure.refl (d : Disk) (e : StoreError) : d.AfterFailure e d :=
  ⟨.refl d, .inl rfl⟩

theorem saveJson_afterFailure {j : Json} {e : StoreError}
    (h : d.saveJson path j = (.error e, d')) : d.AfterFailure e d' := by
  obtain ⟨⟨cause, rfl⟩, hg⟩ := saveJson_error h
  exact ⟨hg, .inr ⟨path, cause, rfl⟩⟩

end Disk
end Tabletop
