/-
# What is listed after saves

A folder that was empty and is filled by saves has one file for each joined name
that was saved to (`CharacterStore.filled_afterAll`). The list of a system cuts
the ending of the system off these names, so it has a name exactly if some save
had the same joined name (`mem_list_iff`); it ascends, and no name comes twice.

If every system in use is the listed one or apart from it, the joined name can
be cut in one way only. Then the list has the names that were saved in that
system, and each of them loads the record that was saved last for it
(`list_after_saves`). Without that the list of `dnd5e` has a name for Rin in
`old_dnd5e`.

Key definitions: `CharacterStore.AllSaved`, `CharacterStore.Filled`.
Key theorems: `CharacterStore.nameWithin_eq_some`,
`CharacterStore.filled_afterAll`, `CharacterStore.list_eq_ok`,
`CharacterStore.load_last`, `CharacterStore.list_after_saves`.
-/
import Mathlib.Data.List.Nodup
import Tabletop.Proofs.CharacterFiles
import Tabletop.Proofs.Normalization

namespace Tabletop
namespace CharacterStore

variable {s : CharacterStore} {d d' : Disk} {system : String}

/-! ### Names within file names -/

theorem withoutEnding_eq_some {ending cs p : List Char} :
    withoutEnding ending cs = some p ↔ cs = p ++ ending := by
  unfold withoutEnding
  constructor
  · intro h
    split at h
    · rename_i hs
      obtain ⟨q, rfl⟩ := List.isSuffixOf_iff_suffix.mp hs
      rw [List.length_append, Nat.add_sub_cancel, List.take_left] at h
      rw [Option.some.inj h]
    · cases h
  · rintro rfl
    rw [if_pos (List.isSuffixOf_iff_suffix.mpr (List.suffix_append p ending)), List.length_append,
      Nat.add_sub_cancel, List.take_left]

/-- **A file has a name within a system** if it is the name's file there. -/
theorem nameWithin_eq_some {file n : String} :
    nameWithin system file = some n ↔ n ≠ "" ∧ file = n ++ "_" ++ system ++ ".json" := by
  have hending : (n ++ "_" ++ system ++ ".json").toList =
      n.toList ++ s!"_{system}.json".toList := by
    show _ = n.toList ++ ("_" ++ system ++ ".json").toList
    rw [← String.toList_append, ← String.append_assoc, ← String.append_assoc]
  have hfile : file = n ++ "_" ++ system ++ ".json" ↔
      withoutEnding s!"_{system}.json".toList file.toList = some n.toList := by
    rw [withoutEnding_eq_some, ← hending, String.toList_inj]
  rw [hfile]
  unfold nameWithin
  constructor
  · intro h
    split at h
    · cases h
    · rename_i cs hne hcs
      cases h
      rw [String.toList_ofList]
      refine ⟨fun he => hne ?_, hcs⟩
      have hempty := congrArg String.toList he
      rwa [String.toList_ofList] at hempty
    · cases h
  · rintro ⟨hne, hcs⟩
    rw [hcs]
    split
    · rename_i hnil
      exact absurd (String.toList_eq_nil_iff.mp (Option.some.inj hnil)) hne
    · rename_i cs _ hsome
      rw [← Option.some.inj hsome, String.ofList_toList]
    · rename_i hnone
      cases hnone

/-! ### Runs of saves -/

/-- Saves that all succeed, one after the other. -/
def AllSaved (s : CharacterStore) : Disk → List SaveRequest → Prop
  | _, [] => True
  | d, q :: qs =>
    (∃ path, (s.saveAs { d with refuses := q.refuses } q.name q.system q.record).1 = .ok path) ∧
      AllSaved s (s.after d q) qs

/-- What saves leave of a disk with a folder that is there: the files in it are
those that were there and those that were saved to. -/
structure Filled (s : CharacterStore) (d : Disk) (qs : List SaveRequest) (d' : Disk) : Prop where
  home : d'.home = d.home
  hides : d'.hides = d.hides
  hasFolder : d'.HasFolder s.folder
  files : ∀ file, file ∈ d'.namesWithin (d'.place s.folder) ↔
    file ∈ d.namesWithin (d.place s.folder) ∨ ∃ q ∈ qs, fileName q.name q.system = file
  nodup : (d.namesWithin (d.place s.folder)).Nodup → (d'.namesWithin (d'.place s.folder)).Nodup

/-- **One save fills in its own file.** -/
theorem filled_after (hf : d.HasFolder s.folder) {q : SaveRequest}
    (h : ∃ path, (s.saveAs { d with refuses := q.refuses } q.name q.system q.record).1 = .ok path) :
    s.Filled d [q] (s.after d q) := by
  obtain ⟨path, h⟩ := h
  have hf' : Disk.HasFolder { d with refuses := q.refuses } s.folder := hf.kept rfl fun _ hl => hl
  have hp := (saved h).1
  have hholds : (s.after d q).Holds path (bytes q.record) := (saved h).2.1
  have hspares : Disk.Spares { d with refuses := q.refuses } s.folder (fileName q.name q.system)
      (s.after d q) := saveAs_spares hf' hp (Prod.eta _).symm
  have hplace : (s.after d q).place s.folder = d.place s.folder :=
    Disk.place_congr hspares.home s.folder
  refine ⟨hspares.home, hspares.hides, hspares.hasFolder, fun file => ?_, ?_⟩
  · rw [hplace, Disk.mem_namesWithin, Disk.mem_namesWithin]
    -- the file that was saved is there now, every other one is there if it was before
    by_cases hfile : file = fileName q.name q.system
    · obtain ⟨l, hl, hcontent⟩ := hholds
      rw [(path_eq_ok.mp hp).2.2.2.2] at hl
      rw [(Disk.locate_join (plain_fileName hp) hl).1, hplace, ← hfile] at hcontent
      rw [hcontent]
      exact ⟨fun _ => .inr ⟨q, List.mem_singleton_self q, hfile.symm⟩, fun _ => rfl⟩
    · have hsame : (s.after d q).entryAt (d.place s.folder ++ [file]) =
          d.entryAt (d.place s.folder ++ [file]) :=
        hspares.others _ fun he => hfile (List.singleton_inj.mp (List.append_cancel_left he))
      rw [hsame]
      constructor
      · exact .inl
      · rintro (hd | ⟨x, hx, hname⟩)
        · exact hd
        · rw [List.mem_singleton.mp hx] at hname
          exact absurd hname.symm hfile
  · rw [hplace]
    exact hspares.nodup _

theorem afterAll_cons (s : CharacterStore) (d : Disk) (q : SaveRequest) (qs : List SaveRequest) :
    s.afterAll d (q :: qs) = s.afterAll (s.after d q) qs :=
  List.foldl_cons

/-- **A run of saves fills in their files.** -/
theorem filled_afterAll : ∀ (qs : List SaveRequest) {d : Disk}, d.HasFolder s.folder →
    s.AllSaved d qs → s.Filled d qs (s.afterAll d qs)
  | [], _, hf, _ => ⟨rfl, rfl, hf, fun _ => by simp [afterAll], fun h => h⟩
  | q :: qs, d, hf, hsaved => by
    have hone : s.Filled d [q] (s.after d q) := filled_after hf hsaved.1
    have hrest := filled_afterAll qs hone.hasFolder hsaved.2
    rw [afterAll_cons]
    refine ⟨hrest.home.trans hone.home, hrest.hides.trans hone.hides, hrest.hasFolder,
      fun file => ?_, fun h => hrest.nodup (hone.nodup h)⟩
    rw [hrest.files file, hone.files file, or_assoc, List.exists_mem_cons_iff,
      List.exists_mem_cons_iff]
    simp only [List.not_mem_nil, false_and, exists_false, or_false]

theorem AllSaved.path : ∀ {qs : List SaveRequest} {d : Disk}, s.AllSaved d qs → ∀ q ∈ qs,
    ∃ path, s.path q.name q.system = .ok path
  | [], _, _, _, hq => nomatch hq
  | x :: qs, _, h, q, hq => by
    rcases List.mem_cons.mp hq with rfl | hq
    · obtain ⟨path, hpath⟩ := h.1
      exact ⟨path, (saved hpath).1⟩
    · exact h.2.path q hq

theorem AllSaved.append_right : ∀ {ps qs : List SaveRequest} {d : Disk}, s.AllSaved d (ps ++ qs) →
    s.AllSaved (s.afterAll d ps) qs
  | [], _, _, h => h
  | q :: ps, _, d, h => by
    rw [afterAll_cons]
    exact h.2.append_right

/-- **The record that was saved last is loaded,** under every spelling of the
name, if no later save had the same joined name. -/
theorem load_last {ps qs : List SaveRequest} {q : SaveRequest} {name : String}
    (hsaved : s.AllSaved d (ps ++ q :: qs)) (hname : Key.normalize name = Key.normalize q.name)
    (hother : ∀ x ∈ qs, Key.normalize x.name ++ "_" ++ x.system ≠
      Key.normalize q.name ++ "_" ++ q.system) :
    s.load (s.afterAll d (ps ++ q :: qs)) name q.system = .ok q.record := by
  obtain ⟨⟨path, hpath⟩, -⟩ := hsaved.append_right
  obtain ⟨hp, hholds, -⟩ := saved hpath
  have hlater : ∀ x ∈ qs, s.path x.name x.system ≠ .ok path :=
    fun x hx hpx => hother x hx ((path_eq_iff hpx hp).mp rfl)
  have hfold : s.afterAll d (ps ++ q :: qs) = s.afterAll (s.after (s.afterAll d ps) q) qs := by
    unfold afterAll
    rw [List.foldl_append, List.foldl_cons]
  rw [hfold]
  exact load_of_find (find_of_holds (path_congr hname hp) (holds_afterAll hp qs hholds hlater))

/-! ### Lists -/

theorem list_eq_ok {files : List String} (h : d.listFolder s.folder = .ok files)
    (hnodup : files.Nodup) (system : String) : ∃ names, s.list d system = .ok names ∧
      names.Pairwise (· < ·) ∧
      ∀ n, n ∈ names ↔ n ≠ "" ∧ n ++ "_" ++ system ++ ".json" ∈ files := by
  have hnames : (files.filterMap (nameWithin system)).Nodup := by
    refine List.Nodup.filterMap (fun a b n ha hb => ?_) hnodup
    rw [(nameWithin_eq_some.mp ha).2, (nameWithin_eq_some.mp hb).2]
  refine ⟨(files.filterMap (nameWithin system)).mergeSort fun a b => a ≤ b, ?_, ?_, fun n => ?_⟩
  · unfold list
    rw [h]
  · have hsorted : ((files.filterMap (nameWithin system)).mergeSort fun a b => a ≤ b).Pairwise
        fun a b => decide (a ≤ b) = true := by
      refine List.pairwise_mergeSort (fun a b c hab hbc => ?_) (fun a b => ?_) _
      · rw [decide_eq_true_eq] at hab hbc ⊢
        exact String.le_trans hab hbc
      · rw [Bool.or_eq_true, decide_eq_true_eq, decide_eq_true_eq]
        exact String.le_total a b
    have hdistinct := (List.mergeSort_perm (files.filterMap (nameWithin system))
      fun a b => decide (a ≤ b)).nodup_iff.mpr hnames
    refine (hsorted.and hdistinct).imp fun {a b} hab => ?_
    have hle : a ≤ b := decide_eq_true_eq.mp hab.1
    exact KeyMap.lt_of_not_lt_of_ne (String.not_lt.mpr hle) (Ne.symm hab.2)
  · rw [List.mem_mergeSort, List.mem_filterMap]
    simp only [nameWithin_eq_some]
    constructor
    · rintro ⟨file, hfile, hne, rfl⟩
      exact ⟨hne, hfile⟩
    · rintro ⟨hne, hfile⟩
      exact ⟨_, hfile, hne, rfl⟩

/-- Two systems that are the same or apart have no joined name in common but
for the same name. -/
theorem joined_inj_of_used {key key' system' : String}
    (h : system' = system ∨ Apart system' system) :
    key' ++ "_" ++ system' = key ++ "_" ++ system ↔ system' = system ∧ key' = key := by
  rcases h with rfl | h
  · rw [String.append_left_inj, String.append_left_inj]
    exact (and_iff_right rfl).symm
  · rw [joined_inj_of_apart h, and_comm]

theorem exists_last {α : Type} {p : α → Prop} : ∀ {l : List α}, (∃ x ∈ l, p x) →
    ∃ before x after, l = before ++ x :: after ∧ p x ∧ ∀ y ∈ after, ¬p y
  | [], h => by
    obtain ⟨x, hx, -⟩ := h
    cases hx
  | a :: l, h => by
    by_cases hl : ∃ x ∈ l, p x
    · obtain ⟨before, x, after, rfl, hx, hafter⟩ := exists_last hl
      exact ⟨a :: before, x, after, rfl, hx, hafter⟩
    · obtain ⟨x, hx, hpx⟩ := h
      have hnone : ∀ y ∈ l, ¬p y := fun y hy hpy => hl ⟨y, hy, hpy⟩
      rcases List.mem_cons.mp hx with rfl | hx
      · exact ⟨[], x, l, rfl, hpx, hnone⟩
      · exact absurd hpx (hnone x hx)

/-- **After saves into an empty folder a system lists the joined names that end
with it,** ascending and each once. If the systems in use are the listed one or
apart from it, these are the names that were saved in it, and each loads the
record that was saved last for it. -/
theorem list_after_saves {qs : List SaveRequest} (hstart : d.listFolder s.folder = .ok [])
    (hsaved : s.AllSaved d qs) (system : String) :
    ∃ names, s.list (s.afterAll d qs) system = .ok names ∧ names.Pairwise (· < ·) ∧
      (∀ n, n ∈ names ↔ n ≠ "" ∧
        ∃ q ∈ qs, Key.normalize q.name ++ "_" ++ q.system = n ++ "_" ++ system) ∧
      ((∀ q ∈ qs, q.system = system ∨ Apart q.system system) →
        (∀ n, n ∈ names ↔ ∃ q ∈ qs, q.system = system ∧ Key.normalize q.name = n) ∧
        ∀ n ∈ names, ∃ before q later, qs = before ++ q :: later ∧
          (q.system = system ∧ Key.normalize q.name = n) ∧
          (∀ x ∈ later, ¬(x.system = system ∧ Key.normalize x.name = n)) ∧
          s.load (s.afterAll d qs) n system = .ok q.record) := by
  obtain ⟨-, hfolder, -, hempty⟩ := Disk.of_listFolder hstart
  have hfilled := filled_afterAll qs hfolder hsaved
  have hlisted := Disk.listFolder_of_hasFolder hstart hfilled.hasFolder hfilled.home hfilled.hides
  have hnodup := hfilled.nodup (hempty ▸ List.nodup_nil)
  obtain ⟨names, hlist, hascend, hmem⟩ := list_eq_ok hlisted hnodup system
  have hnames : ∀ n, n ∈ names ↔ n ≠ "" ∧
      ∃ q ∈ qs, Key.normalize q.name ++ "_" ++ q.system = n ++ "_" ++ system := by
    intro n
    have hfile : ∀ q : SaveRequest, fileName q.name q.system = n ++ "_" ++ system ++ ".json" ↔
        Key.normalize q.name ++ "_" ++ q.system = n ++ "_" ++ system :=
      fun q => String.append_left_inj ".json"
    rw [hmem, hfilled.files, ← hempty]
    simp only [List.not_mem_nil, false_or, hfile]
  refine ⟨names, hlist, hascend, hnames, fun hused => ?_⟩
  have hsaved_iff : ∀ n, n ∈ names ↔ ∃ q ∈ qs, q.system = system ∧ Key.normalize q.name = n := by
    intro n
    rw [hnames]
    constructor
    · rintro ⟨-, q, hq, hjoined⟩
      exact ⟨q, hq, (joined_inj_of_used (hused q hq)).mp hjoined⟩
    · rintro ⟨q, hq, hpair⟩
      obtain ⟨path, hp⟩ := hsaved.path q hq
      refine ⟨?_, q, hq, (joined_inj_of_used (hused q hq)).mpr hpair⟩
      rw [← hpair.2]
      exact (path_eq_ok.mp hp).1
  refine ⟨hsaved_iff, fun n hn => ?_⟩
  obtain ⟨before, q, later, rfl, hpair, hlater⟩ := exists_last ((hsaved_iff n).mp hn)
  refine ⟨before, q, later, rfl, hpair, hlater, ?_⟩
  obtain ⟨rfl, rfl⟩ := hpair
  -- the listed name is a key, and so it is one spelling of the name that was saved
  refine load_last hsaved (Key.normalize_normalize q.name) fun x hx hjoined => hlater x hx ?_
  have hx' : x ∈ before ++ q :: later := List.mem_append_right _ (List.mem_cons_of_mem q hx)
  exact (joined_inj_of_used (hused x hx')).mp hjoined

/-- Rin in `old_dnd5e` is listed for `dnd5e`, where nobody was saved. -/
theorem rin_of_old_dnd5e_is_listed_for_dnd5e :
    let start := ((Disk.blank ["home"]).makeFolders "sheets").2
    let saved := saveAs ⟨"sheets"⟩ start "Rin" "old_dnd5e" (.blank "Rin" "old_dnd5e")
    start.listFolder "sheets" = .ok [] ∧ saved.1 = .ok "sheets/rin_old_dnd5e.json" ∧
      list ⟨"sheets"⟩ saved.2 "dnd5e" = .ok ["rin_old"] := by
  intro start saved
  refine ⟨?_, ?_, ?_⟩
  · decide +kernel
  · decide +kernel
  · decide +kernel

/-- Rin is saved twice in `dnd5e`, with Zoë between in a system that it ends
with. -/
theorem rin_of_dnd5e_is_listed_once :
    let start := ((Disk.blank ["home"]).makeFolders "sheets").2
    let zoe : SaveRequest := ⟨"Zoë", "5e", .blank "Zoë" "5e", fun _ => false⟩
    let rin : SaveRequest := ⟨"Rin", "dnd5e", .blank "Rin" "dnd5e", fun _ => false⟩
    let again : SaveRequest := ⟨" RIN", "dnd5e", .blank "Rin Stormborn" "dnd5e", fun _ => false⟩
    start.listFolder "sheets" = .ok [] ∧ AllSaved ⟨"sheets"⟩ start [rin, zoe, again] ∧
      ∃ names, list ⟨"sheets"⟩ (afterAll ⟨"sheets"⟩ start [rin, zoe, again]) "dnd5e" = .ok names ∧
        "rin" ∈ names ∧ "zoë" ∉ names ∧
        load ⟨"sheets"⟩ (afterAll ⟨"sheets"⟩ start [rin, zoe, again]) "rin" "dnd5e" =
          .ok (.blank "Rin Stormborn" "dnd5e") := by
  intro start zoe rin again
  have hstart : start.listFolder "sheets" = .ok [] := by decide +kernel
  have hsaved : AllSaved ⟨"sheets"⟩ start [rin, zoe, again] := by
    refine ⟨⟨"sheets/rin_dnd5e.json", ?_⟩, ⟨"sheets/zoë_5e.json", ?_⟩,
      ⟨"sheets/rin_dnd5e.json", ?_⟩, trivial⟩
    · decide +kernel
    · decide +kernel
    · decide +kernel
  have hkey : Key.normalize again.name = "rin" := by decide +kernel
  have hfirst : Key.normalize rin.name = "rin" := by decide +kernel
  have hapart : Apart zoe.system "dnd5e" := by decide
  have hused : ∀ q ∈ [rin, zoe, again], q.system = "dnd5e" ∨ Apart q.system "dnd5e" := by
    intro q hq
    simp only [List.mem_cons, List.not_mem_nil, or_false] at hq
    rcases hq with rfl | rfl | rfl
    · exact .inl rfl
    · exact .inr hapart
    · exact .inl rfl
  obtain ⟨names, hlist, -, -, hnames⟩ := list_after_saves hstart hsaved "dnd5e"
  obtain ⟨hmem, hlast⟩ := hnames hused
  have hrin : "rin" ∈ names := (hmem "rin").mpr ⟨again, by simp, rfl, hkey⟩
  have hother : ∀ q ∈ [rin, zoe, again], q.system = "dnd5e" → Key.normalize q.name = "rin" := by
    intro q hq hsystem
    simp only [List.mem_cons, List.not_mem_nil, or_false] at hq
    rcases hq with rfl | rfl | rfl
    · exact hfirst
    · exact absurd hsystem (by decide)
    · exact hkey
  obtain ⟨before, q, later, hrun, ⟨hsystem, -⟩, hlater, hload⟩ := hlast "rin" hrin
  refine ⟨hstart, hsaved, names, hlist, hrin, fun hzoe => ?_, ?_⟩
  · obtain ⟨q, hq, hsystem, hname⟩ := (hmem "zoë").mp hzoe
    rw [hother q hq hsystem] at hname
    exact absurd hname (by decide)
  · have hq : q = again := by
      match before, hrun with
      | [], hrun =>
        obtain ⟨-, rfl⟩ := List.cons.inj hrun
        exact absurd ⟨rfl, hkey⟩ (hlater again (by simp))
      | [_], hrun =>
        obtain ⟨-, hrun⟩ := List.cons.inj hrun
        obtain ⟨rfl, -⟩ := List.cons.inj hrun
        exact absurd hsystem (by decide)
      | [_, _], hrun =>
        obtain ⟨-, hrun⟩ := List.cons.inj hrun
        obtain ⟨-, hrun⟩ := List.cons.inj hrun
        exact (List.cons.inj hrun).1.symm
      | _ :: _ :: _ :: _, hrun => simp at hrun
    rw [hload, hq]

end CharacterStore
end Tabletop
