/-
# Which characters share a file

The name of a file joins the character's key and the system's key with an
underscore, which both may contain. So two pairs have one file if they are the
same, or if the text between the first and the last cut can go to either key
(`joined_eq_iff`): Rin Old in `dnd5e` and Rin in `old_dnd5e` have the file
`rin_old_dnd5e.json`. Systems of which neither ends with an underscore and the
other (`Apart`) never share a file.

What has another path is not touched by a save: what was found is found again,
and in a folder that is there nothing else can be seen of the save either.

Key definitions: `CharacterStore.EndsWith`, `CharacterStore.Apart`.
Key theorems: `CharacterStore.joined_eq_iff`, `CharacterStore.path_eq_iff`,
`CharacterStore.find_saveAs_of_ne`, `CharacterStore.save_spares_other_paths`.
-/
import Tabletop.Proofs.CharacterStore
import Tabletop.Proofs.Folders

namespace Tabletop

theorem Path.join_inj {folder name name' : String} (h : Path.Plain name) (h' : Path.Plain name') :
    Path.join folder name = Path.join folder name' ↔ name = name' := by
  have hhead : ∀ {n : String}, Path.Plain n → n.toList.head? ≠ some '/' :=
    fun hn he => hn.noSlash (List.mem_of_mem_head? he)
  unfold Path.join
  rw [if_neg (hhead h), if_neg (hhead h')]
  split
  · exact String.append_right_inj folder
  · exact String.append_right_inj (folder ++ "/")

namespace Disk

variable {d d' : Disk} {path : String} {content : ByteArray}

/-! ### What is read -/

theorem readBytes_congr (hlocate : d'.locate path = d.locate path)
    (hentry : ∀ l, d.locate path = .ok l → d'.entryAt l = d.entryAt l) :
    d'.readBytes path = d.readBytes path := by
  unfold Disk.readBytes find
  rw [hlocate]
  cases hl : d.locate path with
  | error e => rfl
  | ok l =>
    rw [Json.ok_bind, Json.ok_bind, hentry l hl]

theorem readJson_congr {α : Type} (r : Json.Reader α) (h : d'.readBytes path = d.readBytes path) :
    d'.readJson path r = d.readJson path r := by
  unfold readJson readText
  rw [h]

theorem exists_holds_of_readJson {α : Type} {r : Json.Reader α} {a : α}
    (h : d.readJson path r = .ok (some a)) : ∃ content, d.Holds path content := by
  unfold readJson readText at h
  cases hb : d.readBytes path with
  | error e =>
    rw [hb] at h
    cases e <;> cases h
  | ok content => exact ⟨content, holds_of_readBytes hb⟩

end Disk

namespace CharacterStore

variable {s : CharacterStore} {d d' : Disk} {name name' system system' path path' : String}
  {c : Character}

/-! ### Cuts of a joined name -/

/-- **A text with an underscore is cut in one way, or the part between the two
cuts goes to the one side or to the other.** -/
theorem append_mark_eq_iff {a b a' b' : List Char} : a ++ '_' :: b = a' ++ '_' :: b' ↔
    (a = a' ∧ b = b') ∨ (∃ p, a = a' ++ '_' :: p ∧ b' = p ++ '_' :: b) ∨
      ∃ p, a' = a ++ '_' :: p ∧ b = p ++ '_' :: b' := by
  constructor
  · intro h
    -- `m` is what stands between the two cuts, with the underscore of the first one
    rcases List.append_eq_append_iff.mp h with ⟨m, ha, hb⟩ | ⟨m, ha, hb⟩
    · cases m with
      | nil =>
        rw [List.append_nil] at ha
        exact .inl ⟨ha.symm, (List.cons.inj hb).2⟩
      | cons x p =>
        obtain ⟨rfl, hrest⟩ := List.cons.inj hb
        exact .inr (.inr ⟨p, ha, hrest⟩)
    · cases m with
      | nil =>
        rw [List.append_nil] at ha
        exact .inl ⟨ha, (List.cons.inj hb).2.symm⟩
      | cons x p =>
        obtain ⟨rfl, hrest⟩ := List.cons.inj hb
        exact .inr (.inl ⟨p, ha, hrest⟩)
  · rintro (⟨rfl, rfl⟩ | ⟨p, rfl, rfl⟩ | ⟨p, rfl, rfl⟩)
    · rfl
    · rw [List.append_assoc]
      rfl
    · rw [List.append_assoc]
      rfl

theorem toList_joined (a b : String) : (a ++ "_" ++ b).toList = a.toList ++ '_' :: b.toList := by
  rw [String.toList_append, String.toList_append, List.append_assoc]
  rfl

theorem joined_eq_iff {key key' : String} : key ++ "_" ++ system = key' ++ "_" ++ system' ↔
    (key = key' ∧ system = system') ∨
      (∃ p, key = key' ++ "_" ++ p ∧ system' = p ++ "_" ++ system) ∨
      ∃ p, key' = key ++ "_" ++ p ∧ system = p ++ "_" ++ system' := by
  have hcut : ∀ {a b u v : String},
      (∃ p : List Char, a.toList = b.toList ++ '_' :: p ∧ u.toList = p ++ '_' :: v.toList) ↔
        ∃ p, a = b ++ "_" ++ p ∧ u = p ++ "_" ++ v := by
    intro a b u v
    constructor
    · rintro ⟨p, ha, hu⟩
      refine ⟨String.ofList p, ?_, ?_⟩
      · rw [← String.toList_inj, toList_joined, String.toList_ofList, ha]
      · rw [← String.toList_inj, toList_joined, String.toList_ofList, hu]
    · rintro ⟨p, rfl, rfl⟩
      exact ⟨p.toList, toList_joined b p, toList_joined p v⟩
  rw [← String.toList_inj, toList_joined, toList_joined, append_mark_eq_iff, hcut, hcut,
    String.toList_inj, String.toList_inj]

/-- A system's key ends with an underscore and another one. -/
def EndsWith (system other : String) : Prop :=
  '_' :: other.toList <:+ system.toList

instance (system other : String) : Decidable (EndsWith system other) :=
  inferInstanceAs (Decidable ('_' :: other.toList <:+ system.toList))

/-- Neither of two systems' keys ends with an underscore and the other. -/
def Apart (system other : String) : Prop :=
  ¬EndsWith system other ∧ ¬EndsWith other system

instance (system other : String) : Decidable (Apart system other) :=
  inferInstanceAs (Decidable (_ ∧ _))

theorem endsWith_joined (p other : String) : EndsWith (p ++ "_" ++ other) other :=
  ⟨p.toList, (toList_joined p other).symm⟩

/-- **Systems that are apart have no name of a file in common.** -/
theorem joined_inj_of_apart (h : Apart system system') {key key' : String} :
    key ++ "_" ++ system = key' ++ "_" ++ system' ↔ key = key' ∧ system = system' := by
  rw [joined_eq_iff]
  constructor
  · rintro (hsame | ⟨p, -, rfl⟩ | ⟨p, -, rfl⟩)
    · exact hsame
    · exact absurd (endsWith_joined p system) h.2
    · exact absurd (endsWith_joined p system') h.1
  · exact .inl

/-! ### Paths -/

theorem fileName_eq_iff : fileName name system = fileName name' system' ↔
    Key.normalize name ++ "_" ++ system = Key.normalize name' ++ "_" ++ system' :=
  String.append_left_inj ".json"

theorem path_eq_iff (hp : s.path name system = .ok path) (hp' : s.path name' system' = .ok path') :
    path = path' ↔
      Key.normalize name ++ "_" ++ system = Key.normalize name' ++ "_" ++ system' := by
  rw [(path_eq_ok.mp hp).2.2.2.2, (path_eq_ok.mp hp').2.2.2.2,
    Path.join_inj (plain_fileName hp) (plain_fileName hp'), fileName_eq_iff]

/-! ### Saves to other paths -/

theorem saveAs_spares {r : Except StoreError String} (hf : d.HasFolder s.folder)
    (hp : s.path name system = .ok path) (h : s.saveAs d name system c = (r, d')) :
    d.Spares s.folder (fileName name system) d' := by
  have hpath := (path_eq_ok.mp hp).2.2.2.2
  unfold saveAs at h
  rw [hp] at h
  simp only at h
  split at h
  · rename_i hsave
    cases h
    rw [hpath] at hsave
    exact Disk.saveJson_within hf (plain_fileName hp) hsave
  · rename_i hsave
    cases h
    rw [hpath] at hsave
    exact Disk.saveJson_within hf (plain_fileName hp) hsave

/-- A save that succeeded went to the path of its name, where the record is
now, in a folder that is there. -/
theorem saved (h : (s.saveAs d name system c).1 = .ok path) :
    s.path name system = .ok path ∧ (s.saveAs d name system c).2.Holds path (bytes c) ∧
      (s.saveAs d name system c).2.HasFolder s.folder := by
  have hsave : s.saveAs d name system c = (.ok path, (s.saveAs d name system c).2) := by
    rw [← h]
  obtain ⟨hp, hstored⟩ := saveAs_ok hsave
  have hlocated := hstored.located
  rw [(path_eq_ok.mp hp).2.2.2.2] at hlocated
  exact ⟨hp, hstored.holds, Disk.hasFolder_of_locate (plain_fileName hp) hlocated⟩

theorem load_congr (h : s.find d' name system = s.find d name system) :
    s.load d' name system = s.load d name system := by
  unfold find at h
  unfold load
  cases hp : s.path name system with
  | error e => rfl
  | ok path =>
    rw [hp, Json.ok_bind, Json.ok_bind] at h
    rw [Json.ok_bind, Json.ok_bind, h]

/-- **What was found is found after a save to another path.** -/
theorem find_saveAs_of_ne {r : Except StoreError String} (hp : s.path name system = .ok path)
    (hne : s.path name' system' ≠ .ok path) (h : s.saveAs d name' system' c = (r, d'))
    {c₀ : Character} (hc : s.find d name system = .ok (some c₀)) :
    s.find d' name system = .ok (some c₀) := by
  unfold find at hc ⊢
  rw [hp, Json.ok_bind] at hc ⊢
  obtain ⟨content, hholds⟩ := Disk.exists_holds_of_readJson hc
  have hafter : s.after d ⟨name', system', c, d.refuses⟩ = d' := congrArg Prod.snd h
  have hkept : d'.Holds path content := by
    rw [← hafter]
    exact holds_after hp hholds hne
  rw [Disk.readJson_congr _ (hkept.readBytes.trans hholds.readBytes.symm), hc]

/-- **In a folder that is there nothing is seen of a save** under another
path. -/
theorem find_saveAs_within {r : Except StoreError String} (hf : d.HasFolder s.folder)
    (hp : s.path name system = .ok path) (hp' : s.path name' system' = .ok path')
    (hne : path ≠ path') (h : s.saveAs d name' system' c = (r, d')) :
    s.find d' name system = s.find d name system := by
  have hspares := saveAs_spares hf hp' h
  have hfile : fileName name system ≠ fileName name' system' := by
    rw [ne_eq, fileName_eq_iff, ← path_eq_iff hp hp']
    exact hne
  have hpath := (path_eq_ok.mp hp).2.2.2.2
  have hlocate : d'.locate path = d.locate path := by
    rw [hpath]
    exact Disk.locate_join_congr hf hspares.hasFolder hspares.home (plain_fileName hp)
  unfold find
  rw [hp, Json.ok_bind, Json.ok_bind]
  refine Disk.readJson_congr _ (Disk.readBytes_congr hlocate fun l hl => hspares.others l ?_)
  rw [hpath] at hl
  rw [(Disk.locate_join (plain_fileName hp) hl).1]
  intro hsame
  exact hfile (List.singleton_inj.mp (List.append_cancel_left hsame))

/-- **Saving one character touches no other one that has another path,** and two
characters have one path only if they are the same, or if the part by which the
one name is longer stands in front of the system of the other. Systems that are
apart share no paths. -/
theorem save_spares_other_paths (hp : s.path name system = .ok path)
    (hp' : s.path name' system' = .ok path') :
    (path = path' ↔ (Key.normalize name = Key.normalize name' ∧ system = system') ∨
      (∃ p, Key.normalize name = Key.normalize name' ++ "_" ++ p ∧ system' = p ++ "_" ++ system) ∨
      ∃ p, Key.normalize name' = Key.normalize name ++ "_" ++ p ∧
        system = p ++ "_" ++ system') ∧
    (Apart system system' → Key.normalize name ≠ Key.normalize name' ∨ system ≠ system' →
      path ≠ path') ∧
    (path ≠ path' → ∀ d c r d', s.saveAs d name' system' c = (r, d') →
      (∀ c₀, s.find d name system = .ok (some c₀) →
        s.find d' name system = .ok (some c₀) ∧ s.load d' name system = .ok c₀) ∧
      (d.HasFolder s.folder → s.find d' name system = s.find d name system ∧
        s.load d' name system = s.load d name system)) := by
  refine ⟨?_, fun hapart hdiffer heq => ?_,
    fun hne d c r d' hsave => ⟨fun c₀ hc => ?_, fun hf => ?_⟩⟩
  · rw [path_eq_iff hp hp', joined_eq_iff]
  · obtain ⟨hkey, hsystem⟩ := (joined_inj_of_apart hapart).mp ((path_eq_iff hp hp').mp heq)
    exact hdiffer.elim (fun h => h hkey) fun h => h hsystem
  · have hother : s.path name' system' ≠ .ok path := by
      rw [hp']
      exact fun h => hne (Except.ok.inj h).symm
    have hfind := find_saveAs_of_ne hp hother hsave hc
    exact ⟨hfind, load_of_find hfind⟩
  · have hfind := find_saveAs_within hf hp hp' hne hsave
    exact ⟨hfind, load_congr hfind⟩

/-- Rin in `old_dnd5e` is saved over Rin Old in `dnd5e`. -/
theorem rin_is_saved_over_rin_old :
    let first := saveAs ⟨"sheets"⟩ (Disk.blank ["home"]) "Rin Old" "dnd5e"
      (.blank "Rin Old" "dnd5e")
    let second := saveAs ⟨"sheets"⟩ first.2 "Rin" "old_dnd5e" (.blank "Rin" "old_dnd5e")
    Key.normalize "Rin Old" ≠ Key.normalize "Rin" ∧
    first.1 = .ok "sheets/rin_old_dnd5e.json" ∧ second.1 = .ok "sheets/rin_old_dnd5e.json" ∧
    find ⟨"sheets"⟩ first.2 "Rin Old" "dnd5e" = .ok (some (.blank "Rin Old" "dnd5e")) ∧
    find ⟨"sheets"⟩ second.2 "Rin Old" "dnd5e" = .ok (some (.blank "Rin" "old_dnd5e")) := by
  have hfirst : (saveAs ⟨"sheets"⟩ (Disk.blank ["home"]) "Rin Old" "dnd5e"
      (.blank "Rin Old" "dnd5e")).1 = .ok "sheets/rin_old_dnd5e.json" := by decide +kernel
  have hsecond : (saveAs ⟨"sheets"⟩ (saveAs ⟨"sheets"⟩ (Disk.blank ["home"]) "Rin Old" "dnd5e"
      (.blank "Rin Old" "dnd5e")).2 "Rin" "old_dnd5e" (.blank "Rin" "old_dnd5e")).1 =
        .ok "sheets/rin_old_dnd5e.json" := by decide +kernel
  obtain ⟨hp, hold, -⟩ := saved hfirst
  exact ⟨by decide +kernel, hfirst, hsecond, find_of_holds hp hold,
    find_of_holds hp (saved hsecond).2.1⟩

/-- A system that ends with another one, but with no underscore in front of it. -/
theorem rin_dnd_is_saved_beside_rin :
    let first := saveAs ⟨"sheets"⟩ (Disk.blank ["home"]) "Rin" "dnd5e" (.blank "Rin" "dnd5e")
    let second := saveAs ⟨"sheets"⟩ first.2 "Rin DnD" "5e" (.blank "Rin DnD" "5e")
    first.1 = .ok "sheets/rin_dnd5e.json" ∧ second.1 = .ok "sheets/rin_dnd_5e.json" ∧
    find ⟨"sheets"⟩ second.2 "Rin" "dnd5e" = .ok (some (.blank "Rin" "dnd5e")) ∧
    load ⟨"sheets"⟩ second.2 "Rin" "dnd5e" = load ⟨"sheets"⟩ first.2 "Rin" "dnd5e" := by
  have hfirst : (saveAs ⟨"sheets"⟩ (Disk.blank ["home"]) "Rin" "dnd5e"
      (.blank "Rin" "dnd5e")).1 = .ok "sheets/rin_dnd5e.json" := by decide +kernel
  have hsecond : (saveAs ⟨"sheets"⟩ (saveAs ⟨"sheets"⟩ (Disk.blank ["home"]) "Rin" "dnd5e"
      (.blank "Rin" "dnd5e")).2 "Rin DnD" "5e" (.blank "Rin DnD" "5e")).1 =
        .ok "sheets/rin_dnd_5e.json" := by decide +kernel
  obtain ⟨hp, hholds, hfolder⟩ := saved hfirst
  obtain ⟨-, hapart, hspared⟩ := save_spares_other_paths hp (saved hsecond).1
  have hne := hapart (by decide) (.inr (by decide))
  obtain ⟨hkept, hsame⟩ := hspared hne _ (.blank "Rin DnD" "5e") _ _ (Prod.eta _).symm
  exact ⟨hfirst, hsecond, (hkept _ (find_of_holds hp hholds)).1, (hsame hfolder).2⟩

end CharacterStore
end Tabletop
