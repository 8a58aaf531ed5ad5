/-
# A record is no configuration

The text of a record begins with a brace, or with a bracket, a string and a comma
(`Json.BeginsRecord`). Neither begins a line of a TOML document: no key has a
brace in it, and the name in a header is closed by a bracket. Both readers find
the same end of a string, for all that they make of its escapes
(`Json.StringEnds`); they differ in the blanks that they skip, of which a carriage
return stops the one and not the other (`Toml.skipLines_stops`).

So a text that is read as a record is not read as a configuration
(`Config.ofText_of_record`).

Key definitions: `Json.StringEnds`, `Json.BeginsRecord`.
Key theorems: `Json.beginsRecord_of_decode`, `Toml.lineTextAfter_ends`,
`Toml.skipLines_stops`, `Toml.key_of_row`, `Toml.read_eq_none`,
`Config.ofText_of_record`.
-/
import Mathlib.Data.List.DropRight
import Tabletop.Config
import Tabletop.Proofs.JsonRecord

namespace Tabletop

/-! ### How the text of a record begins -/

namespace Json

variable {cs rest : List Char}

/-- A string ends within a text, after its opening quote, before the rest of the
text. -/
inductive StringEnds : List Char → List Char → Prop
  | close {rest : List Char} : StringEnds ('"' :: rest) rest
  | unit {a b c d : Char} {cs rest : List Char} (h : StringEnds cs rest) :
      StringEnds ('\\' :: 'u' :: a :: b :: c :: d :: cs) rest
  | escape {e : Char} {cs rest : List Char} (hu : e ≠ 'u') (hU : e ≠ 'U') (hx : e ≠ 'x')
      (h : StringEnds cs rest) : StringEnds ('\\' :: e :: cs) rest
  | plain {c : Char} {cs rest : List Char} (hq : c ≠ '"') (hb : c ≠ '\\')
      (h : StringEnds cs rest) : StringEnds (c :: cs) rest

theorem stringEnds_of_readPieces {ps : List Piece} (h : readPieces cs = some (ps, rest)) :
    StringEnds cs rest := by
  fun_induction readPieces cs generalizing ps with
  | case1 => cases h
  | case2 cs =>
    cases h
    exact .close
  | case3 a b c d cs n ps' rest' hrest hunit ih =>
    cases h
    exact .unit (ih hrest)
  | case4 => cases h
  | case5 e cs _ c ps' rest' hrest hescaped ih =>
    cases h
    have hnot : ∀ x, escaped x = none → e ≠ x := by
      rintro x hx rfl
      cases hescaped.symm.trans hx
    exact .escape (hnot 'u' rfl) (hnot 'U' rfl) (hnot 'x' rfl) (ih hrest)
  | case6 => cases h
  | case7 => cases h
  | case8 c cs hq _ _ hplain ih =>
    obtain ⟨⟨ps', rest'⟩, hrest, heq⟩ := Option.map_eq_some_iff.mp h
    cases heq
    rw [Bool.or_eq_true, not_or, beq_iff_eq] at hplain
    exact .plain hq hplain.2 (ih hrest)

/-- What stands at the beginning of the text of a record: a brace, or a bracket,
a string and a comma. -/
inductive BeginsRecord (cs : List Char) : Prop
  | object {members : List Char} (h : skipBlanks cs = '\x7b' :: members)
  | row {items name rest more : List Char} (h : skipBlanks cs = '[' :: items)
      (hquote : skipBlanks items = '"' :: name) (hends : StringEnds name rest)
      (hcomma : skipBlanks rest = ',' :: more)

/-- What stands in the place of a number is a number, or can not be read. -/
theorem readNumber_cases (negative : Bool) (cs : List Char) :
    (readNumber negative cs).1 = .broken ∨ (∃ n, (readNumber negative cs).1 = .integer n) ∨
      ∃ r, (readNumber negative cs).1 = .real r := by
  unfold readNumber
  split
  · exact .inl rfl
  · split
    · exact .inl rfl
    · split
      · exact .inl rfl
      · simp only [RealText.draft]
        split
        · split
          · split
            · exact .inr (.inl ⟨_, rfl⟩)
            · exact .inr (.inr ⟨_, rfl⟩)
          · split
            · exact .inr (.inl ⟨_, rfl⟩)
            · exact .inr (.inr ⟨_, rfl⟩)
        · exact .inr (.inr ⟨_, rfl⟩)

theorem stringEnds_of_readScalar {s : String} (h : readScalar cs = (.string s, rest)) :
    ∃ name, cs = '"' :: name ∧ StringEnds name rest := by
  have hnumber : ∀ negative cs, readNumber negative cs ≠ (.string s, rest) := by
    intro negative cs hn
    have hcases := readNumber_cases negative cs
    rw [hn] at hcases
    rcases hcases with h | ⟨n, h⟩ | ⟨r, h⟩ <;> cases h
  unfold readScalar at h
  split at h
  · cases h
  · cases h
  · cases h
  · rename_i name
    unfold readString at h
    split at h
    · cases h
    · rename_i ps rest' hpieces
      split at h
      · cases h
        exact ⟨name, rfl, stringEnds_of_readPieces hpieces⟩
      · cases h
  · exact absurd h (hnumber _ _)
  · exact absurd h (hnumber _ _)

theorem readForm_readScalar (expected : String) (fields : List Field) (source : Source)
    (cs : List Char) : ∃ e, readForm expected fields source (readScalar cs).1 = .error e := by
  have hnumber : ∀ negative cs, ∃ e,
      readForm expected fields source (readNumber negative cs).1 = .error e := by
    intro negative cs
    rcases readNumber_cases negative cs with h | ⟨n, h⟩ | ⟨r, h⟩ <;> rw [h] <;> exact ⟨_, rfl⟩
  unfold readScalar
  split
  · exact ⟨_, rfl⟩
  · exact ⟨_, rfl⟩
  · exact ⟨_, rfl⟩
  · unfold readString
    split
    · exact ⟨_, rfl⟩
    · split <;> exact ⟨_, rfl⟩
  · exact hnumber _ _
  · exact hnumber _ _

theorem stringEnds_of_readValue {n : Nat} {s : String} (h : readValue n cs = (.string s, rest)) :
    ∃ name, skipBlanks cs = '"' :: name ∧ StringEnds name rest := by
  cases n with
  | zero => cases h
  | succ n =>
    rw [readValue] at h
    split at h
    · split at h <;> cases h
    · split at h <;> cases h
    · exact stringEnds_of_readScalar h

/-- Where one more item is read there is a comma. -/
theorem comma_of_readItems {n : Nat} {d : Draft} {ds : Items}
    (h : (readItems n cs).1 = .cons d ds) :
    ∃ more, skipBlanks cs = ',' :: more := by
  cases n with
  | zero => cases h
  | succ n =>
    rw [readItems] at h
    split at h
    · cases h
    · rename_i more hskip
      exact ⟨more, hskip⟩
    · cases h

/-- An array that gives two texts has two items, of which the first is a
string. -/
theorem cons_of_readRow {expected a b : String} {total n : Nat} {fields : List Field}
    {source : Source} {items : Items} {form form' : Form}
    (h : readRow source expected total (.needed a text :: .needed b text :: fields) items n form =
      .ok form') : ∃ s d items', items = .cons (.string s) (.cons d items') := by
  cases items with
  | closed => cases h
  | broken => cases h
  | cons d items =>
    cases d with
    | string s =>
      cases items with
      | closed => cases h
      | broken => cases h
      | cons d' items' => exact ⟨s, d', items', rfl⟩
    | _ => cases h

/-- **The text of a record begins as a record does.** -/
theorem beginsRecord_of_decode {text : String} {c : Character}
    (h : decode Character.read text = .ok c) : BeginsRecord text.toList := by
  have hform : ∃ form, readForm "struct CharacterRecord" Character.fields .text
      (Document.ofText text).root = .ok form := by
    unfold decode Character.read at h
    cases hr : readForm "struct CharacterRecord" Character.fields .text
        (Document.ofText text).root with
    | ok form => exact ⟨form, rfl⟩
    | error e =>
      simp only [hr] at h
      cases h
  obtain ⟨form, hform⟩ := hform
  have hroot : (Document.ofText text).root =
      (readValue (2 * text.toList.length + 1 + 1) text.toList).1 := rfl
  rw [hroot, readValue] at hform
  split at hform
  · rename_i items hskip
    split at hform
    · cases hform
    · obtain ⟨s, d, items', hitems⟩ := cons_of_readRow hform
      simp only [Items.cons.injEq] at hitems
      obtain ⟨hname, hmore⟩ := hitems
      obtain ⟨name, hquote, hends⟩ := stringEnds_of_readValue (Prod.ext hname rfl)
      obtain ⟨more, hcomma⟩ := comma_of_readItems hmore
      have hagain : skipBlanks (skipBlanks items) = skipBlanks items :=
        List.dropWhile_idempotent isGap items
      exact .row hskip (hagain.symm.trans hquote) hends hcomma
  · rename_i members hskip
    exact .object hskip
  · obtain ⟨e, herror⟩ := readForm_readScalar "struct CharacterRecord" Character.fields .text
      (skipBlanks text.toList)
    cases herror.symm.trans hform

end Json

/-! ### Lines of a document -/

namespace Toml

namespace Scan

variable {α β : Type} {s : Scan α} {f : α → Scan β} {a : α} {cs cs' : List Char}

theorem bind_of_some (h : s cs = some (a, cs')) : (s >>= f) cs = f a cs' := by
  show (s cs).bind (fun p => f p.1 p.2) = _
  rw [h]
  rfl

theorem bind_of_none (h : s cs = none) : (s >>= f) cs = none := by
  show (s cs).bind (fun p => f p.1 p.2) = _
  rw [h]
  rfl

theorem bind_eq_some {b : β} {rest : List Char} : (s >>= f) cs = some (b, rest) ↔
    ∃ a cs', s cs = some (a, cs') ∧ f a cs' = some (b, rest) := by
  cases h : s cs with
  | none =>
    rw [bind_of_none h]
    exact ⟨fun h => (nomatch h), fun ⟨_, _, h, _⟩ => (nomatch h)⟩
  | some p =>
    rw [bind_of_some h]
    constructor
    · intro hf
      exact ⟨_, _, rfl, hf⟩
    · rintro ⟨_, _, hp, hf⟩
      cases hp
      exact hf

theorem rest_of_lift {o : Option α} {rest : List Char}
    (h : (liftM o : Scan α) cs = some (a, rest)) :
    rest = cs := by
  cases o with
  | none => cases h
  | some a' =>
    cases h
    rfl

end Scan

open Json (StringEnds)

variable {cs rest : List Char} {c : Char}

theorem lineTextAfter_of_escape {n : Nat} {ds : List Char}
    (h : lineTextAfter '"' (n + 1) ('\\' :: cs) = some (ds, rest)) :
    ∃ d cs' ds', escape cs = some (d, cs') ∧ lineTextAfter '"' n cs' = some (ds', rest) := by
  change (escape >>= fun c => lineTextAfter '"' n >>= fun ds => pure (c :: ds)) cs = _ at h
  obtain ⟨d, cs', hescape, hmore⟩ := Scan.bind_eq_some.mp h
  obtain ⟨ds', _, hrest, hend⟩ := Scan.bind_eq_some.mp hmore
  cases hend
  exact ⟨d, cs', ds', hescape, hrest⟩

theorem lineTextAfter_of_plain (hq : c ≠ '"') (hb : c ≠ '\\') {n : Nat} {ds : List Char}
    (h : lineTextAfter '"' (n + 1) (c :: cs) = some (ds, rest)) :
    ∃ ds', lineTextAfter '"' n cs = some (ds', rest) := by
  have hq' : (c == '"') = false := beq_eq_false_iff_ne.mpr hq
  have hb' : (c == '\\') = false := beq_eq_false_iff_ne.mpr hb
  rw [lineTextAfter, Scan.bind_of_some (rfl : Scan.next (c :: cs) = some (c, cs))] at h
  simp only [hq', hb', Bool.false_and, Bool.false_eq_true, if_false] at h
  split at h
  · change (lineTextAfter '"' n >>= fun ds => pure (c :: ds)) cs = _ at h
    obtain ⟨ds', _, hmore, hend⟩ := Scan.bind_eq_some.mp h
    cases hend
    exact ⟨ds', hmore⟩
  · cases h

theorem escape_unit {a b x y d : Char}
    (h : escape ('u' :: a :: b :: x :: y :: cs) = some (d, rest)) :
    rest = cs := by
  obtain ⟨_, _, hnext, h⟩ := Scan.bind_eq_some.mp h
  cases hnext
  obtain ⟨_, _, htake, hvalue⟩ := Scan.bind_eq_some.mp h
  cases htake
  exact Scan.rest_of_lift hvalue

theorem escape_letter {e d : Char} (hu : e ≠ 'u') (hU : e ≠ 'U') (hx : e ≠ 'x')
    (h : escape (e :: cs) = some (d, rest)) : rest = cs := by
  have hu' : (e == 'u') = false := beq_eq_false_iff_ne.mpr hu
  have hU' : (e == 'U') = false := beq_eq_false_iff_ne.mpr hU
  have hx' : (e == 'x') = false := beq_eq_false_iff_ne.mpr hx
  obtain ⟨_, _, hnext, h⟩ := Scan.bind_eq_some.mp h
  cases hnext
  simp only [hu', hU', hx', Bool.false_eq_true, if_false] at h
  exact Scan.rest_of_lift h

/-- **Both readers find the same end of a string.** -/
theorem lineTextAfter_ends : ∀ {n : Nat} {cs rest ds rest' : List Char}, StringEnds cs rest →
    lineTextAfter '"' n cs = some (ds, rest') → rest' = rest
  | 0, _, _, _, _, _, h => by cases h
  | n + 1, cs, rest, ds, rest', hends, h => by
    cases hends with
    | close =>
      cases h
      rfl
    | unit hends =>
      obtain ⟨_, _, _, hescape, hmore⟩ := lineTextAfter_of_escape h
      obtain rfl := escape_unit hescape
      exact lineTextAfter_ends hends hmore
    | escape hu hU hx hends =>
      obtain ⟨_, _, _, hescape, hmore⟩ := lineTextAfter_of_escape h
      obtain rfl := escape_letter hu hU hx hescape
      exact lineTextAfter_ends hends hmore
    | plain hq hb hends =>
      obtain ⟨_, hmore⟩ := lineTextAfter_of_plain hq hb h
      exact lineTextAfter_ends hends hmore

/-! ### Blanks -/

theorem json_isGap_of_isGap (h : isGap c = true) : Json.isGap c = true := by
  unfold isGap at h
  unfold Json.isGap
  rw [Bool.or_eq_true] at h
  rcases h with h | h <;> simp [h]

/-- A blank of JSON that is no gap here ends a line. -/
theorem eq_of_json_isGap (h : Json.isGap c = true) (hno : isGap c = false) :
    c = '\n' ∨ c = '\r' := by
  unfold Json.isGap at h
  unfold isGap at hno
  simp only [Bool.or_eq_true, beq_iff_eq] at h
  simp only [Bool.or_eq_false_iff, beq_eq_false_iff_ne] at hno
  rcases h with ((h | h) | h) | h
  · exact absurd h hno.1
  · exact .inl h
  · exact .inr h
  · exact absurd h hno.2

/-- Where JSON goes on after blanks, the gaps here end at the same character, or
at the end of a line before it. -/
theorem skipGaps_cases : ∀ {cs more : List Char}, Json.skipBlanks cs = c :: more →
    skipGaps cs = some ((), c :: more) ∨
      ∃ x xs, (x = '\n' ∨ x = '\r') ∧ skipGaps cs = some ((), x :: xs) ∧
        Json.skipBlanks xs = c :: more
  | [], _, h => by cases h
  | x :: cs, more, h => by
    have hgaps : skipGaps (x :: cs) =
        if isGap x = true then skipGaps cs else some ((), x :: cs) := by
      show some ((), (x :: cs).dropWhile isGap) = _
      rw [List.dropWhile_cons]
      split <;> rfl
    rw [hgaps]
    by_cases hblank : Json.isGap x = true
    · have hskip : Json.skipBlanks (x :: cs) = Json.skipBlanks cs :=
        List.dropWhile_cons_of_pos hblank
      rw [hskip] at h
      by_cases hgap : isGap x = true
      · rw [if_pos hgap]
        exact skipGaps_cases h
      · rw [if_neg hgap]
        exact .inr ⟨x, cs, eq_of_json_isGap hblank (by simpa using hgap), rfl, h⟩
    · have hstop : Json.skipBlanks (x :: cs) = x :: cs := List.dropWhile_cons_of_neg hblank
      rw [hstop] at h
      cases h
      rw [if_neg fun hgap => hblank (json_isGap_of_isGap hgap)]
      exact .inl rfl

theorem accept_of_not_prefix {word : List Char} (h : ¬word <+: cs) :
    Scan.accept word cs = some (false, cs) := by
  unfold Scan.accept
  rw [if_neg fun hword => h (List.isPrefixOf_iff_prefix.mp hword)]

theorem accept_of_ne {x : Char} (h : x ≠ c) (xs : List Char) :
    Scan.accept (x :: xs) (c :: cs) = some (false, c :: cs) :=
  accept_of_not_prefix fun hword => h (List.cons_prefix_cons.mp hword).1

theorem accept_of_ne_second {x y : Char} (h : y ≠ c) :
    Scan.accept [x, y] (x :: c :: cs) = some (false, x :: c :: cs) :=
  accept_of_not_prefix fun hword =>
    h (List.cons_prefix_cons.mp (List.cons_prefix_cons.mp hword).2).1

theorem skipComment_of_ne (h : c ≠ '#') : skipComment (c :: cs) = some ((), c :: cs) := by
  unfold skipComment
  rw [Scan.bind_of_some (accept_of_ne h.symm _)]
  rfl

theorem takeNewline_of_ne (hn : c ≠ '\n') (hr : c ≠ '\r') :
    takeNewline (c :: cs) = some (false, c :: cs) := by
  unfold takeNewline
  rw [Scan.bind_of_some (accept_of_ne hn.symm _)]
  exact accept_of_ne hr.symm _

/-- The end of a line is a line feed, with a carriage return before it or not. -/
theorem takeNewline_return (cs : List Char) :
    takeNewline ('\r' :: cs) = some (false, '\r' :: cs) ∨
      ∃ more, cs = '\n' :: more ∧ takeNewline ('\r' :: cs) = some (true, more) := by
  cases cs with
  | nil => exact .inl rfl
  | cons c cs =>
    by_cases hc : c = '\n'
    · subst hc
      exact .inr ⟨cs, rfl, rfl⟩
    · left
      unfold takeNewline
      rw [Scan.bind_of_some (accept_of_ne (by decide) _)]
      exact accept_of_ne_second (Ne.symm hc)

/-- One turn of the reader over blanks: from the first one that is no gap on. -/
theorem skipLines_succ {x : Char} (hx : x ≠ '#') {n : Nat}
    (hgaps : skipGaps rest = some ((), x :: cs)) :
    skipLines (n + 1) rest =
      (takeNewline >>= fun more => if more = true then skipLines n else pure ()) (x :: cs) := by
  rw [skipLines, Scan.bind_of_some hgaps, Scan.bind_of_some (skipComment_of_ne hx)]

/-- **Before what is no blank the reader stops,** if not at a carriage return
before it. -/
theorem skipLines_stops (hsharp : c ≠ '#') :
    ∀ {n : Nat} {cs more rest : List Char}, Json.skipBlanks cs = c :: more →
      skipLines n cs = some ((), rest) → rest = c :: more ∨ ∃ xs, rest = '\r' :: xs
  | 0, _, _, _, _, h => by cases h
  | n + 1, cs, more, rest, hskip, h => by
    rcases skipGaps_cases hskip with hgaps | ⟨x, xs, rfl | rfl, hgaps, hxs⟩
    · -- what is no blank is no end of a line
      have hc : Json.isGap c = false := by
        have hhead := List.head?_dropWhile_not Json.isGap cs
        rw [show cs.dropWhile Json.isGap = c :: more from hskip] at hhead
        simpa using hhead
      have hends : takeNewline (c :: more) = some (false, c :: more) := by
        refine takeNewline_of_ne ?_ ?_
        · rintro rfl
          cases hc
        · rintro rfl
          cases hc
      rw [skipLines_succ hsharp hgaps, Scan.bind_of_some hends] at h
      cases h
      exact .inl rfl
    · have hends : takeNewline ('\n' :: xs) = some (true, xs) := rfl
      rw [skipLines_succ (by decide) hgaps, Scan.bind_of_some hends] at h
      exact skipLines_stops hsharp hxs h
    · rw [skipLines_succ (by decide) hgaps] at h
      rcases takeNewline_return xs with hstop | ⟨ys, rfl, hends⟩
      · rw [Scan.bind_of_some hstop] at h
        cases h
        exact .inr ⟨xs, rfl⟩
      · have hys : Json.skipBlanks ys = c :: more := hxs
        rw [Scan.bind_of_some hends] at h
        exact skipLines_stops hsharp hys h

/-! ### What no line begins with -/

theorem keyPart_eq_none (hkey : isKeyChar c = false) (hdouble : c ≠ '"') (hsingle : c ≠ '\'') :
    keyPart (c :: cs) = none := by
  have hname : Scan.takeAll isKeyChar (c :: cs) = some ([], c :: cs) := by
    unfold Scan.takeAll
    rw [List.takeWhile_cons_of_neg (by simp [hkey]), List.dropWhile_cons_of_neg (by simp [hkey])]
  unfold keyPart
  rw [Scan.bind_of_some (accept_of_ne hdouble.symm _)]
  show (Scan.accept ['\''] >>= _) (c :: cs) = none
  rw [Scan.bind_of_some (accept_of_ne hsingle.symm _)]
  show (Scan.takeAll isKeyChar >>= _) (c :: cs) = none
  rw [Scan.bind_of_some hname]
  rfl

theorem keyPart_of_lineEnd (h : c = '\n' ∨ c = '\r') : keyPart (c :: cs) = none := by
  rcases h with rfl | rfl
  · exact keyPart_eq_none rfl (by decide) (by decide)
  · exact keyPart_eq_none rfl (by decide) (by decide)

theorem line_eq_none_of_head (h : c = '\x7b' ∨ c = '\r') (p : Progress) :
    line p (c :: cs) = none := by
  have hgaps : skipGaps (c :: cs) = some ((), c :: cs) := by
    rcases h with rfl | rfl <;> rfl
  have hpart : keyPart (c :: cs) = none := by
    rcases h with rfl | rfl
    · exact keyPart_eq_none rfl (by decide) (by decide)
    · exact keyPart_of_lineEnd (.inr rfl)
  have hopen : '[' ≠ c := by
    rcases h with rfl | rfl <;> decide
  have hkey : key (c :: cs) = none := by
    show keyParts (79 + 1) (c :: cs) = none
    rw [keyParts, Scan.bind_of_some hgaps, Scan.bind_of_none hpart]
  unfold line
  rw [Scan.bind_of_some (accept_of_ne hopen _)]
  show (Scan.accept ['['] >>= _) (c :: cs) = none
  rw [Scan.bind_of_some (accept_of_ne hopen _)]
  exact Scan.bind_of_none hkey

/-- **A header does not go on after a string and a comma:** the key in it is the
string, and no bracket follows. -/
theorem key_of_row {items name more : List Char} (hquote : Json.skipBlanks items = '"' :: name)
    (hends : StringEnds name rest) (hcomma : Json.skipBlanks rest = ',' :: more)
    {keys : List String} {rest' : List Char} (h : key items = some (keys, rest')) :
    ∃ x xs, rest' = x :: xs ∧ x ≠ ']' := by
  change keyParts (79 + 1) items = some (keys, rest') at h
  rw [keyParts] at h
  rcases skipGaps_cases hquote with hgaps | ⟨x, xs, hx, hgaps, -⟩
  · rw [Scan.bind_of_some hgaps] at h
    obtain ⟨part, after, hpart, h⟩ := Scan.bind_eq_some.mp h
    -- the part of the key is the string
    have hafter : after = rest := by
      change lineText '"' name = some (part, after) at hpart
      obtain ⟨_, _, hlength, hline⟩ := Scan.bind_eq_some.mp hpart
      cases hlength
      obtain ⟨_, _, hchars, hend⟩ := Scan.bind_eq_some.mp hline
      cases hend
      exact lineTextAfter_ends hends hchars
    subst hafter
    have hstop : ∃ x xs, (x = ',' ∨ x = '\n' ∨ x = '\r') ∧ skipGaps after = some ((), x :: xs) := by
      rcases skipGaps_cases hcomma with hgaps | ⟨x, xs, hx, hgaps, -⟩
      · exact ⟨_, _, .inl rfl, hgaps⟩
      · exact ⟨x, xs, .inr hx, hgaps⟩
    obtain ⟨x, xs, hx, hgaps⟩ := hstop
    have hdot : Scan.accept ['.'] (x :: xs) = some (false, x :: xs) :=
      accept_of_ne (by rcases hx with rfl | rfl | rfl <;> decide) _
    rw [Scan.bind_of_some hgaps, Scan.bind_of_some hdot] at h
    cases h
    exact ⟨x, xs, rfl, by rcases hx with rfl | rfl | rfl <;> decide⟩
  · rw [Scan.bind_of_some hgaps, Scan.bind_of_none (keyPart_of_lineEnd hx)] at h
    cases h

theorem line_eq_none_of_row {items name more : List Char}
    (hquote : Json.skipBlanks items = '"' :: name) (hends : StringEnds name rest)
    (hcomma : Json.skipBlanks rest = ',' :: more) (p : Progress) :
    line p ('[' :: items) = none := by
  have hitem : Scan.accept ['[', '['] ('[' :: items) = some (false, '[' :: items) := by
    cases items with
    | nil => cases hquote
    | cons x xs =>
      have hx : '[' ≠ x := by
        rintro rfl
        cases hquote
      exact accept_of_ne_second hx
  have hopen : Scan.accept ['['] ('[' :: items) = some (true, items) := rfl
  unfold line
  rw [Scan.bind_of_some hitem]
  show (Scan.accept ['['] >>= _) ('[' :: items) = none
  rw [Scan.bind_of_some hopen]
  show (key >>= _) items = none
  cases hkey : key items with
  | none => exact Scan.bind_of_none hkey
  | some r =>
    obtain ⟨keys, rest'⟩ := r
    obtain ⟨x, xs, rfl, hx⟩ := key_of_row hquote hends hcomma hkey
    have hclose : Scan.expect ']' (x :: xs) = none := by
      unfold Scan.expect
      rw [Scan.bind_of_some (rfl : Scan.next (x :: xs) = some (x, xs)), if_pos hx]
      rfl
    rw [Scan.bind_of_some hkey]
    exact Scan.bind_of_none hclose

theorem document_eq_none {more : List Char} (hskip : Json.skipBlanks cs = c :: more)
    (hsharp : c ≠ '#') (hline : ∀ p, line p (c :: more) = none) (n : Nat) (p : Progress) :
    document n p cs = none := by
  cases n with
  | zero => rfl
  | succ n =>
    have hafter : ∀ {x xs}, skipAll cs = some ((), x :: xs) → line p (x :: xs) = none →
        document (n + 1) p cs = none := by
      intro x xs hall hnone
      rw [document, Scan.bind_of_some hall]
      show (Scan.peek >>= _) (x :: xs) = none
      rw [Scan.bind_of_some (rfl : Scan.peek (x :: xs) = some (some x, x :: xs))]
      exact Scan.bind_of_none hnone
    cases hall : skipAll cs with
    | none =>
      rw [document]
      exact Scan.bind_of_none hall
    | some r =>
      obtain ⟨⟨⟩, rest⟩ := r
      have hlines : skipLines (cs.length + 1) cs = some ((), rest) := hall
      rcases skipLines_stops hsharp hskip hlines with rfl | ⟨xs, rfl⟩
      · exact hafter hall (hline p)
      · exact hafter hall (line_eq_none_of_head (.inr rfl) p)

/-- **No text of a record is a document.** -/
theorem read_eq_none {text : String} (h : Json.BeginsRecord text.toList) : read text = none := by
  have hdocument : ∀ n p, document n p text.toList = none := by
    cases h with
    | object hskip =>
      exact document_eq_none hskip (by decide) (line_eq_none_of_head (.inl rfl))
    | row hskip hquote hends hcomma =>
      exact document_eq_none hskip (by decide) (line_eq_none_of_row hquote hends hcomma)
  have hmark : ∀ cs, text.toList ≠ '\uFEFF' :: cs := by
    intro cs hcs
    rw [hcs] at h
    cases h with
    | object hskip => cases hskip
    | row hskip _ _ _ => cases hskip
  unfold read
  split
  · rename_i cs hcs
    exact absurd hcs (hmark cs)
  · unfold Scan.whole
    simp only [hdocument]

end Toml

namespace Config

/-- **A text that is read as a record is not read as a configuration.** -/
theorem ofText_of_record {text : String} {c : Character}
    (h : Json.decode Character.read text = .ok c) : Config.ofText text = .error .config := by
  unfold ofText
  rw [Toml.read_eq_none (Json.beginsRecord_of_decode h)]
  rfl

end Config
end Tabletop
