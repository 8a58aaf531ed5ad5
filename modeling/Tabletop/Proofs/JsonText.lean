/-
# What is written as JSON is read back

A value is written in some layout and read again: the draft that the reader
finds is the value's own, and the text after it is left alone. The statement
is about a value in front of any rest (`readValue_render`), so that the parts of
an array or an object can use it; only a number needs the rest to end it. The
fuel of the reader is counted in the length of the text: two steps for each
character are enough.

Integers are read as such from -2^63 up to 2^64 - 1 only (`Json.Fits`).

Key definitions: `Json.Fits`, `Json.Layout.Blank`, `Json.NumberEnds`,
`Json.writtenPiece`.
Key theorems: `Json.readString_quote`, `Json.readScalar_integer`,
`Json.readValue_render`, `Json.decode_render`, `Json.ofText_compact`,
`Json.decode_pretty`.
-/
import Mathlib.Algebra.Group.Int.Defs
import Mathlib.Algebra.Group.Nat.Defs
import Tabletop.Json.Decode
import Tabletop.Json.Printer
import Tabletop.Proofs.DigitRuns

namespace Tabletop
namespace Json

open Decimal

/-! ### Strings -/

/-- The part of a string that a character is written as: a unit where there is
no shorter escape for a control character. -/
def writtenPiece (c : Char) : Piece :=
  if c ∈ ['\n', '\r', '\t', '\x08', '\x0c'] then .char c
  else if c.toNat < 0x20 then .unit c.toNat
  else .char c

theorem hexUnit_low : ∀ n < 0x20,
    hexUnit '0' '0' (Nat.digitChar (n / 16)) (Nat.digitChar (n % 16)) = some n := by
  decide

theorem readPieces_plain {c : Char} (hq : c ≠ '"') (hb : c ≠ '\\') (hlow : ¬ c.toNat < 0x20)
    (rest : List Char) :
    readPieces (c :: rest) = (readPieces rest).map fun p => (.char c :: p.1, p.2) := by
  rw [readPieces.eq_def]
  split
  · rename_i h; cases h
  · rename_i h; exact absurd (List.cons.inj h).1 hq
  · rename_i h; exact absurd (List.cons.inj h).1 hb
  · rename_i h; exact absurd (List.cons.inj h).1 hb
  · rename_i h
    obtain ⟨rfl, rfl⟩ := List.cons.inj h
    simp [hb, hlow]

/-- **A character is read back as the part it is written as.** -/
theorem readPieces_escapeChar (c : Char) (rest : List Char) :
    readPieces (escapeChar c ++ rest) =
      (readPieces rest).map fun p => (writtenPiece c :: p.1, p.2) := by
  unfold escapeChar
  by_cases hq : c = '"'
  · subst hq
    cases h : readPieces rest <;> simp [readPieces, escaped, writtenPiece, h]
  by_cases hb : c = '\\'
  · subst hb
    cases h : readPieces rest <;> simp [readPieces, escaped, writtenPiece, h]
  by_cases hn : c = '\n'
  · subst hn
    cases h : readPieces rest <;> simp [readPieces, escaped, writtenPiece, h]
  by_cases hr : c = '\r'
  · subst hr
    cases h : readPieces rest <;> simp [readPieces, escaped, writtenPiece, h]
  by_cases ht : c = '\t'
  · subst ht
    cases h : readPieces rest <;> simp [readPieces, escaped, writtenPiece, h]
  by_cases h8 : c = '\x08'
  · subst h8
    cases h : readPieces rest <;> simp [readPieces, escaped, writtenPiece, h]
  by_cases hc : c = '\x0c'
  · subst hc
    cases h : readPieces rest <;> simp [readPieces, escaped, writtenPiece, h]
  have hnone : c ∉ ['\n', '\r', '\t', '\x08', '\x0c'] := by simp [hn, hr, ht, h8, hc]
  unfold writtenPiece
  simp only [hq, hb, hn, hr, ht, h8, hc, hnone, if_false]
  by_cases hlow : c.toNat < 0x20
  · rw [if_pos hlow, if_pos hlow]
    cases h : readPieces rest <;> simp [readPieces, hexUnit_low c.toNat hlow, h]
  · rw [if_neg hlow, if_neg hlow]
    exact readPieces_plain hq hb hlow rest

theorem readPieces_quote (cs rest : List Char) :
    readPieces (cs.flatMap escapeChar ++ '"' :: rest) = some (cs.map writtenPiece, rest) := by
  induction cs with
  | nil => simp [readPieces]
  | cons c cs ih =>
    rw [List.flatMap_cons, List.append_assoc, readPieces_escapeChar, ih]
    rfl

/-- A unit below the surrogates stands for itself, whatever follows. -/
theorem assemble_low {n : Nat} (h : n < 0x20) (ps : List Piece) :
    assemble (.unit n :: ps) = (assemble ps).map (Char.ofNat n :: ·) := by
  have h1 : ¬ 0xD800 ≤ n := by omega
  have h2 : ¬ 0xDC00 ≤ n := by omega
  cases ps with
  | nil => simp [assemble, h1]
  | cons p ps =>
    cases p with
    | char c => simp [assemble, h1]
    | unit lo => simp [assemble, h1, h2]

theorem assemble_writtenPiece (c : Char) (ps : List Piece) :
    assemble (writtenPiece c :: ps) = (assemble ps).map (c :: ·) := by
  unfold writtenPiece
  split
  · simp [assemble]
  · split
    · rename_i hlow
      rw [assemble_low hlow, Char.ofNat_toNat]
    · simp [assemble]

/-- The parts of a text are put together to the text. -/
theorem assemble_written (cs : List Char) : assemble (cs.map writtenPiece) = some cs := by
  induction cs with
  | nil => rfl
  | cons c cs ih =>
    rw [List.map_cons, assemble_writtenPiece, ih]
    rfl

/-- **A quoted string is read back,** whatever follows its closing quote. -/
theorem readString_quote (s : String) (rest : List Char) :
    readString (s.toList.flatMap escapeChar ++ '"' :: rest) = (.string s, rest) := by
  unfold readString
  rw [readPieces_quote]
  simp only [assemble_written, String.ofList_toList]

/-! ### Numbers -/

/-- A text that does not go on with what belongs to a number. -/
def NumberEnds (rest : List Char) : Prop :=
  ∀ c ∈ rest.head?, c.isDigit = false ∧ c ≠ '.' ∧ c ≠ 'e' ∧ c ≠ 'E'

theorem numberEnds_cons {c : Char}
    (h : c.isDigit = false ∧ c ≠ '.' ∧ c ≠ 'e' ∧ c ≠ 'E') (cs : List Char) :
    NumberEnds (c :: cs) := fun x hx => by
  obtain rfl : c = x := by simpa using hx
  exact h

theorem NumberEnds.runEnds {rest : List Char} (h : NumberEnds rest) : RunEnds rest :=
  fun c hc => (h c hc).1

theorem readDigits_digits (n : Nat) {rest : List Char} (h : RunEnds rest) :
    readDigits (digits n ++ rest) = some (digits n, rest) := by
  unfold readDigits
  rw [takeWhile_run (isRun_digits n) h, dropWhile_run (isRun_digits n) h]
  split
  · rename_i he
    exact absurd he (digits_ne_nil n)
  · rfl

theorem readWhole_digits (n : Nat) {rest : List Char} (h : RunEnds rest) :
    readWhole (digits n ++ rest) = some (digits n, rest) := by
  unfold readWhole
  rw [readDigits_digits n h]
  split
  · rename_i he
    -- a zero in front of another digit: then the number is zero, which has one digit
    obtain ⟨he, -⟩ := Prod.mk.inj (Option.some.inj he)
    have h0 := digits_eq_zero_cons he
    subst h0
    cases he
  · rfl

theorem readFraction_none {rest : List Char} (h : NumberEnds rest) :
    readFraction rest = some ([], rest) := by
  unfold readFraction
  split
  · exact absurd rfl (h '.' (by simp)).2.1
  · rfl

theorem readExponent_none {rest : List Char} (h : NumberEnds rest) :
    readExponent rest = some (none, rest) := by
  unfold readExponent
  split
  · rename_i c rest
    obtain ⟨-, -, he, hE⟩ := h c (by simp)
    rw [if_neg (by simp [he, hE])]
  · rfl

theorem readNumber_digits (negative : Bool) (n : Nat) {rest : List Char} (h : NumberEnds rest) :
    readNumber negative (digits n ++ rest) =
      (RealText.draft ⟨negative, digits n, [], none⟩, rest) := by
  unfold readNumber
  simp only [readWhole_digits n h.runEnds, readFraction_none h, readExponent_none h]

theorem readScalar_digit {c : Char} (h : c.isDigit = true) (cs : List Char) :
    readScalar (c :: cs) = readNumber false (c :: cs) := by
  unfold readScalar
  split <;> rename_i he
  · rw [(List.cons.inj he).1] at h; cases h
  · rw [(List.cons.inj he).1] at h; cases h
  · rw [(List.cons.inj he).1] at h; cases h
  · rw [(List.cons.inj he).1] at h; cases h
  · rw [(List.cons.inj he).1] at h; cases h
  · rfl

theorem draft_negative {n : Nat} (h : 0 < n ∧ n ≤ 2 ^ 63) :
    RealText.draft ⟨true, digits n, [], none⟩ = .integer (-(n : Int)) := by
  have hlow : Int64.minValue.toInt = -2 ^ 63 := rfl
  show (if (decide (0 < value (digits n)) &&
      decide (Int64.minValue.toInt ≤ -(value (digits n) : Int))) = true then
    Draft.integer (-(value (digits n) : Int)) else _) = _
  rw [value_digits, hlow, if_pos]
  rw [Bool.and_eq_true, decide_eq_true_eq, decide_eq_true_eq]
  omega

theorem draft_positive {n : Nat} (h : n < 2 ^ 64) :
    RealText.draft ⟨false, digits n, [], none⟩ = .integer n := by
  show (if value (digits n) < 2 ^ 64 then Draft.integer (value (digits n)) else _) = _
  rw [value_digits, if_pos h]

/-- **An integer of 64 bits, with or without a sign, is read back.** -/
theorem readScalar_integer {n : Int} (hlo : -2 ^ 63 ≤ n) (hhi : n < 2 ^ 64) {rest : List Char}
    (h : NumberEnds rest) : readScalar (Decimal.integer n ++ rest) = (.integer n, rest) := by
  unfold Decimal.integer
  by_cases hn : n < 0
  · rw [if_pos hn]
    show readNumber true (digits n.natAbs ++ rest) = _
    rw [readNumber_digits true _ h]
    have h1 : 0 < n.natAbs ∧ n.natAbs ≤ 2 ^ 63 := by omega
    have h2 : -(n.natAbs : Int) = n := by omega
    rw [draft_negative h1, h2]
  · rw [if_neg hn]
    obtain ⟨d, ds, hd⟩ := List.exists_cons_of_ne_nil (digits_ne_nil n.natAbs)
    have hdig : d.isDigit = true := isRun_digits n.natAbs d (by rw [hd]; exact List.mem_cons_self)
    rw [hd, List.cons_append, readScalar_digit hdig, ← List.cons_append, ← hd,
      readNumber_digits false _ h]
    have h1 : n.natAbs < 2 ^ 64 := by omega
    have h2 : (n.natAbs : Int) = n := by omega
    rw [draft_positive h1, h2]

/-! ### Blanks -/

/-- A layout that puts nothing but blanks between the tokens. -/
structure Layout.Blank (l : Layout) : Prop where
  gap : ∀ depth, ∀ c ∈ l.gap depth, isGap c = true
  afterColon : ∀ c ∈ l.afterColon, isGap c = true

theorem blank_tight : tight.Blank where
  gap _ _ h := by cases h
  afterColon _ h := by cases h

theorem blank_roomy : roomy.Blank where
  gap depth c h := by
    rcases List.mem_cons.mp h with rfl | h
    · rfl
    · rw [List.eq_of_mem_replicate h]
      rfl
  afterColon c h := by
    rw [List.mem_singleton.mp h]
    rfl

theorem skipBlanks_append {g : List Char} (h : ∀ c ∈ g, isGap c = true) (cs : List Char) :
    skipBlanks (g ++ cs) = skipBlanks cs :=
  List.dropWhile_append_of_pos h

theorem skipBlanks_cons {c : Char} (h : isGap c = false) (cs : List Char) :
    skipBlanks (c :: cs) = c :: cs := by
  unfold skipBlanks
  rw [List.dropWhile_cons, h]
  rfl

theorem numberEnds_gap {c : Char} (h : isGap c = true) (cs : List Char) :
    NumberEnds (c :: cs) := by
  refine numberEnds_cons ?_ cs
  simp only [isGap, Bool.or_eq_true, beq_iff_eq] at h
  rcases h with ((rfl | rfl) | rfl) | rfl <;> decide

theorem numberEnds_append {g cs : List Char} (h : ∀ c ∈ g, isGap c = true)
    (hcs : NumberEnds cs) : NumberEnds (g ++ cs) := by
  cases g with
  | nil => exact hcs
  | cons c g => exact numberEnds_gap (h c List.mem_cons_self) _

/-! ### Values that are read back -/

mutual

/-- Every number of the value fits into 64 bits, with or without a sign. -/
def Fits : Json → Prop
  | .null => True
  | .bool _ => True
  | .number n => -2 ^ 63 ≤ n ∧ n < 2 ^ 64
  | .string _ => True
  | .array items => FitItems items
  | .object members => FitMembers members

/-- Every number of the items fits. -/
def FitItems : List Json → Prop
  | [] => True
  | x :: xs => x.Fits ∧ FitItems xs

/-- Every number of the members fits. -/
def FitMembers : List (String × Json) → Prop
  | [] => True
  | (_, x) :: xs => x.Fits ∧ FitMembers xs

end

/-! ### Steps of the reader -/

section Steps

variable {n : Nat} {c : Char} {g cs : List Char}

theorem readValue_append (h : ∀ c ∈ g, isGap c = true) (cs : List Char) :
    readValue n (g ++ cs) = readValue n cs := by
  cases n with
  | zero => rfl
  | succ n => simp only [readValue, skipBlanks_append h]

theorem readMember_append (h : ∀ c ∈ g, isGap c = true) (cs : List Char) :
    readMember n (g ++ cs) = readMember n cs := by
  cases n with
  | zero => rfl
  | succ n => simp only [readMember, skipBlanks_append h]

theorem readValue_scalar (hg : isGap c = false) (h1 : c ≠ '[') (h2 : c ≠ '\x7b') :
    readValue (n + 1) (c :: cs) = readScalar (c :: cs) := by
  unfold readValue
  rw [skipBlanks_cons hg]
  split
  · rename_i h; exact absurd (List.cons.inj h).1 h1
  · rename_i h; exact absurd (List.cons.inj h).1 h2
  · rfl

theorem readValue_array {rest : List Char} (hs : skipBlanks rest = c :: cs) (h : c ≠ ']') :
    readValue (n + 1) ('[' :: rest) =
      (.array (.cons (readValue n (c :: cs)).1 (readItems n (readValue n (c :: cs)).2).1),
        (readItems n (readValue n (c :: cs)).2).2) := by
  rw [readValue, skipBlanks_cons (by decide)]
  simp only [hs]
  split
  · rename_i h'; exact absurd (List.cons.inj h').1 h
  · rfl

theorem readValue_object {rest : List Char} (hs : skipBlanks rest = c :: cs) (h : c ≠ '\x7d') :
    readValue (n + 1) ('\x7b' :: rest) =
      (.object (readMember n (c :: cs)).1, (readMember n (c :: cs)).2) := by
  rw [readValue, skipBlanks_cons (by decide)]
  simp only [hs]
  split
  · rename_i h'; exact absurd (List.cons.inj h').1 h
  · rfl

theorem readItems_close (h : ∀ c ∈ g, isGap c = true) (rest : List Char) :
    readItems (n + 1) (g ++ ']' :: rest) = (.closed, rest) := by
  rw [readItems, skipBlanks_append h, skipBlanks_cons (by decide)]
  rfl

theorem readItems_next (rest : List Char) :
    readItems (n + 1) (',' :: rest) =
      (.cons (readValue n rest).1 (readItems n (readValue n rest).2).1,
        (readItems n (readValue n rest).2).2) := by
  rw [readItems, skipBlanks_cons (by decide)]
  rfl

theorem readMember_quote (k : String) (rest : List Char) :
    readMember (n + 1) (quote k ++ ':' :: rest) =
      (.cons (.string k) (readValue n rest).1 (readMembers n (readValue n rest).2).1,
        (readMembers n (readValue n rest).2).2) := by
  unfold quote
  rw [readMember, List.cons_append, List.cons_append, skipBlanks_cons (by decide)]
  simp only [List.append_assoc, List.cons_append, List.nil_append, readString_quote]
  rw [skipBlanks_cons (by decide)]
  rfl

theorem readMembers_close (h : ∀ c ∈ g, isGap c = true) (rest : List Char) :
    readMembers (n + 1) (g ++ '\x7d' :: rest) = (.closed, rest) := by
  rw [readMembers, skipBlanks_append h, skipBlanks_cons (by decide)]
  rfl

theorem readMembers_next (rest : List Char) :
    readMembers (n + 1) (',' :: rest) = readMember n rest := by
  rw [readMembers, skipBlanks_cons (by decide)]
  rfl

end Steps

/-! ### What a written value looks like -/

theorem integer_eq_cons (n : Int) :
    ∃ c cs, Decimal.integer n = c :: cs ∧ (c = '-' ∨ c.isDigit = true) := by
  unfold Decimal.integer
  split
  · exact ⟨_, _, rfl, .inl rfl⟩
  · obtain ⟨d, ds, hd⟩ := List.exists_cons_of_ne_nil (digits_ne_nil n.natAbs)
    exact ⟨d, ds, hd, .inr (isRun_digits n.natAbs d (by rw [hd]; exact List.mem_cons_self))⟩

theorem isGap_of_isDigit {c : Char} (h : c.isDigit = true) : isGap c = false := by
  cases hg : isGap c with
  | false => rfl
  | true => rw [((numberEnds_gap hg []) c rfl).1] at h; cases h

/-- A written value begins with no blank and no bracket that closes. -/
theorem render_eq_cons (l : Layout) (depth : Nat) (j : Json) :
    ∃ c cs, render l depth j = c :: cs ∧ isGap c = false ∧ c ≠ ']' := by
  cases j with
  | null => exact ⟨_, _, rfl, by decide, by decide⟩
  | bool b => cases b <;> exact ⟨_, _, rfl, by decide, by decide⟩
  | number n =>
    obtain ⟨c, cs, hc, hd⟩ := integer_eq_cons n
    refine ⟨c, cs, by rw [render]; exact hc, ?_⟩
    rcases hd with rfl | hd
    · decide
    · exact ⟨isGap_of_isDigit hd, by rintro rfl; cases hd⟩
  | string s => exact ⟨_, _, rfl, by decide, by decide⟩
  | array xs =>
    cases xs with
    | nil => exact ⟨_, _, rfl, by decide, by decide⟩
    | cons x xs => exact ⟨_, _, by rw [render]; rfl, by decide, by decide⟩
  | object xs =>
    cases xs with
    | nil => exact ⟨_, _, rfl, by decide, by decide⟩
    | cons e xs =>
      obtain ⟨k, x⟩ := e
      exact ⟨_, _, by rw [render]; rfl, by decide, by decide⟩

theorem length_render_pos (l : Layout) (depth : Nat) (j : Json) :
    0 < (render l depth j).length := by
  obtain ⟨c, cs, h, -⟩ := render_eq_cons l depth j
  rw [h]
  exact Nat.succ_pos _

theorem numberEnds_renderItems {l : Layout} (hl : l.Blank) (depth : Nat) (xs : List Json)
    (rest : List Char) : NumberEnds (renderItems l depth xs ++ rest) := by
  cases xs with
  | nil =>
    rw [renderItems, List.append_assoc]
    exact numberEnds_append (hl.gap _) (numberEnds_cons (by decide) _)
  | cons x xs =>
    rw [renderItems]
    exact numberEnds_cons (by decide) _

theorem numberEnds_renderMembers {l : Layout} (hl : l.Blank) (depth : Nat)
    (xs : List (String × Json)) (rest : List Char) :
    NumberEnds (renderMembers l depth xs ++ rest) := by
  cases xs with
  | nil =>
    rw [renderMembers, List.append_assoc]
    exact numberEnds_append (hl.gap _) (numberEnds_cons (by decide) _)
  | cons e xs =>
    obtain ⟨k, x⟩ := e
    rw [renderMembers]
    exact numberEnds_cons (by decide) _

/-- A member and those after it, as they are written. -/
def renderMember (l : Layout) (depth : Nat) (k : String) (x : Json) (xs : List (String × Json)) :
    List Char :=
  quote k ++ ':' :: (l.afterColon ++ (render l (depth + 1) x ++ renderMembers l depth xs))

theorem render_array_cons (l : Layout) (depth : Nat) (x : Json) (xs : List Json) :
    render l depth (.array (x :: xs)) =
      '[' :: (l.gap (depth + 1) ++ (render l (depth + 1) x ++ renderItems l depth xs)) := by
  rw [render]
  simp

theorem renderItems_cons (l : Layout) (depth : Nat) (x : Json) (xs : List Json) :
    renderItems l depth (x :: xs) =
      ',' :: (l.gap (depth + 1) ++ (render l (depth + 1) x ++ renderItems l depth xs)) := by
  rw [renderItems]
  simp

theorem render_object_cons (l : Layout) (depth : Nat) (k : String) (x : Json)
    (xs : List (String × Json)) :
    render l depth (.object ((k, x) :: xs)) =
      '\x7b' :: (l.gap (depth + 1) ++ renderMember l depth k x xs) := by
  rw [render, renderMember]
  simp

theorem renderMembers_cons (l : Layout) (depth : Nat) (k : String) (x : Json)
    (xs : List (String × Json)) :
    renderMembers l depth ((k, x) :: xs) =
      ',' :: (l.gap (depth + 1) ++ renderMember l depth k x xs) := by
  rw [renderMembers, renderMember]
  simp

theorem length_renderItems_pos (l : Layout) (depth : Nat) (xs : List Json) :
    0 < (renderItems l depth xs).length := by
  cases xs with
  | nil => simp [renderItems]
  | cons x xs => rw [renderItems_cons]; exact Nat.succ_pos _

theorem length_renderMembers_pos (l : Layout) (depth : Nat) (xs : List (String × Json)) :
    0 < (renderMembers l depth xs).length := by
  cases xs with
  | nil => simp [renderMembers]
  | cons e xs => rw [renderMembers_cons]; exact Nat.succ_pos _

/-- A member has two quotes and a colon besides its value. -/
theorem length_renderMember (l : Layout) (depth : Nat) (k : String) (x : Json)
    (xs : List (String × Json)) :
    (render l (depth + 1) x).length + (renderMembers l depth xs).length + 3 ≤
      (renderMember l depth k x xs).length := by
  unfold renderMember quote
  simp only [List.length_append, List.length_cons, List.length_nil]
  omega

theorem readMember_renderMember {l : Layout} (hl : l.Blank) {depth n : Nat} {k : String}
    {x : Json} {xs : List (String × Json)} {rest : List Char}
    (hx : readValue n (render l (depth + 1) x ++ (renderMembers l depth xs ++ rest)) =
      (draft x, renderMembers l depth xs ++ rest))
    (hxs : readMembers n (renderMembers l depth xs ++ rest) = (draftMembers xs, rest)) :
    readMember (n + 1) (renderMember l depth k x xs ++ rest) =
      (.cons (.string k) (draft x) (draftMembers xs), rest) := by
  unfold renderMember
  rw [List.append_assoc, List.cons_append, readMember_quote, List.append_assoc,
    readValue_append hl.afterColon, List.append_assoc, hx]
  simp only [hxs]

/-! ### The round trip -/

mutual

/-- **A written value is read back,** in front of any rest that ends a number.
Two steps for each character are enough. -/
theorem readValue_render {l : Layout} (hl : l.Blank) : ∀ (j : Json) (depth n : Nat)
    (rest : List Char), j.Fits → NumberEnds rest → 2 * (render l depth j).length ≤ n →
    readValue n (render l depth j ++ rest) = (draft j, rest)
  | j, depth, 0, _, _, _, hn => by
    have := length_render_pos l depth j
    omega
  | .null, _, _ + 1, _, _, _, _ => readValue_scalar (by decide) (by decide) (by decide)
  | .bool true, _, _ + 1, _, _, _, _ => readValue_scalar (by decide) (by decide) (by decide)
  | .bool false, _, _ + 1, _, _, _, _ => readValue_scalar (by decide) (by decide) (by decide)
  | .number i, depth, n + 1, rest, hf, hr, _ => by
    obtain ⟨c, cs, hc, hd⟩ := integer_eq_cons i
    have hstart : isGap c = false ∧ c ≠ '[' ∧ c ≠ '\x7b' := by
      rcases hd with rfl | hd
      · decide
      · exact ⟨isGap_of_isDigit hd, (by rintro rfl; cases hd), (by rintro rfl; cases hd)⟩
    rw [render, hc, List.cons_append, readValue_scalar hstart.1 hstart.2.1 hstart.2.2,
      ← List.cons_append, ← hc, readScalar_integer hf.1 hf.2 hr, draft]
  | .string s, _, _ + 1, rest, _, _, _ => by
    show readValue _ ('"' :: (s.toList.flatMap escapeChar ++ ['"'] ++ rest)) = _
    rw [readValue_scalar (by decide) (by decide) (by decide), List.append_assoc]
    exact readString_quote s rest
  | .array [], _, _ + 1, rest, _, _, _ => by
    rw [render, readValue]
    rfl
  | .array (x :: xs), depth, n + 1, rest, hf, _, hn => by
    obtain ⟨c, cs, hc, hg, hne⟩ := render_eq_cons l (depth + 1) x
    rw [render_array_cons, List.length_cons, List.length_append, List.length_append] at hn
    have hx := readValue_render hl x (depth + 1) n (renderItems l depth xs ++ rest) hf.1
      (numberEnds_renderItems hl depth xs rest) (by omega)
    have hxs := readItems_render hl xs depth n rest hf.2 (by omega)
    have hs : skipBlanks (l.gap (depth + 1) ++ (render l (depth + 1) x ++
        renderItems l depth xs) ++ rest) = c :: (cs ++ (renderItems l depth xs ++ rest)) := by
      rw [List.append_assoc, skipBlanks_append (hl.gap _), List.append_assoc, hc,
        List.cons_append, skipBlanks_cons hg]
    rw [render_array_cons, List.cons_append, readValue_array hs hne, ← List.cons_append, ← hc, hx]
    simp only [hxs]
    rfl
  | .object [], _, _ + 1, rest, _, _, _ => by
    rw [render, readValue]
    rfl
  | .object ((k, x) :: xs), depth, n + 1, rest, hf, _, hn => by
    have hlen := length_renderMember l depth k x xs
    rw [render_object_cons, List.length_cons, List.length_append] at hn
    -- one step goes to the bracket, the next one to the key
    obtain ⟨m, rfl⟩ : ∃ m, n = m + 1 := ⟨n - 1, by omega⟩
    have hx := readValue_render hl x (depth + 1) m (renderMembers l depth xs ++ rest) hf.1
      (numberEnds_renderMembers hl depth xs rest) (by omega)
    have hxs := readMembers_render hl xs depth m rest hf.2 (by omega)
    have hm := readMember_renderMember hl hx hxs (k := k)
    have hs : skipBlanks (l.gap (depth + 1) ++ renderMember l depth k x xs ++ rest) =
        '"' :: ((renderMember l depth k x xs).tail ++ rest) := by
      rw [List.append_assoc, skipBlanks_append (hl.gap _)]
      exact skipBlanks_cons (by decide) _
    rw [render_object_cons, List.cons_append, readValue_object hs (by decide)]
    show (Draft.object (readMember (m + 1) (renderMember l depth k x xs ++ rest)).1,
      (readMember (m + 1) (renderMember l depth k x xs ++ rest)).2) = _
    rw [hm]
    rfl

theorem readItems_render {l : Layout} (hl : l.Blank) : ∀ (xs : List Json) (depth n : Nat)
    (rest : List Char), FitItems xs → 2 * (renderItems l depth xs).length ≤ n →
    readItems n (renderItems l depth xs ++ rest) = (draftItems xs, rest)
  | xs, depth, 0, _, _, hn => by
    have := length_renderItems_pos l depth xs
    omega
  | [], depth, n + 1, rest, _, _ => by
    rw [renderItems, List.append_assoc]
    exact readItems_close (hl.gap depth) rest
  | x :: xs, depth, n + 1, rest, hf, hn => by
    rw [renderItems_cons, List.length_cons, List.length_append, List.length_append] at hn
    have hx := readValue_render hl x (depth + 1) n (renderItems l depth xs ++ rest) hf.1
      (numberEnds_renderItems hl depth xs rest) (by omega)
    have hxs := readItems_render hl xs depth n rest hf.2 (by omega)
    rw [renderItems_cons, List.cons_append, readItems_next, List.append_assoc,
      readValue_append (hl.gap _), List.append_assoc, hx]
    simp only [hxs]
    rfl

theorem readMembers_render {l : Layout} (hl : l.Blank) : ∀ (xs : List (String × Json))
    (depth n : Nat) (rest : List Char), FitMembers xs →
    2 * (renderMembers l depth xs).length ≤ n →
    readMembers n (renderMembers l depth xs ++ rest) = (draftMembers xs, rest)
  | xs, depth, 0, _, _, hn => by
    have := length_renderMembers_pos l depth xs
    omega
  | [], depth, n + 1, rest, _, _ => by
    rw [renderMembers, List.append_assoc]
    exact readMembers_close (hl.gap depth) rest
  | (k, x) :: xs, depth, n + 1, rest, hf, hn => by
    have hlen := length_renderMember l depth k x xs
    rw [renderMembers_cons, List.length_cons, List.length_append] at hn
    obtain ⟨m, rfl⟩ : ∃ m, n = m + 1 := ⟨n - 1, by omega⟩
    have hx := readValue_render hl x (depth + 1) m (renderMembers l depth xs ++ rest) hf.1
      (numberEnds_renderMembers hl depth xs rest) (by omega)
    have hxs := readMembers_render hl xs depth m rest hf.2 (by omega)
    rw [renderMembers_cons, List.cons_append, readMembers_next, List.append_assoc,
      readMember_append (hl.gap _), readMember_renderMember hl hx hxs]
    rfl

end

/-! ### Whole texts -/

/-- A written value with blanks after it is a whole document. -/
theorem ofText_render {l : Layout} (hl : l.Blank) {j : Json} (hj : j.Fits) {tail : List Char}
    (ht : ∀ c ∈ tail, isGap c = true) :
    Document.ofText (String.ofList (render l 0 j ++ tail)) = ⟨draft j, true⟩ := by
  have hnum : NumberEnds tail := by
    have h : NumberEnds (tail ++ []) := numberEnds_append ht fun _ h => by cases h
    rwa [List.append_nil] at h
  have hblank : skipBlanks tail = [] := by
    have := skipBlanks_append ht []
    rwa [List.append_nil] at this
  unfold Document.ofText
  simp only [String.toList_ofList]
  rw [readValue_render hl j 0 _ tail hj hnum (by rw [List.length_append]; omega)]
  simp only [hblank]
  rfl

theorem decode_of_ofText {α : Type} (r : Reader α) {s : String} {d : Draft}
    (h : Document.ofText s = ⟨d, true⟩) : decode r s = r .text d := by
  unfold decode
  rw [h]
  show (r .text d >>= fun a => if true then pure a else .error .malformed) = _
  cases r .text d <;> rfl

/-- **Decoding a written value is reading its draft.** -/
theorem decode_render {α : Type} (r : Reader α) {l : Layout} (hl : l.Blank) {j : Json}
    (hj : j.Fits) {tail : List Char} (ht : ∀ c ∈ tail, isGap c = true) :
    decode r (String.ofList (render l 0 j ++ tail)) = r .text (draft j) :=
  decode_of_ofText r (ofText_render hl hj ht)

theorem ofText_compact {j : Json} (hj : j.Fits) : Document.ofText j.compact = ⟨draft j, true⟩ := by
  have hnone : ∀ c ∈ ([] : List Char), isGap c = true := fun _ h => by cases h
  have h := ofText_render blank_tight hj hnone
  rw [List.append_nil] at h
  exact h

theorem decode_pretty {α : Type} (r : Reader α) {j : Json} (hj : j.Fits) :
    decode r (j.pretty ++ "\n") = r .text (draft j) := by
  have h : j.pretty ++ "\n" = String.ofList (render roomy 0 j ++ ['\n']) := by
    rw [String.ofList_append]
    rfl
  rw [h]
  refine decode_render r blank_roomy hj fun c hc => ?_
  rw [List.mem_singleton.mp hc]
  rfl

end Json
end Tabletop
