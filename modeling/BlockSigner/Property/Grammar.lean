import BlockSigner.Json.Compact

/-! # The text of a properties file

The format that `java.util.Properties.load` reads. Natural lines are one line
where a backslash stands before their end, blank lines and comments do not
count, and what remains is a key and an element to a line, in which backslashes
escape.
-/

namespace Property

open Json (OneLine)

def isBlank (c : Char) : Bool := c == ' ' || c == '\t' || c == '\x0c'

def isSeparator (c : Char) : Bool := c == '=' || c == ':'

def isMark (c : Char) : Bool := c == '#' || c == '!'

/-- A character that a key may have without a backslash. -/
def keyChar (c : Char) : Bool := !(isSeparator c || isBlank c)

/-- What a backslash and this character stand for. -/
def escapeOf (c : Char) : Char :=
  if c = 't' then '\t' else if c = 'r' then '\r' else if c = 'n' then '\n'
  else if c = 'f' then '\x0c' else c

/-- Whether the character after this text is escaped. -/
def escapes : Bool → Text → Bool
  | escaped, [] => escaped
  | escaped, c :: rest => escapes (c == '\\' && !escaped) rest

/-- A line whose end is escaped. -/
def continues (line : Text) : Bool := escapes false line

/-! ## Lines -/

/-- A text and its natural lines. A CR that a LF follows ends the line with it. -/
inductive Lines : Text → List Text → Prop where
  | nil : Lines [] []
  | unfinished {line : Text} : OneLine line → line ≠ [] → Lines line [line]
  | lf {line text : Text} {lines : List Text} : OneLine line → Lines text lines →
      Lines (line ++ '\n' :: text) (line :: lines)
  | crlf {line text : Text} {lines : List Text} : OneLine line → Lines text lines →
      Lines (line ++ '\r' :: '\n' :: text) (line :: lines)
  | cr {line text : Text} {lines : List Text} : OneLine line → text.head? ≠ some '\n' →
      Lines text lines → Lines (line ++ '\r' :: text) (line :: lines)

def Blank (t : Text) : Prop := ∀ c ∈ t, isBlank c = true

/-- A text that no blank could be taken off. -/
def Flush (t : Text) : Prop := ∀ c ∈ t.head?, isBlank c = false

/-- A natural line with an escaped end and what it holds. -/
inductive Piece : Text → Text → Prop where
  | mk {indent piece : Text} : Blank indent → Flush (piece ++ ['\\']) → continues piece = false →
      Piece (indent ++ (piece ++ ['\\'])) piece

/-- Natural lines, all but the last with an escaped end, and the text they hold.
    The blanks they begin with do not count. -/
inductive Spread : List Text → Text → Prop where
  | last {indent line : Text} : Blank indent → Flush line → continues line = false →
      Spread [indent ++ line] line
  | more {line piece rest : Text} {lines : List Text} : Piece line piece → Spread lines rest →
      Spread (line :: lines) (piece ++ rest)

/-- Natural lines that all have an escaped end, and the text they hold. -/
inductive Cut : List Text → Text → Prop where
  | last {line piece : Text} : Piece line piece → Cut [line] piece
  | more {line piece rest : Text} {lines : List Text} : Piece line piece → Cut lines rest →
      Cut (line :: lines) (piece ++ rest)

/-- The first of these lines is no comment. -/
def Unmarked (lines : List Text) : Prop :=
  ∀ line ∈ lines.head?, (line.dropWhile isBlank).head?.any isMark = false

/-- Natural lines and the logical ones among them. -/
inductive Document : List Text → List Text → Prop where
  | nil : Document [] []
  | blank {lines natural logical : List Text} : Spread lines [] → Document natural logical →
      Document (lines ++ natural) logical
  | comment {indent text : Text} {mark : Char} {natural logical : List Text} : Blank indent →
      isMark mark = true → Document natural logical →
      Document ((indent ++ mark :: text) :: natural) logical
  | entry {line : Text} {lines natural logical : List Text} : Spread lines line → line ≠ [] →
      Unmarked lines → Document natural logical → Document (lines ++ natural) (line :: logical)
  | cut {line : Text} {lines : List Text} : Cut lines line → Unmarked lines → Document lines [line]

/-! ## Entries -/

/-- A text with escapes and what it stands for; only the given characters may
    stand for themselves. -/
inductive Written (free : Char → Bool) : Text → Text → Prop where
  | nil : Written free [] []
  | plain {c : Char} {raw text : Text} : free c = true → c ≠ '\\' → Written free raw text →
      Written free (c :: raw) (c :: text)
  | escaped {c : Char} {raw text : Text} : c ≠ 'u' → Written free raw text →
      Written free ('\\' :: c :: raw) (escapeOf c :: text)
  | unicode {a b c d : Char} {unit : Nat} {raw text : Text} : Json.unicodeUnit a b c d = some unit →
      Written free raw text →
      Written free ('\\' :: 'u' :: a :: b :: c :: d :: raw) (Text.codeUnit unit :: text)

/-- What may stand between a key and an element. -/
inductive Gap : Text → Text → Prop where
  | none : Gap [] []
  | blanks {gap raw : Text} : Blank gap → gap ≠ [] →
      (∀ c ∈ raw.head?, isBlank c = false ∧ isSeparator c = false) → Gap gap raw
  | separator {before after raw : Text} {c : Char} : Blank before → isSeparator c = true →
      Blank after → Flush raw → Gap (before ++ c :: after) raw

inductive Entry : Text → Text × Text → Prop where
  | mk {rawKey key gap raw element : Text} : Written keyChar rawKey key → Gap gap raw →
      Written (fun _ => true) raw element → Entry (rawKey ++ (gap ++ raw)) (key, element)

/-- A properties file and its entries in the order of the lines. -/
inductive Denotes : Text → List (Text × Text) → Prop where
  | mk {text : Text} {natural logical : List Text} {entries : List (Text × Text)} :
      Lines text natural → Document natural logical → List.Forall₂ Entry logical entries →
      Denotes text entries

/-! ## Facts -/

theorem escapes_append (escaped : Bool) (s t : Text) :
    escapes escaped (s ++ t) = escapes (escapes escaped s) t := by
  induction s generalizing escaped with
  | nil => rfl
  | cons c s ih => exact ih _

theorem continues_append {s : Text} (ended : continues s = false) (t : Text) :
    continues (s ++ t) = continues t := by
  rw [continues, escapes_append, ← continues, ended, continues]

theorem continues_plain {c : Char} (other : c ≠ '\\') (rest : Text) :
    continues (c :: rest) = continues rest := by
  have flag : (c == '\\') = false := beq_eq_false_iff_ne.mpr other
  rw [continues, escapes, flag]
  rfl

theorem continues_escaped (c : Char) (rest : Text) :
    continues ('\\' :: c :: rest) = continues rest := by
  simp [continues, escapes]

theorem continues_blank {indent : Text} (blank : Blank indent) (rest : Text) :
    continues (indent ++ rest) = continues rest := by
  induction indent with
  | nil => rfl
  | cons c indent ih =>
      have plain : c ≠ '\\' := by
        rintro rfl
        cases blank '\\' List.mem_cons_self
      have tail : Blank indent := fun d member => blank d (List.mem_cons_of_mem c member)
      rw [List.cons_append, continues_plain plain, ih tail]

theorem Gap.continues {gap raw : Text} (h : Gap gap raw) :
    Property.continues (gap ++ raw) = Property.continues raw := by
  cases h with
  | none => rfl
  | blanks blank _ _ => exact continues_blank blank raw
  | @separator before after _ c blank separator blank' _ =>
      have plain : c ≠ '\\' := by
        rintro rfl
        cases separator
      rw [List.append_assoc, continues_blank blank, List.cons_append, continues_plain plain,
        continues_blank blank']

theorem Spread.ended {lines : List Text} {line : Text} (spread : Spread lines line) :
    continues line = false := by
  induction spread with
  | last _ _ ended => exact ended
  | more piece _ ih =>
      cases piece with
      | mk _ _ ended => rwa [continues_append ended]

theorem Cut.ended {lines : List Text} {line : Text} (cut : Cut lines line) :
    continues line = false := by
  induction cut with
  | last piece =>
      cases piece with
      | mk _ _ ended => exact ended
  | more piece _ ih =>
      cases piece with
      | mk _ _ ended => rwa [continues_append ended]

/-- Every logical line of a document is whole. -/
theorem Document.ended {natural logical : List Text} (document : Document natural logical) :
    ∀ line ∈ logical, continues line = false := by
  induction document with
  | nil => simp
  | blank _ _ ih | comment _ _ _ ih => exact ih
  | entry spread _ _ _ ih => exact List.forall_mem_cons.mpr ⟨spread.ended, ih⟩
  | cut cut _ => exact List.forall_mem_singleton.mpr cut.ended

theorem flush_nil : Flush [] := by simp [Flush]

theorem flush_mark {mark : Char} (marked : isMark mark = true) (text : Text) : Flush (mark :: text) := by
  intro c head
  cases head
  revert marked
  simp only [isMark, isBlank, Bool.or_eq_true, beq_iff_eq]
  rintro (rfl | rfl) <;> rfl

theorem flush_separator {c : Char} (separator : isSeparator c = true) (rest : Text) :
    Flush (c :: rest) := by
  intro d head
  cases head
  revert separator
  simp only [isSeparator, isBlank, Bool.or_eq_true, beq_iff_eq]
  rintro (rfl | rfl) <;> rfl

theorem dropWhile_blank {indent line : Text} (blank : Blank indent) (flush : Flush line) :
    (indent ++ line).dropWhile isBlank = line := by
  rw [List.dropWhile_append_of_pos blank]
  cases line with
  | nil => rfl
  | cons c line => exact List.dropWhile_cons_of_neg (by simp [flush c rfl])

/-- Every text is blanks and then a flush text. -/
theorem blank_split (t : Text) :
    ∃ indent, Blank indent ∧ t = indent ++ t.dropWhile isBlank ∧ Flush (t.dropWhile isBlank) := by
  refine ⟨t.takeWhile isBlank, ?_, (List.takeWhile_append_dropWhile).symm, ?_⟩
  · intro c member
    exact List.mem_takeWhile_imp member
  · intro c head
    have stopped := List.head?_dropWhile_not isBlank t
    rw [Option.mem_def.mp head] at stopped
    simpa using stopped

theorem hexDigit_free {c : Char} {n : Nat} (digit : Hex.value? c = some n) :
    keyChar c = true ∧ c ≠ '\\' := by
  have ne : ∀ d, Hex.value? d = none → c ≠ d := by
    rintro d none rfl
    rw [none] at digit
    cases digit
  have eq := ne '=' rfl
  have colon := ne ':' rfl
  have space := ne ' ' rfl
  have tab := ne '\t' rfl
  have feed := ne '\x0c' rfl
  exact ⟨by simp [keyChar, isSeparator, isBlank, eq, colon, space, tab, feed], ne '\\' rfl⟩

end Property
