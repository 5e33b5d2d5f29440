import BlockSigner.Property.Grammar

/-! # Reading a properties file

`java.util.Properties.load`, step by step: lines, logical lines, keys and
elements, escapes. It loads the entries that the grammar gives the text, and
refuses every text that the grammar gives none (`load_iff`).
-/

namespace Property

open Json (OneLine)

/-! ## The reader -/

/-- A character in front of the lines of a stream. -/
def push (c : Char) : List Text → List Text
  | [] => [[c]]
  | line :: lines => (c :: line) :: lines

def naturalLines : Text → List Text
  | [] => []
  | '\n' :: rest => [] :: naturalLines rest
  | '\r' :: '\n' :: rest => [] :: naturalLines rest
  | '\r' :: rest => [] :: naturalLines rest
  | c :: rest => push c (naturalLines rest)

/-- The first argument is the front of a line that was continued. -/
def logicalLines : Option Text → List Text → List Text
  | none, [] => []
  | some front, [] => [front]
  | none, line :: lines =>
      let line := line.dropWhile isBlank
      if line = [] ∨ line.head?.any isMark then logicalLines none lines
      else if continues line then logicalLines (some line.dropLast) lines
      else line :: logicalLines none lines
  | some front, line :: lines =>
      let line := line.dropWhile isBlank
      if continues line then logicalLines (some (front ++ line.dropLast)) lines
      else if front ++ line = [] then logicalLines none lines
      else (front ++ line) :: logicalLines none lines

/-- A key ends before the first blank or separator that is not escaped. -/
def splitKey : Bool → Text → Text × Text
  | _, [] => ([], [])
  | escaped, c :: rest =>
      if !escaped && (isSeparator c || isBlank c) then ([], c :: rest)
      else (c :: (splitKey (c == '\\' && !escaped) rest).1, (splitKey (c == '\\' && !escaped) rest).2)

/-- One separator goes, and the blanks on both sides of it. -/
def dropSeparator (tail : Text) : Text :=
  match tail.dropWhile isBlank with
  | [] => []
  | c :: rest => if isSeparator c then rest.dropWhile isBlank else c :: rest

/-- None for a malformed Unicode escape. -/
def unescape : Text → Option Text
  | [] => some []
  | '\\' :: 'u' :: a :: b :: c :: d :: rest => do
      let unit ← Json.unicodeUnit a b c d
      let text ← unescape rest
      some (Text.codeUnit unit :: text)
  | '\\' :: 'u' :: _ => none
  | '\\' :: c :: rest => do
      let text ← unescape rest
      some (escapeOf c :: text)
  | c :: rest => do
      let text ← unescape rest
      some (c :: text)

def entry (line : Text) : Option (Text × Text) := do
  let key ← unescape (splitKey false line).1
  let element ← unescape (dropSeparator (splitKey false line).2)
  some (key, element)

def load (text : Text) : Option (List (Text × Text)) :=
  (logicalLines none (naturalLines text)).mapM entry

/-- Entries are put one after the other, so the last one with a key counts. -/
def lookup (entries : List (Text × Text)) (key : Text) : Option Text :=
  entries.foldl (fun found entry => if entry.1 = key then some entry.2 else found) none

/-! ## Natural lines -/

theorem naturalLines_cons {c : Char} (plain : Text.isTerminator c = false) (rest : Text) :
    naturalLines (c :: rest) = push c (naturalLines rest) := by
  have lf : c ≠ '\n' := by rintro rfl; cases plain
  have cr : c ≠ '\r' := by rintro rfl; cases plain
  rw [naturalLines]
  · exact lf
  · exact fun _ same _ => cr same
  · exact cr

theorem naturalLines_cr {text : Text} (single : text.head? ≠ some '\n') :
    naturalLines ('\r' :: text) = [] :: naturalLines text := by
  cases text with
  | nil => rfl
  | cons c text =>
      have other : c ≠ '\n' := fun same => single (congrArg some same)
      rw [naturalLines]
      intro rest
      exact fun same => other (List.cons.inj same).1

/-- A line in front of what begins with its end. -/
theorem naturalLines_append {line text : Text} {lines : List Text} (whole : OneLine line)
    (ended : naturalLines text = [] :: lines) : naturalLines (line ++ text) = line :: lines := by
  induction line with
  | nil => exact ended
  | cons c line ih =>
      have plain := whole c List.mem_cons_self
      have rest : OneLine line := fun d member => whole d (List.mem_cons_of_mem c member)
      rw [List.cons_append, naturalLines_cons plain, ih rest, push]

theorem naturalLines_unfinished {line : Text} (whole : OneLine line) (nonempty : line ≠ []) :
    naturalLines line = [line] := by
  induction line with
  | nil => exact absurd rfl nonempty
  | cons c line ih =>
      have plain := whole c List.mem_cons_self
      have rest : OneLine line := fun d member => whole d (List.mem_cons_of_mem c member)
      rw [naturalLines_cons plain]
      cases line with
      | nil => rfl
      | cons d line => rw [ih rest (List.cons_ne_nil d line), push]

theorem Lines.naturalLines {text : Text} {lines : List Text} (h : Lines text lines) :
    Property.naturalLines text = lines := by
  induction h with
  | nil => rfl
  | unfinished whole nonempty => exact naturalLines_unfinished whole nonempty
  | lf whole _ ih => exact naturalLines_append whole (by rw [Property.naturalLines, ih])
  | crlf whole _ ih => exact naturalLines_append whole (by rw [Property.naturalLines, ih])
  | cr whole single _ ih => exact naturalLines_append whole (by rw [naturalLines_cr single, ih])

theorem Lines.push {c : Char} {text : Text} {lines : List Text} (plain : Text.isTerminator c = false)
    (h : Lines text lines) : Lines (c :: text) (Property.push c lines) := by
  cases h with
  | nil => exact .unfinished (.cons plain Json.oneLine_nil) (List.cons_ne_nil c [])
  | unfinished whole _ => exact .unfinished (.cons plain whole) (List.cons_ne_nil c _)
  | lf whole rest => exact .lf (.cons plain whole) rest
  | crlf whole rest => exact .crlf (.cons plain whole) rest
  | cr whole single rest => exact .cr (.cons plain whole) single rest

theorem lines_naturalLines (text : Text) : Lines text (naturalLines text) := by
  fun_induction naturalLines text with
  | case1 => exact .nil
  | case2 rest ih => exact .lf Json.oneLine_nil ih
  | case3 rest ih => exact .crlf Json.oneLine_nil ih
  | case4 rest other ih =>
      refine .cr Json.oneLine_nil ?_ ih
      intro head
      cases rest with
      | nil => cases head
      | cons c rest =>
          cases head
          exact other rest rfl
  | case5 c rest lf _ cr ih =>
      exact ih.push (Text.not_terminator (fun same => lf same) (fun same => cr same))

/-! ## Logical lines -/

theorem Piece.dropped {line piece : Text} (h : Piece line piece) :
    line.dropWhile isBlank = piece ++ ['\\'] := by
  cases h with
  | mk blank flush _ => exact dropWhile_blank blank flush

theorem Piece.continues {line piece : Text} (h : Piece line piece) :
    Property.continues (piece ++ ['\\']) = true := by
  cases h with
  | mk _ _ ended =>
      rw [continues_append ended]
      rfl

/-- What continues ends in a backslash that is not escaped itself. -/
theorem escapes_split {line : Text} {escaped : Bool} (nonempty : line ≠ [])
    (open_ : escapes escaped line = true) :
    ∃ piece, line = piece ++ ['\\'] ∧ escapes escaped piece = false := by
  induction line generalizing escaped with
  | nil => exact absurd rfl nonempty
  | cons c line ih =>
      cases line with
      | nil =>
          simp only [escapes, Bool.and_eq_true, beq_iff_eq, Bool.not_eq_true'] at open_
          exact ⟨[], by rw [open_.1]; rfl, open_.2⟩
      | cons d line =>
          obtain ⟨piece, same, closed⟩ := ih (List.cons_ne_nil d line) open_
          exact ⟨c :: piece, by rw [same]; rfl, closed⟩

theorem piece_of_continues {line : Text} (open_ : continues (line.dropWhile isBlank) = true) :
    Piece line (line.dropWhile isBlank).dropLast := by
  obtain ⟨indent, blank, split, flush⟩ := blank_split line
  have nonempty : line.dropWhile isBlank ≠ [] := by
    intro empty
    rw [empty] at open_
    cases open_
  obtain ⟨piece, same, closed⟩ := escapes_split nonempty open_
  rw [same] at flush split
  rw [same, List.dropLast_concat, split]
  exact .mk blank flush closed

theorem Spread.after {lines : List Text} {line : Text} (spread : Spread lines line) (front : Text)
    (natural : List Text) :
    logicalLines (some front) (lines ++ natural) =
      if front ++ line = [] then logicalLines none natural
      else (front ++ line) :: logicalLines none natural := by
  induction spread generalizing front with
  | last blank flush ended =>
      rw [List.singleton_append, logicalLines, dropWhile_blank blank flush, ended]
      rfl
  | more piece _ ih =>
      rw [List.cons_append, logicalLines, piece.dropped, if_pos piece.continues,
        List.dropLast_concat, ih, List.append_assoc]

theorem Cut.after {lines : List Text} {line : Text} (cut : Cut lines line) (front : Text) :
    logicalLines (some front) lines = [front ++ line] := by
  induction cut generalizing front with
  | last piece =>
      rw [logicalLines, piece.dropped, if_pos piece.continues, List.dropLast_concat, logicalLines]
  | more piece _ ih =>
      rw [logicalLines, piece.dropped, if_pos piece.continues, List.dropLast_concat, ih,
        List.append_assoc]

/-- A first line with an escaped end is neither blank nor a comment. -/
theorem Piece.kept {line piece : Text} {lines : List Text} (h : Piece line piece)
    (unmarked : Unmarked (line :: lines)) :
    ¬ (piece ++ ['\\'] = [] ∨ (piece ++ ['\\']).head?.any isMark = true) := by
  have plain := unmarked line rfl
  rw [h.dropped] at plain
  rw [plain]
  simp

theorem Spread.begins {lines : List Text} {line : Text} (spread : Spread lines line)
    (unmarked : Unmarked lines) (natural : List Text) :
    logicalLines none (lines ++ natural) =
      if line = [] then logicalLines none natural else line :: logicalLines none natural := by
  cases spread with
  | last blank flush ended =>
      have plain := unmarked _ rfl
      rw [dropWhile_blank blank flush] at plain
      rw [List.singleton_append, logicalLines, dropWhile_blank blank flush]
      by_cases empty : line = []
      · rw [if_pos (.inl empty), if_pos empty]
      · rw [if_neg (by simp [empty, plain]), if_neg empty, ended]
        rfl
  | more piece spread =>
      rw [List.cons_append, logicalLines, piece.dropped, if_neg (piece.kept unmarked),
        if_pos piece.continues, List.dropLast_concat, spread.after]

theorem Cut.begins {lines : List Text} {line : Text} (cut : Cut lines line)
    (unmarked : Unmarked lines) : logicalLines none lines = [line] := by
  cases cut with
  | last piece =>
      rw [logicalLines, piece.dropped, if_neg (piece.kept unmarked), if_pos piece.continues,
        List.dropLast_concat, logicalLines]
  | more piece cut =>
      rw [logicalLines, piece.dropped, if_neg (piece.kept unmarked), if_pos piece.continues,
        List.dropLast_concat, cut.after]

theorem Spread.unmarked {lines : List Text} (spread : Spread lines []) : Unmarked lines := by
  intro first head
  generalize nothing : ([] : Text) = line at spread
  cases spread with
  | last blank flush _ =>
      cases head
      rw [dropWhile_blank blank flush, ← nothing]
      rfl
  | more piece _ =>
      cases head
      rw [piece.dropped, (List.nil_eq_append_iff.mp nothing).1]
      rfl

theorem Document.logicalLines {natural logical : List Text} (document : Document natural logical) :
    Property.logicalLines none natural = logical := by
  induction document with
  | nil => rfl
  | blank spread _ ih => rw [spread.begins spread.unmarked, if_pos rfl, ih]
  | comment blank marked _ ih =>
      rw [Property.logicalLines, dropWhile_blank blank (flush_mark marked _), if_pos (.inr marked), ih]
  | entry spread nonempty unmarked _ ih => rw [spread.begins unmarked, if_neg nonempty, ih]
  | cut cut unmarked => exact cut.begins unmarked

/-- Lines after a continued one go on with it, to its end or to the end of the file. -/
theorem continued_split (natural : List Text) (nonempty : natural ≠ []) :
    (∃ line, Cut natural line) ∨
      ∃ lines line rest, natural = lines ++ rest ∧ lines ≠ [] ∧ Spread lines line := by
  induction natural with
  | nil => exact absurd rfl nonempty
  | cons first natural ih =>
      cases open_ : continues (first.dropWhile isBlank) with
      | false =>
          obtain ⟨indent, blank, split, flush⟩ := blank_split first
          refine .inr ⟨[indent ++ first.dropWhile isBlank], _, natural, ?_, List.cons_ne_nil _ _,
            .last blank flush open_⟩
          rw [← split]
          rfl
      | true =>
          have piece := piece_of_continues open_
          cases natural with
          | nil => exact .inl ⟨_, .last piece⟩
          | cons second natural =>
              rcases ih (List.cons_ne_nil _ _) with ⟨line, cut⟩ | ⟨lines, line, rest, split, _, spread⟩
              · exact .inl ⟨_, .more piece cut⟩
              · exact .inr ⟨first :: lines, _, rest, by rw [split]; rfl, List.cons_ne_nil _ _,
                  .more piece spread⟩

theorem document_logicalLines (natural : List Text) :
    Document natural (logicalLines none natural) := by
  generalize size : natural.length = n
  induction n using Nat.strongRecOn generalizing natural with
  | ind n ih =>
      cases natural with
      | nil => exact .nil
      | cons first natural =>
          obtain ⟨indent, blank, split, flush⟩ := blank_split first
          by_cases marked : (first.dropWhile isBlank).head?.any isMark = true
          · have rest := ih natural.length (by simp only [List.length_cons] at size; omega) natural rfl
            cases dropped : first.dropWhile isBlank with
            | nil =>
                rw [dropped] at marked
                cases marked
            | cons mark text =>
                rw [dropped] at marked
                have document : Document ((indent ++ mark :: text) :: natural) _ :=
                  .comment blank marked rest
                rw [← dropped, ← split] at document
                have read := document.logicalLines
                rwa [read]
          · have unmarked : ∀ lines, Unmarked (first :: lines) := by
              intro lines line head
              cases head
              simpa using marked
            rcases continued_split (first :: natural) (List.cons_ne_nil _ _) with ⟨line, cut⟩ |
              ⟨lines, line, rest, same, nonempty, spread⟩
            · rw [cut.begins (unmarked natural)]
              exact .cut cut (unmarked natural)
            · cases lines with
              | nil => exact absurd rfl nonempty
              | cons first' lines =>
                  have shorter : rest.length < n := by
                    have lengths := congrArg List.length same
                    simp only [List.length_cons, List.length_append] at lengths size
                    omega
                  obtain ⟨rfl, _⟩ := List.cons.inj same
                  have read := ih rest.length shorter rest rfl
                  rw [same, spread.begins (unmarked lines)]
                  split
                  · next empty =>
                      rw [empty] at spread
                      exact .blank spread read
                  · next kept => exact .entry spread kept (unmarked lines) read

/-! ## Keys and elements -/

theorem Written.unescape {free : Char → Bool} {raw text : Text} (written : Written free raw text) :
    Property.unescape raw = some text := by
  induction written with
  | nil => rfl
  | @plain c raw text _ other _ ih =>
      rw [Property.unescape, ih]
      · rfl
      all_goals simp [other]
  | @escaped c raw text other _ ih =>
      rw [Property.unescape, ih]
      · rfl
      all_goals simp [other]
  | unicode unit _ ih =>
      rw [Property.unescape, unit, ih]
      rfl

/-- What is unescaped was written, unless a backslash is left over at its end. -/
theorem written_of_unescape {raw text : Text} (read : unescape raw = some text)
    (ended : continues raw = false) : Written (fun _ => true) raw text := by
  induction raw using unescape.induct generalizing text with
  | case1 =>
      cases read
      exact .nil
  | case2 a b c d rest ih =>
      simp only [unescape, Option.bind_eq_bind, Option.bind_eq_some_iff] at read
      obtain ⟨unit, denoted, tail, rest', same⟩ := read
      cases same
      refine .unicode denoted (ih rest' ?_)
      simp only [Json.unicodeUnit, Option.bind_eq_bind, Option.bind_eq_some_iff] at denoted
      obtain ⟨_, first, _, second, _, third, _, fourth, _⟩ := denoted
      rwa [continues_escaped, continues_plain (hexDigit_free first).2,
        continues_plain (hexDigit_free second).2, continues_plain (hexDigit_free third).2,
        continues_plain (hexDigit_free fourth).2] at ended
  | case3 tail _ => simp [unescape] at read
  | case4 c rest _ other ih =>
      rw [unescape] at read
      · simp only [Option.bind_eq_bind, Option.bind_eq_some_iff] at read
        obtain ⟨tail, rest', same⟩ := read
        cases same
        rw [continues_escaped] at ended
        exact .escaped other (ih rest' ended)
      · exact fun _ _ _ _ _ u _ => other u
      · exact other
  | case5 c rest notUnicode notMalformed notEscaped ih =>
      have plain : c ≠ '\\' := by
        rintro rfl
        cases rest with
        | nil => cases ended
        | cons d rest => exact notEscaped d rest rfl rfl
      rw [unescape] at read
      · simp only [Option.bind_eq_bind, Option.bind_eq_some_iff] at read
        obtain ⟨tail, rest', same⟩ := read
        cases same
        rw [continues_plain plain] at ended
        exact .plain rfl plain (ih rest' ended)
      · exact notUnicode
      · exact notMalformed
      · exact notEscaped

theorem splitKey_plain {c : Char} (free : keyChar c = true) (other : c ≠ '\\') (rest : Text) :
    splitKey false (c :: rest) = (c :: (splitKey false rest).1, (splitKey false rest).2) := by
  have stays : (isSeparator c || isBlank c) = false := by simpa only [keyChar, Bool.not_eq_true'] using free
  have flag : (c == '\\') = false := beq_eq_false_iff_ne.mpr other
  simp [splitKey, stays, flag]

theorem splitKey_escaped (c : Char) (rest : Text) :
    splitKey false ('\\' :: c :: rest) =
      ('\\' :: c :: (splitKey false rest).1, (splitKey false rest).2) := by
  simp [splitKey, isSeparator, isBlank]

/-- A key reaches as far as it is written. -/
theorem Written.splitKey {raw key tail : Text} (written : Written keyChar raw key)
    (stops : ∀ c ∈ tail.head?, keyChar c = false) :
    Property.splitKey false (raw ++ tail) = (raw, tail) := by
  induction written with
  | nil =>
      cases tail with
      | nil => rfl
      | cons c tail =>
          have stop := stops c rfl
          simp only [keyChar, Bool.not_eq_false'] at stop
          simp [Property.splitKey, stop]
  | plain free other _ ih => rw [List.cons_append, splitKey_plain free other, ih]
  | escaped _ _ ih => rw [List.cons_append, List.cons_append, splitKey_escaped, ih]
  | unicode unit _ ih =>
      simp only [Json.unicodeUnit, Option.bind_eq_bind, Option.bind_eq_some_iff] at unit
      obtain ⟨_, first, _, second, _, third, _, fourth, _⟩ := unit
      simp only [List.cons_append]
      rw [splitKey_escaped, splitKey_plain (hexDigit_free first).1 (hexDigit_free first).2,
        splitKey_plain (hexDigit_free second).1 (hexDigit_free second).2,
        splitKey_plain (hexDigit_free third).1 (hexDigit_free third).2,
        splitKey_plain (hexDigit_free fourth).1 (hexDigit_free fourth).2, ih]

theorem Gap.stops {gap raw : Text} (h : Gap gap raw) : ∀ c ∈ (gap ++ raw).head?, keyChar c = false := by
  intro c head
  cases h with
  | none => cases head
  | blanks blank nonempty _ =>
      cases gap with
      | nil => exact absurd rfl nonempty
      | cons d gap =>
          cases head
          simp [keyChar, blank c List.mem_cons_self]
  | @separator before after _ d blank separator _ _ =>
      cases before with
      | nil =>
          cases head
          simp [keyChar, separator]
      | cons d before =>
          cases head
          simp [keyChar, blank c List.mem_cons_self]

theorem Gap.dropSeparator {gap raw : Text} (h : Gap gap raw) :
    Property.dropSeparator (gap ++ raw) = raw := by
  cases h with
  | none => rfl
  | blanks blank _ plain =>
      rw [Property.dropSeparator, dropWhile_blank blank fun c head => (plain c head).1]
      cases raw with
      | nil => rfl
      | cons c raw => simp [(plain c rfl).2]
  | separator blank separator blank' flush =>
      rw [Property.dropSeparator, List.append_assoc, List.cons_append,
        dropWhile_blank blank (flush_separator separator _)]
      simp only [separator, if_true, dropWhile_blank blank' flush]

theorem Entry.entry {line : Text} {pair : Text × Text} (h : Entry line pair) :
    Property.entry line = some pair := by
  cases h with
  | mk key gap element =>
      rw [Property.entry, key.splitKey gap.stops]
      simp only [key.unescape, gap.dropSeparator, element.unescape]
      rfl

theorem splitKey_split (escaped : Bool) (line : Text) :
    (splitKey escaped line).1 ++ (splitKey escaped line).2 = line := by
  induction line generalizing escaped with
  | nil => rfl
  | cons c line ih =>
      rw [splitKey]
      split
      · rfl
      · exact congrArg (c :: ·) (ih _)

theorem splitKey_stops (escaped : Bool) (line : Text) :
    ∀ c ∈ (splitKey escaped line).2.head?, keyChar c = false := by
  induction line generalizing escaped with
  | nil => simp [splitKey]
  | cons c line ih =>
      rw [splitKey]
      split
      · next stop =>
          intro d head
          cases head
          simp only [Bool.and_eq_true] at stop
          simp [keyChar, stop.2]
      · exact ih _

/-- A key in front of something does not end in the middle of an escape. -/
theorem splitKey_ended {escaped : Bool} {line : Text} (more : (splitKey escaped line).2 ≠ []) :
    escapes escaped (splitKey escaped line).1 = false := by
  induction line generalizing escaped with
  | nil => exact absurd rfl more
  | cons c line ih =>
      rw [splitKey] at more ⊢
      split
      · next stop =>
          simp only [Bool.and_eq_true, Bool.not_eq_true'] at stop
          exact stop.1
      · next stays =>
          rw [if_neg stays] at more
          exact ih more

theorem splitKey_again (escaped : Bool) (line : Text) :
    splitKey escaped (splitKey escaped line).1 = ((splitKey escaped line).1, []) := by
  induction line generalizing escaped with
  | nil => rfl
  | cons c line ih =>
      rw [splitKey]
      split
      · rfl
      · next stays => simp only [splitKey, if_neg stays, ih]

/-- What splits off nothing holds characters of a key only. -/
theorem Written.key {raw key : Text} (written : Written (fun _ => true) raw key)
    (whole : Property.splitKey false raw = (raw, [])) : Written keyChar raw key := by
  have tail : ∀ {c : Char} {raw : Text},
      (c :: (Property.splitKey false raw).1, (Property.splitKey false raw).2) = (c :: raw, []) →
      Property.splitKey false raw = (raw, []) := by
    intro c raw same
    obtain ⟨first, rest⟩ := Prod.mk.inj same
    exact Prod.ext (List.cons.inj first).2 rest
  induction written with
  | nil => exact .nil
  | @plain c raw text _ other _ ih =>
      cases free : keyChar c with
      | true =>
          rw [splitKey_plain free other] at whole
          exact .plain free other (ih (tail whole))
      | false =>
          simp only [keyChar, Bool.not_eq_false'] at free
          simp [Property.splitKey, free] at whole
  | escaped other _ ih =>
      rw [splitKey_escaped] at whole
      exact .escaped other (ih (tail (c := 'u') (by simpa using whole)))
  | unicode unit _ ih =>
      refine .unicode unit (ih ?_)
      simp only [Json.unicodeUnit, Option.bind_eq_bind, Option.bind_eq_some_iff] at unit
      obtain ⟨_, first, _, second, _, third, _, fourth, _⟩ := unit
      rw [splitKey_escaped, splitKey_plain (hexDigit_free first).1 (hexDigit_free first).2,
        splitKey_plain (hexDigit_free second).1 (hexDigit_free second).2,
        splitKey_plain (hexDigit_free third).1 (hexDigit_free third).2,
        splitKey_plain (hexDigit_free fourth).1 (hexDigit_free fourth).2] at whole
      exact tail (c := 'u') (by simpa using whole)

theorem gap_dropSeparator {tail : Text} (stops : ∀ c ∈ tail.head?, keyChar c = false) :
    ∃ gap, tail = gap ++ dropSeparator tail ∧ Gap gap (dropSeparator tail) := by
  obtain ⟨indent, blank, split, flush⟩ := blank_split tail
  rw [dropSeparator]
  cases dropped : tail.dropWhile isBlank with
  | nil =>
      rw [dropped, List.append_nil] at split
      refine ⟨tail, (List.append_nil tail).symm, ?_⟩
      by_cases empty : tail = []
      · rw [empty]
        exact .none
      · rw [split] at empty ⊢
        exact .blanks blank empty (by simp)
  | cons c rest =>
      rw [dropped] at split flush
      by_cases separator : isSeparator c = true
      · obtain ⟨after, blank', split', flush'⟩ := blank_split rest
        simp only [separator, if_true]
        refine ⟨indent ++ c :: after, ?_, .separator blank separator blank' flush'⟩
        rw [List.append_assoc, List.cons_append, ← split', ← split]
      · have plain : isSeparator c = false := by simpa using separator
        simp only [plain, Bool.false_eq_true, if_false]
        refine ⟨indent, split, .blanks blank ?_ ?_⟩
        · rintro rfl
          rw [List.nil_append] at split
          rw [split] at stops
          have stop := stops c rfl
          simp only [keyChar, plain, flush c rfl] at stop
          cases stop
        · intro d head
          cases head
          exact ⟨flush c rfl, plain⟩

theorem entry_sound {line : Text} {pair : Text × Text} (read : entry line = some pair)
    (ended : continues line = false) : Entry line pair := by
  obtain ⟨gap, tail, between⟩ := gap_dropSeparator (splitKey_stops false line)
  have split := splitKey_split false line
  simp only [entry, Option.bind_eq_bind, Option.bind_eq_some_iff] at read
  obtain ⟨key, keyRead, element, elementRead, same⟩ := read
  cases same
  have closed : continues (splitKey false line).1 = false := by
    by_cases empty : (splitKey false line).2 = []
    · rw [empty, List.append_nil] at split
      rwa [split]
    · exact splitKey_ended empty
  have keyWritten := (written_of_unescape keyRead closed).key (splitKey_again false line)
  have elementEnded : continues (dropSeparator (splitKey false line).2) = false := by
    rw [← between.continues, ← tail, ← continues_append closed, split, ended]
  have entry := Entry.mk keyWritten between (written_of_unescape elementRead elementEnded)
  rwa [← tail, split] at entry

/-! ## Whole files -/

theorem mapM_entry_iff {logical : List Text} (ended : ∀ line ∈ logical, continues line = false)
    (entries : List (Text × Text)) :
    logical.mapM entry = some entries ↔ List.Forall₂ Entry logical entries := by
  induction logical generalizing entries with
  | nil =>
      constructor
      · intro read
        cases read
        exact .nil
      · intro same
        cases same
        rfl
  | cons line logical ih =>
      have tail := ih fun line' member => ended line' (List.mem_cons_of_mem line member)
      rw [List.mapM_cons]
      simp only [Option.bind_eq_bind, Option.bind_eq_some_iff, Option.pure_def]
      constructor
      · rintro ⟨pair, read, rest, loaded, same⟩
        cases same
        exact .cons (entry_sound read (ended line List.mem_cons_self)) ((tail rest).mp loaded)
      · intro same
        cases same with
        | cons first rest => exact ⟨_, first.entry, _, (tail _).mpr rest, rfl⟩

/-- A properties file is loaded as its entries, and a text that is none is refused. -/
theorem load_iff (text : Text) (entries : List (Text × Text)) :
    load text = some entries ↔ Denotes text entries := by
  constructor
  · intro loaded
    have document := document_logicalLines (naturalLines text)
    exact .mk (lines_naturalLines text) document ((mapM_entry_iff document.ended entries).mp loaded)
  · intro denotes
    cases denotes with
    | mk lines document same =>
        rw [load, lines.naturalLines, document.logicalLines]
        exact (mapM_entry_iff document.ended entries).mpr same

end Property
