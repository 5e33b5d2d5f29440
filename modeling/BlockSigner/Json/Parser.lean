import Mathlib.Data.List.TakeWhile
import BlockSigner.Json.Grammar

/-! # A parser for the JSON grammar

Recursive descent with fuel. It accepts exactly the documents of the grammar
(`parse_iff`), so a text denotes at most one value and the compact text of a
well-formed value is read back as that value.
-/

namespace Json

/-! ## The parser -/

def skipSpace (s : Text) : Text := s.dropWhile isSpace

def expect (p s : Text) : Option Text :=
  if p.isPrefixOf s then some (s.drop p.length) else none

/-- The content of a string, up to and including the closing quotation mark. -/
def parseString : Text → Option (Text × Text)
  | [] => none
  | '"' :: rest => some ([], rest)
  | '\\' :: 'u' :: a :: b :: c :: d :: rest => do
      let u ← unicodeUnit a b c d
      let (content, rest) ← parseString rest
      some (Text.codeUnit u :: content, rest)
  | '\\' :: c :: rest => do
      let e ← shortEscape c
      let (content, rest) ← parseString rest
      some (e :: content, rest)
  | c :: rest =>
      if Unescaped c then do
        let (content, rest) ← parseString rest
        some (c :: content, rest)
      else none

/-- A maximal run of digits, which must not be empty. -/
def scanDigits (s : Text) : Option (Text × Text) :=
  if s.takeWhile Char.isDigit = [] then none
  else some (s.takeWhile Char.isDigit, s.dropWhile Char.isDigit)

def scanMinus : Text → Text × Text
  | '-' :: rest => (['-'], rest)
  | s => ([], s)

def scanInt : Text → Option (Text × Text)
  | '0' :: rest => some (['0'], rest)
  | s => scanDigits s

def scanFrac : Text → Option (Text × Text)
  | '.' :: rest => do
      let (ds, rest) ← scanDigits rest
      some ('.' :: ds, rest)
  | s => some ([], s)

def scanSign : Text → Text × Text
  | '+' :: rest => (['+'], rest)
  | '-' :: rest => (['-'], rest)
  | s => ([], s)

def scanExp : Text → Option (Text × Text)
  | [] => some ([], [])
  | e :: rest =>
      if e = 'e' ∨ e = 'E' then do
        let (ds, after) ← scanDigits (scanSign rest).2
        some (e :: (scanSign rest).1 ++ ds, after)
      else some ([], e :: rest)

def scanNumber (s : Text) : Option (Text × Text) := do
  let (int, s₁) ← scanInt (scanMinus s).2
  let (frac, s₂) ← scanFrac s₁
  let (exp, rest) ← scanExp s₂
  some ((scanMinus s).1 ++ (int ++ (frac ++ exp)), rest)

mutual
def parseValue : Nat → Text → Option (Json × Text)
  | 0, _ => none
  | _, [] => none
  | fuel + 1, c :: rest =>
      if c = '"' then (parseString rest).map fun (s, rest) => (.str s, rest)
      else if c = '[' then
        match skipSpace rest with
        | ']' :: rest => some (.arr [], rest)
        | _ => (parseElements fuel rest).map fun (vs, rest) => (.arr vs, rest)
      else if c = '{' then
        match skipSpace rest with
        | '}' :: rest => some (.obj [], rest)
        | _ => (parseFields fuel rest).map fun (ms, rest) => (.obj (ofMembers ms), rest)
      else if c = 'n' then (expect "ull".toList rest).map fun rest => (.null, rest)
      else if c = 't' then (expect "rue".toList rest).map fun rest => (.bool true, rest)
      else if c = 'f' then (expect "alse".toList rest).map fun rest => (.bool false, rest)
      else (scanNumber (c :: rest)).map fun (t, rest) => (.num t, rest)

def parseDocument : Nat → Text → Option (Json × Text)
  | 0, _ => none
  | fuel + 1, s => (parseValue fuel (skipSpace s)).map fun (v, rest) => (v, skipSpace rest)

def parseElements : Nat → Text → Option (List Json × Text)
  | 0, _ => none
  | fuel + 1, s =>
      match parseDocument fuel s with
      | some (v, ',' :: rest) => (parseElements fuel rest).map fun (vs, rest) => (v :: vs, rest)
      | some (v, ']' :: rest) => some ([v], rest)
      | _ => none

def parseField : Nat → Text → Option ((Text × Json) × Text)
  | 0, _ => none
  | fuel + 1, s =>
      match skipSpace s with
      | '"' :: rest =>
          match parseString rest with
          | some (name, rest) =>
              match skipSpace rest with
              | ':' :: rest => (parseDocument fuel rest).map fun (v, rest) => ((name, v), rest)
              | _ => none
          | none => none
      | _ => none

def parseFields : Nat → Text → Option (List (Text × Json) × Text)
  | 0, _ => none
  | fuel + 1, s =>
      match parseField fuel s with
      | some (m, ',' :: rest) => (parseFields fuel rest).map fun (ms, rest) => (m :: ms, rest)
      | some (m, '}' :: rest) => some ([m], rest)
      | _ => none
end

/-- The value of a whole document, if the text is one. -/
def parse (s : Text) : Option Json :=
  match parseDocument (3 * s.length + 2) s with
  | some (v, []) => some v
  | _ => none

/-! ## What follows a token -/

def continuesNumber (c : Char) : Bool := c.isDigit || c == '.' || c == 'e' || c == 'E'

/-- The text that follows cannot prolong a number. -/
def Stops (rest : Text) : Prop := ∀ c ∈ rest.head?, continuesNumber c = false

/-- The text that follows a document: its end, or what separates or closes. -/
def Closes (rest : Text) : Prop := ∀ c ∈ rest.head?, c = ',' ∨ c = ']' ∨ c = '}'

theorem closes_nil : Closes [] := by simp [Closes]

theorem closes_cons {c : Char} (h : c = ',' ∨ c = ']' ∨ c = '}') (rest : Text) :
    Closes (c :: rest) := by
  simpa [Closes] using h

theorem Closes.stops {rest : Text} (h : Closes rest) : Stops rest := by
  intro c first
  rcases h c first with rfl | rfl | rfl <;> rfl

theorem skipSpace_append {w : Text} (h : Space w) (s : Text) : skipSpace (w ++ s) = skipSpace s := by
  induction w with
  | nil => rfl
  | cons c w ih =>
      simp only [Space, List.forall_mem_cons] at h
      simpa only [skipSpace, List.cons_append, List.dropWhile_cons, h.1, if_true] using ih h.2

theorem skipSpace_of_head {c : Char} (h : isSpace c = false) (s : Text) :
    skipSpace (c :: s) = c :: s := by
  simp [skipSpace, h]

theorem Closes.skipSpace {rest : Text} (h : Closes rest) : skipSpace rest = rest := by
  cases rest with
  | nil => rfl
  | cons c rest =>
      apply skipSpace_of_head
      rcases h c rfl with rfl | rfl | rfl <;> rfl

/-- A space does not prolong a number either. -/
theorem stops_append {w rest : Text} (h : Space w) (stops : Stops rest) : Stops (w ++ rest) := by
  cases w with
  | nil => exact stops
  | cons d w =>
      intro c first
      obtain rfl : d = c := by simpa using first
      have space : isSpace d = true := h d List.mem_cons_self
      simp only [isSpace, Bool.or_eq_true, beq_iff_eq] at space
      rcases space with ((rfl | rfl) | rfl) | rfl <;> rfl

/-- A split of the input into the white space that is skipped and the rest. -/
theorem skipSpace_split (s : Text) : ∃ w, Space w ∧ s = w ++ skipSpace s :=
  ⟨s.takeWhile isSpace, fun _ member => List.mem_takeWhile_imp member,
    (List.takeWhile_append_dropWhile).symm⟩

/-! ## Numbers -/

theorem scanDigits_complete {ds rest : Text} (nonempty : ds ≠ []) (digits : Digits ds)
    (stops : ∀ c ∈ rest.head?, c.isDigit = false) : scanDigits (ds ++ rest) = some (ds, rest) := by
  have none : rest.takeWhile Char.isDigit = [] ∧ rest.dropWhile Char.isDigit = rest := by
    cases rest with
    | nil => exact ⟨rfl, rfl⟩
    | cons c rest => simp [stops c rfl]
  have taken : (ds ++ rest).takeWhile Char.isDigit = ds := by
    rw [List.takeWhile_append_of_pos digits, none.1, List.append_nil]
  have dropped : (ds ++ rest).dropWhile Char.isDigit = rest := by
    rw [List.dropWhile_append_of_pos digits, none.2]
  simp only [scanDigits, taken, dropped, nonempty, if_false]

theorem scanDigits_sound {s ds rest : Text} (h : scanDigits s = some (ds, rest)) :
    s = ds ++ rest ∧ ds ≠ [] ∧ Digits ds := by
  simp only [scanDigits] at h
  split at h
  · simp at h
  · next nonempty =>
      simp only [Option.some.injEq, Prod.mk.injEq] at h
      obtain ⟨rfl, rfl⟩ := h
      exact ⟨(List.takeWhile_append_dropWhile).symm, nonempty, fun _ member => List.mem_takeWhile_imp member⟩

theorem Stops.not_digit {rest : Text} (h : Stops rest) : ∀ c ∈ rest.head?, c.isDigit = false := by
  intro c first
  have stop := h c first
  simp only [continuesNumber, Bool.or_eq_false_iff] at stop
  exact stop.1.1.1

theorem scanExp_complete {exp rest : Text} (h : ExpPart exp) (stops : Stops rest) :
    scanExp (exp ++ rest) = some (exp, rest) := by
  cases h with
  | absent =>
      cases rest with
      | nil => rfl
      | cons c rest =>
          have stop := stops c rfl
          simp only [continuesNumber, Bool.or_eq_false_iff, beq_eq_false_iff_ne] at stop
          simp [scanExp, stop.1.2, stop.2]
  | @present e sign ds isE isSign nonempty digits =>
      have signRead : scanSign (sign ++ (ds ++ rest)) = (sign, ds ++ rest) := by
        rcases isSign with rfl | rfl | rfl
        · cases ds with
          | nil => exact absurd rfl nonempty
          | cons d ds =>
              have digit : d.isDigit = true := digits d List.mem_cons_self
              simp only [List.nil_append, List.cons_append]
              unfold scanSign
              split
              · next read => cases read; exact absurd digit (by decide)
              · next read => cases read; exact absurd digit (by decide)
              · rfl
        · rfl
        · rfl
      simp [scanExp, isE, signRead, scanDigits_complete nonempty digits stops.not_digit]

/-- Neither an exponent nor what stops a number prolongs a run of digits. -/
theorem expPart_not_digit {exp rest : Text} (h : ExpPart exp) (stops : Stops rest) :
    ∀ c ∈ (exp ++ rest).head?, c.isDigit = false ∧ c ≠ '.' := by
  intro c first
  cases h with
  | absent =>
      have stop := stops c first
      simp only [continuesNumber, Bool.or_eq_false_iff, beq_eq_false_iff_ne] at stop
      exact ⟨stop.1.1.1, stop.1.1.2⟩
  | present isE _ _ _ =>
      simp only [List.cons_append, List.head?_cons, Option.mem_some_iff] at first
      subst first
      rcases isE with rfl | rfl <;> decide

theorem scanFrac_complete {frac exp rest : Text} (h : FracPart frac) (e : ExpPart exp)
    (stops : Stops rest) : scanFrac (frac ++ (exp ++ rest)) = some (frac, exp ++ rest) := by
  have after := expPart_not_digit e stops
  cases h with
  | absent =>
      simp only [List.nil_append]
      unfold scanFrac
      split
      · next read => exact absurd rfl (after '.' (by rw [read]; rfl)).2
      · rfl
  | present nonempty digits =>
      simp [scanFrac, scanDigits_complete nonempty digits fun c first => (after c first).1]

theorem fracPart_not_digit {frac exp rest : Text} (h : FracPart frac) (e : ExpPart exp)
    (stops : Stops rest) : ∀ c ∈ (frac ++ (exp ++ rest)).head?, c.isDigit = false := by
  intro c first
  cases h with
  | absent => exact (expPart_not_digit e stops c first).1
  | present _ _ =>
      simp only [List.cons_append, List.head?_cons, Option.mem_some_iff] at first
      subst first
      rfl

theorem scanInt_complete {int rest : Text} (h : IntPart int)
    (stops : ∀ c ∈ rest.head?, c.isDigit = false) : scanInt (int ++ rest) = some (int, rest) := by
  cases h with
  | zero => rfl
  | @nonzero d ds digit notZero digits =>
      have run : Digits (d :: ds) := by
        simpa only [Digits, List.forall_mem_cons] using ⟨digit, digits⟩
      rw [List.cons_append]
      unfold scanInt
      split
      · next read => exact absurd (List.cons.inj read).1 notZero
      · exact scanDigits_complete (List.cons_ne_nil d ds) run stops

theorem intPart_head {int : Text} (h : IntPart int) : ∃ d ds, int = d :: ds ∧ d.isDigit = true := by
  cases h with
  | zero => exact ⟨'0', [], rfl, rfl⟩
  | nonzero digit _ _ => exact ⟨_, _, rfl, digit⟩

theorem scanNumber_complete {t rest : Text} (h : Number t) (stops : Stops rest) :
    scanNumber (t ++ rest) = some (t, rest) := by
  obtain @⟨minus, int, frac, exp, isMinus, i, f, e⟩ := h
  have minusRead : scanMinus (minus ++ (int ++ (frac ++ (exp ++ rest)))) =
      (minus, int ++ (frac ++ (exp ++ rest))) := by
    rcases isMinus with rfl | rfl
    · obtain ⟨d, ds, rfl, digit⟩ := intPart_head i
      simp only [List.nil_append, List.cons_append]
      unfold scanMinus
      split
      · next read => cases read; exact absurd digit (by decide)
      · rfl
    · rfl
  simp [scanNumber, minusRead, scanInt_complete i (fracPart_not_digit f e stops),
    scanFrac_complete f e stops, scanExp_complete e stops]

theorem scanInt_sound {s int rest : Text} (h : scanInt s = some (int, rest)) :
    s = int ++ rest ∧ IntPart int := by
  unfold scanInt at h
  split at h
  · simp only [Option.some.injEq, Prod.mk.injEq] at h
    obtain ⟨rfl, rfl⟩ := h
    exact ⟨rfl, .zero⟩
  · next s notZero =>
      obtain ⟨rfl, nonempty, digits⟩ := scanDigits_sound h
      cases int with
      | nil => exact absurd rfl nonempty
      | cons d ds =>
          simp only [Digits, List.forall_mem_cons] at digits
          exact ⟨rfl, .nonzero digits.1 (fun zero => notZero (ds ++ rest) (by rw [zero]; rfl)) digits.2⟩

theorem scanFrac_sound {s frac rest : Text} (h : scanFrac s = some (frac, rest)) :
    s = frac ++ rest ∧ FracPart frac := by
  unfold scanFrac at h
  split at h
  · simp only [Option.bind_eq_bind, Option.bind_eq_some_iff, Prod.exists, Option.some.injEq,
      Prod.mk.injEq] at h
    obtain ⟨ds, after, run, rfl, rfl⟩ := h
    obtain ⟨rfl, nonempty, digits⟩ := scanDigits_sound run
    exact ⟨rfl, .present nonempty digits⟩
  · simp only [Option.some.injEq, Prod.mk.injEq] at h
    obtain ⟨rfl, rfl⟩ := h
    exact ⟨rfl, .absent⟩

theorem scanSign_split (s : Text) :
    s = (scanSign s).1 ++ (scanSign s).2 ∧
      ((scanSign s).1 = [] ∨ (scanSign s).1 = ['+'] ∨ (scanSign s).1 = ['-']) := by
  fun_cases scanSign s <;> simp

theorem scanExp_sound {s exp rest : Text} (h : scanExp s = some (exp, rest)) :
    s = exp ++ rest ∧ ExpPart exp := by
  cases s with
  | nil =>
      simp only [scanExp, Option.some.injEq, Prod.mk.injEq] at h
      obtain ⟨rfl, rfl⟩ := h
      exact ⟨rfl, .absent⟩
  | cons e s =>
      simp only [scanExp] at h
      split at h
      · next isE =>
          simp only [Option.bind_eq_bind, Option.bind_eq_some_iff, Prod.exists, Option.some.injEq,
            Prod.mk.injEq] at h
          obtain ⟨ds, after, run, rfl, rfl⟩ := h
          obtain ⟨split, nonempty, digits⟩ := scanDigits_sound run
          have sign := scanSign_split s
          refine ⟨?_, .present isE sign.2 nonempty digits⟩
          conv_lhs => rw [sign.1, split]
          simp
      · simp only [Option.some.injEq, Prod.mk.injEq] at h
        obtain ⟨rfl, rfl⟩ := h
        exact ⟨rfl, .absent⟩

theorem scanMinus_split (s : Text) :
    s = (scanMinus s).1 ++ (scanMinus s).2 ∧ ((scanMinus s).1 = [] ∨ (scanMinus s).1 = ['-']) := by
  fun_cases scanMinus s <;> simp

theorem scanNumber_sound {s t rest : Text} (h : scanNumber s = some (t, rest)) :
    s = t ++ rest ∧ Number t := by
  simp only [scanNumber, Option.bind_eq_bind, Option.bind_eq_some_iff, Prod.exists,
    Option.some.injEq, Prod.mk.injEq] at h
  obtain ⟨int, s₁, intRead, frac, s₂, fracRead, exp, s₃, expRead, rfl, rfl⟩ := h
  have minus := scanMinus_split s
  obtain ⟨split₁, i⟩ := scanInt_sound intRead
  obtain ⟨rfl, f⟩ := scanFrac_sound fracRead
  obtain ⟨rfl, e⟩ := scanExp_sound expRead
  refine ⟨?_, .mk minus.2 i f e⟩
  conv_lhs => rw [minus.1, split₁]
  simp

/-! ## Strings -/

theorem parseString_complete {t s : Text} (h : StringBody t s) (rest : Text) :
    parseString (t ++ '"' :: rest) = some (s, rest) := by
  induction h with
  | nil => rfl
  | @plain c t s plain _ ih =>
      rw [List.cons_append, parseString]
      · simp [plain, ih]
      · exact fun quotation => plain.2.1 quotation
      · exact fun _ _ _ _ _ backslash _ => plain.2.2 backslash
      · exact fun _ _ backslash _ => plain.2.2 backslash
  | @short c e t s stands _ ih =>
      rw [List.cons_append, List.cons_append, parseString]
      · simp [stands, ih]
      · rintro _ _ _ _ _ rfl _
        simp [shortEscape] at stands
  | unicode unit _ ih => simp [parseString, unit, ih]

theorem parseString_sound {input content rest : Text}
    (h : parseString input = some (content, rest)) :
    ∃ t, input = t ++ '"' :: rest ∧ StringBody t content := by
  fun_induction parseString input generalizing content with
  | case1 => simp at h
  | case2 =>
      simp only [Option.some.injEq, Prod.mk.injEq] at h
      obtain ⟨rfl, rfl⟩ := h
      exact ⟨[], rfl, .nil⟩
  | case3 a b c d tail ih =>
      simp only [Option.bind_eq_bind, Option.bind_eq_some_iff, Prod.exists, Option.some.injEq,
        Prod.mk.injEq] at h
      obtain ⟨u, unit, inner, after, read, rfl, rfl⟩ := h
      obtain ⟨t, rfl, body⟩ := ih read
      exact ⟨_, rfl, .unicode unit body⟩
  | case4 c tail _ ih =>
      simp only [Option.bind_eq_bind, Option.bind_eq_some_iff, Prod.exists, Option.some.injEq,
        Prod.mk.injEq] at h
      obtain ⟨e, stands, inner, after, read, rfl, rfl⟩ := h
      obtain ⟨t, rfl, body⟩ := ih read
      exact ⟨_, rfl, .short stands body⟩
  | case5 c tail _ _ _ plain ih =>
      simp only [Option.bind_eq_bind, Option.bind_eq_some_iff, Prod.exists, Option.some.injEq,
        Prod.mk.injEq] at h
      obtain ⟨inner, after, read, rfl, rfl⟩ := h
      obtain ⟨t, rfl, body⟩ := ih read
      exact ⟨_, rfl, .plain plain body⟩
  | case6 => simp at h

/-! ## Completeness -/

/-- The characters a value can begin with. -/
def startsValue (c : Char) : Bool :=
  c == 'n' || c == 't' || c == 'f' || c == '"' || c == '[' || c == '{' || c == '-' || c.isDigit

theorem number_head {t : Text} (h : Number t) :
    ∃ c t', t = c :: t' ∧ (c = '-' ∨ c.isDigit = true) := by
  obtain @⟨minus, int, frac, exp, isMinus, i, f, e⟩ := h
  rcases isMinus with rfl | rfl
  · obtain ⟨d, ds, rfl, digit⟩ := intPart_head i
    exact ⟨d, _, rfl, .inr digit⟩
  · exact ⟨'-', _, rfl, .inl rfl⟩

theorem Denotes.head {t v} (h : Denotes t v) : ∃ c t', t = c :: t' ∧ startsValue c = true := by
  cases h with
  | litNull | litTrue | litFalse | str | emptyArr | arr | emptyObj | obj => exact ⟨_, _, rfl, rfl⟩
  | num number =>
      obtain ⟨c, t', rfl, start⟩ := number_head number
      refine ⟨c, t', rfl, ?_⟩
      rcases start with rfl | digit
      · rfl
      · simp [startsValue, digit]

theorem startsValue_not_space {c : Char} (h : startsValue c = true) : isSpace c = false := by
  by_contra space
  simp only [Bool.not_eq_false, isSpace, Bool.or_eq_true, beq_iff_eq] at space
  rcases space with ((rfl | rfl) | rfl) | rfl <;> exact absurd h (by decide)

theorem Denotes.skipSpace {t v} (h : Denotes t v) (rest : Text) :
    skipSpace (t ++ rest) = t ++ rest := by
  obtain ⟨c, t', rfl, start⟩ := h.head
  exact skipSpace_of_head (startsValue_not_space start) (t' ++ rest)

/-- Before the first element there is no closing bracket. -/
theorem Elements.head {t vs} (h : Elements t vs) (rest : Text) :
    ∃ c after, Json.skipSpace (t ++ rest) = c :: after ∧ c ≠ ']' := by
  have first : ∀ {t v}, Document t v → ∀ rest,
      ∃ c after, Json.skipSpace (t ++ rest) = c :: after ∧ c ≠ ']' := by
    rintro _ _ @⟨w, t, v, w', space, value, _⟩ rest
    obtain ⟨c, t', rfl, start⟩ := value.head
    refine ⟨c, t' ++ (w' ++ rest), ?_, ?_⟩
    · rw [List.append_assoc, skipSpace_append space]
      simpa using skipSpace_of_head (startsValue_not_space start) (t' ++ (w' ++ rest))
    · rintro rfl
      exact absurd start (by decide)
  cases h with
  | last document => exact first document rest
  | cons document _ => simpa using first document _

theorem Fields.head {t ms} (h : Fields t ms) (rest : Text) :
    ∃ after, Json.skipSpace (t ++ rest) = '"' :: after := by
  have first : ∀ {t m}, Field t m → ∀ rest,
      ∃ after, Json.skipSpace (t ++ rest) = '"' :: after := by
    rintro _ _ ⟨space, _, _, _⟩ rest
    rw [List.append_assoc, skipSpace_append space]
    exact ⟨_, skipSpace_of_head rfl _⟩
  cases h with
  | last field => exact first field rest
  | cons field _ => simpa using first field _

mutual
theorem Denotes.complete {t v} : Denotes t v → ∀ fuel rest, 3 * t.length < fuel → Stops rest →
    parseValue fuel (t ++ rest) = some (v, rest)
  | .litNull, fuel + 1, rest, _, _ => by simp [parseValue, expect]
  | .litTrue, fuel + 1, rest, _, _ => by simp [parseValue, expect]
  | .litFalse, fuel + 1, rest, _, _ => by simp [parseValue, expect]
  | .num number, fuel + 1, rest, _, stops => by
      have read := scanNumber_complete number stops
      obtain ⟨c, t', rfl, start⟩ := number_head number
      have other : ∀ d, d.isDigit = false → d ≠ '-' → c ≠ d := by
        rintro d notDigit notMinus rfl
        rcases start with minus | digit
        · exact notMinus minus
        · rw [notDigit] at digit; cases digit
      rw [List.cons_append] at read ⊢
      simp only [parseValue, other '"' rfl (by decide), other '[' rfl (by decide),
        other '{' rfl (by decide), other 'n' rfl (by decide), other 't' rfl (by decide),
        other 'f' rfl (by decide), if_false, read, Option.map_some]
  | .str body, fuel + 1, rest, _, _ => by
      simp [parseValue, parseString_complete body]
  | .emptyArr space, fuel + 1, rest, _, _ => by
      have closed : skipSpace (']' :: rest) = ']' :: rest := skipSpace_of_head rfl rest
      simp [parseValue, skipSpace_append space, closed]
  | .arr elements, fuel + 1, rest, enough, _ => by
      simp only [List.length_cons, List.length_append, List.length_nil] at enough
      have read := elements.complete fuel rest (by omega)
      obtain ⟨c, after, skipped, notClosed⟩ := elements.head (']' :: rest)
      simp only [parseValue, List.cons_append, List.append_assoc, List.nil_append, skipped, read]
      simp [notClosed]
  | .emptyObj space, fuel + 1, rest, _, _ => by
      have closed : skipSpace ('}' :: rest) = '}' :: rest := skipSpace_of_head rfl rest
      simp [parseValue, skipSpace_append space, closed]
  | .obj fields, fuel + 1, rest, enough, _ => by
      simp only [List.length_cons, List.length_append, List.length_nil] at enough
      have read := fields.complete fuel rest (by omega)
      obtain ⟨after, skipped⟩ := fields.head ('}' :: rest)
      simp [parseValue, skipped, read]

theorem Document.complete {t v} : Document t v → ∀ fuel rest, 3 * t.length + 1 < fuel →
    Closes rest → parseDocument fuel (t ++ rest) = some (v, rest)
  | @Document.mk w t v w' space value space', fuel + 1, rest, enough, closes => by
      simp only [List.length_append] at enough
      have read := value.complete fuel (w' ++ rest) (by omega)
        (stops_append space' closes.stops)
      simp only [parseDocument, List.append_assoc, skipSpace_append space, value.skipSpace, read,
        Option.map_some, skipSpace_append space', closes.skipSpace]

theorem Elements.complete {t vs} : Elements t vs → ∀ fuel rest, 3 * t.length + 2 < fuel →
    parseElements fuel (t ++ ']' :: rest) = some (vs, rest)
  | .last value, fuel + 1, rest, enough => by
      have read := value.complete fuel _ (by omega) (closes_cons (c := ']') (by simp) rest)
      simp only [parseElements, read]
  | @Elements.cons t v next vs value others, fuel + 1, rest, enough => by
      simp only [List.length_append, List.length_cons] at enough
      have read := value.complete fuel _ (by omega)
        (closes_cons (c := ',') (by simp) (next ++ ']' :: rest))
      have after := others.complete fuel rest (by omega)
      simp only [parseElements, List.append_assoc, List.cons_append, read, after, Option.map_some]

theorem Field.complete {t m} : Field t m → ∀ fuel rest, 3 * t.length + 1 < fuel →
    Closes rest → parseField fuel (t ++ rest) = some (m, rest)
  | .mk space body space' value, fuel + 1, rest, enough, closes => by
      simp only [List.length_append, List.length_cons] at enough
      have read := value.complete fuel _ (by omega) closes
      have quotation : ∀ s, skipSpace ('"' :: s) = '"' :: s := skipSpace_of_head rfl
      have colon : ∀ s, skipSpace (':' :: s) = ':' :: s := skipSpace_of_head rfl
      simp only [parseField, List.append_assoc, List.cons_append, skipSpace_append space,
        quotation, parseString_complete body, skipSpace_append space', colon, read, Option.map_some]

theorem Fields.complete {t ms} : Fields t ms → ∀ fuel rest, 3 * t.length + 2 < fuel →
    parseFields fuel (t ++ '}' :: rest) = some (ms, rest)
  | .last field, fuel + 1, rest, enough => by
      have read := field.complete fuel _ (by omega) (closes_cons (c := '}') (by simp) rest)
      simp only [parseFields, read]
  | @Fields.cons t m next ms field others, fuel + 1, rest, enough => by
      simp only [List.length_append, List.length_cons] at enough
      have read := field.complete fuel _ (by omega)
        (closes_cons (c := ',') (by simp) (next ++ '}' :: rest))
      have after := others.complete fuel rest (by omega)
      simp only [parseFields, List.append_assoc, List.cons_append, read, after, Option.map_some]
end

/-! ## Soundness -/

theorem expect_sound {p s rest : Text} (h : expect p s = some rest) : s = p ++ rest := by
  simp only [expect] at h
  split at h
  · next occurs =>
      obtain ⟨tail, rfl⟩ := List.isPrefixOf_iff_prefix.mp occurs
      simp only [List.drop_left, Option.some.injEq] at h
      rw [h]
  · simp at h

/-- What the five mutual parsers accept with one amount of fuel. -/
structure SoundAt (fuel : Nat) : Prop where
  value : ∀ {s v rest}, parseValue fuel s = some (v, rest) → ∃ t, s = t ++ rest ∧ Denotes t v
  document : ∀ {s v rest}, parseDocument fuel s = some (v, rest) →
    ∃ t, s = t ++ rest ∧ Document t v
  elements : ∀ {s vs rest}, parseElements fuel s = some (vs, rest) →
    ∃ t, s = t ++ ']' :: rest ∧ Elements t vs
  field : ∀ {s m rest}, parseField fuel s = some (m, rest) → ∃ t, s = t ++ rest ∧ Field t m
  fields : ∀ {s ms rest}, parseFields fuel s = some (ms, rest) →
    ∃ t, s = t ++ '}' :: rest ∧ Fields t ms

theorem skipSpace_eq_cons {s after : Text} {c : Char} (h : skipSpace s = c :: after) :
    ∃ w, Space w ∧ s = w ++ c :: after := by
  obtain ⟨w, space, split⟩ := skipSpace_split s
  exact ⟨w, space, h ▸ split⟩

theorem SoundAt.value_step {fuel : Nat} (ih : SoundAt fuel) {s v rest}
    (h : parseValue (fuel + 1) s = some (v, rest)) : ∃ t, s = t ++ rest ∧ Denotes t v := by
  cases s with
  | nil => simp [parseValue] at h
  | cons c s =>
      simp only [parseValue] at h
      split_ifs at h with quotation bracket brace isN isT isF
      · simp only [Option.map_eq_some_iff, Prod.exists, Prod.mk.injEq] at h
        obtain ⟨content, after, read, rfl, rfl⟩ := h
        obtain ⟨t, rfl, body⟩ := parseString_sound read
        exact ⟨'"' :: (t ++ ['"']), by simp [quotation], .str body⟩
      · subst bracket
        split at h
        · next after closed =>
            simp only [Option.some.injEq, Prod.mk.injEq] at h
            obtain ⟨rfl, rfl⟩ := h
            obtain ⟨w, space, rfl⟩ := skipSpace_eq_cons closed
            exact ⟨'[' :: (w ++ [']']), by simp, .emptyArr space⟩
        · simp only [Option.map_eq_some_iff, Prod.exists, Prod.mk.injEq] at h
          obtain ⟨vs, after, read, rfl, rfl⟩ := h
          obtain ⟨t, rfl, elements⟩ := ih.elements read
          exact ⟨'[' :: (t ++ [']']), by simp, .arr elements⟩
      · subst brace
        split at h
        · next after closed =>
            simp only [Option.some.injEq, Prod.mk.injEq] at h
            obtain ⟨rfl, rfl⟩ := h
            obtain ⟨w, space, rfl⟩ := skipSpace_eq_cons closed
            exact ⟨'{' :: (w ++ ['}']), by simp, .emptyObj space⟩
        · simp only [Option.map_eq_some_iff, Prod.exists, Prod.mk.injEq] at h
          obtain ⟨ms, after, read, rfl, rfl⟩ := h
          obtain ⟨t, rfl, fields⟩ := ih.fields read
          exact ⟨'{' :: (t ++ ['}']), by simp, .obj fields⟩
      · simp only [Option.map_eq_some_iff, Prod.mk.injEq] at h
        obtain ⟨after, read, rfl, rfl⟩ := h
        exact ⟨_, by rw [isN, expect_sound read]; rfl, .litNull⟩
      · simp only [Option.map_eq_some_iff, Prod.mk.injEq] at h
        obtain ⟨after, read, rfl, rfl⟩ := h
        exact ⟨_, by rw [isT, expect_sound read]; rfl, .litTrue⟩
      · simp only [Option.map_eq_some_iff, Prod.mk.injEq] at h
        obtain ⟨after, read, rfl, rfl⟩ := h
        exact ⟨_, by rw [isF, expect_sound read]; rfl, .litFalse⟩
      · simp only [Option.map_eq_some_iff, Prod.exists, Prod.mk.injEq] at h
        obtain ⟨t, after, read, rfl, rfl⟩ := h
        obtain ⟨split, number⟩ := scanNumber_sound read
        exact ⟨t, split, .num number⟩

theorem SoundAt.document_step {fuel : Nat} (ih : SoundAt fuel) {s v rest}
    (h : parseDocument (fuel + 1) s = some (v, rest)) : ∃ t, s = t ++ rest ∧ Document t v := by
  simp only [parseDocument, Option.map_eq_some_iff, Prod.exists, Prod.mk.injEq] at h
  obtain ⟨v, after, read, rfl, rfl⟩ := h
  obtain ⟨w, space, split⟩ := skipSpace_split s
  obtain ⟨w', space', split'⟩ := skipSpace_split after
  obtain ⟨t, splitValue, value⟩ := ih.value read
  refine ⟨w ++ (t ++ w'), ?_, .mk space value space'⟩
  rw [split, splitValue]
  conv_lhs => rw [split']
  simp

theorem SoundAt.elements_step {fuel : Nat} (ih : SoundAt fuel) {s vs rest}
    (h : parseElements (fuel + 1) s = some (vs, rest)) :
    ∃ t, s = t ++ ']' :: rest ∧ Elements t vs := by
  simp only [parseElements] at h
  split at h
  · next v after read =>
      simp only [Option.map_eq_some_iff, Prod.exists, Prod.mk.injEq] at h
      obtain ⟨vs, end_, others, rfl, rfl⟩ := h
      obtain ⟨t, rfl, value⟩ := ih.document read
      obtain ⟨t', rfl, elements⟩ := ih.elements others
      exact ⟨_, by simp, .cons value elements⟩
  · next v after read =>
      simp only [Option.some.injEq, Prod.mk.injEq] at h
      obtain ⟨rfl, rfl⟩ := h
      obtain ⟨t, rfl, value⟩ := ih.document read
      exact ⟨t, rfl, .last value⟩
  · simp at h

theorem SoundAt.field_step {fuel : Nat} (ih : SoundAt fuel) {s m rest}
    (h : parseField (fuel + 1) s = some (m, rest)) : ∃ t, s = t ++ rest ∧ Field t m := by
  simp only [parseField] at h
  split at h
  · next opened quoted =>
      split at h
      · next name afterName named =>
          split at h
          · next afterColon colon =>
              simp only [Option.map_eq_some_iff, Prod.exists, Prod.mk.injEq] at h
              obtain ⟨v, after, read, rfl, rfl⟩ := h
              obtain ⟨w, space, rfl⟩ := skipSpace_eq_cons quoted
              obtain ⟨n, rfl, body⟩ := parseString_sound named
              obtain ⟨w', space', rfl⟩ := skipSpace_eq_cons colon
              obtain ⟨t, rfl, value⟩ := ih.document read
              exact ⟨_, by simp, .mk space body space' value⟩
          · simp at h
      · simp at h
  · simp at h

theorem SoundAt.fields_step {fuel : Nat} (ih : SoundAt fuel) {s ms rest}
    (h : parseFields (fuel + 1) s = some (ms, rest)) : ∃ t, s = t ++ '}' :: rest ∧ Fields t ms := by
  simp only [parseFields] at h
  split at h
  · next m after read =>
      simp only [Option.map_eq_some_iff, Prod.exists, Prod.mk.injEq] at h
      obtain ⟨ms, end_, others, rfl, rfl⟩ := h
      obtain ⟨t, rfl, field⟩ := ih.field read
      obtain ⟨t', rfl, fields⟩ := ih.fields others
      exact ⟨_, by simp, .cons field fields⟩
  · next m after read =>
      simp only [Option.some.injEq, Prod.mk.injEq] at h
      obtain ⟨rfl, rfl⟩ := h
      obtain ⟨t, rfl, field⟩ := ih.field read
      exact ⟨t, rfl, .last field⟩
  · simp at h

theorem soundAt (fuel : Nat) : SoundAt fuel := by
  induction fuel with
  | zero =>
      constructor <;> intro _ _ _ h <;>
        simp [parseValue, parseDocument, parseElements, parseField, parseFields] at h
  | succ fuel ih =>
      exact ⟨ih.value_step, ih.document_step, ih.elements_step, ih.field_step, ih.fields_step⟩

/-! ## The parser decides the grammar -/

theorem parse_iff {s : Text} {v : Json} : parse s = some v ↔ Document s v := by
  constructor
  · intro h
    unfold parse at h
    split at h
    · next value read =>
        obtain ⟨t, split, document⟩ := (soundAt _).document read
        rw [split, List.append_nil, ← Option.some.inj h]
        exact document
    · simp at h
  · intro document
    have read := document.complete (3 * s.length + 2) [] (by omega) closes_nil
    rw [List.append_nil] at read
    simp only [parse, read]

/-- A text denotes at most one value. -/
theorem Document.unique {s v v'} (h : Document s v) (h' : Document s v') : v = v' :=
  Option.some.inj ((parse_iff.mpr h).symm.trans (parse_iff.mpr h'))

theorem parse_print {v : Json} (h : WellFormed v) : parse (print v) = some v :=
  parse_iff.mpr (print_denotes v h).document

end Json
