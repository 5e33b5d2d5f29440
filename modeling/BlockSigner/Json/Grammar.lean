import Mathlib.Data.List.Nodup
import BlockSigner.Json.Value

/-! # The JSON grammar

The productions of RFC 8259 as relations between a text and what it denotes.
An object denotes the map its members write, the last one of a name winning. A
value is well formed when its numbers are number literals and its objects name
no member twice; these are the values that texts denote, and each of them is
denoted by its compact text.
-/

namespace Json

/-! ## Tokens -/

def isSpace (c : Char) : Bool := c == ' ' || c == '\t' || c == '\n' || c == '\r'

/-- Insignificant white space. -/
def Space (t : Text) : Prop := ∀ c ∈ t, isSpace c = true

def Digits (t : Text) : Prop := ∀ c ∈ t, c.isDigit = true

inductive IntPart : Text → Prop where
  | zero : IntPart ['0']
  | nonzero : d.isDigit = true → d ≠ '0' → Digits ds → IntPart (d :: ds)

inductive FracPart : Text → Prop where
  | absent : FracPart []
  | present : ds ≠ [] → Digits ds → FracPart ('.' :: ds)

inductive ExpPart : Text → Prop where
  | absent : ExpPart []
  | present : e = 'e' ∨ e = 'E' → sign = [] ∨ sign = ['+'] ∨ sign = ['-'] →
      ds ≠ [] → Digits ds → ExpPart (e :: sign ++ ds)

inductive Number : Text → Prop where
  | mk : minus = [] ∨ minus = ['-'] → IntPart int → FracPart frac → ExpPart exp →
      Number (minus ++ (int ++ (frac ++ exp)))

/-- A character that stands for itself inside a string. -/
def Unescaped (c : Char) : Prop := 0x20 ≤ c.toNat ∧ c ≠ '"' ∧ c ≠ '\\'

instance (c : Char) : Decidable (Unescaped c) := inferInstanceAs (Decidable (_ ∧ _))

/-- What a two-character escape stands for. -/
def shortEscape (c : Char) : Option Char :=
  if c = '"' then some '"'
  else if c = '\\' then some '\\'
  else if c = '/' then some '/'
  else if c = 'b' then some '\x08'
  else if c = 'f' then some '\x0c'
  else if c = 'n' then some '\n'
  else if c = 'r' then some '\r'
  else if c = 't' then some '\t'
  else none

/-- The code unit of four hexadecimal digits. -/
def unicodeUnit (a b c d : Char) : Option Nat := do
  let x ← Hex.value? a
  let y ← Hex.value? b
  let z ← Hex.value? c
  let w ← Hex.value? d
  some (x * 4096 + y * 256 + z * 16 + w)

/-- The text between two quotation marks and the content it denotes. -/
inductive StringBody : Text → Text → Prop where
  | nil : StringBody [] []
  | plain : Unescaped c → StringBody t s → StringBody (c :: t) (c :: s)
  | short : shortEscape c = some e → StringBody t s → StringBody ('\\' :: c :: t) (e :: s)
  | unicode : unicodeUnit a b c d = some u → StringBody t s →
      StringBody ('\\' :: 'u' :: a :: b :: c :: d :: t) (Text.codeUnit u :: s)

/-! ## Values -/

mutual
inductive Denotes : Text → Json → Prop where
  | litNull : Denotes "null".toList .null
  | litTrue : Denotes "true".toList (.bool true)
  | litFalse : Denotes "false".toList (.bool false)
  | num : Number t → Denotes t (.num t)
  | str : StringBody t s → Denotes ('"' :: (t ++ ['"'])) (.str s)
  | emptyArr : Space w → Denotes ('[' :: (w ++ [']'])) (.arr [])
  | arr : Elements t vs → Denotes ('[' :: (t ++ [']'])) (.arr vs)
  | emptyObj : Space w → Denotes ('{' :: (w ++ ['}'])) (.obj [])
  | obj : Fields t ms → Denotes ('{' :: (t ++ ['}'])) (.obj (ofMembers ms))

/-- A value with white space around it; a whole document has this form. -/
inductive Document : Text → Json → Prop where
  | mk : Space w → Denotes t v → Space w' → Document (w ++ (t ++ w')) v

inductive Elements : Text → List Json → Prop where
  | last : Document t v → Elements t [v]
  | cons : Document t v → Elements rest vs → Elements (t ++ ',' :: rest) (v :: vs)

/-- One member: a quoted name, a colon and a value. -/
inductive Field : Text → Text × Json → Prop where
  | mk : Space w → StringBody n name → Space w' → Document t v →
      Field (w ++ '"' :: (n ++ '"' :: (w' ++ ':' :: t))) (name, v)

inductive Fields : Text → List (Text × Json) → Prop where
  | last : Field t m → Fields t [m]
  | cons : Field t m → Fields rest ms → Fields (t ++ ',' :: rest) (m :: ms)
end

theorem space_nil : Space [] := by simp [Space]

theorem Denotes.document {t v} (h : Denotes t v) : Document t v := by
  simpa using Document.mk space_nil h space_nil

/-! ## Well-formed values -/

mutual
def WellFormed : Json → Prop
  | .null | .bool _ | .str _ => True
  | .num literal => Number literal
  | .arr elements => AllWellFormed elements
  | .obj members => (members.map Prod.fst).Nodup ∧ MembersWellFormed members

def AllWellFormed : List Json → Prop
  | [] => True
  | value :: rest => WellFormed value ∧ AllWellFormed rest

def MembersWellFormed : List (Text × Json) → Prop
  | [] => True
  | (_, value) :: rest => WellFormed value ∧ MembersWellFormed rest
end

theorem membersWellFormed_iff {members : Members} :
    MembersWellFormed members ↔ ∀ member ∈ members, WellFormed member.2 := by
  induction members with
  | nil => simp [MembersWellFormed]
  | cons member rest ih =>
      obtain ⟨name, value⟩ := member
      simp only [MembersWellFormed, ih, List.forall_mem_cons]

/-- A member of a well-formed object is well formed. -/
theorem WellFormed.get {members : Members} {name value} (h : WellFormed (.obj members))
    (found : get members name = some value) : WellFormed value :=
  membersWellFormed_iff.mp h.2 _ (get_mem found)

mutual
theorem Denotes.wellFormed {t v} : Denotes t v → WellFormed v
  | .litNull | .litTrue | .litFalse | .str _ => trivial
  | .num literal => literal
  | .emptyArr _ => trivial
  | .arr elements => elements.wellFormed
  | .emptyObj _ => ⟨List.nodup_nil, trivial⟩
  | .obj fields => ⟨ofMembers_nodup _, membersWellFormed_iff.mpr fun member h =>
      membersWellFormed_iff.mp fields.wellFormed member (mem_ofMembers h)⟩

theorem Document.wellFormed {t v} : Document t v → WellFormed v
  | .mk _ value _ => value.wellFormed

theorem Elements.wellFormed {t vs} : Elements t vs → AllWellFormed vs
  | .last value => ⟨value.wellFormed, trivial⟩
  | .cons value rest => ⟨value.wellFormed, rest.wellFormed⟩

theorem Field.wellFormed {t m} : Field t m → WellFormed m.2
  | .mk _ _ _ value => value.wellFormed

theorem Fields.wellFormed {t ms} : Fields t ms → MembersWellFormed ms
  | .last field => ⟨field.wellFormed, trivial⟩
  | .cons field rest => ⟨field.wellFormed, rest.wellFormed⟩
end

/-! ## The compact text denotes its value -/

theorem codeUnit_toNat {c : Char} (h : c.toNat < 0xD800) : Text.codeUnit c.toNat = c := by
  have low : ¬ (0xD800 ≤ c.toNat ∧ c.toNat < 0xE000) := by omega
  simp [Text.codeUnit, low]

theorem unicodeUnit_digits {u : Nat} (h : u < 65536) :
    unicodeUnit (Hex.digit (u / 4096 % 16)) (Hex.digit (u / 256 % 16)) (Hex.digit (u / 16 % 16))
      (Hex.digit (u % 16)) = some u := by
  have read : ∀ n, Hex.value? (Hex.digit (n % 16)) = some (n % 16) :=
    fun n => Hex.value_digit _ (Nat.mod_lt _ (by omega))
  simp only [unicodeUnit, read, Option.bind_eq_bind, Option.bind_some, Option.some.injEq]
  omega

theorem escapeChar_body (c : Char) {t s : Text} (h : StringBody t s) :
    StringBody (escapeChar c ++ t) (c :: s) := by
  unfold escapeChar
  split_ifs with quotation backslash tab backspace lf cr ff special
  · subst quotation; exact .short rfl h
  · subst backslash; exact .short rfl h
  · subst tab; exact .short rfl h
  · subst backspace; exact .short rfl h
  · subst lf; exact .short rfl h
  · subst cr; exact .short rfl h
  · subst ff; exact .short rfl h
  · have unit : StringBody _ (Text.codeUnit c.toNat :: s) :=
      .unicode (unicodeUnit_digits (u := c.toNat) (by omega)) h
    rw [codeUnit_toNat (by omega)] at unit
    exact unit
  · exact .plain ⟨by omega, quotation, backslash⟩ h

theorem escape_body (content : Text) : StringBody (escape content) content := by
  induction content with
  | nil => exact .nil
  | cons c content ih => exact escapeChar_body c ih

theorem quote_denotes (content : Text) : Denotes (quote content) (.str content) :=
  .str (escape_body content)

theorem quote_field (name : Text) {t v} (h : Denotes t v) :
    Field (quote name ++ ':' :: t) (name, v) := by
  simpa [quote] using Field.mk space_nil (escape_body name) space_nil h.document

private theorem arr_denotes {elements : List Json}
    (written : elements ≠ [] → Elements (printElements elements) elements) :
    Denotes (print (.arr elements)) (.arr elements) := by
  cases elements with
  | nil => exact .emptyArr space_nil
  | cons v vs => exact .arr (written (List.cons_ne_nil v vs))

private theorem obj_denotes {members : Members} (distinct : (members.map Prod.fst).Nodup)
    (written : members ≠ [] → Fields (printMembers members) members) :
    Denotes (print (.obj members)) (.obj members) := by
  cases members with
  | nil => exact .emptyObj space_nil
  | cons m ms =>
      have fields := Denotes.obj (written (List.cons_ne_nil m ms))
      rw [ofMembers_of_nodup distinct] at fields
      exact fields

mutual
theorem print_denotes : ∀ v : Json, WellFormed v → Denotes (print v) v
  | .null, _ => .litNull
  | .bool true, _ => .litTrue
  | .bool false, _ => .litFalse
  | .num _, literal => .num literal
  | .str content, _ => quote_denotes content
  | .arr elements, h => arr_denotes (printElements_denotes elements h)
  | .obj members, h => obj_denotes h.1 (printMembers_denotes members h.2)

theorem printElements_denotes : ∀ vs : List Json, AllWellFormed vs → vs ≠ [] →
    Elements (printElements vs) vs
  | [], _, nonempty => absurd rfl nonempty
  | [v], h, _ => .last (print_denotes v h.1).document
  | v :: next :: rest, h, _ => .cons (print_denotes v h.1).document
      (printElements_denotes (next :: rest) h.2 (List.cons_ne_nil next rest))

theorem printMembers_denotes : ∀ ms : List (Text × Json), MembersWellFormed ms → ms ≠ [] →
    Fields (printMembers ms) ms
  | [], _, nonempty => absurd rfl nonempty
  | [(name, v)], h, _ => .last (quote_field name (print_denotes v h.1))
  | (name, v) :: next :: rest, h, _ => .cons (quote_field name (print_denotes v h.1))
      (printMembers_denotes (next :: rest) h.2 (List.cons_ne_nil next rest))
end

end Json
