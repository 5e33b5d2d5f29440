import Mathlib.Data.List.Nodup
import BlockSigner.Hex

/-! # JSON values and their compact text

An object is an insertion-ordered map: a name that is put a second time keeps
its place and takes the new value. A number is kept as its literal. `print`
writes a value without white space, escaping what JSON requires together with
the two line separators U+2028 and U+2029.
-/

inductive Json where
  | null
  | bool (value : Bool)
  | num (literal : Text)
  | str (content : Text)
  | arr (elements : List Json)
  | obj (members : List (Text × Json))

namespace Json

abbrev Members := List (Text × Json)

/-! ## Members of an object -/

def get (members : Members) (name : Text) : Option Json :=
  (members.find? (fun member => member.1 = name)).map Prod.snd

def has (members : Members) (name : Text) : Bool := (get members name).isSome

def put (name : Text) (value : Json) : Members → Members
  | [] => [(name, value)]
  | member :: rest =>
      if member.1 = name then (name, value) :: rest else member :: put name value rest

/-- The map that results from putting the members one after the other. -/
def ofMembers (written : Members) : Members :=
  written.foldl (fun members member => put member.1 member.2 members) []

@[simp] theorem get_nil (name : Text) : get [] name = none := rfl

@[simp] theorem get_cons_self (name : Text) (value : Json) (rest : Members) :
    get ((name, value) :: rest) name = some value := by
  simp [get]

theorem get_cons_ne {other name : Text} (h : other ≠ name) (value : Json) (rest : Members) :
    get ((other, value) :: rest) name = get rest name := by
  simp [get, h]

theorem has_iff {members : Members} {name : Text} :
    has members name = true ↔ ∃ value, get members name = some value := by
  simp [has, Option.isSome_iff_exists]

theorem get_mem {members : Members} {name : Text} {value : Json}
    (h : get members name = some value) : (name, value) ∈ members := by
  simp only [get, Option.map_eq_some_iff] at h
  obtain ⟨⟨found, _⟩, located, rfl⟩ := h
  have same := List.find?_some located
  simp only [decide_eq_true_eq] at same
  subst same
  exact List.mem_of_find?_eq_some located

/-- Names after a put: an old name keeps its place, a new one comes last. -/
theorem put_names (name : Text) (value : Json) (members : Members) :
    (put name value members).map Prod.fst =
      if name ∈ members.map Prod.fst then members.map Prod.fst
      else members.map Prod.fst ++ [name] := by
  induction members with
  | nil => simp [put]
  | cons member rest ih =>
      by_cases same : member.1 = name
      · simp [put, same]
      · have differ : ¬ name = member.1 := fun h => same h.symm
        simp only [put, same, if_false, List.map_cons, ih, List.mem_cons, differ, false_or]
        split <;> simp

theorem put_nodup {name : Text} {value : Json} {members : Members}
    (distinct : (members.map Prod.fst).Nodup) :
    ((put name value members).map Prod.fst).Nodup := by
  rw [put_names]
  split
  · exact distinct
  · next fresh =>
      rw [List.nodup_append]
      refine ⟨distinct, List.nodup_singleton name, ?_⟩
      intro old member new isNew
      rw [List.mem_singleton.mp isNew]
      exact fun same => fresh (same ▸ member)

theorem put_fresh {name : Text} {value : Json} {members : Members}
    (fresh : name ∉ members.map Prod.fst) : put name value members = members ++ [(name, value)] := by
  induction members with
  | nil => rfl
  | cons member rest ih =>
      simp only [List.map_cons, List.mem_cons, not_or] at fresh
      have differ : ¬ member.1 = name := fun h => fresh.1 h.symm
      simp only [put, differ, if_false, ih fresh.2, List.cons_append]

theorem mem_put {name : Text} {value : Json} {members : Members} {member : Text × Json}
    (h : member ∈ put name value members) : member = (name, value) ∨ member ∈ members := by
  induction members with
  | nil => exact .inl (List.mem_singleton.mp h)
  | cons first rest ih =>
      by_cases same : first.1 = name
      · simp only [put, same, if_true, List.mem_cons] at h
        exact h.imp id (List.mem_cons_of_mem first)
      · simp only [put, same, if_false, List.mem_cons] at h
        rcases h with rfl | h
        · exact .inr List.mem_cons_self
        · exact (ih h).imp id (List.mem_cons_of_mem first)

private theorem foldl_put_nodup (written : Members) : ∀ {members : Members},
    (members.map Prod.fst).Nodup →
      ((written.foldl (fun members member => put member.1 member.2 members) members).map
        Prod.fst).Nodup := by
  induction written with
  | nil => intro members distinct; exact distinct
  | cons member rest ih => intro members distinct; exact ih (put_nodup distinct)

theorem ofMembers_nodup (written : Members) : ((ofMembers written).map Prod.fst).Nodup :=
  foldl_put_nodup written List.nodup_nil

private theorem foldl_put_mem (written : Members) : ∀ {members : Members} {member : Text × Json},
    member ∈ written.foldl (fun members member => put member.1 member.2 members) members →
      member ∈ members ∨ member ∈ written := by
  induction written with
  | nil => intro members member h; exact .inl h
  | cons first rest ih =>
      intro members member h
      rcases ih h with h | h
      · rcases mem_put h with rfl | h
        · exact .inr List.mem_cons_self
        · exact .inl h
      · exact .inr (List.mem_cons_of_mem first h)

theorem mem_ofMembers {written : Members} {member : Text × Json} (h : member ∈ ofMembers written) :
    member ∈ written := by
  rcases foldl_put_mem written h with h | h
  · cases h
  · exact h

private theorem foldl_put_distinct (written : Members) : ∀ members : Members,
    ((members ++ written).map Prod.fst).Nodup →
      written.foldl (fun members member => put member.1 member.2 members) members =
        members ++ written := by
  induction written with
  | nil => intro members _; simp
  | cons member rest ih =>
      intro members distinct
      have fresh : member.1 ∉ members.map Prod.fst := by
        intro old
        rw [List.map_append, List.nodup_append] at distinct
        exact distinct.2.2 _ old _ List.mem_cons_self rfl
      rw [List.foldl_cons, put_fresh fresh, ih _ (by simpa using distinct)]
      simp

/-- Members with distinct names are the map they write. -/
theorem ofMembers_of_nodup {written : Members} (distinct : (written.map Prod.fst).Nodup) :
    ofMembers written = written := by
  simpa only [ofMembers, List.nil_append] using foldl_put_distinct written [] distinct

/-! ## Compact text -/

/-- The four lower-case digits of one code unit. -/
def unicodeEscape (u : Nat) : Text :=
  ['\\', 'u', Hex.digit (u / 4096 % 16), Hex.digit (u / 256 % 16), Hex.digit (u / 16 % 16),
    Hex.digit (u % 16)]

def escapeChar (c : Char) : Text :=
  if c = '"' then ['\\', '"']
  else if c = '\\' then ['\\', '\\']
  else if c = '\t' then ['\\', 't']
  else if c = '\x08' then ['\\', 'b']
  else if c = '\n' then ['\\', 'n']
  else if c = '\r' then ['\\', 'r']
  else if c = '\x0c' then ['\\', 'f']
  else if c.toNat < 0x20 ∨ c.toNat = 0x2028 ∨ c.toNat = 0x2029 then unicodeEscape c.toNat
  else [c]

def escape (content : Text) : Text := content.flatMap escapeChar

def quote (content : Text) : Text := '"' :: escape content ++ ['"']

mutual
def print : Json → Text
  | .null => "null".toList
  | .bool true => "true".toList
  | .bool false => "false".toList
  | .num literal => literal
  | .str content => quote content
  | .arr elements => '[' :: printElements elements ++ [']']
  | .obj members => '{' :: printMembers members ++ ['}']

def printElements : List Json → Text
  | [] => []
  | [value] => print value
  | value :: next :: rest => print value ++ ',' :: printElements (next :: rest)

def printMembers : List (Text × Json) → Text
  | [] => []
  | [(name, value)] => quote name ++ ':' :: print value
  | (name, value) :: next :: rest =>
      quote name ++ ':' :: print value ++ ',' :: printMembers (next :: rest)
end

end Json
