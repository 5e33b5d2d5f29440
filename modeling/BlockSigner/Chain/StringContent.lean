import BlockSigner.Chain.Classification

/-! # The content of an attribute

`attributeToString` prints the element and strips the quotation marks, so what
it returns for a string is the escaped content. That is the content itself
exactly where JSON has nothing to escape in it. The text of any other element
comes back as it was printed.
-/

namespace BlockSigner

namespace JsonStringParser

/-! ## Stripping a printed string -/

theorem escape_identifier (s : Text) :
    Json.escape ("0x".toList ++ s) = "0x".toList ++ Json.escape s := rfl

/-- An escaped content starts with the identifier only if the content does. -/
theorem identifier_of_escape {s : Text} (starts : "0x".toList <+: Json.escape s) :
    "0x".toList <+: s := by
  obtain ⟨rest, split⟩ := starts
  cases s with
  | nil => cases split
  | cons c s =>
      rcases Json.escapeChar_cases c with ⟨_, kept⟩ | ⟨_, d, more, escaped⟩
      · rw [Json.escape_cons, kept] at split
        cases s with
        | nil => cases split
        | cons c' s =>
            rcases Json.escapeChar_cases c' with ⟨_, kept'⟩ | ⟨_, d, more, escaped⟩
            · rw [Json.escape_cons, kept'] at split
              cases split
              exact ⟨s, rfl⟩
            · rw [Json.escape_cons, escaped] at split
              cases split
      · rw [Json.escape_cons, escaped] at split
        cases split

theorem dropPrefix_escape (s : Text) :
    Text.dropPrefix "0x".toList (Json.escape s) = Json.escape (Text.dropPrefix "0x".toList s) := by
  rcases Text.dropPrefix_cases "0x".toList s with ⟨kept, notIdentifier⟩ | ⟨rest, rfl, cut⟩
  · rw [kept, Text.dropPrefix_of_absent]
    exact fun starts => notIdentifier (identifier_of_escape starts)
  · rw [cut, escape_identifier, Text.dropPrefix_append]

/-- What is left of a printed string is its content, escaped. -/
theorem cleanElement_quote (s : Text) :
    cleanElement (Json.quote s) = Json.escape (Text.dropPrefix "0x".toList s) := by
  have opened : Text.dropPrefix ['"'] (Json.quote s) = Json.escape s ++ ['"'] :=
    Text.dropPrefix_append ['"'] (Json.escape s ++ ['"'])
  rw [cleanElement, opened, Text.dropSuffix_append, dropPrefix_escape]

/-! ## The content as documented -/

/-- The content of a string without its `0x`, null for an empty content and for
    the text `null`. -/
def contentOf (s : Text) : Option Text :=
  let content := Text.dropPrefix "0x".toList s
  if content = [] ∨ content = "null".toList then none else some content

theorem escape_eq_nil_iff {s : Text} : Json.escape s = [] ↔ s = [] := by
  constructor
  · intro empty
    have longer := Json.escape_length s
    rw [empty] at longer
    exact List.eq_nil_of_length_eq_zero (Nat.le_zero.mp longer)
  · rintro rfl
    rfl

theorem escape_eq_null_iff {s : Text} : Json.escape s = "null".toList ↔ s = "null".toList := by
  constructor
  · intro null
    have absent : '\\' ∉ Json.escape s := by
      rw [null]
      simp
    rw [← Json.escape_eq_iff.mpr (Json.verbatim_of_no_backslash absent), null]
  · rintro rfl
    rfl

variable {parser : JsonStringParser} {name s : Text}

/-- What the code returns: the escaped content, with the same two exceptions. -/
theorem attributeToString_str (found : Json.get parser.stringAsJson name = some (.str s)) :
    parser.attributeToString name =
      (contentOf s).map Json.escape := by
  have printed : cleanElement (Json.print (.str s)) = Json.escape (Text.dropPrefix "0x".toList s) :=
    cleanElement_quote s
  simp only [attributeToString, found, printed, escape_eq_nil_iff, escape_eq_null_iff, contentOf]
  split
  · rfl
  · rfl

/-- The identifier is never escaped. -/
theorem verbatim_dropPrefix_iff :
    Json.Verbatim (Text.dropPrefix "0x".toList s) ↔ Json.Verbatim s := by
  rcases Text.dropPrefix_cases "0x".toList s with ⟨kept, _⟩ | ⟨rest, rfl, cut⟩
  · rw [kept]
  · rw [cut, ← Json.escape_eq_iff, ← Json.escape_eq_iff, escape_identifier,
      List.append_cancel_left_eq]

/-- Escaping changes a content unless there is nothing to escape in it. -/
theorem escape_content_iff : (contentOf s).map Json.escape = contentOf s ↔ Json.Verbatim s := by
  rw [← verbatim_dropPrefix_iff, contentOf]
  split
  · next noContent =>
      have asIs : Json.Verbatim (Text.dropPrefix "0x".toList s) := by
        rcases noContent with empty | null
        · rw [empty]
          exact Json.verbatim_nil
        · rw [null]
          exact Json.escape_eq_iff.mp rfl
      exact iff_of_true rfl asIs
  · rw [Option.map_some, Option.some.injEq, Json.escape_eq_iff]

/-- A string attribute is returned faithfully exactly if JSON escapes none of
    its characters. -/
theorem attributeToString_faithful_iff
    (found : Json.get parser.stringAsJson name = some (.str s)) :
    parser.attributeToString name = contentOf s ↔ Json.Verbatim s := by
  rw [attributeToString_str found, escape_content_iff]

theorem attributeToString_faithful_hex :
    (mk [("data".toList, .str "0xC0DE".toList)]).attributeToString "data".toList =
      contentOf "0xC0DE".toList := by
  apply (attributeToString_faithful_iff rfl).mpr
  exact Json.escape_eq_iff.mp rfl

/-- A message with quotation marks in it comes with backslashes. -/
theorem attributeToString_quotation_not_faithful :
    (mk [("message".toList, .str "bad \"nonce\"".toList)]).attributeToString "message".toList ≠
      contentOf "bad \"nonce\"".toList := by
  rw [attributeToString_str rfl]
  decide

/-! ## Elements of any kind -/

/-- A value that is no string is read back from its stripped text. -/
theorem cleanElement_print {value : Json} (wellFormed : value.WellFormed)
    (notString : ∀ s, value ≠ .str s) : cleanElement value.print = value.print := by
  have bare := Json.print_bare wellFormed notString
  exact cleanElement_of_bare bare.opening bare.closing bare.hex

/-- Only null is printed as `null`. -/
theorem print_ne_null {value : Json} (wellFormed : value.WellFormed) (notNull : value ≠ .null) :
    value.print ≠ "null".toList := by
  intro same
  have read := Json.parse_iff.mpr (Json.print_denotes value wellFormed).document
  rw [same, Json.parse_iff.mpr Json.Denotes.litNull.document] at read
  exact notNull (Option.some.inj read).symm

/-- The content of an element as documented: that of a string, and the text of
    any other value but null. -/
def elementContent : Json → Option Text
  | .null => none
  | .str s => contentOf s
  | value => some value.print

/-- The content of an attribute as documented. -/
def documentedContent (fields : Json.Members) (name : Text) : Option Text :=
  (Json.get fields name).bind elementContent

/-- If the attribute is a string, there is nothing to escape in it. -/
def VerbatimAt (fields : Json.Members) (name : Text) : Prop :=
  ∀ s, Json.get fields name = some (.str s) → Json.Verbatim s

/-- An element that is no string has its documented content. -/
theorem attributeToString_element {value : Json} (wellFormed : value.WellFormed)
    (found : Json.get parser.stringAsJson name = some value) (notString : ∀ s, value ≠ .str s) :
    parser.attributeToString name = elementContent value := by
  have kept := cleanElement_print wellFormed notString
  by_cases null : value = .null
  · subst null
    exact attributeToString_missing found (.inr kept)
  · have content : elementContent value = some value.print := by
      cases value with
      | null => exact absurd rfl null
      | str s => exact absurd rfl (notString s)
      | _ => rfl
    rw [content, attributeToString_content found, kept]
    rw [kept]
    rintro (empty | printed)
    · exact Json.print_ne_nil wellFormed empty
    · exact print_ne_null wellFormed null printed

variable {fields : Json.Members}

/-- What is returned and what is documented: no content in the same cases, and the
    same content unless something is escaped in it. -/
theorem attributeToString_documented (wellFormed : Json.WellFormed (.obj fields)) (name : Text) :
    ((mk fields).attributeToString name = none ↔ documentedContent fields name = none) ∧
      ((mk fields).attributeToString name = documentedContent fields name ↔
        VerbatimAt fields name) := by
  cases found : Json.get fields name with
  | none =>
      have nothing : (mk fields).attributeToString name = none := by
        simp only [attributeToString, found]
      simp [nothing, documentedContent, VerbatimAt, found]
  | some value =>
      have documented : documentedContent fields name = elementContent value := by
        simp [documentedContent, found]
      by_cases isString : ∃ s, value = .str s
      · obtain ⟨s, rfl⟩ := isString
        have verbatim : VerbatimAt fields name ↔ Json.Verbatim s := by simp [VerbatimAt, found]
        rw [documented, verbatim, attributeToString_str found]
        exact ⟨Option.map_eq_none_iff, escape_content_iff⟩
      · rw [not_exists] at isString
        have same : (mk fields).attributeToString name = elementContent value :=
          attributeToString_element (wellFormed.get found) found isString
        rw [documented, same]
        refine ⟨Iff.rfl, iff_of_true rfl ?_⟩
        intro s stringFound
        rw [found] at stringFound
        exact absurd (Option.some.inj stringFound) (isString s)

end JsonStringParser

end BlockSigner
