import BlockSigner.Json.Parser

/-! # The shape of a compact text

A compact text is a single line, and only that of a string has a quotation mark
at an end or `0x` in front: a reader that joins lines and strips these loses
nothing of any other value.
-/

namespace Json

/-! ## Number literals -/

/-- A number is written with its digits, its signs, `.`, `e` and `E`. -/
def numberChar (c : Char) : Bool := continuesNumber c || c == '-' || c == '+'

theorem Digits.numberChar {ds : Text} (h : Digits ds) : ∀ c ∈ ds, numberChar c = true := by
  intro c member
  simp only [Json.numberChar, continuesNumber, h c member, Bool.true_or]

theorem IntPart.numberChar {int : Text} (h : IntPart int) : ∀ c ∈ int, numberChar c = true := by
  cases h with
  | zero =>
      intro c member
      rw [List.mem_singleton.mp member]
      decide
  | @nonzero d ds digit _ digits =>
      intro c member
      rcases List.mem_cons.mp member with rfl | member
      · simp only [Json.numberChar, continuesNumber, digit, Bool.true_or]
      · exact digits.numberChar c member

theorem FracPart.numberChar {frac : Text} (h : FracPart frac) : ∀ c ∈ frac, numberChar c = true := by
  cases h with
  | absent => simp
  | @present ds _ digits =>
      intro c member
      rcases List.mem_cons.mp member with rfl | member
      · decide
      · exact digits.numberChar c member

theorem ExpPart.numberChar {exp : Text} (h : ExpPart exp) : ∀ c ∈ exp, numberChar c = true := by
  cases h with
  | absent => simp
  | @present e sign ds letter signed _ digits =>
      intro c member
      simp only [List.mem_append, List.cons_append, List.mem_cons] at member
      rcases member with rfl | member | member
      · rcases letter with rfl | rfl <;> decide
      · rcases signed with rfl | rfl | rfl
        · cases member
        · rw [List.mem_singleton.mp member]; decide
        · rw [List.mem_singleton.mp member]; decide
      · exact digits.numberChar c member

theorem Number.numberChar {t : Text} (h : Number t) : ∀ c ∈ t, numberChar c = true := by
  cases h with
  | @mk minus int frac exp sign i f e =>
      intro c member
      simp only [List.mem_append] at member
      rcases member with member | member | member | member
      · rcases sign with rfl | rfl
        · cases member
        · rw [List.mem_singleton.mp member]; decide
      · exact i.numberChar c member
      · exact f.numberChar c member
      · exact e.numberChar c member

/-! ## One line -/

/-- No line terminator. -/
def OneLine (t : Text) : Prop := ∀ c ∈ t, Text.isTerminator c = false

instance (t : Text) : Decidable (OneLine t) := List.decidableBAll _ t

theorem OneLine.append {t t' : Text} (h : OneLine t) (h' : OneLine t') : OneLine (t ++ t') := by
  intro c member
  exact (List.mem_append.mp member).elim (h c) (h' c)

theorem OneLine.cons {c : Char} {t : Text} (hc : Text.isTerminator c = false) (h : OneLine t) :
    OneLine (c :: t) := by
  intro d member
  rcases List.mem_cons.mp member with rfl | member
  · exact hc
  · exact h d member

theorem oneLine_nil : OneLine [] := by simp [OneLine]

/-- A line reader passes such a text on unchanged. -/
theorem OneLine.readAll {t : Text} (h : OneLine t) : Text.readAll t = t := by
  rw [Text.readAll_eq_filter, List.filter_eq_self]
  intro c member
  rw [h c member]
  rfl

theorem value_not_terminator {c : Char} {n : Nat} (h : Hex.value? c = some n) :
    Text.isTerminator c = false := by
  apply Text.not_terminator
  · rintro rfl
    cases h
  · rintro rfl
    cases h

theorem shortEscape_not_terminator {c e : Char} (h : shortEscape c = some e) :
    Text.isTerminator c = false := by
  apply Text.not_terminator
  · rintro rfl
    cases h
  · rintro rfl
    cases h

theorem Unescaped.not_terminator {c : Char} (h : Unescaped c) : Text.isTerminator c = false := by
  apply Text.not_terminator
  · rintro rfl
    exact absurd h.1 (by simp)
  · rintro rfl
    exact absurd h.1 (by simp)

theorem unicodeUnit_not_terminator {a b c d : Char} {u : Nat} (h : unicodeUnit a b c d = some u) :
    OneLine [a, b, c, d] := by
  simp only [unicodeUnit, Option.bind_eq_bind, Option.bind_eq_some_iff] at h
  obtain ⟨_, first, _, second, _, third, _, fourth, _⟩ := h
  exact .cons (value_not_terminator first) (.cons (value_not_terminator second)
    (.cons (value_not_terminator third) (.cons (value_not_terminator fourth) oneLine_nil)))

theorem StringBody.oneLine {t s} (h : StringBody t s) : OneLine t := by
  induction h with
  | nil => exact oneLine_nil
  | plain unescaped _ ih => exact .cons unescaped.not_terminator ih
  | short escaped _ ih => exact .cons rfl (.cons (shortEscape_not_terminator escaped) ih)
  | unicode unit _ ih =>
      have digits := unicodeUnit_not_terminator unit
      exact .cons rfl (.cons rfl (digits.append ih))

theorem quote_oneLine (content : Text) : OneLine (quote content) := by
  have escaped : OneLine (escape content) := (escape_body content).oneLine
  exact .cons rfl (escaped.append (.cons rfl oneLine_nil))

theorem number_oneLine {t : Text} (h : Number t) : OneLine t := by
  intro c member
  have written := h.numberChar c member
  cases terminator : Text.isTerminator c with
  | false => rfl
  | true =>
      simp only [Text.isTerminator, Bool.or_eq_true, beq_iff_eq] at terminator
      rcases terminator with rfl | rfl <;> exact absurd written (by decide)

mutual
theorem print_oneLine : ∀ v : Json, WellFormed v → OneLine (print v)
  | .null, _ => by decide
  | .bool true, _ => by decide
  | .bool false, _ => by decide
  | .num _, literal => number_oneLine literal
  | .str content, _ => quote_oneLine content
  | .arr elements, h =>
      .cons rfl ((printElements_oneLine elements h).append (.cons rfl oneLine_nil))
  | .obj members, h =>
      .cons rfl ((printMembers_oneLine members h.2).append (.cons rfl oneLine_nil))

theorem printElements_oneLine : ∀ vs : List Json, AllWellFormed vs → OneLine (printElements vs)
  | [], _ => oneLine_nil
  | [v], h => print_oneLine v h.1
  | v :: next :: rest, h =>
      (print_oneLine v h.1).append (.cons rfl (printElements_oneLine (next :: rest) h.2))

theorem printMembers_oneLine : ∀ ms : List (Text × Json), MembersWellFormed ms →
    OneLine (printMembers ms)
  | [], _ => oneLine_nil
  | [(name, v)], h => (quote_oneLine name).append (.cons rfl (print_oneLine v h.1))
  | (name, v) :: next :: rest, h =>
      ((quote_oneLine name).append (.cons rfl (print_oneLine v h.1))).append
        (.cons rfl (printMembers_oneLine (next :: rest) h.2))
end

/-! ## Content that is written as it is -/

/-- A character that a printed string does not escape. -/
def Kept (c : Char) : Prop :=
  c ≠ '"' ∧ c ≠ '\\' ∧ 0x20 ≤ c.toNat ∧ c.toNat ≠ 0x2028 ∧ c.toNat ≠ 0x2029

/-- No character is escaped. -/
def Verbatim (s : Text) : Prop := ∀ c ∈ s, Kept c

theorem verbatim_nil : Verbatim [] := by simp [Verbatim]

theorem verbatim_cons {c : Char} {s : Text} : Verbatim (c :: s) ↔ Kept c ∧ Verbatim s :=
  List.forall_mem_cons

/-- A character is written as itself or as an escape of at least two units. -/
theorem escapeChar_cases (c : Char) :
    Kept c ∧ escapeChar c = [c] ∨ ¬ Kept c ∧ ∃ d rest, escapeChar c = '\\' :: d :: rest := by
  generalize written : escapeChar c = t
  unfold escapeChar at written
  split_ifs at written with quotation backslash tab backspace lf cr ff special
  · exact .inr ⟨fun plain => plain.1 quotation, _, _, written.symm⟩
  · exact .inr ⟨fun plain => plain.2.1 backslash, _, _, written.symm⟩
  · exact .inr ⟨fun plain => absurd plain.2.2.1 (by simp [tab]), _, _, written.symm⟩
  · exact .inr ⟨fun plain => absurd plain.2.2.1 (by simp [backspace]), _, _, written.symm⟩
  · exact .inr ⟨fun plain => absurd plain.2.2.1 (by simp [lf]), _, _, written.symm⟩
  · exact .inr ⟨fun plain => absurd plain.2.2.1 (by simp [cr]), _, _, written.symm⟩
  · exact .inr ⟨fun plain => absurd plain.2.2.1 (by simp [ff]), _, _, written.symm⟩
  · refine .inr ⟨?_, _, _, written.symm⟩
    rintro ⟨_, _, high, notLine, notParagraph⟩
    rcases special with low | line | paragraph
    · omega
    · exact notLine line
    · exact notParagraph paragraph
  · refine .inl ⟨⟨quotation, backslash, ?_⟩, written.symm⟩
    omega

@[simp] theorem escape_nil : escape [] = [] := rfl

@[simp] theorem escape_cons (c : Char) (s : Text) : escape (c :: s) = escapeChar c ++ escape s := rfl

theorem escape_length (s : Text) : s.length ≤ (escape s).length := by
  induction s with
  | nil => exact Nat.le_refl 0
  | cons c s ih =>
      rcases escapeChar_cases c with ⟨_, kept⟩ | ⟨_, d, rest, escaped⟩
      · simp only [escape_cons, kept, List.length_append, List.length_cons, List.length_nil]
        omega
      · simp only [escape_cons, escaped, List.length_append, List.length_cons]
        omega

/-- Escaping a content changes it unless there is nothing to escape. -/
theorem escape_eq_iff {s : Text} : escape s = s ↔ Verbatim s := by
  induction s with
  | nil => simp [verbatim_nil]
  | cons c s ih =>
      rw [verbatim_cons, ← ih]
      rcases escapeChar_cases c with ⟨asIs, kept⟩ | ⟨special, d, rest, escaped⟩
      · simp [kept, asIs]
      · constructor
        · intro same
          have longer := escape_length s
          have size := congrArg List.length same
          simp only [escape_cons, escaped, List.length_append, List.length_cons] at size
          omega
        · intro ⟨plain, _⟩
          exact absurd plain special

theorem verbatim_of_no_backslash {s : Text} (absent : '\\' ∉ escape s) : Verbatim s := by
  induction s with
  | nil => exact verbatim_nil
  | cons c s ih =>
      rcases escapeChar_cases c with ⟨asIs, kept⟩ | ⟨_, d, rest, escaped⟩
      · simp only [escape_cons, kept, List.mem_append, not_or] at absent
        exact verbatim_cons.mpr ⟨asIs, ih absent.2⟩
      · simp [escaped] at absent

/-! ## Nothing to strip -/

/-- No quotation mark at either end and no `0x` in front. -/
structure Bare (t : Text) : Prop where
  opening : ¬ ['"'] <+: t
  closing : ¬ ['"'] <:+ t
  hex : ¬ "0x".toList <+: t

theorem Bare.of_not_mem {t : Text} (quotation : '"' ∉ t) (x : 'x' ∉ t) : Bare t where
  opening h := quotation (h.subset (List.mem_singleton_self _))
  closing h := quotation (h.subset (List.mem_singleton_self _))
  hex h := x (h.subset (by simp))

theorem Bare.bracketed {first last : Char} (t : Text) (hf : first ≠ '"' ∧ first ≠ '0')
    (hl : last ≠ '"') : Bare (first :: t ++ [last]) where
  opening h := hf.1 (List.cons_prefix_cons.mp h).1.symm
  closing h := by
    obtain ⟨front, split⟩ := h
    exact hl (List.append_inj_right' split rfl |> List.singleton_inj.mp).symm
  hex h := hf.2 (List.cons_prefix_cons.mp h).1.symm

/-- Only a string has anything to strip. -/
theorem print_bare {v : Json} (h : WellFormed v) (notString : ∀ s, v ≠ .str s) : Bare (print v) := by
  cases v with
  | null => exact .of_not_mem (by decide) (by decide)
  | bool value => cases value <;> exact .of_not_mem (by decide) (by decide)
  | num literal =>
      have written := Number.numberChar h
      exact .of_not_mem (fun member => absurd (written _ member) (by decide))
        (fun member => absurd (written _ member) (by decide))
  | str s => exact absurd rfl (notString s)
  | arr elements => exact .bracketed _ (by simp) (by simp)
  | obj members => exact .bracketed _ (by simp) (by simp)

theorem print_ne_nil {v : Json} (h : WellFormed v) : print v ≠ [] := by
  obtain ⟨c, rest, split, _⟩ := (print_denotes v h).head
  rw [split]
  exact List.cons_ne_nil c rest

end Json
