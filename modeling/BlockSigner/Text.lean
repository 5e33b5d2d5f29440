import Mathlib.Data.List.Basic

/-! # Text as Java cuts it

A text is a sequence of UTF-16 code units. `Char` leaves the surrogates out, so
a surrogate unit `u` is carried by the private-use character `U+100000 + u`;
every other unit is its own character. Each operation below is the one of
`java.lang` or `java.io` whose name it bears.
-/

abbrev Text := List Char

namespace Text

/-- The character that carries one UTF-16 code unit. -/
def codeUnit (u : Nat) : Char :=
  if 0xD800 ≤ u ∧ u < 0xE000 then Char.ofNat (0x100000 + u) else Char.ofNat u

/-- `s.startsWith(p) ? s.substring(p.length()) : s`. -/
def dropPrefix (p s : Text) : Text :=
  if p.isPrefixOf s then s.drop p.length else s

/-- `s.endsWith(p) ? s.substring(0, s.length() - p.length()) : s`. -/
def dropSuffix (p s : Text) : Text :=
  if p.isSuffixOf s then s.take (s.length - p.length) else s

@[simp] theorem dropPrefix_append (p s : Text) : dropPrefix p (p ++ s) = s := by
  simp [dropPrefix]

theorem dropPrefix_of_absent {p s : Text} (h : ¬ p <+: s) : dropPrefix p s = s := by
  simp [dropPrefix, h]

/-- Either there is no prefix to drop, or what is dropped stood in front. -/
theorem dropPrefix_cases (p s : Text) :
    dropPrefix p s = s ∧ ¬ p <+: s ∨ ∃ rest, s = p ++ rest ∧ dropPrefix p s = rest := by
  by_cases starts : p <+: s
  · obtain ⟨rest, rfl⟩ := starts
    exact .inr ⟨rest, rfl, dropPrefix_append p rest⟩
  · exact .inl ⟨dropPrefix_of_absent starts, starts⟩

@[simp] theorem dropSuffix_append (s p : Text) : dropSuffix p (s ++ p) = s := by
  simp [dropSuffix]

/-- Every character of a text that is written out satisfies what the letters do. -/
theorem forall_literal {P : Char → Prop} [DecidablePred P] {letters : List Char}
    (holds : letters.all (fun c => decide (P c)) = true) : ∀ c ∈ (String.ofList letters).toList, P c := by
  rw [String.toList_ofList]
  simpa only [List.all_eq_true, decide_eq_true_eq] using holds

/-! ## Left-to-right replacement -/

/-- The first argument counts the units of the occurrence that is being skipped. -/
def replaceFrom (target replacement : Text) : Nat → Text → Text
  | _, [] => []
  | skip + 1, _ :: rest => replaceFrom target replacement skip rest
  | 0, c :: rest =>
      if target.isPrefixOf (c :: rest) then
        replacement ++ replaceFrom target replacement (target.length - 1) rest
      else
        c :: replaceFrom target replacement 0 rest

/-- `s.replace(target, replacement)` for a nonempty target. -/
def replace (target replacement s : Text) : Text :=
  replaceFrom target replacement 0 s

theorem replace_cons_of_absent {target replacement : Text} {c : Char} {s : Text}
    (noOccurrence : ¬ target <+: c :: s) :
    replace target replacement (c :: s) = c :: replace target replacement s := by
  simp [replace, replaceFrom, noOccurrence]

/-- Where a unit of the target is missing, nothing is replaced. -/
theorem replace_of_not_mem {target replacement : Text} {c : Char} (member : c ∈ target) :
    ∀ {s : Text}, c ∉ s → replace target replacement s = s := by
  intro s
  induction s with
  | nil => intro _; rfl
  | cons d rest ih =>
      intro absent
      have noOccurrence : ¬ target <+: d :: rest :=
        fun occurrence => absent (occurrence.subset member)
      have absentRest : c ∉ rest := fun inRest => absent (List.mem_cons_of_mem d inRest)
      rw [replace_cons_of_absent noOccurrence, ih absentRest]

/-- A leading occurrence goes, and the rest is scanned from where it ends. -/
theorem replaceFrom_skip (target replacement : Text) :
    ∀ skipped rest : Text,
      replaceFrom target replacement skipped.length (skipped ++ rest) =
        replaceFrom target replacement 0 rest := by
  intro skipped rest
  induction skipped with
  | nil => rfl
  | cons c skipped ih => simpa only [List.length_cons, List.cons_append, replaceFrom] using ih

theorem replace_append {target replacement : Text} (nonempty : target ≠ []) (s : Text) :
    replace target replacement (target ++ s) = replacement ++ replace target replacement s := by
  cases target with
  | nil => exact absurd rfl nonempty
  | cons c target =>
      have occurrence : (c :: target) <+: c :: (target ++ s) := List.prefix_append (c :: target) s
      simp only [replace, List.cons_append, replaceFrom, List.isPrefixOf_iff_prefix, occurrence,
        if_true, List.length_cons, Nat.add_sub_cancel, replaceFrom_skip]

theorem replaceFrom_subset (target : Text) (skip : Nat) (s : Text) :
    replaceFrom target [] skip s ⊆ s := by
  fun_induction replaceFrom target [] skip s with
  | case1 => exact List.Subset.refl []
  | case2 skip c rest ih => exact List.subset_cons_of_subset c ih
  | case3 c rest _ ih => exact List.subset_cons_of_subset c ih
  | case4 c rest _ ih => exact List.cons_subset_cons c ih

/-- Deleting a target adds no character. -/
theorem replace_nil_subset (target s : Text) : replace target [] s ⊆ s :=
  replaceFrom_subset target 0 s

/-! ## Reading a stream by lines -/

/-- One line without its terminator (LF, CR or CRLF), and what follows it. -/
def takeLine : Text → Text × Text
  | [] => ([], [])
  | '\n' :: rest => ([], rest)
  | '\r' :: '\n' :: rest => ([], rest)
  | '\r' :: rest => ([], rest)
  | c :: rest => ((c :: (takeLine rest).1), (takeLine rest).2)

/-- `BufferedReader.readLine`: null at the end of the stream. -/
def readLine : Text → Option (Text × Text)
  | [] => none
  | c :: rest => some (takeLine (c :: rest))

/-- LF and CR, the units a line reader takes away. -/
def isTerminator (c : Char) : Bool := c == '\n' || c == '\r'

theorem not_terminator {c : Char} (lf : c ≠ '\n') (cr : c ≠ '\r') : isTerminator c = false := by
  simp [isTerminator, lf, cr]

theorem takeLine_length (s : Text) : (takeLine s).2.length ≤ s.length := by
  fun_induction takeLine s with
  | case1 => simp
  | case2 rest => simp
  | case3 rest => simp only [List.length_cons]; omega
  | case4 rest _ => simp
  | case5 c rest _ _ _ ih => simp only [List.length_cons]; omega

/-- A nonempty stream gets shorter with every line. -/
theorem takeLine_cons_length (c : Char) (s : Text) : (takeLine (c :: s)).2.length ≤ s.length := by
  have tail := takeLine_length s
  generalize read : c :: s = stream
  fun_cases takeLine stream with
  | case1 => cases read
  | case2 rest => cases read; simp
  | case3 rest => cases read; simp
  | case4 rest _ => cases read; simp
  | case5 d rest _ _ _ => cases read; exact tail

/-- Across one line, only terminators are lost. -/
theorem takeLine_filter (s : Text) :
    (takeLine s).1 ++ (takeLine s).2.filter (fun c => !isTerminator c) =
      s.filter (fun c => !isTerminator c) := by
  fun_induction takeLine s with
  | case1 => rfl
  | case2 rest => simp [isTerminator]
  | case3 rest => simp [isTerminator]
  | case4 rest _ => simp [isTerminator]
  | case5 c rest notLF notCRLF notCR ih =>
      have kept : isTerminator c = false := not_terminator (fun h => notLF h) (fun h => notCR h)
      simp only [List.cons_append, ih, List.filter_cons, kept, Bool.not_false, if_true]

/-- The loop `while ((line = reader.readLine()) != null) builder.append(line)`. -/
def readLoop : Nat → Text → Text → Text
  | 0, builder, _ => builder
  | fuel + 1, builder, reader =>
      match readLine reader with
      | none => builder
      | some (line, rest) => readLoop fuel (builder ++ line) rest

/-- What the loop has built at the end of the stream. Every line takes at least
    one unit, so the fuel never runs out (`readAll_eq_filter`). -/
def readAll (stream : Text) : Text := readLoop (stream.length + 1) [] stream

theorem readLoop_eq_filter {fuel : Nat} {stream : Text} (enough : stream.length < fuel) :
    ∀ builder, readLoop fuel builder stream =
      builder ++ stream.filter (fun c => !isTerminator c) := by
  induction fuel generalizing stream with
  | zero => omega
  | succ fuel ih =>
      intro builder
      cases stream with
      | nil => simp [readLoop, readLine]
      | cons c rest =>
          have shorter := takeLine_cons_length c rest
          simp only [List.length_cons] at enough
          simp only [readLoop, readLine]
          rw [ih (by omega), List.append_assoc, takeLine_filter]

/-- Reading by lines takes away the terminators and nothing else. -/
theorem readAll_eq_filter (stream : Text) :
    readAll stream = stream.filter (fun c => !isTerminator c) := by
  simpa only [readAll, List.nil_append] using
    readLoop_eq_filter (Nat.lt_succ_self stream.length) []

@[simp] theorem readAll_nil : readAll [] = [] := by simp [readAll_eq_filter]

theorem readAll_append (s t : Text) : readAll (s ++ t) = readAll s ++ readAll t := by
  simp only [readAll_eq_filter, List.filter_append]

@[simp] theorem readAll_cons {c : Char} (kept : isTerminator c = false) (s : Text) :
    readAll (c :: s) = c :: readAll s := by
  simp only [readAll_eq_filter, List.filter_cons, kept, Bool.not_false, if_true]

theorem readAll_subset (s : Text) : readAll s ⊆ s := by
  rw [readAll_eq_filter]
  exact List.filter_subset_self s

end Text
