import BlockSigner.Chain.RPC

/-! # Hex data in an answer

`decodeHex` takes every `0x` out of the text before it reads digits, not only a
leading one. What it accepts beyond the hex-data grammar are the texts of even
length in which digits surround an identifier.
-/

namespace BlockSigner

namespace RPC

/-! ## Texts with identifiers in them -/

/-- Digits with identifiers anywhere among them, and the digits alone. -/
inductive Scattered : Text → Text → Prop where
  | nil : Scattered [] []
  | identifier : Scattered text digits → Scattered ('0' :: 'x' :: text) digits
  | digit : (Hex.value? c).isSome = true → Scattered text digits →
      Scattered (c :: text) (c :: digits)

namespace Scattered

variable {text digits : Text}

theorem allDigits (scattered : Scattered text digits) : Hex.Digits digits := by
  induction scattered with
  | nil => simp [Hex.Digits]
  | identifier _ ih => exact ih
  | digit isDigit _ ih =>
      intro c member
      rcases List.mem_cons.mp member with rfl | member
      · exact isDigit
      · exact ih c member

/-- Taking an identifier out keeps the parity of the length. -/
theorem length_mod (scattered : Scattered text digits) : text.length % 2 = digits.length % 2 := by
  induction scattered with
  | nil => rfl
  | identifier _ ih =>
      simp only [List.length_cons]
      omega
  | digit _ _ ih =>
      simp only [List.length_cons]
      omega

/-- An `x` is always preceded by its zero. -/
theorem not_x (scattered : Scattered ('x' :: text) digits) : False := by
  cases scattered with
  | digit isDigit _ => cases isDigit

theorem of_digits (digits : Hex.Digits text) : Scattered text text := by
  induction text with
  | nil => exact .nil
  | cons c text ih =>
      apply Scattered.digit (digits c List.mem_cons_self)
      exact ih fun d member => digits d (List.mem_cons_of_mem c member)

theorem of_not_mem (scattered : Scattered text digits) (absent : 'x' ∉ text) : text = digits := by
  induction scattered with
  | nil => rfl
  | identifier _ _ => simp at absent
  | digit _ _ ih =>
      rw [ih fun member => absent (List.mem_cons_of_mem _ member)]

/-- With no identifier but a leading one, the text is hex data. -/
theorem leading (scattered : Scattered text digits) (absent : 'x' ∉ text.drop 2) :
    text = digits ∨ text = "0x".toList ++ digits := by
  cases scattered with
  | nil => exact .inl rfl
  | identifier rest => exact .inr (by rw [rest.of_not_mem absent]; rfl)
  | digit isDigit rest =>
      cases rest with
      | nil => exact .inl rfl
      | identifier _ => simp at absent
      | digit isDigit' rest' => exact .inl (by rw [rest'.of_not_mem absent])

end Scattered

/-! ## Taking the identifiers out -/

/-- A leading identifier goes, and the rest is looked through. -/
theorem replace_identifier (text : Text) :
    Text.replace "0x".toList [] ('0' :: 'x' :: text) = Text.replace "0x".toList [] text :=
  Text.replace_append (by simp) text

theorem identifier_of_occurrence {text : Text} (occurrence : "0x".toList <+: text) :
    ∃ rest, text = '0' :: 'x' :: rest := by
  obtain ⟨rest, rfl⟩ := occurrence
  exact ⟨rest, rfl⟩

theorem replace_eq_of_scattered {text digits : Text} (scattered : Scattered text digits) :
    Text.replace "0x".toList [] text = digits := by
  induction scattered with
  | nil => rfl
  | identifier _ ih => rw [replace_identifier, ih]
  | @digit c text digits isDigit rest ih =>
      have noOccurrence : ¬ "0x".toList <+: c :: text := by
        intro occurrence
        obtain ⟨after, split⟩ := identifier_of_occurrence occurrence
        cases split
        exact rest.not_x
      rw [Text.replace_cons_of_absent noOccurrence, ih]

theorem scattered_of_replace {text : Text}
    (digits : Hex.Digits (Text.replace "0x".toList [] text)) :
    Scattered text (Text.replace "0x".toList [] text) := by
  induction size : text.length using Nat.strongRecOn generalizing text with
  | ind n ih =>
      cases text with
      | nil => exact .nil
      | cons c text =>
          by_cases occurrence : "0x".toList <+: c :: text
          · obtain ⟨after, split⟩ := identifier_of_occurrence occurrence
            cases split
            rw [replace_identifier] at digits ⊢
            have shorter : after.length < n := by
              simp only [List.length_cons] at size
              omega
            exact .identifier (ih after.length shorter digits rfl)
          · rw [Text.replace_cons_of_absent occurrence] at digits ⊢
            apply Scattered.digit (digits c List.mem_cons_self)
            apply ih text.length (by simp [← size])
            · intro d member
              exact digits d (List.mem_cons_of_mem c member)
            · rfl

/-! ## What `decodeHex` accepts -/

theorem decodeHex_eq_ok_iff {text : Text} {bytes : Bytes} (ascii : ∀ c ∈ text, c.toNat < 128) :
    decodeHex text = .ok bytes ↔ ∃ digits, Scattered text digits ∧ Hex.Denotes digits bytes := by
  have read : Hex.decode Hex.characterDigit (Text.replace "0x".toList [] text) =
      Hex.decode Hex.value? (Text.replace "0x".toList [] text) :=
    Hex.decode_ascii fun c member => ascii c (Text.replace_nil_subset _ _ member)
  have decoded : decodeHex text = .ok bytes ↔
      Hex.Denotes (Text.replace "0x".toList [] text) bytes := by
    simp only [decodeHex, read, ← Hex.decode_iff]
    cases Hex.decode Hex.value? (Text.replace "0x".toList [] text) with
    | none => simp [throw, throwThe, MonadExceptOf.throw]
    | some found => simp [pure, Except.pure]
  rw [decoded]
  constructor
  · intro denotes
    exact ⟨_, scattered_of_replace denotes.digits, denotes⟩
  · rintro ⟨digits, scattered, denotes⟩
    rw [replace_eq_of_scattered scattered]
    exact denotes

theorem scattered_of_data {text : Text} {bytes : Bytes} (data : Hex.Data text bytes) :
    ∃ digits, Scattered text digits ∧ Hex.Denotes digits bytes := by
  obtain ⟨digits, rfl | rfl, denotes⟩ := data
  · exact ⟨_, .of_digits denotes.digits, denotes⟩
  · exact ⟨digits, .identifier (.of_digits denotes.digits), denotes⟩

/-- Hex data is read as its bytes. -/
theorem decodeHex_data {text : Text} {bytes : Bytes} (data : Hex.Data text bytes) :
    decodeHex text = .ok bytes := by
  have ascii : ∀ c ∈ text, c.toNat < 128 := by
    obtain ⟨digits, rfl | rfl, denotes⟩ := data
    · exact denotes.digits.ascii
    · intro c member
      rcases List.mem_append.mp member with identifier | member
      · simp only [String.reduceToList, List.mem_cons, List.not_mem_nil, or_false] at identifier
        rcases identifier with rfl | rfl <;> decide
      · exact denotes.digits.ascii c member
  exact (decodeHex_eq_ok_iff ascii).mpr (scattered_of_data data)

/-- A text that is not read is refused with an `IllegalStateException`. -/
theorem decodeHex_cases (text : Text) :
    (∃ bytes, decodeHex text = .ok bytes) ∨
      ∃ e, decodeHex text = .error e ∧ e.cls = .illegalState := by
  simp only [decodeHex]
  cases Hex.decode Hex.characterDigit (Text.replace "0x".toList [] text) with
  | none => exact .inr ⟨_, rfl, rfl⟩
  | some bytes => exact .inl ⟨bytes, rfl⟩

/-- Hex data is read as its bytes, and everything else is refused. -/
def ReadsHexData (text : Text) : Prop :=
  (∀ bytes, decodeHex text = .ok bytes ↔ Hex.Data text bytes) ∧
    ((¬ ∃ bytes, Hex.Data text bytes) → ∃ e, decodeHex text = .error e ∧ e.cls = .illegalState)

/-- Digits and identifiers of even length, one identifier not in front. -/
def Embedded (text : Text) : Prop :=
  text.length % 2 = 0 ∧ (∃ digits, Scattered text digits) ∧ 'x' ∈ text.drop 2

/-- Hex data has no identifier but a leading one. -/
theorem leading_of_data {text : Text} {bytes : Bytes} (data : Hex.Data text bytes) :
    'x' ∉ text.drop 2 := by
  obtain ⟨digits, rfl | rfl, denotes⟩ := data
  · intro member
    exact denotes.digits.not_mem_x (List.mem_of_mem_drop member)
  · exact denotes.digits.not_mem_x

/-- `decodeHex` reads hex data and nothing else, but for texts with an embedded
    identifier. -/
theorem decodeHex_readsHexData_iff {text : Text} (ascii : ∀ c ∈ text, c.toNat < 128) :
    ReadsHexData text ↔ ¬ Embedded text := by
  constructor
  · intro ⟨reads, _⟩ ⟨even, ⟨digits, scattered⟩, inside⟩
    obtain ⟨bytes, denotes⟩ :=
      scattered.allDigits.denotes (scattered.length_mod.symm.trans even)
    have data := (reads bytes).mp ((decodeHex_eq_ok_iff ascii).mpr ⟨digits, scattered, denotes⟩)
    exact leading_of_data data inside
  · intro notEmbedded
    have reads : ∀ bytes, decodeHex text = .ok bytes ↔ Hex.Data text bytes := by
      intro bytes
      rw [decodeHex_eq_ok_iff ascii]
      constructor
      · rintro ⟨digits, scattered, denotes⟩
        have size := denotes.length
        have even : text.length % 2 = 0 := by
          rw [scattered.length_mod]
          omega
        have absent : 'x' ∉ text.drop 2 :=
          fun inside => notEmbedded ⟨even, ⟨digits, scattered⟩, inside⟩
        exact ⟨digits, scattered.leading absent, denotes⟩
      · exact scattered_of_data
    refine ⟨reads, ?_⟩
    intro noData
    rcases decodeHex_cases text with ⟨bytes, read⟩ | refused
    · exact absurd ⟨bytes, (reads bytes).mp read⟩ noData
    · exact refused

/-- Hex data with its identifier in front. -/
theorem decodeHex_readsHexData_leading : ReadsHexData "0x00ff".toList := by
  apply (decodeHex_readsHexData_iff _).mpr
  · rintro ⟨_, _, inside⟩
    simp at inside
  · simp

/-- An identifier between digits is passed over. -/
theorem decodeHex_embedded_not_refused : ¬ ReadsHexData "120x34".toList := by
  intro ⟨reads, _⟩
  have read : decodeHex "120x34".toList = .ok [0x12, 0x34] := rfl
  have data := (reads [0x12, 0x34]).mp read
  exact leading_of_data data (by simp)

end RPC

end BlockSigner
