import BlockSigner.Json.Compact

/-! # Documents laid out over several lines

A line terminator in a document stands between tokens: a string spells its
control characters, and no other token has one. Reading a document by lines
therefore shortens its white space and leaves every token as it is.
-/

namespace Json

/-! ## Joining the lines -/

theorem Space.readAll {w} (h : Space w) : Space (Text.readAll w) := by
  intro c member
  exact h c (Text.readAll_subset w member)

theorem readAll_bracketed {first last : Char} (t : Text) (opening : Text.isTerminator first = false)
    (closing : Text.isTerminator last = false) :
    Text.readAll (first :: (t ++ [last])) = first :: (Text.readAll t ++ [last]) := by
  rw [Text.readAll_cons opening, Text.readAll_append, Text.readAll_cons closing, Text.readAll_nil]

theorem readAll_separated {separator : Char} (t rest : Text)
    (kept : Text.isTerminator separator = false) :
    Text.readAll (t ++ separator :: rest) = Text.readAll t ++ separator :: Text.readAll rest := by
  rw [Text.readAll_append, Text.readAll_cons kept]

mutual
theorem Denotes.readAll {t v} : Denotes t v → Denotes (Text.readAll t) v
  | .litNull => by
      rw [OneLine.readAll (by decide)]
      exact .litNull
  | .litTrue => by
      rw [OneLine.readAll (by decide)]
      exact .litTrue
  | .litFalse => by
      rw [OneLine.readAll (by decide)]
      exact .litFalse
  | .num literal => by
      rw [(number_oneLine literal).readAll]
      exact .num literal
  | .str body => by
      rw [readAll_bracketed _ rfl rfl, body.oneLine.readAll]
      exact .str body
  | .emptyArr space => by
      rw [readAll_bracketed _ rfl rfl]
      exact .emptyArr space.readAll
  | .arr elements => by
      rw [readAll_bracketed _ rfl rfl]
      exact .arr elements.readAll
  | .emptyObj space => by
      rw [readAll_bracketed _ rfl rfl]
      exact .emptyObj space.readAll
  | .obj fields => by
      rw [readAll_bracketed _ rfl rfl]
      exact .obj fields.readAll

theorem Document.readAll {t v} : Document t v → Document (Text.readAll t) v
  | .mk before value after => by
      rw [Text.readAll_append, Text.readAll_append]
      exact .mk before.readAll value.readAll after.readAll

theorem Elements.readAll {t vs} : Elements t vs → Elements (Text.readAll t) vs
  | .last value => .last value.readAll
  | .cons value rest => by
      rw [readAll_separated _ _ rfl]
      exact .cons value.readAll rest.readAll

theorem Field.readAll {t m} : Field t m → Field (Text.readAll t) m
  | .mk before name between value => by
      rw [readAll_separated _ _ rfl, readAll_separated _ _ rfl, readAll_separated _ _ rfl,
        name.oneLine.readAll]
      exact .mk before.readAll name between.readAll value.readAll

theorem Fields.readAll {t ms} : Fields t ms → Fields (Text.readAll t) ms
  | .last field => .last field.readAll
  | .cons field rest => by
      rw [readAll_separated _ _ rfl]
      exact .cons field.readAll rest.readAll
end

theorem Document.ne_nil {t v} (document : Document t v) : t ≠ [] := by
  rintro rfl
  cases parse_iff.mpr document

end Json
