/-
Why a YAML text cannot be read at all. Values that can be read but do not fit the place they are
meant for are another matter, see `Misfit`.
-/

namespace StackTypes.Yaml

/-- What is wrong with a YAML text. -/
inductive Malformed where
  /-- The bytes are no text, or hold a character that a YAML text may not hold. -/
  | characters
  /-- A token is broken or stands where it may not. -/
  | token
  /-- Tokens do not follow each other as they should. -/
  | order
  /-- An alias without an anchor, or an anchor inside the node it names. -/
  | anchor
  /-- A tag that is not declared, or that the value does not fit. -/
  | tag
  /-- A merge of something that is no mapping. -/
  | merge
  /-- Most of the document comes from aliases. -/
  | aliasing
deriving DecidableEq, Repr

end StackTypes.Yaml
