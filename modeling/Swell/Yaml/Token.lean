/-!
# Tokens of a document

What a document consists of once its lines and columns have been accounted for. Nested blocks are
opened and closed by tokens of their own, which no character of the document stands for.
-/
namespace Swell.Yaml

/-- How a scalar is written. -/
inductive ScalarStyle where
  | plain
  | quoted
  /-- A block of lines that are kept. -/
  | literal
  /-- A block of lines that are joined. -/
  | folded
  deriving Repr, DecidableEq

inductive Token where
  | version (major minor : Nat)
  /-- An abbreviation for the beginnings of tags. -/
  | tagHandle (handle beginning : String)
  | documentStart
  | documentEnd
  | blockSequenceStart
  | blockMappingStart
  | blockEnd
  | flowSequenceStart
  | flowSequenceEnd
  | flowMappingStart
  | flowMappingEnd
  /-- The hyphen in front of an item. -/
  | blockEntry
  /-- The comma behind an item. -/
  | flowEntry
  | key
  | value
  | alias (name : String)
  | anchor (name : String)
  | tag (handle suffix : String)
  | scalar (text : String) (style : ScalarStyle)
  deriving Repr, DecidableEq

end Swell.Yaml
