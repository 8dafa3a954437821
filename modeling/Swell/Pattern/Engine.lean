/-!
# Pattern engines

What the notation of patterns leaves open is up to the engine behind it: which characters have a
property, which of them differ in case alone, and which sources it refuses although they are
written well. Patterns are read and matched by any engine.
-/
namespace Swell.Pattern

/-- A set of characters that a pattern names. -/
inductive Property where
  | digit
  | blank
  | word
  | named (name : String)
  | valued (name value : String)
  deriving DecidableEq

class Engine where
  holds : Property → Char → Bool
  /-- The characters that equal a character up to case. -/
  caseVariants : Char → List Char
  /-- The engine knows all names in a source that is written well, and what it makes of the source
  stays within its size limit. -/
  takes : String → Bool

end Swell.Pattern
