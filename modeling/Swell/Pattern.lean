import Swell.Pattern.Reader
import Swell.Sentence

/-!
# Patterns

A pattern is a pattern expression that has to match an atom from end to end. It is anchored by
pasting its source between an anchored opening and closing, and reading the result.
-/
namespace Swell

/-- A readable pattern: its source, and the expression that its anchored source reads as. -/
structure Pattern where
  source : String
  expr : Pattern.Expr
  deriving DecidableEq

structure UnreadablePattern where
  source : String
  deriving DecidableEq

namespace Pattern

def anchored (source : String) : String :=
  "^(?:" ++ source ++ ")$"

def read [Engine] (source : String) : Except UnreadablePattern Pattern :=
  match Expr.read? (anchored source).toList with
  | some expr => if Engine.takes (anchored source) then .ok ⟨source, expr⟩ else .error ⟨source⟩
  | none => .error ⟨source⟩

/-- The source of the pattern for several parts, one directly behind the other. -/
def joinedSource (parts : List Pattern) : String :=
  String.join (parts.map fun part => "(?:" ++ part.source ++ ")")

/-- The pattern for several parts, one directly behind the other. -/
def join [Engine] (parts : List Pattern) : Except UnreadablePattern Pattern :=
  read (joinedSource parts)

def accepts [Engine] (p : Pattern) (atom : Atom) : Bool :=
  p.expr.found atom.toList

def render (p : Pattern) : String :=
  "/" ++ p.source ++ "/"

end Pattern

namespace UnreadablePattern

/-- The text of the fault; why the reader gave up is not part of it. -/
def message (f : UnreadablePattern) : String :=
  "invalid pattern /" ++ f.source ++ "/:"

end UnreadablePattern
end Swell
