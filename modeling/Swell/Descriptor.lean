/-!
# Descriptors

A descriptor says in a message what was expected at a place of a sentence.
-/
namespace Swell

inductive Descriptor where
  /-- One pattern, in the words of its author. -/
  | pattern (source : String)
  /-- Things that follow one another. -/
  | sequence (items : List Descriptor)
  /-- Things of which any one will do. -/
  | oneOf (items : List Descriptor)
  deriving Repr

namespace Descriptor

mutual

/-- A pattern stands between slashes, a sequence between parentheses, a choice between braces. -/
def render : Descriptor → String
  | .pattern source => "/" ++ source ++ "/"
  | .sequence items => "(" ++ " ".intercalate (renderAll items) ++ ")"
  | .oneOf items => "\x7b" ++ " | ".intercalate (renderAll items) ++ "\x7d"

def renderAll : List Descriptor → List String
  | [] => []
  | item :: items => item.render :: renderAll items

end

def listing (items : List Descriptor) : String :=
  ", ".intercalate (items.map render)

end Descriptor
end Swell
