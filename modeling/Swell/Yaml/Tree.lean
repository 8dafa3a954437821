import Swell.Yaml.Node
import Swell.Yaml.Token.Reader

/-!
# Trees of a document

The tree of a document has the nodes themselves in the places of aliases. How deep it is and how
often aliases may be followed is limited, so that a node within itself has no tree.
-/
namespace Swell.Yaml

inductive Tree where
  | scalar (text : String) (style : ScalarStyle) (tag : Option String)
  | sequence (items : List Tree) (tag : Option String)
  | mapping (entries : List (Tree × Tree)) (tag : Option String)

def depthLimit : Nat := 128

/-- How many aliases may be followed for each mark in the document. -/
def aliasLimit : Nat := 100

namespace Document

private def follow (d : Document) : Node → StateT Nat Option Node
  | .alias anchor => do
    modify (· + 1)
    if aliasLimit * d.marks < (← get) then failure
    match d.target? anchor with
    | some node => return node
    | none => failure
  | node => return node

/-- The tree of a node that may hold nodes to a depth. Counts the aliases. -/
private def treeOf (d : Document) : Nat → Node → StateT Nat Option Tree
  | 0, node => do
    match ← d.follow node with
    | .scalar text style tag => return .scalar text style tag
    | _ => failure
  | depth + 1, node => do
    match ← d.follow node with
    | .scalar text style tag => return .scalar text style tag
    | .sequence items tag => return .sequence (← items.mapM (treeOf d depth)) tag
    | .mapping entries tag => do
      let entries ← entries.mapM fun (key, value) => do
        return (← treeOf d depth key, ← treeOf d depth value)
      return .mapping entries tag
    | .alias _ => failure

def tree? (d : Document) : Option Tree :=
  ((d.treeOf depthLimit d.root).run 0).map (·.1)

end Document

namespace Tree

def read? (text : String) : Option Tree := do
  (← Document.ofTokens? (← tokens? text)).tree?

end Tree
end Swell.Yaml
