import Swell.Settings
import Swell.Yaml.Core

/-!
# Overlays in documents

A document sets settings in mappings with known keys, each at most once. What is null is not set.
-/
namespace Swell

namespace Yaml

/-- A tag of the document's own, outside every schema. -/
def isLocalTag (tag : Option String) : Bool :=
  tag.any fun t => t.startsWith "!"

namespace Tree

def text? : Tree → Option String
  | .scalar text _ _ => some text
  | _ => none

/-- The text of a scalar that may be read as a number: a plain one, or a block of lines with the
tag of such numbers. -/
private def numeral? (tagged : String) : Tree → Option String
  | .scalar text .plain _ => some text
  | .scalar text .literal tag => if tag = some (coreTags ++ tagged) then some text else none
  | _ => none

def number? (t : Tree) : Option Float := do
  float? (← t.numeral? "float")

def byte? (t : Tree) : Option Nat := do
  natural? 256 (← t.numeral? "int")

def numbers? : Tree → Option (List Float)
  | .sequence items _ => items.mapM number?
  | _ => none

/-- A name, which has no tag of the document's own. -/
def named? {α : Type} (find? : String → Option α) : Tree → Option α
  | .scalar text _ tag => if isLocalTag tag then none else find? text
  | _ => none

/-- Takes what is not null as something. With the tag for null there must be a word for it. -/
def unlessNull? {α : Type} (take? : Tree → Option α) (t : Tree) : Option (Option α) :=
  match t with
  | .scalar text .plain tag =>
    if tag = some (coreTags ++ "null") then if isNull text then some none else none
    else if text.isEmpty || isNull text then some none
    else (take? t).map some
  | _ => (take? t).map some

/-- The fields of a mapping whose keys are all among the known ones, and all different. Where
nothing is written, there are none. -/
def fields? (known : List String) : Tree → Option (List (String × Tree))
  | .mapping entries _ => do
    let fields ← entries.mapM fun (key, value) => do
      let name ← key.text?
      if known.contains name then some (name, value) else none
    if (fields.map (·.1)).Nodup then some fields else none
  | .scalar "" .plain _ => some []
  | _ => none

def field? {α : Type} (fields : List (String × Tree)) (name : String)
    (take? : Tree → Option α) : Option (Option α) :=
  match fields.find? fun f => f.1 == name with
  | some (_, t) => unlessNull? take? t
  | none => some none

mutual

/-- The scalars within have values, and nothing has a tag of the document's own. -/
def isSelfContained : Tree → Bool
  | .scalar text style tag => !isLocalTag tag && (Core.ofScalar? text style tag).isSome
  | .sequence items tag => !isLocalTag tag && areSelfContained items
  | .mapping entries tag => !isLocalTag tag && entriesAreSelfContained entries

def areSelfContained : List Tree → Bool
  | [] => true
  | t :: ts => t.isSelfContained && areSelfContained ts

def entriesAreSelfContained : List (Tree × Tree) → Bool
  | [] => true
  | (key, value) :: entries =>
    key.isSelfContained && value.isSelfContained && entriesAreSelfContained entries

end

def core? : Tree → Option Core
  | .scalar text style tag => Core.ofScalar? text style tag
  | _ => none

def coreNumber? (t : Tree) : Option Float := do
  (← t.core?).number?

end Tree
end Yaml

open Yaml

namespace Classifier

private structure Kind where
  field : String
  take? : Tree → Option (Classifier Float)

private def kind? : String → Option Kind
  | "neighbour" => some ⟨"margin", fun t => t.coreNumber?.map .neighbour⟩
  | "breakpoints" =>
    some ⟨"breakpoints", fun
      | .sequence items _ => (items.mapM Tree.coreNumber?).map .breakpoints
      | _ => none⟩
  | _ => none

private def isKindKey (key : Tree) : Bool :=
  match key.core? with
  | some (.text "kind") => true
  | _ => false

/-- The key of a field: its name, or zero for the first. Other names and numbers are keys of
fields that do not matter, and nothing else is a key. -/
private def isKeyOf? (field : String) (key : Tree) : Option Bool :=
  match key.core? with
  | some (.text name) => some (name == field)
  | some (.natural n) => some (n == 0)
  | _ => none

private def ofEntries? (entries : List (Tree × Tree)) : Option (Classifier Float) :=
  let (kinds, others) := entries.partition fun e => isKindKey e.1
  match kinds with
  | [(key, value)] => do
    if !key.isSelfContained || !Tree.entriesAreSelfContained others then none
    let kind ← kind? (← value.text?)
    let found ← others.filterM fun e => isKeyOf? kind.field e.1
    match found with
    | [(_, value)] => kind.take? value
    | _ => none
  | _ => none

/-- A classifier is a mapping with its kind and its field, or a sequence of the two. -/
def ofTree? : Tree → Option (Classifier Float)
  | .mapping entries tag => if isLocalTag tag then none else ofEntries? entries
  | .sequence [kind, value] tag => do
    if isLocalTag tag || !value.isSelfContained then none
    let kind ← kind? (← kind.text?)
    kind.take? value
  | _ => none

end Classifier

namespace Overlay

private def sampling? (t : Tree) : Option Overlay := do
  let fields ← t.fields? ["resample_step", "classifier"]
  let step ← Tree.field? fields "resample_step" Tree.number?
  let classifier ← Tree.field? fields "classifier" Classifier.ofTree?
  return { step, classifier }

private def rules? (t : Tree) : Option Overlay := do
  let fields ← t.fields? ["levels", "semantics", "enforcement", "level_heights"]
  let levels ← Tree.field? fields "levels" Tree.byte?
  let semantics ← Tree.field? fields "semantics" (Tree.named? Semantics.named?)
  let enforcement ← Tree.field? fields "enforcement" (Tree.named? Enforcement.named?)
  let heights ← Tree.field? fields "level_heights" Tree.numbers?
  return { levels, semantics, enforcement, heights }

def ofTree? (t : Tree) : Option Overlay := do
  let fields ← t.fields? ["collection", "preprocess", "grammar"]
  let collection ← Tree.field? fields "collection" (Tree.named? Collection.named?)
  let sampling ← Tree.field? fields "preprocess" sampling?
  let rules ← Tree.field? fields "grammar" rules?
  let sampling := sampling.getD {}
  let rules := rules.getD {}
  return {
    collection
    step := sampling.step
    classifier := sampling.classifier
    levels := rules.levels
    semantics := rules.semantics
    enforcement := rules.enforcement
    heights := rules.heights }

/-- Reads the overlay of a text. A blank text sets nothing. -/
def read? (text : String) : Option Overlay := do
  if Text.isBlankText text then return {}
  ofTree? (← Tree.read? text)

end Overlay
end Swell
