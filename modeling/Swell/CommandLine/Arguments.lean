import Swell.Settings

/-!
# Arguments

A command line names a command and gives its options and operands. An option that takes a value
has it behind an equals sign or in the next argument; in the next argument it is looked at only
when something else follows.
-/
namespace Swell

structure CommandOptions where
  collection : Option Collection
  config : Option String
  json : Bool
  deriving Repr, DecidableEq

inductive Command where
  /-- Turns a wave into a sentence, reads it and judges it. -/
  | run (vessel wave : String) (options : CommandOptions)
  /-- Reads and judges a sentence. -/
  | parse (sentence : String) (vessel : Option String) (options : CommandOptions)
  deriving Repr, DecidableEq

/-- Why a command line stands for no command. The first three are asked for by the user, or stand
in for a command that is missing. -/
inductive UsageFault where
  | help
  | version
  | commandMissing
  | unknownCommand
  | unknownArgument
  | missingArgument
  | badValue
  | repeated
  /-- A value was given to something that takes none. -/
  | needlessValue
  deriving Repr, DecidableEq

namespace CommandLine

inductive CommandName where
  | run
  | parse
  deriving Repr, DecidableEq

def CommandName.named? : String → Option CommandName
  | "run" => some .run
  | "parse" => some .parse
  | _ => none

inductive ValueOption where
  | vessel
  | wave
  | collection
  | config
  deriving Repr, DecidableEq

inductive Switch where
  | valued (option : ValueOption)
  | json
  | help
  deriving Repr, DecidableEq

def CommandName.switch? (command : CommandName) : String → Option Switch
  | "vessel" => some (.valued .vessel)
  | "wave" => if command = .run then some (.valued .wave) else none
  | "collection" => some (.valued .collection)
  | "config" => some (.valued .config)
  | "json" => some .json
  | "help" => some .help
  | _ => none

/-- What an argument looks like. -/
inductive Form where
  /-- Two hyphens and a name, which a value behind an equals sign may follow. -/
  | long (name : String) (value : Option String)
  /-- A hyphen and letters. -/
  | short (letters : List Char)
  | bare

def Form.of (argument : String) : Form :=
  match argument.toList with
  | '-' :: '-' :: cs =>
    let name := String.ofList (cs.takeWhile (· ≠ '='))
    match cs.dropWhile (· ≠ '=') with
    | _ :: value => .long name (some (String.ofList value))
    | [] => .long name none
  | '-' :: c :: cs => .short (c :: cs)
  | _ => .bare

/-- What was gathered from the arguments so far. -/
structure Gathered where
  vessel : Option String := none
  wave : Option String := none
  collection : Option Collection := none
  config : Option String := none
  json : Bool := false
  sentence : Option String := none
  /-- An option whose value is to come in the next argument, or has come but was not looked at. -/
  pending : Option (ValueOption × Option String) := none

namespace Gathered

def has (g : Gathered) : ValueOption → Bool
  | .vessel => g.vessel.isSome
  | .wave => g.wave.isSome
  | .collection => g.collection.isSome
  | .config => g.config.isSome

private def path (value : String) : Except UsageFault String :=
  if value = "" then .error .badValue else .ok value

/-- Gives an option its value, which it must not have yet. -/
def give (g : Gathered) (option : ValueOption) (value : String) : Except UsageFault Gathered :=
  if g.has option then .error .repeated
  else
    match option with
    | .vessel => return { g with vessel := some (← path value) }
    | .wave => return { g with wave := some (← path value) }
    | .config => return { g with config := some (← path value) }
    | .collection =>
      match Collection.named? value with
      | some collection => .ok { g with collection := some collection }
      | none => .error .badValue

/-- Gives the pending option the value that has come for it. -/
def settle (g : Gathered) : Except UsageFault Gathered :=
  match g.pending with
  | none => .ok g
  | some (_, none) => .error .badValue
  | some (option, some value) => { g with pending := none }.give option value

def takeSwitch (g : Gathered) (switch : Switch) (value : Option String) :
    Except UsageFault Gathered :=
  match switch, value with
  | .valued option, none => return { (← g.settle) with pending := some (option, none) }
  | .valued option, some value => do (← g.settle).give option value
  | _, some _ => .error .needlessValue
  | .help, none => do
    let _ ← g.settle
    .error .help
  | .json, none => do
    let g ← g.settle
    if g.json then .error .repeated else .ok { g with json := true }

/-- Takes an operand. The only one is the sentence to be parsed. -/
def takeOperand (g : Gathered) (command : CommandName) (argument : String) :
    Except UsageFault Gathered :=
  if command = .parse && g.sentence.isNone then
    return { (← g.settle) with sentence := some argument }
  else .error .unknownArgument

def takeArgument (g : Gathered) (command : CommandName) (argument : String) :
    Except UsageFault Gathered :=
  match Form.of argument with
  | .long name value =>
    match command.switch? name with
    | some switch => g.takeSwitch switch value
    | none => .error .unknownArgument
  | .short letters =>
    if letters.head? = some 'h' then g.takeSwitch .help none else .error .unknownArgument
  | .bare =>
    match g.pending with
    | some (option, none) => .ok { g with pending := some (option, some argument) }
    | _ => g.takeOperand command argument

/-- Takes all arguments of a command. Behind two hyphens there are operands only. -/
def takeAll (command : CommandName) : List String → Gathered → Except UsageFault Gathered
  | [], g => g.settle
  | "--" :: operands, g => do
    (← operands.foldlM (fun g operand => g.takeOperand command operand) g).settle
  | argument :: rest, g => do takeAll command rest (← g.takeArgument command argument)

private def required {α : Type} : Option α → Except UsageFault α
  | some a => .ok a
  | none => .error .missingArgument

def command (g : Gathered) (name : CommandName) : Except UsageFault Command :=
  let options := ⟨g.collection, g.config, g.json⟩
  match name with
  | .run => return .run (← required g.vessel) (← required g.wave) options
  | .parse => return .parse (← required g.sentence) g.vessel options

end Gathered

def isCommandName (name : String) : Bool :=
  (CommandName.named? name).isSome || name = "help"

def helpRequest : List String → UsageFault
  | [] => .help
  | [name] => if isCommandName name then .help else .unknownCommand
  | _ => .unknownCommand

/-- The fault of a command line that starts with something else than a name, and its arguments. -/
def commandless (argument : String) (rest : List String) : UsageFault :=
  match Form.of argument with
  | .long "" none =>
    match rest with
    | [] => .commandMissing
    | name :: _ => if isCommandName name then .unknownArgument else .unknownCommand
  | .long "help" none => .help
  | .long "version" none => .version
  | .long name (some _) =>
    if name = "help" || name = "version" then .needlessValue else .unknownArgument
  | .long _ none => .unknownArgument
  | .short ('h' :: _) => .help
  | .short ('V' :: _) => .version
  | .short _ => .unknownArgument
  | .bare => .unknownCommand

def read : List String → Except UsageFault Command
  | [] => .error .commandMissing
  | argument :: rest =>
    match CommandName.named? argument with
    | some name => do (← Gathered.takeAll name rest {}).command name
    | none =>
      if argument = "help" then .error (helpRequest rest) else .error (commandless argument rest)

end CommandLine
end Swell
