import Dismantle.CommandLine.Usage
/-! Reading arguments: options of the program come first, then the name of a command, then what
belongs to the command. -/
namespace Dismantle.CommandLine

/-- Options of the program; of several values the last one counts. -/
structure Options where
  configFile : String := "envteardown.yaml"
  stateDir : Option String := none
  logLevel : Option String := none
  help : Bool := false
  deriving DecidableEq, Repr

/-- What the program is to do. Arguments of a command are read when it is its turn. -/
inductive Request where
  | help
  | destroy (options : Options) (arguments : List String)
  deriving DecidableEq, Repr

def Options.set? (o : Options) (name value : String) : Option Options :=
  match name with
  | "--config" => some { o with configFile := value }
  | "--state-dir" => some { o with stateDir := some value }
  | "--log-level" => some { o with logLevel := some value }
  | _ => none

def takesValue (name : String) : Bool := ["--config", "--state-dir", "--log-level"].contains name

/-- A name and the value behind the first equals sign, if there is one. -/
def splitValue (argument : String) : String × Option String :=
  let cs := argument.toList
  let name := cs.takeWhile (· ≠ '=')
  match cs.drop name.length with
  | _ :: value => (.ofList name, some (.ofList value))
  | [] => (argument, none)

def isOption (argument : String) : Bool := argument.startsWith "-" && argument ≠ "-"

/-- What an option that nobody knows is called: a long one by its name, a short one by its first
letter. -/
def unknownName (argument : String) : String :=
  if argument.startsWith "--" then (splitValue argument).1 else .ofList (argument.toList.take 2)

/-- Options up to the first argument that is none; two dashes end them. -/
def readOptions (o : Options) : List String → Except Complaint (Options × List String)
  | [] => .ok (o, [])
  | "--" :: rest => .ok (o, rest)
  | a :: rest =>
    if !isOption a then .ok (o, a :: rest)
    else match splitValue a with
      | ("--help", none) => readOptions { o with help := true } rest
      | ("--help", some _) => .error (.takesNoValue "--help")
      | (name, some value) => match o.set? name value with
        | some o => readOptions o rest
        | none => .error (.noSuchOption .program (unknownName a))
      | (name, none) =>
        if takesValue name then match rest with
          | value :: rest => readOptions ((o.set? name value).getD o) rest
          | [] => .error (.needsValue name)
        else .error (.noSuchOption .program (unknownName a))

/-- A name that looks like an option is read as one. -/
def unknownCommand (name : String) : Complaint :=
  if isOption name ∧ name ≠ "--" then match readOptions {} [name] with
    | .error c => c
    | .ok _ => .noSuchCommand name
  else .noSuchCommand name

def read (arguments : List String) : Except Complaint Request := do
  if arguments.isEmpty then throw .nothingAsked
  let (o, rest) ← readOptions {} arguments
  if o.help then return .help
  if let some level := o.logLevel then
    if !levels.contains level then throw (.badLevel level)
  match rest with
  | [] => throw .noCommand
  | name :: rest => if name = "destroy" then return .destroy o rest else throw (unknownCommand name)

/-- What stands behind the command: everything but two dashes, which end the search for the one
option that it knows itself. `help` tells that this option is there. -/
def flagsOf : List String → Except Complaint (Bool × List String)
  | [] => .ok (false, [])
  | "--" :: rest => .ok (false, rest)
  | a :: rest => match splitValue a with
    | ("--help", some _) => .error (.takesNoValue "--help")
    | ("--help", none) => do return (true, (← flagsOf rest).2)
    | _ => do
      let (help, flags) ← flagsOf rest
      return (help, a :: flags)

end Dismantle.CommandLine
