import Dismantle.Log.Record
import Dismantle.Fault.Basic
import Dismantle.Text.Case
import Dismantle.Files.Path
/-! Where records go: to the console from a threshold on, and to a log file if there is one. -/
namespace Dismantle.Log

structure Setup where
  threshold : Level
  directory : Option Path
  deriving Repr

def levelWords : List (String × Level) := [
  ("CRITICAL", critical), ("FATAL", critical), ("ERROR", error), ("WARNING", warning),
  ("WARN", warning), ("INFO", info), ("DEBUG", debug), ("NOTSET", 0)]

/-- A level by its name, in letters of either case. Two further names stand for settings that are
no levels. -/
def levelOf (word : String) : Except Fault Level :=
  let name := Text.upper word
  match levelWords.lookup name with
  | some level => .ok level
  | none =>
    if name = "BASIC_FORMAT" then
      .error (.plain .value "Unknown level: '%(levelname)s:%(name)s:%(message)s'")
    else if name = "_STYLES" then .error (.wrongType "Level not an integer or a valid string")
    else .error (.noAttribute "module" name)

/-- Sets up logging; without a directory there is no log file. -/
def Setup.of (word : String) (directory : Option Spelling) : Except Fault Setup := do
  let threshold ← levelOf word
  match directory with
  | none => return { threshold, directory := none }
  | some d => match d.encodable with
    | .ok d => return { threshold, directory := if d = "" then none else some (Path.ofText d) }
    | .error f => throw (.unencodable f)

/-- Libraries whose records below warnings are dropped, with everything under their names. -/
def noisy : List String := ["boto3", "botocore", "urllib3"]

def isNoisy (logger : String) : Bool :=
  noisy.any fun name => logger = name ∨ logger.startsWith (name ++ ".")

def Record.kept (r : Record) : Bool :=
  if isNoisy r.logger then warning ≤ r.level else debug ≤ r.level

def Setup.shows (s : Setup) (r : Record) : Bool := r.kept && s.threshold ≤ r.level

def fileName (date : String) : String := "envteardown-" ++ date ++ ".jsonl"

end Dismantle.Log
