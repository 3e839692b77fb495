import Dismantle.Log.Record
import Dismantle.Json.Writer
import Dismantle.Json.Display
/-! The two forms of a record: a line of structured data for a log file, and a coloured line for
the console. A time may be put in front. -/
namespace Dismantle.Log

def optionalField (key : String) : Option Json → Fields
  | some v => [(key, v)]
  | none => []

def Record.fields (r : Record) : Fields :=
  ([("level", .str (levelName r.level)), ("logger", .str r.logger), ("message", .str r.message)]
      : Fields)
    ++ optionalField "exception" (r.trace.map .str) ++ optionalField "env_id" r.tags.envId
    ++ optionalField "iaas" r.tags.provider ++ optionalField "step" r.tags.step

def Record.jsonLine (r : Record) (time : Option String) : String :=
  (Json.obj (optionalField "timestamp" (time.map .str) ++ r.fields)).line

def colour (level : Level) : String :=
  if level = debug then "\x1b[36m"
  else if level = info then "\x1b[32m"
  else if level = warning then "\x1b[33m"
  else if level = error then "\x1b[31m"
  else if level = critical then "\x1b[35m"
  else ""

/-- Text followed by blanks up to a width. -/
def padded (width : Nat) (s : String) : String :=
  s ++ .ofList (List.replicate (width - s.length) ' ')

/-- The line of the console; the step is shown if it says anything. -/
def Record.consoleLine (r : Record) (time : Option String) : String :=
  let step := match r.tags.step with
    | some v => if v.counts then "[" ++ v.display ++ "] " else ""
    | none => ""
  let clock := match time with
    | some t => t ++ " "
    | none => ""
  clock ++ colour r.level ++ padded 8 (levelName r.level) ++ "\x1b[0m " ++ step ++ r.message

end Dismantle.Log
