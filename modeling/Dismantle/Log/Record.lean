import Dismantle.Json.Basic
/-! What is logged. A record carries the tags that were in force when it was made: the environment,
its provider and the step at work. -/
namespace Dismantle.Log

/-- How much a record matters; the named levels are ten apart. -/
abbrev Level := Int

def debug : Level := 10
def info : Level := 20
def warning : Level := 30
def error : Level := 40
def critical : Level := 50

def levelName (level : Level) : String :=
  if level = critical then "CRITICAL"
  else if level = error then "ERROR"
  else if level = warning then "WARNING"
  else if level = info then "INFO"
  else if level = debug then "DEBUG"
  else if level = 0 then "NOTSET"
  else "Level " ++ toString level

structure Tags where
  envId : Option Json := none
  provider : Option Json := none
  step : Option Json := none
  deriving Repr, BEq, Inhabited

/-- Inner tags together with the outer ones they do not replace. -/
def Tags.within (inner outer : Tags) : Tags :=
  ⟨inner.envId <|> outer.envId, inner.provider <|> outer.provider, inner.step <|> outer.step⟩

structure Record where
  level : Level
  logger : String
  message : String
  /-- Where a fault came from, for records of faults nobody expected. -/
  trace : Option String := none
  tags : Tags := {}
  deriving Repr, BEq, Inhabited

/-- The records made so far, and the tags that the next one gets. -/
structure Journal where
  records : List Record := []
  tags : Tags := {}
  deriving Repr, Inhabited

def Journal.add (j : Journal) (r : Record) : Journal := { j with records := j.records ++ [r] }

/-- Makes a record under the tags in force. -/
def Journal.note (j : Journal) (level : Level) (logger message : String) : Journal :=
  j.add { level, logger, message, tags := j.tags }

end Dismantle.Log
