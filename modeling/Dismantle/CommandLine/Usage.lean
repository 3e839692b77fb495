import Dismantle.Text.Quoted
import Dismantle.Text.Similar
/-! What the command line says of itself, and what is wrong with arguments that it does not
understand. -/
namespace Dismantle.CommandLine

/-- The commands whose usage may be at issue. -/
inductive Topic where
  | program | destroy
  deriving DecidableEq, Repr

inductive Complaint where
  | noSuchOption (topic : Topic) (name : String)
  | noSuchCommand (name : String)
  | noCommand
  | badLevel (value : String)
  /-- What the syntax of an option is violated by is said without the usage of a command. -/
  | needsValue (name : String)
  | takesNoValue (name : String)
  /-- Without any argument the help is shown. -/
  | nothingAsked
  deriving DecidableEq, Repr

def Topic.command : Topic → String
  | .program => "cli"
  | .destroy => "cli destroy"

def Topic.usage : Topic → String
  | .program => "Usage: cli [OPTIONS] COMMAND [ARGS]...\n"
  | .destroy => "Usage: cli destroy [OPTIONS] [FLAGS]...\n"

def Topic.options : Topic → List String
  | .program => ["--config", "--state-dir", "--log-level", "--help"]
  | .destroy => ["--help"]

def levels : List String := ["debug", "info", "warning", "error"]

/-- The lines of a help page below its usage. -/
def Topic.manual : Topic → List String
  | .program => [
    "",
    "  Tear down environments created by the bootstrap tool.",
    "",
    "Options:",
    "  --config TEXT                   Settings file  [default: envteardown.yaml]",
    "  --state-dir TEXT                Directory holding the state file",
    "  --log-level [debug|info|warning|error]",
    "                                  Console log level",
    "  --help                          Show this message and exit.",
    "",
    "Commands:",
    "  destroy  Tear down the environment recorded in the state directory."]
  | .destroy => [
    "",
    "  Tear down the environment recorded in the state directory.",
    "",
    "  Flags:",
    "    --skip-if-missing  exit quietly when there is no state file",
    "    --no-confirm, -n   do not ask for confirmation",
    "",
    "Options:",
    "  --help  Show this message and exit."]

def Topic.help (t : Topic) : String := t.usage ++ String.join (t.manual.map (· ++ "\n"))

def suggestion (known : List String) (word : String) : String :=
  match Text.similarTo known word with
  | [] => ""
  | [w] => " Did you mean " ++ Text.quoted w ++ "?"
  | ws => " (Did you mean one of: " ++ ", ".intercalate (ws.map Text.quoted) ++ "?)"

namespace Complaint

def text : Complaint → String
  | .noSuchOption topic name =>
    "No such option " ++ Text.quoted name ++ "." ++ suggestion topic.options name
  | .noSuchCommand name =>
    "No such command " ++ Text.quoted name ++ "." ++ suggestion ["destroy"] name
  | .noCommand => "Missing command."
  | .badLevel value => "Invalid value for '--log-level': " ++ Text.quoted value ++ " is not one of "
    ++ ", ".intercalate (levels.map Text.quoted) ++ "."
  | .needsValue name => "Option " ++ Text.quoted name ++ " requires an argument."
  | .takesNoValue name => "Option " ++ Text.quoted name ++ " does not take a value."
  | .nothingAsked => ""

/-- The command whose usage is shown in front. -/
def topic : Complaint → Option Topic
  | .noSuchOption topic _ => some topic
  | .noSuchCommand _ | .noCommand | .badLevel _ => some .program
  | .needsValue _ | .takesNoValue _ | .nothingAsked => none

def page (c : Complaint) : String :=
  if c = .nothingAsked then Topic.program.help
  else
    let usage := match c.topic with
      | some t => t.usage ++ "Try '" ++ t.command ++ " --help' for help.\n\n"
      | none => ""
    usage ++ "Error: " ++ c.text ++ "\n"

end Complaint
end Dismantle.CommandLine
