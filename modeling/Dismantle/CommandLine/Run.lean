import Dismantle.CommandLine.Arguments
import Dismantle.Host.Notice
import Dismantle.Log.Line
import Dismantle.Log.Setup
import Dismantle.Settings.Load
import Dismantle.Teardown.Site
/-! The whole program: arguments, settings, the record, the teardown, and what is said at the end. -/
namespace Dismantle.CommandLine

def logger : String := "envteardown.cli.main"

/-- What the program runs in: the width of the console, the day, the time as records of the log file
and of the console show it, and how long a run takes. -/
structure Frame where
  width : Nat := 80
  date : String
  stamp : Option String := none
  clock : Option String := none
  seconds : String

/-- How the program ended: its status, what it complained of, and where its records went. -/
structure Finish where
  status : Nat
  complaint : String := ""
  log : Option Log.Setup := none

def providers : List Provider := [.unset, .aws, .gcp]

def Options.given (o : Options) : Settings.Given :=
  let text (name : String) : Option String → Settings.Given
    | some s => [(name, .str s)]
    | none => []
  text "state_dir" o.stateDir ++ text "log_level" o.logLevel

def settingsFor (o : Options) : Act Host Settings := fun h =>
  ((Configuration.load h.files o.given { file := Path.ofText o.configFile }).1, h)

def logFile (f : Frame) (s : Log.Setup) : Option Path :=
  s.directory.map (·.child (Log.fileName f.date))

def openLog (f : Frame) (s : Log.Setup) : Act Host Unit :=
  match s.directory, logFile f s with
  | some d, some file => do
    Host.makeDirectories d
    Host.change (fun t => if t.has file && !t.isDirectory file then .ok t
      else t.withContent file (.text "")) .system
  | _, _ => pure ()

/-- Adds the records of the run to the log file. -/
def closeLog (f : Frame) (s : Log.Setup) : Act Host Unit := fun h =>
  match logFile f s with
  | none => (.ok (), h)
  | some file =>
    let lines := (h.journal.records.filter Log.Record.kept).map fun r => r.jsonLine f.stamp ++ "\n"
    let before := match h.files.contentAt file with
      | .ok c => c.toBytes
      | .error _ => []
    let after := Content.ofBytes (before ++ Text.Utf8.encode (String.join lines).toList)
    Host.change (·.withContent file after) .system h

/-- Tears down what the record holds, and says how that went. -/
def destroy (f : Frame) (s : Settings) (flags : List String) : Act Host Unit := do
  let store : Store := ⟨Path.ofText s.stateDir⟩
  let e ← store.load
  let h ← Act.get
  let site := Teardown.Site.of s e store f.width h
  let ((r, p), site) := (Teardown.run providers flags { env := e }).perform Teardown.Site.handler site
  Act.modify fun _ => site.desk.host
  let o ← Act.ofExcept r
  Console.outcome f.width f.seconds p.env o

def unforeseen : String := "Unexpected error during destroy"

/-- What is shown of a fault that ended a run. -/
def explain (f : Frame) (fault : Fault) : Act Host Unit :=
  if fault.isReport then do
    Host.noteFault fault
    Console.failure f.width fault
  else do
    let r : Log.Record := { level := Log.error, logger, message := unforeseen, trace := some fault.text }
    Act.modify fun h => { h with journal := h.journal.add r }
    Console.surprise f.width fault

/-- What the arguments of the command ask for: its help, or a teardown. -/
def carryOut (f : Frame) (s : Settings) (arguments : List String) : Act Host Finish :=
  match flagsOf arguments with
  | .error c => pure { status := 2, complaint := c.page }
  | .ok (true, _) => do
    Host.show_ Topic.destroy.help
    return { status := 0 }
  | .ok (false, flags) => do
    match ← Act.attempt (destroy f s flags) with
    | .ok () => return { status := 0 }
    | .error fault =>
      explain f fault
      return { status := 1 }

def command (f : Frame) (s : Settings) (arguments : List String) : Act Host Finish := do
  let setup ← Act.ofExcept (Log.Setup.of s.logLevel s.logDir)
  openLog f setup
  let finish ← carryOut f s arguments
  closeLog f setup
  return { finish with log := some setup }

def fulfil (f : Frame) : Request → Act Host Finish
  | .help => do
    Host.show_ Topic.program.help
    return { status := 0 }
  | .destroy o arguments => do
    match ← Act.attempt (settingsFor o) with
    | .ok s => command f s arguments
    | .error (.badSettings message issues) => do
      Console.refusal f.width (.badSettings message issues)
      return { status := 1 }
    | .error fault => Act.fail fault

/-- Runs the program. A fault before the teardown that is none of the settings ends it silently. -/
def run (f : Frame) (arguments : List String) (h : Host) : Finish × Host :=
  match read arguments with
  | .error c => ({ status := 2, complaint := c.page }, h)
  | .ok request => match fulfil f request h with
    | (.ok finish, h) => (finish, h)
    | (.error _, h) => ({ status := 1 }, h)

/-- The files that a run looks at. Which they are depends on the settings, so once the file of the
settings is in the tree there are more. -/
def filesRead (f : Frame) (arguments : List String) (t : FileTree) : List Path :=
  match read arguments with
  | .ok (.destroy o _) =>
    let configFile := Path.ofText o.configFile
    configFile :: match Configuration.load t o.given { file := configFile } with
      | (.ok s, _) =>
        let logs := match Log.Setup.of s.logLevel s.logDir with
          | .ok setup => (logFile f setup).toList
          | .error _ => []
        (Store.mk (Path.ofText s.stateDir)).file :: logs
      | (.error _, _) => []
  | _ => []

/-- What the program says on the side: its complaint, or the records that the console shows. -/
def Finish.aside (f : Frame) (finish : Finish) (h : Host) : String :=
  finish.complaint ++ match finish.log with
    | none => ""
    | some setup => String.join
        ((h.journal.records.filter setup.shows).map fun r => r.consoleLine f.clock ++ "\n")

end Dismantle.CommandLine
