import Dismantle.Environment.Depth
import Dismantle.Environment.Check
import Dismantle.Fault.Text
import Dismantle.Host.Basic
import Dismantle.Json.Reader
import Dismantle.Json.Writer
/-! The record of an environment in a file. It is written beside its place first and then moved
there, so that a write that fails leaves the old record in force. An empty record has no file. -/
namespace Dismantle

structure Store where
  directory : Path
  deriving Repr, DecidableEq

namespace Store

def fileName : String := "envteardown-state.json"

def logger : String := "envteardown.state.manager"

def file (s : Store) : Path := s.directory.child fileName

/-- Where a record is written before it takes its place. -/
def draft (s : Store) : Path := s.file.withSuffix ".tmp"

def exists_ (s : Store) (t : FileTree) : Bool := t.has s.file

section
variable {τ : Type} [Wording τ]

def form (e : Environment τ) : String := e.toJson.page

/-- What is written of a record before a number that has too many digits. -/
def cutShort (e : Environment τ) : Option (List Char) := e.toJson.cutShort .indented 0

section
variable [Limits]

/-- As much of a record's text as is written; of one without a written form it is nothing. -/
def begun (e : Environment τ) : String :=
  match e.written, cutShort e with
  | .error _, _ => ""
  | .ok _, none => form e
  | .ok _, some cs => .ofList cs

/-- Whether a record's text is written to its end. -/
def finished (e : Environment τ) : Except Fault Unit := do
  let _ ← e.written
  match cutShort e with
  | none => .ok ()
  | some _ => .error (.plain .value Json.unwritableText)

end

/-- A report on the record, with the fault that it is about. -/
def trouble (what : String) (cause : Fault) : Fault :=
  .reportOf .state (what ++ ": " ++ cause.text) cause

/-- The record that a file's content holds. -/
def parse (s : Store) (content : Content) : Except Fault (Environment τ) :=
  match content.read with
  | .error f => .error (.undecodable f)
  | .ok text => match Json.read text with
    | .error (.broken problem line column place) =>
      .error (trouble "Failed to parse state file" (.unreadable (.broken problem line column place)))
    | .error f => .error (.unreadable f)
    | .ok v => match Environment.ofJson v with
      | .ok e => .ok e
      | .error i => .error (trouble ("Invalid state file " ++ s.file.text) (.invalid i))

/-- The record as it was saved last; without a file it is empty. -/
def load (s : Store) : Act Host (Environment τ) := fun h =>
  if s.exists_ h.files then match h.files.contentAt s.file with
    | .error e => (.error (trouble "Failed to read state file" (.system e)), h)
    | .ok content => (s.parse content, h)
  else (Host.note Log.debug logger ("No state file at " ++ s.file.text) >>= fun _ => pure {}) h

def remove (s : Store) : Act Host Unit := fun h =>
  if s.exists_ h.files then
    (do
      Host.change (·.removeFile s.file) fun e => trouble "Failed to remove state file" (.system e)
      Host.note Log.info logger ("Removed state file " ++ s.file.text) : Act Host Unit) h
  else (.ok (), h)

def save [Limits] [DecidableEq τ] (s : Store) (e : Environment τ) : Act Host Unit :=
  if e.isEmpty then s.remove
  else do
    let failed (e : SystemFault) : Fault := trouble "Failed to save state file" (.system e)
    Host.makeDirectories s.directory
    Host.change (·.withContent s.draft (.text (begun e))) failed
    Act.ofExcept (finished e)
    Host.change (·.replaceFile s.draft s.file) failed
    Host.note Log.debug logger ("Saved state to " ++ s.file.text)

/-- A record can be taken down if it has a file and a known version. -/
def validate (s : Store) (e : Environment τ) : Act Host Unit := fun h =>
  if !s.exists_ h.files then
    (.error (.reported .state
      (fileName ++ " not found in " ++ s.directory.text
        ++ ", ensure you're running this command in the proper state directory")
      {} none ["Pass --state-dir pointing at the environment's state directory"]), h)
  else if e.version ≠ recordVersion then
    (.error (.report .state ("state version " ++ toString e.version ++ " is not supported, expected "
      ++ toString recordVersion)), h)
  else (.ok (), h)

end
end Store
end Dismantle
