import Dismantle.Files.Content
import Dismantle.Json.Basic
/-! Child processes seen from outside: what each was started with, what it changed in the
directory it worked in, and how it ended. -/
namespace Dismantle

abbrev NamedFiles := List (String × Content)

namespace NamedFiles

def put : NamedFiles → String → Content → NamedFiles
  | [], name, c => [(name, c)]
  | (n, d) :: rest, name, c => if n = name then (n, c) :: rest else (n, d) :: put rest name c

def erase (fs : NamedFiles) (name : String) : NamedFiles := fs.filter (·.1 ≠ name)

def get? (fs : NamedFiles) (name : String) : Option Content := List.lookup name fs

end NamedFiles

/-- A directory made for one piece of work and removed with it. -/
structure Workspace where
  name : String
  files : NamedFiles := []
  deriving Repr, DecidableEq

/-- Variables added to the surroundings of a process; the last value of a name counts. -/
abbrev Variables := List (String × String)

/-- A process is not started if the system finds no such program, or if the system is not even asked,
since an argument is none. What one that ran has printed may spell no text. -/
inductive ProcessEnding where
  | notStarted (number : Nat)
  | refused
  | exited (status : Int) (output errors : String)
  | garbled (status : Int) (fault : Text.Utf8.Fault)
  deriving Repr, DecidableEq

/-- What a process does: it writes files, deletes files and ends. -/
structure ProcessReply where
  writes : NamedFiles := []
  deletes : List String := []
  ending : ProcessEnding := .exited 0 "" ""
  deriving Repr, Inhabited

/-- How a process was started, with the files it could see. -/
structure ProcessStart where
  arguments : List String
  directory : Option String
  exports : Option Variables
  files : NamedFiles
  deriving Repr

/-- Arguments end at the first null character, so none may hold one. -/
def isArgument (s : String) : Bool := !s.toList.contains '\x00'

/-- What becomes of a start that the system would reply to: nothing, if an argument is none. -/
def ProcessStart.outcome (s : ProcessStart) (r : ProcessReply) : ProcessReply :=
  if s.arguments.all isArgument then r else { ending := .refused }

/-- The files of a workspace once a process has worked there. -/
def ProcessReply.change (r : ProcessReply) (files : NamedFiles) : NamedFiles :=
  r.deletes.foldl NamedFiles.erase (r.writes.foldl (fun fs f => fs.put f.1 f.2) files)

end Dismantle
