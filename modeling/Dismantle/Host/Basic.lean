import Dismantle.Act
import Dismantle.Files.Tree
import Dismantle.Host.Cloud
import Dismantle.Host.Process
import Dismantle.Log.Record
/-! The surroundings of a teardown: files, child processes, services, a log, and a user at a
console. -/
namespace Dismantle

structure Host where
  journal : Log.Journal := {}
  files : FileTree := {}
  /-- The directory of the work at hand. -/
  workspace : Option Workspace := none
  /-- What the processes to be started will do, in order. -/
  replies : List ProcessReply := []
  starts : List ProcessStart := []
  cloud : Cloud := {}
  /-- What the user has typed and nobody has read yet. -/
  input : List Char := []
  /-- What was shown on the console, piece by piece. -/
  shown : List String := []
  /-- How many pieces had been shown when the user was asked for more than was typed. -/
  asked : Option Nat := none
  deriving Inhabited

namespace Host

def note (level : Log.Level) (logger message : String) : Act Host Unit :=
  Act.modify fun h => { h with journal := h.journal.note level logger message }

def show_ (text : String) : Act Host Unit :=
  Act.modify fun h => { h with shown := h.shown ++ [text] }

/-- A change of the files that the system may refuse; `f` says what a refusal means. -/
def change (step : FileTree → Except SystemFault FileTree) (f : SystemFault → Fault) :
    Act Host Unit := fun h =>
  match step h.files with
  | .ok files => (.ok (), { h with files })
  | .error e => (.error (f e), h)

/-- Makes a directory and those above it, as far as the system lets it. -/
def makeDirectories (p : Path) : Act Host Unit := fun h =>
  let (r, files) := h.files.reachDirectory p.parts.length p
  (r.mapError .system, { h with files })

/-- Works in a fresh workspace and removes it, whatever happens. -/
def inWorkspace {α : Type} (name : String) (act : Act Host α) : Act Host α := fun h =>
  let (r, after) := act { h with workspace := some { name } }
  (r, { after with workspace := h.workspace })

def putFile (name : String) (c : Content) : Act Host Unit :=
  Act.modify fun h => { h with workspace := h.workspace.map fun w => { w with files := w.files.put name c } }

/-- Writes a text that bytes can spell into a file of the workspace. -/
def writeText (name : String) (s : Spelling) : Act Host Unit :=
  match s.encodable with
  | .ok s => putFile name (.text s)
  | .error f => Act.fail (.unencodable f)

/-- The next process's doing; one that nothing is known of ends well. -/
def takeReply (h : Host) : ProcessReply × Host :=
  match h.replies with
  | r :: replies => (r, { h with replies })
  | [] => ({}, h)

/-- Reads a line of what the user has typed, or nothing at the end. -/
def readLine : Act Host String := fun h =>
  match h.input with
  | [] => (.error .endOfInput, { h with asked := some h.shown.length })
  | cs =>
    let line := cs.takeWhile (· ≠ '\n')
    (.ok (.ofList line), { h with input := (cs.drop (line.length + 1)) })

end Host
end Dismantle
