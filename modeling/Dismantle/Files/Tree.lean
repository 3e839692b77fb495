import Dismantle.Files.SystemFault
import Dismantle.Files.Path
import Dismantle.Files.Content
/-! A tree of files and directories. What lies at a place is a file, a directory or nothing;
operations on written paths fail with the faults an operating system gives. -/
namespace Dismantle

abbrev Place := List String

inductive Node where
  | directory
  | file (content : Content)
  deriving DecidableEq, Repr, Inhabited

/-- The root is always a directory and has no entry. -/
structure FileTree where
  entries : List (Place × Node) := []
  deriving DecidableEq, Repr, Inhabited

namespace FileTree

def lookup (t : FileTree) (place : Place) : Option Node :=
  if place = [] then some .directory else t.entries.lookup place

/-- Removes whatever lies at a place itself. -/
def erase (t : FileTree) (place : Place) : FileTree :=
  ⟨t.entries.filter fun e => e.1 ≠ place⟩

def put (t : FileTree) (place : Place) (node : Node) : FileTree :=
  ⟨(t.erase place).entries ++ [(place, node)]⟩

/-- Follows the parts of a path from a place, through directories only. -/
def walk (t : FileTree) (from_ : Place) : List String → Except Nat Place
  | [] => .ok from_
  | part :: rest => match t.lookup from_ with
    | none => .error SystemFault.notFound
    | some (.file _) => .error SystemFault.notDirectory
    | some .directory => t.walk (if part = ".." then from_.dropLast else from_ ++ [part]) rest

/-- The place that a path names, whether or not something lies there. -/
def resolve (t : FileTree) (p : Path) : Except Nat Place := t.walk [] p.parts

def find (t : FileTree) (p : Path) : Except Nat Node :=
  match t.resolve p with
  | .error n => .error n
  | .ok place => match t.lookup place with
    | some node => .ok node
    | none => .error SystemFault.notFound

def has (t : FileTree) (p : Path) : Bool := (t.find p).isOk

def isDirectory (t : FileTree) (p : Path) : Bool :=
  match t.find p with
  | .ok .directory => true
  | _ => false

def fault {α : Type} (number : Nat) (p : Path) : Except SystemFault α := .error ⟨number, [p.text]⟩

def contentAt (t : FileTree) (p : Path) : Except SystemFault Content :=
  match t.find p with
  | .ok (.file content) => .ok content
  | .ok .directory => fault SystemFault.isDirectory p
  | .error n => fault n p

/-- Writes a file, a new one or in place of an old one, into a directory that is there. -/
def withContent (t : FileTree) (p : Path) (content : Content) : Except SystemFault FileTree :=
  match t.resolve p with
  | .error n => fault n p
  | .ok place => match t.lookup place with
    | some .directory => fault SystemFault.isDirectory p
    | some (.file _) => .ok (t.put place (.file content))
    | none => match t.lookup place.dropLast with
      | some .directory => .ok (t.put place (.file content))
      | some (.file _) => fault SystemFault.notDirectory p
      | none => fault SystemFault.notFound p

def makeDirectory (t : FileTree) (p : Path) : Except SystemFault FileTree :=
  match t.resolve p with
  | .error n => fault n p
  | .ok place => match t.lookup place with
    | some _ => fault SystemFault.exists_ p
    | none => match t.lookup place.dropLast with
      | some .directory => .ok (t.put place .directory)
      | some (.file _) => fault SystemFault.notDirectory p
      | none => fault SystemFault.notFound p

/-- Makes a directory and those above it; a directory that is there already will do. What was made
before a fault stays. `fuel` bounds how many directories are made, the parts of the path are
enough. -/
def reachDirectory (t : FileTree) : (fuel : Nat) → Path → Except SystemFault Unit × FileTree
  | fuel, p => match t.makeDirectory p with
    | .ok t => (.ok (), t)
    | .error e =>
      if e.number = SystemFault.notFound then match fuel with
        | 0 => (.error e, t)
        | fuel + 1 =>
          if p.parts = [] then (.error e, t)
          else match t.reachDirectory fuel p.parent with
            | (.error e, t) => (.error e, t)
            | (.ok (), t) => match t.makeDirectory p with
              | .ok t => (.ok (), t)
              | .error e => (if t.isDirectory p then .ok () else .error e, t)
      else (if t.isDirectory p then .ok () else .error e, t)

def makeDirectories (t : FileTree) (fuel : Nat) (p : Path) : Except SystemFault FileTree :=
  match t.reachDirectory fuel p with
  | (.ok (), t) => .ok t
  | (.error e, _) => .error e

def replaceFile (t : FileTree) (p target : Path) : Except SystemFault FileTree :=
  let failed {α : Type} (n : Nat) : Except SystemFault α := .error ⟨n, [p.text, target.text]⟩
  match t.resolve p, t.resolve target with
  | .error n, _ => failed n
  | _, .error n => failed n
  | .ok place, .ok goal => match t.lookup place, t.lookup goal with
    | some (.file _), some .directory => failed SystemFault.isDirectory
    | some (.file content), _ => .ok ((t.erase place).put goal (.file content))
    | _, _ => failed SystemFault.notFound

def removeFile (t : FileTree) (p : Path) : Except SystemFault FileTree :=
  match t.resolve p with
  | .error n => fault n p
  | .ok place => match t.lookup place with
    | some (.file _) => .ok (t.erase place)
    | some .directory => fault SystemFault.isDirectory p
    | none => fault SystemFault.notFound p

/-- All entries below the root, sorted by path; a directory's path ends in a slash. -/
def listing (t : FileTree) : List String :=
  let name (e : Place × Node) : String :=
    "/".intercalate e.1 ++ match e.2 with | .directory => "/" | .file _ => ""
  (t.entries.map name).mergeSort fun a b => decide (a ≤ b)

end FileTree
end Dismantle
