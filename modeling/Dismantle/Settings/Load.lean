import Dismantle.Act
import Dismantle.Files.Tree
import Dismantle.Limits
import Dismantle.Settings.Check
/-! Settings from a file and from the command line. What the file said is kept for a later load
that finds no file; settings in force stay until a load succeeds. -/
namespace Dismantle

structure Configuration where
  file : Path
  data : Yaml.Value := .map []
  settings : Settings := {}

/-- A file of settings is read piece by piece. `early` is what its reader complains of before it gets
to a piece that spells no text or holds a character that no document may hold, if it does. -/
class PieceReader where
  early : Content → Option Yaml.Refusal

instance PieceReader.whole : PieceReader := ⟨fun _ => none⟩

namespace Configuration
variable [Limits] [PieceReader]

def badFile (message : String) : Fault := .badSettings message []

def refused : Yaml.Refusal → Fault
  | .malformed => badFile "Failed to parse YAML"
  | .tooDeep => .exhausted
  | .impossible p => p.fault

def textIn (c : Content) : Except Fault String :=
  let late (f : Fault) : Fault := ((PieceReader.early c).map refused).getD f
  match c.readPieces with
  | .error f => .error (late (.undecodable f))
  | .ok text =>
    if text.toList.all Yaml.isReadable then .ok text else .error (late (refused .malformed))

/-- What a file says; nothing that counts is no entries. -/
def contentOf (c : Content) : Except Fault Yaml.Value := do
  let text ← textIn c
  match Yaml.Value.read Limits.reading text.toList with
  | .error r => .error (refused r)
  | .ok v => .ok (if v.counts then v else .map [])

def partsOf : Yaml.Value → Option (List Yaml.Value)
  | .list vs | .set vs => some vs
  | .pair k v => some [k, v]
  | .str s => some (s.toList.map fun c => .str (.ofList [c]))
  | .unpaired points => some (points.map fun n => .ofPoints [n])
  | .bytes bs => some (bs.map fun b => .int b.toNat)
  | .map es => some (es.map (·.1))
  | _ => none

def entriesOfParts : Nat → List Yaml.Value → Except Fault (List (Yaml.Value × Yaml.Value))
  | _, [] => .ok []
  | place, v :: rest => match partsOf v with
    | none => .error (.wrongType ("cannot convert dictionary update sequence element #"
        ++ toString place ++ " to a sequence"))
    | some [key, value] =>
      if key.isKey then do return (key, value) :: (← entriesOfParts (place + 1) rest)
      else .error (.wrongType "unhashable type")
    | some parts => .error (.plain .value ("dictionary update sequence element #"
        ++ toString place ++ " has length " ++ toString parts.length ++ "; 2 is required"))

/-- What was kept, as entries; text and lists have to be made of pairs. -/
def entriesOf : Yaml.Value → Except Fault (List (Yaml.Value × Yaml.Value))
  | .map es => .ok es
  | v => match partsOf v with
    | none => .error (.wrongType "object is not iterable")
    | some parts => do
      let es ← entriesOfParts 0 parts
      return es.foldl (fun done e => Yaml.Value.put e.1 e.2 done) []

def named (es : List (Yaml.Value × Yaml.Value)) : Except Fault Settings.Given :=
  es.mapM fun (k, v) => match k.spelling? with
    | some name => .ok (name, v)
    | none => .error (.wrongType "keywords must be strings")

/-- Values that are given take the place of those of the file. -/
def overridden (g : Settings.Given) (overrides : Settings.Given) : Settings.Given :=
  overrides.foldl (fun g o => match o.2 with | .null => g | v => Fields.put g o.1 v) g

def refresh (t : FileTree) : Act Configuration Unit := fun c =>
  if t.has c.file then
    match t.contentAt c.file with
    | .error e => (.error (.system e), c)
    | .ok content => match contentOf content with
      | .error f => (.error f, c)
      | .ok data => match data with
        | .map _ => (.ok (), { c with data })
        | _ => (.error (badFile ("Configuration file " ++ c.file.text ++ " must contain a mapping")),
            { c with data })
  else (.ok (), c)

/-- Settings of the file, of what is given with them, and else the usual ones. -/
def load (t : FileTree) (overrides : Settings.Given) : Act Configuration Settings := do
  refresh t
  let es ← Act.ofExcept (entriesOf (← Act.get).data)
  let g ← Act.ofExcept (named es)
  let settings ← Act.ofExcept (Settings.of (overridden g overrides))
  Act.modify fun c => { c with settings }
  return settings

end Configuration
end Dismantle
