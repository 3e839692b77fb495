import Dismantle.Fault.Basic
import Dismantle.Json.Display
/-! Looking into data that somebody else wrote, and the faults when it is not formed as expected. -/
namespace Dismantle.Json

/-- The value under a key, or a default; only objects can be asked. -/
def find (v : Json) (key : String) (default : Json) : Except Fault Json :=
  match v with
  | .obj fs => .ok ((Fields.get? fs key).getD default)
  | v => .error (.noAttribute v.kindName "get")

def notIndexed (v : Json) : Fault :=
  .wrongType ("'" ++ v.kindName ++ "' object is not subscriptable")

def demand (v : Json) (key : String) : Except Fault Json :=
  match v with
  | .obj fs => match Fields.get? fs key with
    | some w => .ok w
    | none => .error (.plain .key key)
  | .str _ | .unpaired _ => .error (.wrongType "string indices must be integers, not 'str'")
  | .arr _ => .error (.wrongType "list indices must be integers or slices, not str")
  | v => .error (notIndexed v)

/-- The parts of a value in turn: items, keys or characters. -/
def each : Json → Except Fault (List Json)
  | .arr xs => .ok xs
  | .obj fs => .ok (fs.map fun f => ofSpelling f.1)
  | .str s => .ok (s.toList.map fun c => .str (.ofList [c]))
  | .unpaired points => .ok (points.map fun n => ofPoints [n])
  | v => .error (.wrongType ("'" ++ v.kindName ++ "' object is not iterable"))

def first (v : Json) : Except Fault Json :=
  match v with
  | .arr (x :: _) => .ok x
  | .str s => match s.toList with
    | c :: _ => .ok (.str (.ofList [c]))
    | [] => .error (.wrongType "string index out of range")
  | .obj _ => .error (.plain .runtime "0")
  | v => .error (notIndexed v)

/-- Values joined in order, which has to be the order of texts. -/
def sortedNames (names : List Json) : Except Fault (List String) :=
  match names.mapM Json.text? with
  | some names => .ok (names.mergeSort fun a b => decide (a ≤ b))
  | none => .error (.wrongType "sequence item: expected str instance")

end Dismantle.Json
