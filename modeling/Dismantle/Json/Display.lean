import Dismantle.Json.Basic
import Dismantle.Number.Text
import Dismantle.Text.Quoted
/-! Structured data as it is shown in messages: text inside lists and objects is quoted, text on
its own is not. -/
namespace Dismantle.Json

def kindName : Json → String
  | .null => "NoneType"
  | .bool _ => "bool"
  | .int _ => "int"
  | .float _ => "float"
  | .str _ | .unpaired _ => "str"
  | .arr _ => "list"
  | .obj _ => "dict"

def quotedPoint (n : Nat) : List Char :=
  if 0xd800 ≤ n ∧ n < 0xe000 then Text.escapePoint n else Text.quotedChar '\'' (Char.ofNat n)

/-- A text with halves, each half as an escape. -/
def quotedPoints (points : List Nat) : String :=
  .ofList ('\'' :: points.flatMap quotedPoint ++ ['\''])

def quotedKey : Spelling → String
  | .plain s => Text.quoted s
  | .broken points => quotedPoints points

mutual
def quoted : Json → String
  | .null => "None"
  | .bool b => if b then "True" else "False"
  | .int i => toString i
  | .float d => d.text
  | .str s => Text.quoted s
  | .unpaired points => quotedPoints points
  | .arr items => "[" ++ quotedItems items ++ "]"
  | .obj fields => "\x7b" ++ quotedFields fields ++ "\x7d"
def quotedItems : List Json → String
  | [] => ""
  | [x] => x.quoted
  | x :: xs => x.quoted ++ ", " ++ quotedItems xs
def quotedFields : List (Spelling × Json) → String
  | [] => ""
  | [(k, v)] => quotedKey k ++ ": " ++ v.quoted
  | (k, v) :: rest => quotedKey k ++ ": " ++ v.quoted ++ ", " ++ quotedFields rest
end

def display : Json → String
  | .str s => s
  | v => v.quoted

end Dismantle.Json
