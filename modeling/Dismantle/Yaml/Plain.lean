import Dismantle.Check
import Dismantle.Json.Display
import Dismantle.Yaml.Value
/-! Values as structured data: dates and bytes become text, sets and pairs lists, keys text. -/
namespace Dismantle.Yaml

/-- The text that bytes spell; what they do not spell is shown as a replacement character. -/
def bytesText (bs : List UInt8) : String :=
  match Text.Utf8.decode bs with
  | .ok cs => .ofList cs
  | .error _ => .ofList (bs.map fun b => if b < 128 then Char.ofNat b.toNat else Char.ofNat 0xfffd)

/-- A date and its clock as they are shown in messages. -/
def Moment.quoted (m : Moment) : String :=
  let d := m.date
  let numbers (ns : List Nat) : String := ", ".intercalate (ns.map toString)
  match m.clock with
  | none => "datetime.date(" ++ numbers [d.year, d.month, d.day] ++ ")"
  | some c =>
    let small := if c.second = 0 ∧ c.micro = 0 then [] else if c.micro = 0 then [c.second] else [c.second, c.micro]
    let zone := match c.offset with
      | none => ""
      | some 0 => ", tzinfo=datetime.timezone.utc"
      | some minutes => ", tzinfo=datetime.timezone(" ++ distance minutes ++ ")"
    "datetime.datetime(" ++ numbers ([d.year, d.month, d.day, c.hour, c.minute] ++ small) ++ zone ++ ")"
where
  distance (minutes : Int) : String :=
    if minutes < 0 then spanText minutes
    else "datetime.timedelta(seconds=" ++ toString (60 * minutes) ++ ")"

def quotedByte (quote : Char) (b : UInt8) : List Char :=
  let c := Char.ofNat b.toNat
  if b < 128 then Text.quotedChar quote c else Text.escapePoint b.toNat

def bytesQuoted (bs : List UInt8) : String :=
  let q := Text.quoteMark (bs.map fun b => Char.ofNat b.toNat)
  .ofList ('b' :: q :: bs.flatMap (quotedByte q) ++ [q])

namespace Value

def keyText : Value → Spelling
  | .bool b => if b then "true" else "false"
  | .null => "None"
  | .int i => toString i
  | .float d => d.text
  | .str s => s
  | .unpaired points => .broken points
  | .bytes bs => bytesText bs
  | .moment m => m.text
  | _ => ""

def keyName : Value → Key
  | .bool b => .number (if b then 1 else 0)
  | .int i => if -(twoTo 63 : Int) ≤ i ∧ i < twoTo 63 then .number i else .name (toString i)
  | .null => .name "None"
  | .float d => .name d.text
  | .moment m => .name m.quoted
  | .bytes bs => .name (bytesQuoted bs)
  | v => .name v.keyText.shown

mutual
def toJson : Value → Json
  | .null => .null
  | .bool b => .bool b
  | .int i => .int i
  | .float d => .float d
  | .str s => .str s
  | .unpaired points => .unpaired points
  | .bytes bs => .str (bytesText bs)
  | .moment m => .str m.text
  | .list items | .set items => .arr (toJsonItems items)
  | .pair k v => .arr [toJson k, toJson v]
  | .map entries => .obj (Fields.ofPairs (toJsonEntries entries))
  | .cycle => .null
def toJsonItems : List Value → List Json
  | [] => []
  | v :: rest => toJson v :: toJsonItems rest
def toJsonEntries : List (Value × Value) → List (Spelling × Json)
  | [] => []
  | (k, v) :: rest => (k.keyText, toJson v) :: toJsonEntries rest
end

end Value

abbrev Entries := List (Spelling × Value)

namespace Entries

def ofFields (fs : Fields) : Entries := fs.map fun f => (f.1, .ofJson f.2)

def fields (es : Entries) : Fields := es.map fun e => (e.1, e.2.toJson)

end Entries
end Dismantle.Yaml
