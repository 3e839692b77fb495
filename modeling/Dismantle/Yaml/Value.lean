import Dismantle.Text.Base64
import Dismantle.Text.Case
import Dismantle.Yaml.Scalar
/-! The values that nodes stand for. Values are made outside in, one depth after the other, so of
two faults the one less deep is met first, and of two at one depth the earlier one. -/
namespace Dismantle.Yaml

/-- `unpaired` is text with half of a surrogate pair in it; `cycle` is a collection inside
itself. -/
inductive Value where
  | null
  | bool (b : Bool)
  | int (i : Int)
  | float (d : Binary64)
  | str (s : String)
  | unpaired (points : List Nat)
  | bytes (bs : List UInt8)
  | moment (m : Moment)
  | list (items : List Value)
  | pair (key value : Value)
  | set (members : List Value)
  | map (entries : List (Value × Value))
  | cycle
  deriving Inhabited, Repr

namespace Value

def isKey : Value → Bool
  | .list _ | .set _ | .map _ | .cycle => false
  | .pair k v => k.isKey && v.isKey
  | _ => true

/-- Numbers by value, a truth value being one or zero. -/
def number? : Value → Option Json
  | .bool b => some (.bool b)
  | .int i => some (.int i)
  | .float d => some (.float d)
  | _ => none

def same : Value → Value → Bool
  | .null, .null => true
  | .str s, .str t => s == t
  | .unpaired s, .unpaired t => s == t
  | .bytes s, .bytes t => s == t
  | .moment s, .moment t => s.same t
  | .pair k v, .pair k' v' => k.same k' && v.same v'
  | a, b => match a.number?, b.number? with
    | some x, some y => x.same y
    | _, _ => false

/-- Gives a key a value, in the place of an equal key if there is one. -/
def put (key value : Value) : List (Value × Value) → List (Value × Value)
  | [] => [(key, value)]
  | (k, v) :: rest => if k.same key then (k, value) :: rest else (k, v) :: put key value rest

def ofSpelling : Spelling → Value
  | .plain s => .str s
  | .broken points => .unpaired points

def ofPoints (points : List Nat) : Value := ofSpelling (.ofPoints points)

def spelling? : Value → Option Spelling
  | .str s => some s
  | .unpaired points => some (.broken points)
  | _ => none

/-- Null, false, zero and empty values do not count. -/
def counts : Value → Bool
  | .null => false
  | .bool b => b
  | .int i => i != 0
  | .float d => !d.equal (.zero false)
  | .str s => s != ""
  | .bytes bs => !bs.isEmpty
  | .list items => !items.isEmpty
  | .set members => !members.isEmpty
  | .map entries => !entries.isEmpty
  | .unpaired _ | .moment _ | .pair .. | .cycle => true

mutual
def ofJson : Json → Value
  | .null => .null
  | .bool b => .bool b
  | .int i => .int i
  | .float d => .float d
  | .str s => .str s
  | .unpaired points => .unpaired points
  | .arr items => .list (ofJsonItems items)
  | .obj fields => .map (ofJsonFields fields)
def ofJsonItems : List Json → List Value
  | [] => []
  | v :: rest => ofJson v :: ofJsonItems rest
def ofJsonFields : List (Spelling × Json) → List (Value × Value)
  | [] => []
  | (k, v) :: rest => (ofSpelling k, ofJson v) :: ofJsonFields rest
end

end Value

/-- A thing being made, and the refusal that is met first, with its depth. -/
structure Made (α : Type) where
  value : α
  refusal : Option (Nat × Refusal) := none

namespace Made

/-- Of two refusals the less deep one, else the first. -/
def earlier : Option (Nat × Refusal) → Option (Nat × Refusal) → Option (Nat × Refusal)
  | some a, some b => some (if b.1 < a.1 then b else a)
  | some a, none => some a
  | none, b => b

instance : Monad Made where
  pure a := ⟨a, none⟩
  bind m f := let n := f m.value; ⟨n.value, earlier m.refusal n.refusal⟩

def refuse {α : Type} [Inhabited α] (depth : Nat) (r : Refusal) : Made α := ⟨default, some (depth, r)⟩

def result {α : Type} (m : Made α) : Except Refusal α :=
  match m.refusal with
  | none => .ok m.value
  | some (_, r) => .error r

end Made

def boolWord? (word : String) : Option Bool :=
  if ["yes", "true", "on"].contains word then some true
  else if ["no", "false", "off"].contains word then some false
  else none

/-- Marks between digits say nothing. -/
def dropMarks (cs : List Char) : List Char := cs.filter (· ≠ '_')

def noCharacter : Impossible := .plain .index "string index out of range"

def number {α : Type} (r : Except String α) : Except Impossible α := r.mapError (.plain .value)

def negated (negative : Bool) (i : Int) : Int := if negative then -i else i

/-- A whole number: to the base two, eight or sixteen behind a zero, to the base sixty with
colons, else to the base ten. -/
def intOf (cs : List Char) : Except Impossible Int := do
  let cs := dropMarks cs
  let (negative, ds) := Number.signOf cs
  match cs, ds with
  | [], _ => throw noCharacter
  | _, ['0'] => return 0
  | _, '0' :: 'b' :: ds => return negated negative (← number (Number.whole 2 ds))
  | _, '0' :: 'x' :: ds => return negated negative (← number (Number.whole 16 ds))
  | _, '0' :: _ => return negated negative (← number (Number.whole 8 ds))
  | _, [] => throw noCharacter
  | _, _ =>
    let parts ← (ds.splitOn ':').mapM fun d => number (Number.whole 10 d)
    return negated negative (parts.foldl (fun n d => 60 * n + d) 0)

def negatedReal (negative : Bool) : Binary64 → Binary64
  | .finite s m p => .finite (s != negative) m p
  | .infinite s => .infinite (s != negative)
  | .nan => .nan

/-- The sum of numbers to the base sixty, the last one first. -/
def sumSixties (parts : List Binary64) : Binary64 :=
  (parts.foldr (fun d (acc : Binary64 × Nat) => (acc.1.add (d.scale acc.2), 60 * acc.2))
    (.zero false, 1)).1

def realOf (cs : List Char) : Except Impossible Binary64 := do
  let cs := (Text.lower (.ofList (dropMarks cs))).toList
  let (negative, ds) := Number.signOf cs
  if cs.isEmpty then throw noCharacter
  if ds = ".inf".toList then return .infinite negative
  if ds = ".nan".toList then return .nan
  match ds.splitOn ':' with
  | [ds] => return negatedReal negative (← number (Number.real ds))
  | parts => return negatedReal negative (sumSixties (← number (parts.mapM Number.real)))

/-- The text of a node; a map has the text under its key for the whole content. -/
def Node.points? : Node → Option (List Nat)
  | .text _ points => some points
  | .map _ entries => entriesPoints? entries
  | _ => none
where entriesPoints? : List (Node × Node) → Option (List Nat)
  | [] => none
  | (k, v) :: rest => if k.kind = .content then v.points? else entriesPoints? rest

def scalarOf (kind : Kind) (points : List Nat) : Except Refusal Value :=
  let cs := charsOf points
  let possible {α : Type} : Except Impossible α → Except Refusal α := Except.mapError .impossible
  match kind with
  | .null => .ok .null
  | .bool =>
    let word := Text.lower (.ofList cs)
    match boolWord? word with
    | some b => .ok (.bool b)
    | none => .error (.impossible (.plain .key word))
  | .int => .int <$> possible (intOf cs)
  | .float => .float <$> possible (realOf cs)
  | .bytes =>
    if cs.all (·.toNat < 128) then match Text.Base64.decode cs with
      | some bs => .ok (.bytes bs)
      | none => .error .malformed
    else .error .malformed
  | .moment => match Moment.of? cs with
    | none => .error (.impossible (.noAttribute "NoneType" "groupdict"))
    | some m => match m.check with
      | .ok () => .ok (.moment m)
      | .error e => .error (.impossible (.plain .value e))
  | .text => .ok (.ofPoints points)
  | _ => .error .malformed

/-- The kinds whose values are made of a node's text at once. -/
def Kind.isScalar (k : Kind) : Bool := k ∈ [.null, .bool, .int, .float, .bytes, .moment, .text]

def behindMerged (entries merged : List (Node × Node)) : List (Node × Node) :=
  merged ++ entries.filter fun e => e.1.kind ≠ .merge

mutual
/-- The entries that a map gets from the node under its merge key. Of several maps the first one
counts most. -/
def mergedEntries (depth : Nat) : Node → Made (List (Node × Node))
  | .map _ entries => do return behindMerged entries (← mergedParts depth entries)
  | .list _ items => mergedItems depth items
  | .text .. => .refuse depth .malformed
  | .cycle => pure []
def mergedItems (depth : Nat) : List Node → Made (List (Node × Node))
  | [] => pure []
  | .map _ entries :: rest => do
    let merged ← mergedParts depth entries
    return (← mergedItems depth rest) ++ behindMerged entries merged
  | .cycle :: rest => mergedItems depth rest
  | _ :: _ => .refuse depth .malformed
def mergedParts (depth : Nat) : List (Node × Node) → Made (List (Node × Node))
  | [] => pure []
  | (k, v) :: rest => do
    let merged ← if k.kind = .merge then mergedEntries depth v else pure []
    return merged ++ (← mergedParts depth rest)
end

def withMerged (depth : Nat) (entries : List (Node × Node)) : Made (List (Node × Node)) := do
  return behindMerged entries (← mergedParts depth entries)

/-- A key for the whole content is text where a map is made. -/
def Node.asKey (n : Node) : Node :=
  if n.kind = .content then
    match n with
    | .text _ points => .text .quoted points
    | .list _ _ | .map _ _ | .cycle => .list (.named (coreTag "str")) []
  else n

mutual
/-- The depth of a node: merging entries into a map makes none deeper. -/
def Node.height : Node → Nat
  | .text .. | .cycle => 1
  | .list _ items => itemsHeight items + 1
  | .map _ entries => entriesHeight entries + 1
def itemsHeight : List Node → Nat
  | [] => 0
  | n :: rest => max n.height (itemsHeight rest)
def entriesHeight : List (Node × Node) → Nat
  | [] => 0
  | (k, v) :: rest => max (max k.height v.height) (entriesHeight rest)
end

/-- The value of a node at a depth. `fuel` is the height of the node. -/
def Node.make : (fuel depth : Nat) → Node → Made Value
  | 0, _, _ => pure .cycle
  | _, _, .cycle => pure .cycle
  | fuel + 1, depth, n =>
    let inner := depth + 1
    let entry (e : Node × Node) : Made (Value × Value) := do
      let k ← e.1.asKey.make fuel inner
      if k.isKey then return (k, ← e.2.make fuel inner) else .refuse inner .malformed
    let entries (es : List (Node × Node)) : Made (List (Value × Value)) := do
      let made ← (← withMerged inner es).mapM entry
      return made.foldl (fun done e => Value.put e.1 e.2 done) []
    let pair : Node → Made Value
      | .map _ [(k, v)] => return .pair (← k.make fuel inner) (← v.make fuel inner)
      | _ => .refuse inner .malformed
    match n.kind, n with
    | .list, .list _ items => return .list (← items.mapM (make fuel inner))
    | .orderedMap, .list _ items | .pairs, .list _ items => return .list (← items.mapM pair)
    | .map, .map _ es => return .map (← entries es)
    | .set, .map _ es => return .set ((← entries es).map (·.1))
    | .list, _ | .orderedMap, _ | .pairs, _ | .map, _ | .set, _ => .refuse inner .malformed
    | kind, n =>
      if kind.isScalar then
        match n.points? with
        | some points => match scalarOf kind points with
          | .ok v => pure v
          | .error r => .refuse depth r
        | none => .refuse depth .malformed
      else .refuse depth .malformed

/-- The value of a text with at most `levels` collections inside one another; a text without a document
stands for nothing. -/
def Value.read (levels : Nat) (cs : List Char) : Except Refusal Value := do
  match ← Node.read? levels cs with
  | none => return .null
  | some n => (n.make (n.height + 1) 0).result

end Dismantle.Yaml
