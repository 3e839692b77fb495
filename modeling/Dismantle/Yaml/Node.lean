import Dismantle.Yaml.Token
/-! The nodes of a document: text, lists and maps, each with its tag. An alias stands for the node
that its anchor names; a collection that holds itself has a cycle there. -/
namespace Dismantle.Yaml

/-- How a node says what it is: by its form, by its text, or by a tag. -/
inductive Tag where
  | plain | quoted | named (tag : String)
  deriving Repr, DecidableEq

inductive Node where
  | text (tag : Tag) (points : List Nat)
  | list (tag : Tag) (items : List Node)
  | map (tag : Tag) (entries : List (Node × Node))
  | cycle
  deriving Repr, Inhabited

/-- Tokens that are left, how many more collections may be entered, the replacements of tag handles,
and the nodes of anchors; a node that is not complete yet is missing there. -/
structure Reading where
  tokens : List Token
  refusal : Option Refusal
  room : Nat
  handles : List (String × String) := []
  anchors : List (String × Option Node) := []

abbrev Read (α : Type) := Reading → Except Refusal (α × Reading)

def coreTag (name : String) : String := "tag:yaml.org,2002:" ++ name

def defaultHandles : List (String × String) := [("!", "!"), ("!!", coreTag "")]

namespace Reading

/-- Where the tokens end too early, the refusal that ended them is given. -/
def peek (r : Reading) : Except Refusal Token :=
  match r.tokens with
  | t :: _ => .ok t
  | [] => .error (r.refusal.getD .malformed)

def drop (r : Reading) : Reading := { r with tokens := r.tokens.drop 1 }

def expect (r : Reading) (t : Token) : Except Refusal Reading := do
  if (← r.peek) = t then return r.drop else .error .malformed

def dropIf (r : Reading) (t : Token) : Except Refusal (Bool × Reading) := do
  if (← r.peek) = t then return (true, r.drop) else return (false, r)

def entered (r : Reading) : Except Refusal Reading :=
  match r.room with
  | 0 => .error .tooDeep
  | room + 1 => .ok { r with room }

def nextIs (r : Reading) (ts : List Token) : Except Refusal Bool := do
  return ts.contains (← r.peek)

end Reading

def emptyNode : Node := .text .plain []

/-- The properties in front of a node. -/
structure Properties where
  anchor : Option String := none
  tag : Option String := none

def Properties.isEmpty (p : Properties) : Bool := p.anchor.isNone && p.tag.isNone

def wholeTag (handles : List (String × String)) (handle : Option String) (suffix : String) :
    Except Refusal String :=
  match handle with
  | none => .ok suffix
  | some h => match handles.lookup h with
    | some replacement => .ok (replacement ++ suffix)
    | none => .error .malformed

def readProperties (r : Reading) : Except Refusal (Properties × Reading) := do
  match ← r.peek with
  | .anchor name =>
    let r := r.drop
    match ← r.peek with
    | .tag handle suffix => return (⟨name, some (← wholeTag r.handles handle suffix)⟩, r.drop)
    | _ => return (⟨name, none⟩, r)
  | .tag handle suffix =>
    let after := r.drop
    match ← after.peek with
    | .anchor name => return (⟨name, some (← wholeTag r.handles handle suffix)⟩, after.drop)
    | _ => return (⟨none, some (← wholeTag r.handles handle suffix)⟩, after)
  | _ => return ({}, r)

/-- The tag of text: a lone exclamation mark leaves it to the text. -/
def Properties.textTag (p : Properties) (isPlain : Bool) : Tag :=
  match p.tag with
  | some t => if t = "!" then .plain else .named t
  | none => if isPlain then .plain else .quoted

def Properties.collectionTag (p : Properties) : Tag :=
  match p.tag with
  | some t => if t = "!" then .plain else .named t
  | none => .plain

def openAnchor (p : Properties) (r : Reading) : Except Refusal Reading :=
  match p.anchor with
  | none => .ok r
  | some name =>
    if (r.anchors.lookup name).isSome then .error .malformed
    else .ok { r with anchors := (name, none) :: r.anchors }

def closeAnchor (p : Properties) (n : Node) (r : Reading) : Reading :=
  match p.anchor with
  | none => r
  | some name => { r with anchors := r.anchors.map fun a => if a.1 = name then (name, some n) else a }

def aliased (r : Reading) (name : String) : Except Refusal Node :=
  match r.anchors.lookup name with
  | some (some n) => .ok n
  | some none => .ok .cycle
  | none => .error .malformed

mutual
/-- A node. `block` allows blocks, `indentless` a list whose items stand at the column of the map
around it. Every call but a last one takes a token, so twice the tokens are fuel enough. -/
def readNode (block indentless : Bool) : (fuel : Nat) → Read Node
  | 0, _ => .error .malformed
  | fuel + 1, r => do
    match ← r.peek with
    | .alias name => return (← aliased r name, r.drop)
    | _ =>
      let (p, r) ← readProperties r
      let r ← openAnchor p r
      let (n, r) ← readContent block indentless p fuel r
      return (n, closeAnchor p n r)
def readContent (block indentless : Bool) (p : Properties) : (fuel : Nat) → Read Node
  | 0, _ => .error .malformed
  | fuel + 1, r => do
    let t ← r.peek
    let list (read : Read (List Node)) (front : Reading) : Except Refusal (Node × Reading) := do
      let (items, after) ← read (← front.entered)
      return (.list p.collectionTag items, { after with room := r.room })
    let map (read : Read (List (Node × Node))) : Except Refusal (Node × Reading) := do
      let (entries, after) ← read (← r.drop.entered)
      return (.map p.collectionTag entries, { after with room := r.room })
    match t, block with
    | .item, _ =>
      if indentless then list (readIndentless fuel) r
      else if p.isEmpty then .error .malformed else return (.text (p.textTag true) [], r)
    | .text isPlain points, _ => return (.text (p.textTag isPlain) points, r.drop)
    | .flowList, _ => list (readFlowItems true fuel) r.drop
    | .flowMap, _ => map (readFlowEntries true fuel)
    | .blockList, true => list (readItems fuel) r.drop
    | .blockMap, true => map (readEntries fuel)
    | _, _ => if p.isEmpty then .error .malformed else return (.text (p.textTag true) [], r)
/-- A node, or an empty one in front of the tokens that end it. -/
def readOptional (block indentless : Bool) (ends : List Token) : (fuel : Nat) → Read Node
  | 0, _ => .error .malformed
  | fuel + 1, r => do
    if ← r.nextIs ends then return (emptyNode, r)
    readNode block indentless fuel r
def readItems : (fuel : Nat) → Read (List Node)
  | 0, _ => .error .malformed
  | fuel + 1, r => do
    match ← r.dropIf .item with
    | (true, r) =>
      let (n, r) ← readOptional true false [.item, .blockEnd] fuel r
      let (rest, r) ← readItems fuel r
      return (n :: rest, r)
    | (false, r) => return ([], ← r.expect .blockEnd)
def readIndentless : (fuel : Nat) → Read (List Node)
  | 0, _ => .error .malformed
  | fuel + 1, r => do
    match ← r.dropIf .item with
    | (true, r) =>
      let (n, r) ← readOptional true false [.item, .key, .value, .blockEnd] fuel r
      let (rest, r) ← readIndentless fuel r
      return (n :: rest, r)
    | (false, r) => return ([], r)
/-- The entries of a map in a block. A key without a value and a value without a key are empty. -/
def readEntries : (fuel : Nat) → Read (List (Node × Node))
  | 0, _ => .error .malformed
  | fuel + 1, r => do
    match ← r.dropIf .key with
    | (true, r) =>
      let (k, r) ← readOptional true true [.key, .value, .blockEnd] fuel r
      let (v, r) ← readBlockValue fuel r
      let (rest, r) ← readEntries fuel r
      return ((k, v) :: rest, r)
    | (false, r) => return ([], ← r.expect .blockEnd)
def readBlockValue : (fuel : Nat) → Read Node
  | 0, _ => .error .malformed
  | fuel + 1, r => do
    match ← r.dropIf .value with
    | (true, r) => readOptional true true [.key, .value, .blockEnd] fuel r
    | (false, r) => return (emptyNode, r)
/-- The items of a list in brackets; a single entry may stand for a map. -/
def readFlowItems (first : Bool) : (fuel : Nat) → Read (List Node)
  | 0, _ => .error .malformed
  | fuel + 1, r => do
    match ← r.dropIf .flowListEnd with
    | (true, r) => return ([], r)
    | (false, r) =>
      let r ← if first then pure r else r.expect .comma
      match ← r.peek with
      | .flowListEnd => return ([], r.drop)
      | .key =>
        let (k, inner) ← readOptional false false [.value, .comma, .flowListEnd] fuel (← r.drop.entered)
        let (v, inner) ← readFlowValue [.comma, .flowListEnd] fuel inner
        let (rest, r) ← readFlowItems false fuel { inner with room := r.room }
        return (.map .plain [(k, v)] :: rest, r)
      | _ =>
        let (n, r) ← readNode false false fuel r
        let (rest, r) ← readFlowItems false fuel r
        return (n :: rest, r)
def readFlowValue (ends : List Token) : (fuel : Nat) → Read Node
  | 0, _ => .error .malformed
  | fuel + 1, r => do
    match ← r.dropIf .value with
    | (true, r) => readOptional false false ends fuel r
    | (false, r) => return (emptyNode, r)
def readFlowEntries (first : Bool) : (fuel : Nat) → Read (List (Node × Node))
  | 0, _ => .error .malformed
  | fuel + 1, r => do
    match ← r.dropIf .flowMapEnd with
    | (true, r) => return ([], r)
    | (false, r) =>
      let r ← if first then pure r else r.expect .comma
      match ← r.peek with
      | .flowMapEnd => return ([], r.drop)
      | .key =>
        let (k, r) ← readOptional false false [.value, .comma, .flowMapEnd] fuel r.drop
        let (v, r) ← readFlowValue [.comma, .flowMapEnd] fuel r
        let (rest, r) ← readFlowEntries false fuel r
        return ((k, v) :: rest, r)
      | _ =>
        let (k, r) ← readNode false false fuel r
        let (rest, r) ← readFlowEntries false fuel r
        return ((k, emptyNode) :: rest, r)
end

/-- The directives in front of a document: at most one version, which must be known, and no handle
twice. -/
def readDirectives (versioned : Bool) (handles : List (String × String)) :
    List Token → Except Refusal (List (String × String) × List Token)
  | .directive (.version major) :: rest =>
    if versioned || major ≠ 1 then .error .malformed else readDirectives true handles rest
  | .directive (.handle h replacement) :: rest =>
    if (handles.lookup h).isSome then .error .malformed
    else readDirectives versioned ((h, replacement) :: handles) rest
  | .directive .unknown :: rest => readDirectives versioned handles rest
  | rest => .ok (handles, rest)

/-- The end of a document, and nothing but further ends behind it. -/
def readEnd (r : Reading) : Except Refusal Unit := do
  let r := { r with tokens := r.tokens.dropWhile (· = Token.documentEnd) }
  let _ ← r.expect .textEnd

def Node.read? (levels : Nat) (cs : List Char) : Except Refusal (Option Node) := do
  let ⟨tokens, refusal⟩ := Tokens.of cs
  let fuel := 4 * tokens.length + 4
  let r : Reading := { tokens, refusal, room := levels, handles := defaultHandles }
  match ← r.peek with
  | .textEnd => return none
  | .directive _ | .documentStart =>
    let (handles, tokens) ← readDirectives false [] r.tokens
    let r ← { r with tokens, handles := handles ++ defaultHandles }.expect .documentStart
    let isOver ← match ← r.peek with
      | .directive _ | .documentStart | .documentEnd | .textEnd => pure true
      | _ => pure false
    let (n, r) ← if isOver then pure (emptyNode, r) else readNode true false fuel r
    readEnd r
    return some n
  | _ =>
    let (n, r) ← readNode true false fuel r
    readEnd r
    return some n

end Dismantle.Yaml
