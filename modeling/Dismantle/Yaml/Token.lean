import Dismantle.Text.Utf8
import Dismantle.Yaml.Cursor
/-! The tokens of a text. Structure that is written by indentation or left out is made explicit: a
key gets its token when the colon behind it is found. -/
namespace Dismantle.Yaml

inductive Directive where
  | version (major : Nat)
  | handle (handle replacement : String)
  | unknown
  deriving Repr, DecidableEq

/-- Text is kept by its code points; an escape may write half of a surrogate pair. -/
inductive Token where
  | directive (d : Directive)
  | documentStart | documentEnd | textEnd
  | blockList | blockMap | blockEnd
  | flowList | flowListEnd | flowMap | flowMapEnd
  | key | value | item | comma
  | alias (name : String)
  | anchor (name : String)
  | tag (handle : Option String) (suffix : String)
  | text (plain : Bool) (points : List Nat)
  deriving Repr, DecidableEq

/-- A token that may turn out to be a key, by its number. -/
structure Candidate where
  number : Nat
  required : Bool
  index : Nat
  line : Nat
  column : Nat
  deriving Repr

structure Scanner where
  cursor : Cursor
  tokens : Array Token := #[]
  /-- How many brackets and braces are open. -/
  depth : Nat := 0
  /-- The column of the innermost block, or `-1`. -/
  indent : Int := -1
  outer : List Int := []
  keyAllowed : Bool := true
  /-- The candidate of each depth. -/
  candidates : List (Nat × Candidate) := []

abbrev Scan (α : Type) := Except Refusal α

def malformed {α : Type} : Scan α := .error .malformed

def pointsOf (cs : List Char) : List Nat := cs.map Char.toNat

namespace Scanner

def push (s : Scanner) (t : Token) : Scanner := { s with tokens := s.tokens.push t }

def insert (s : Scanner) (place : Nat) (t : Token) : Scanner :=
  { s with tokens := (s.tokens.extract 0 place).push t ++ s.tokens.extract place s.tokens.size }

/-- Goes on behind `n` characters with a token for them. -/
def take (s : Scanner) (n : Nat) (t : Token) : Scanner :=
  { s with cursor := s.cursor.forward n }.push t

def closeBlocks (column : Int) (s : Scanner) : (outer : List Int) → Scanner
  | [] => s
  | i :: outer =>
    if s.indent > column then closeBlocks column ({ s with indent := i, outer }.push .blockEnd) outer
    else s

def unwind (s : Scanner) (column : Int) : Scanner :=
  if s.depth > 0 then s else closeBlocks column s s.outer

/-- Opens a block at a column deeper than the innermost one. -/
def indentTo (s : Scanner) (column : Nat) : Bool × Scanner :=
  if s.indent < column then (true, { s with indent := column, outer := s.indent :: s.outer })
  else (false, s)

/-- A key ends on its line, and its colon stands within 1024 characters. -/
def isStale (s : Scanner) (k : Candidate) : Bool :=
  k.line ≠ s.cursor.line || s.cursor.index - k.index > 1024

def dropStale (s : Scanner) : Scan Scanner :=
  if s.candidates.any fun c => s.isStale c.2 && c.2.required then malformed
  else .ok { s with candidates := s.candidates.filter fun c => !s.isStale c.2 }

def candidate? (s : Scanner) : Option Candidate := s.candidates.lookup s.depth

def forgetCandidate (s : Scanner) : Scanner :=
  { s with candidates := s.candidates.filter (·.1 ≠ s.depth) }

def dropCandidate (s : Scanner) : Scan Scanner :=
  match s.candidate? with
  | some k => if k.required then malformed else .ok s.forgetCandidate
  | none => .ok s

def noteCandidate (s : Scanner) : Scan Scanner :=
  if !s.keyAllowed then .ok s
  else do
    let s ← s.dropCandidate
    let c := s.cursor
    let k : Candidate := {
      number := s.tokens.size
      required := s.depth = 0 && s.indent = (c.column : Int)
      index := c.index, line := c.line, column := c.column }
    return { s with candidates := s.candidates ++ [(s.depth, k)] }

/-- Blanks, comments and line ends before a token. A new line allows a key. -/
def skipBetween (s : Scanner) : (fuel : Nat) → Scanner
  | 0 => s
  | fuel + 1 =>
    let c := (s.cursor.skip (· = ' ')).skipComment
    match c.lineBreak with
    | ([], _) => { s with cursor := c }
    | (_, c) => skipBetween { s with cursor := c, keyAllowed := s.keyAllowed || s.depth = 0 } fuel

end Scanner

def directiveEnd (c : Cursor) : Scan Cursor :=
  let c := (c.skip (· = ' ')).skipComment
  if endsLine c.peek then .ok c.lineBreak.2 else malformed

def directiveNumber (c : Cursor) : Scan (Nat × Cursor) :=
  match c.span Json.isDigit with
  | ([], _) => malformed
  | (ds, c) => .ok (Json.natOf ds, c)

def tagHandle (c : Cursor) : Scan (String × Cursor) :=
  if c.peek ≠ some '!' then malformed
  else if c.peekAt 1 = some ' ' then .ok ("!", c.next)
  else
    let name := (c.next.span isWord).1
    let after := c.forward (name.length + 1)
    if after.peek = some '!' then .ok (.ofList ('!' :: name ++ ['!']), after.next) else malformed

/-- Escaped bytes of a tag; together they must spell characters. -/
def tagBytes : (fuel : Nat) → Cursor → List UInt8 → Scan (List UInt8 × Cursor)
  | 0, c, bytes => .ok (bytes, c)
  | fuel + 1, c, bytes =>
    if c.peek = some '%' then match c.peekAt 1 >>= Json.hexValue?, c.peekAt 2 >>= Json.hexValue? with
      | some a, some b => tagBytes fuel (c.forward 3) (bytes ++ [.ofNat (16 * a + b)])
      | _, _ => malformed
    else .ok (bytes, c)

def tagChars : (fuel : Nat) → Cursor → List Char → Scan (List Char × Cursor)
  | 0, c, done => .ok (done, c)
  | fuel + 1, c, done => match c.peek with
    | some '%' => do
      let (bytes, c) ← tagBytes fuel c []
      match Text.Utf8.decode bytes with
      | .ok cs => tagChars fuel c (done ++ cs)
      | .error _ => malformed
    | some x => if isTagChar x then tagChars fuel c.next (done ++ [x]) else .ok (done, c)
    | none => .ok (done, c)

def tagText (c : Cursor) : Scan (String × Cursor) := do
  let (cs, after) ← tagChars (c.rest.length + 1) c []
  if after.index = c.index then malformed else return (.ofList cs, after)

def directive (c : Cursor) : Scan (Directive × Cursor) := do
  let (name, c) := c.next.span isWord
  if name.isEmpty || !endsWord c.peek then malformed
  else if name = "YAML".toList then
    let (major, c) ← directiveNumber (c.skip (· = ' '))
    if c.peek ≠ some '.' then malformed
    let (_, c) ← directiveNumber c.next
    if !endsWord c.peek then malformed
    return (.version major, ← directiveEnd c)
  else if name = "TAG".toList then
    let (handle, c) ← tagHandle (c.skip (· = ' '))
    if c.peek ≠ some ' ' then malformed
    let (replacement, c) ← tagText (c.skip (· = ' '))
    if !endsWord c.peek then malformed
    return (.handle handle replacement, ← directiveEnd c)
  else return (.unknown, ← directiveEnd (c.skip (!isBreak ·)))

def endsAnchor (c : Option Char) : Bool :=
  separates c || match c with
    | some x => x ∈ ['?', ':', ',', ']', '\x7d', '%', '@', '\x60']
    | none => true

def anchorName (c : Cursor) : Scan (String × Cursor) :=
  match c.next.span isWord with
  | ([], _) => malformed
  | (name, c) => if endsAnchor c.peek then .ok (.ofList name, c) else malformed

/-- Whether another exclamation mark stands in the word of a tag. -/
def hasHandle (c : Cursor) : Bool := (c.next.rest.takeWhile fun x => !endsWord (some x)).contains '!'

def tagToken (c : Cursor) : Scan (Token × Cursor) := do
  let (t, c) ←
    if c.peekAt 1 = some '<' then do
      let (suffix, c) ← tagText (c.forward 2)
      if c.peek ≠ some '>' then malformed
      pure (Token.tag none suffix, c.next)
    else if separates (c.peekAt 1) then pure (Token.tag none "!", c.next)
    else do
      let (handle, c) ← if hasHandle c then tagHandle c else pure ("!", c.next)
      let (suffix, c) ← tagText c
      pure (Token.tag (some handle) suffix, c)
  if endsWord c.peek then return (t, c) else malformed

/-- What becomes of the line breaks at the end of a block of text. -/
inductive Chomping where
  | strip | clip | keep
  deriving DecidableEq

def chompingSign? : Option Char → Option Chomping
  | some '+' => some .keep
  | some '-' => some .strip
  | _ => none

def indentDigit (c : Cursor) : Scan (Option Nat × Cursor) :=
  match c.peek with
  | some x =>
    if x = '0' then malformed
    else if Json.isDigit x then .ok (some (x.toNat - 48), c.next)
    else .ok (none, c)
  | none => .ok (none, c)

/-- The signs behind the mark of a block of text, in either order. -/
def blockSigns (c : Cursor) : Scan (Chomping × Option Nat × Cursor) := do
  let (chomping, n, c) ← match chompingSign? c.peek with
    | some chomping => do
      let (n, c) ← indentDigit c.next
      pure (chomping, n, c)
    | none => do
      let (n, c) ← indentDigit c
      match n, chompingSign? c.peek with
      | some n, some chomping => pure (chomping, some n, c.next)
      | n, _ => pure (.clip, n, c)
  if endsWord c.peek then return (chomping, n, c) else malformed

/-- Empty lines at the start of a block, and how far the deepest blanks before text reach. -/
def blockStart : (fuel : Nat) → Cursor → (breaks : List Char) → (deepest : Nat) → List Char × Nat × Cursor
  | 0, c, breaks, deepest => (breaks, deepest, c)
  | fuel + 1, c, breaks, deepest =>
    if c.peek = some ' ' then blockStart fuel c.next breaks (max deepest c.next.column)
    else match c.lineBreak with
      | ([], _) => (breaks, deepest, c)
      | (b, c) => blockStart fuel c (breaks ++ b) deepest

def blanksTo (column : Nat) (c : Cursor) : Cursor :=
  c.forward ((c.rest.take (column - c.column)).takeWhile (· = ' ')).length

def blockBreaks (indent : Nat) : (fuel : Nat) → Cursor → (breaks : List Char) → List Char × Cursor
  | 0, c, breaks => (breaks, c)
  | fuel + 1, c, breaks =>
    let c := blanksTo indent c
    match c.lineBreak with
    | ([], _) => (breaks, c)
    | (b, c) => blockBreaks indent fuel c (breaks ++ b)

def isBlankStart (c : Option Char) : Bool := c = some ' ' || c = some '\t'

/-- What joins two lines of a block: folded lines have a blank between them, unless empty lines or
deeper ones stand there. -/
def joint (folded : Bool) (lineBreak breaks : List Char) (before after : Bool) : List Char :=
  if folded && lineBreak = ['\n'] && !before && !after then
    (if breaks.isEmpty then [' '] else [])
  else lineBreak

/-- The lines of a block. Gives the text, the last line break and the breaks behind it. -/
def blockLines (folded : Bool) (indent : Nat) : (fuel : Nat) → Cursor → (breaks done : List Char) →
    List Char × List Char × List Char × Cursor
  | 0, c, breaks, done => (done, [], breaks, c)
  | fuel + 1, c, breaks, done =>
    let before := isBlankStart c.peek
    let (line, c) := c.span (!isBreak ·)
    let (lineBreak, c) := c.lineBreak
    let done := done ++ breaks ++ line
    let (breaks, c) := blockBreaks indent fuel c []
    if c.column = indent && c.peek.isSome then
      blockLines folded indent fuel c breaks
        (done ++ joint folded lineBreak breaks before (isBlankStart c.peek))
    else (done, lineBreak, breaks, c)

def blockText (folded : Bool) (blockIndent : Int) (c : Cursor) : Scan (Token × Cursor) := do
  let (chomping, increment, c) ← blockSigns c.next
  let c ← directiveEnd c
  let least : Nat := (max 1 (blockIndent + 1)).toNat
  let fuel := c.rest.length + 1
  let (breaks, indent, c) := match increment with
    | none =>
      let (breaks, deepest, c) := blockStart fuel c [] 0
      (breaks, max least deepest, c)
    | some n =>
      let indent := least + n - 1
      let (breaks, c) := blockBreaks indent fuel c []
      (breaks, indent, c)
  let (body, lineBreak, breaks, c) :=
    if c.column = indent && c.peek.isSome then blockLines folded indent fuel c breaks []
    else ([], [], breaks, c)
  let tail := match chomping with
    | .strip => []
    | .clip => lineBreak
    | .keep => lineBreak ++ breaks
  return (.text false (pointsOf (body ++ tail)), c)

def escapes : List (Char × Nat) := [
  ('0', 0), ('a', 7), ('b', 8), ('t', 9), ('\t', 9), ('n', 10), ('v', 11), ('f', 12), ('r', 13),
  ('e', 27), (' ', 32), ('"', 34), ('\\', 92), ('/', 47), ('N', 0x85), ('_', 0xa0),
  ('L', 0x2028), ('P', 0x2029)]

def escapeWidth? : Char → Option Nat
  | 'x' => some 2
  | 'u' => some 4
  | 'U' => some 8
  | _ => none

def escapedPoint (width : Nat) (c : Cursor) : Scan (Nat × Cursor) :=
  let ds := (c.rest.take width).takeWhile isHex
  if ds.length ≠ width then malformed
  else
    let n := ds.foldl (fun n d => 16 * n + (Json.hexValue? d).getD 0) 0
    if n < 0x110000 then .ok (n, c.forward width)
    else if n < twoTo 31 then .error (.impossible (.plain .value "chr() arg not in range(0x110000)"))
    else .error (.impossible (.plain .overflow "Python int too large to convert to C int"))

/-- Empty lines inside quotes; no document may begin or end there. -/
def quotedBreaks : (fuel : Nat) → Cursor → (breaks : List Char) → Scan (List Char × Cursor)
  | 0, c, breaks => .ok (breaks, c)
  | fuel + 1, c, breaks =>
    if c.atBoundary then malformed
    else
      let c := c.skip fun x => x = ' ' ∨ x = '\t'
      match c.lineBreak with
      | ([], _) => .ok (breaks, c)
      | (b, c) => quotedBreaks fuel c (breaks ++ b)

/-- Text folded over a line break: a blank, or the empty lines that follow. -/
def foldBreaks (lineBreak breaks : List Char) : List Char :=
  if lineBreak ≠ ['\n'] then lineBreak ++ breaks
  else if breaks.isEmpty then [' '] else breaks

/-- Text between quotes up to the closing one; `done` holds the points read, last first. -/
def quotedText (double : Bool) : (fuel : Nat) → Cursor → (done : List Nat) → Scan (List Nat × Cursor)
  | 0, _, _ => malformed
  | fuel + 1, c, done => match c.peek with
    | none => malformed
    | some '\'' =>
      if double then quotedText double fuel c.next (39 :: done)
      else if c.peekAt 1 = some '\'' then quotedText double fuel (c.forward 2) (39 :: done)
      else .ok (done.reverse, c.next)
    | some '"' =>
      if double then .ok (done.reverse, c.next) else quotedText double fuel c.next (34 :: done)
    | some '\\' =>
      if !double then quotedText double fuel c.next (92 :: done)
      else match c.peekAt 1 with
        | none => malformed
        | some x => match escapes.lookup x, escapeWidth? x with
          | some n, _ => quotedText double fuel (c.forward 2) (n :: done)
          | none, some width => do
            let (n, c) ← escapedPoint width (c.forward 2)
            quotedText double fuel c (n :: done)
          | none, none =>
            if isBreak x then do
              let (breaks, c) ← quotedBreaks fuel c.next.lineBreak.2 []
              quotedText double fuel c ((pointsOf breaks).reverse ++ done)
            else malformed
    | some x =>
      if x = ' ' ∨ x = '\t' ∨ isBreak x then do
        let (blanks, c) := c.span fun x => x = ' ' ∨ x = '\t'
        match c.peek with
        | none => malformed
        | some y =>
          if isBreak y then
            let (b, c) := c.lineBreak
            let (breaks, c) ← quotedBreaks fuel c []
            quotedText double fuel c ((pointsOf (foldBreaks b breaks)).reverse ++ done)
          else quotedText double fuel c ((pointsOf blanks).reverse ++ done)
      else quotedText double fuel c.next (x.toNat :: done)

def inList (x : Option Char) (cs : List Char) : Bool :=
  match x with
  | some x => cs.contains x
  | none => false

/-- How many characters of plain text stand at the front. -/
def plainLength (inFlow : Bool) : List Char → Nat
  | [] => 0
  | x :: rest =>
    if separates (some x) then 0
    else if x = ':' ∧ (separates rest.head? || (inFlow && inList rest.head? [',', '[', ']', '\x7b', '\x7d'])) then 0
    else if inFlow && [',', '?', '[', ']', '\x7b', '\x7d'].contains x then 0
    else plainLength inFlow rest + 1

/-- Line ends behind plain text; the text is over where a document begins or ends. -/
def plainBreaks : (fuel : Nat) → Cursor → (breaks : List Char) → Option (List Char) × Cursor
  | 0, c, breaks => (some breaks, c)
  | fuel + 1, c, breaks =>
    if c.peek = some ' ' then plainBreaks fuel c.next breaks
    else match c.lineBreak with
      | ([], _) => (some breaks, c)
      | (b, c) => if c.atBoundary then (none, c) else plainBreaks fuel c (breaks ++ b)

/-- What separates two pieces of plain text, whether a line ended there, and the place behind. -/
def plainSpaces (fuel : Nat) (c : Cursor) : List Char × Bool × Cursor :=
  let (blanks, c) := c.span (· = ' ')
  match c.lineBreak with
  | ([], _) => (blanks, false, c)
  | (b, c) =>
    if c.atBoundary then ([], true, c)
    else match plainBreaks fuel c [] with
      | (none, c) => ([], true, c)
      | (some breaks, c) => (foldBreaks b breaks, true, c)

/-- Plain text; `spaces` stand before the next piece. Also tells whether a key may follow. -/
def plainText (inFlow : Bool) (indent : Int) : (fuel : Nat) → Cursor → (spaces done : List Char) →
    (keyAllowed : Bool) → List Char × Bool × Cursor
  | 0, c, _, done, keyAllowed => (done, keyAllowed, c)
  | fuel + 1, c, spaces, done, keyAllowed =>
    let length := plainLength inFlow c.rest
    if c.peek = some '#' ∨ length = 0 then (done, keyAllowed, c)
    else
      let done := done ++ spaces ++ c.rest.take length
      let (spaces, lineEnded, c) := plainSpaces fuel (c.forward length)
      if spaces.isEmpty || c.peek = some '#' || (!inFlow && (c.column : Int) < indent) then
        (done, lineEnded, c)
      else plainText inFlow indent fuel c spaces done lineEnded

namespace Scanner

/-- A directive or a mark between documents: all blocks are closed before it. -/
def betweenDocuments (s : Scanner) : Scan Scanner := do
  let s ← (s.unwind (-1)).dropCandidate
  return { s with keyAllowed := false }

def openFlow (s : Scanner) (t : Token) : Scan Scanner := do
  let s ← s.noteCandidate
  return { s with depth := s.depth + 1, keyAllowed := true }.take 1 t

def closeFlow (s : Scanner) (t : Token) : Scan Scanner := do
  let s ← s.dropCandidate
  return { s with depth := s.depth - 1, keyAllowed := false }.take 1 t

/-- Opens a block at the place of its first entry, unless it is open. -/
def openBlock (s : Scanner) (t : Token) : Scan Scanner :=
  if s.depth > 0 then .ok s
  else if !s.keyAllowed then malformed
  else match s.indentTo s.cursor.column with
    | (true, s) => .ok (s.push t)
    | (false, s) => .ok s

def takeItem (s : Scanner) : Scan Scanner := do
  let s ← s.openBlock .blockList
  let s ← { s with keyAllowed := true }.dropCandidate
  return s.take 1 .item

def takeKey (s : Scanner) : Scan Scanner := do
  let s ← s.openBlock .blockMap
  let s ← { s with keyAllowed := s.depth = 0 }.dropCandidate
  return s.take 1 .key

/-- A colon. If a candidate stands before it, that was a key. -/
def takeValue (s : Scanner) : Scan Scanner :=
  match s.candidate? with
  | some k =>
    let s := s.forgetCandidate.insert k.number .key
    let s := if s.depth > 0 then s else match s.indentTo k.column with
      | (true, s) => s.insert k.number .blockMap
      | (false, s) => s
    .ok ({ s with keyAllowed := false }.take 1 .value)
  | none => do
    let s ← s.openBlock .blockMap
    let s ← { s with keyAllowed := s.depth = 0 }.dropCandidate
    return s.take 1 .value

def takeNode (s : Scanner) (scan : Cursor → Scan (Token × Cursor)) : Scan Scanner := do
  let s ← s.noteCandidate
  let (t, cursor) ← scan s.cursor
  return { s with cursor, keyAllowed := false }.push t

def takeBlockText (s : Scanner) (folded : Bool) : Scan Scanner := do
  let s ← { s with keyAllowed := true }.dropCandidate
  let (t, cursor) ← blockText folded s.indent s.cursor
  return { s with cursor }.push t

def takeQuoted (s : Scanner) (double : Bool) : Scan Scanner :=
  s.takeNode fun c => do
    let (points, c) ← quotedText double (c.rest.length + 1) c.next []
    return (.text false points, c)

def takePlain (s : Scanner) : Scan Scanner := do
  let s ← s.noteCandidate
  let (cs, keyAllowed, cursor) := plainText (s.depth > 0) (s.indent + 1) (s.cursor.rest.length + 1) s.cursor [] [] false
  return { s with cursor, keyAllowed }.push (.text true (pointsOf cs))

/-- Characters that plain text cannot start with. -/
def indicators : List Char :=
  ['-', '?', ':', ',', '[', ']', '\x7b', '\x7d', '#', '&', '*', '!', '|', '>', '\'', '"', '%', '@', '\x60']

def startsPlain (s : Scanner) : Bool :=
  match s.cursor.peek with
  | none => false
  | some x =>
    (!separates (some x) && !indicators.contains x)
      || (!separates (s.cursor.peekAt 1) && (x = '-' || (s.depth = 0 && (x = '?' || x = ':'))))

/-- The next token, and whether it is the last one. -/
def step (s : Scanner) : Scan (Bool × Scanner) := do
  let s ← (s.skipBetween (s.cursor.rest.length + 1)).dropStale
  let s := s.unwind s.cursor.column
  let c := s.cursor
  let lineStart := c.column = 0
  let more (s : Scan Scanner) : Scan (Bool × Scanner) := s.map (false, ·)
  let isEntry := s.depth > 0 || separates (c.peekAt 1)
  match c.peek with
  | none => do
    let s ← (s.unwind (-1)).dropCandidate
    return (true, { s with keyAllowed := false, candidates := [] }.push .textEnd)
  | some x =>
    if x = '%' ∧ lineStart then more do
      let s ← s.betweenDocuments
      let (d, cursor) ← directive s.cursor
      return { s with cursor }.push (.directive d)
    else if lineStart ∧ c.atMark '-' then more (s.betweenDocuments.map (·.take 3 .documentStart))
    else if lineStart ∧ c.atMark '.' then more (s.betweenDocuments.map (·.take 3 .documentEnd))
    else if x = '[' then more (s.openFlow .flowList)
    else if x = '\x7b' then more (s.openFlow .flowMap)
    else if x = ']' then more (s.closeFlow .flowListEnd)
    else if x = '\x7d' then more (s.closeFlow .flowMapEnd)
    else if x = ',' then more do
      let s ← { s with keyAllowed := true }.dropCandidate
      return s.take 1 .comma
    else if x = '-' ∧ separates (c.peekAt 1) then more s.takeItem
    else if x = '?' ∧ isEntry then more s.takeKey
    else if x = ':' ∧ isEntry then more s.takeValue
    else if x = '*' then more (s.takeNode fun c => (anchorName c).map fun (n, c) => (.alias n, c))
    else if x = '&' then more (s.takeNode fun c => (anchorName c).map fun (n, c) => (.anchor n, c))
    else if x = '!' then more (s.takeNode tagToken)
    else if x = '|' ∧ s.depth = 0 then more (s.takeBlockText false)
    else if x = '>' ∧ s.depth = 0 then more (s.takeBlockText true)
    else if x = '\'' then more (s.takeQuoted false)
    else if x = '"' then more (s.takeQuoted true)
    else if s.startsPlain then more s.takePlain
    else malformed

end Scanner

/-- The tokens of a text, and the refusal that ends them if they end early. -/
structure Tokens where
  tokens : List Token
  refusal : Option Refusal

/-- How many tokens are given away before the next one is read. A candidate waits for the colon that
makes it a key, and what follows it waits with it. -/
def Scanner.ready (s : Scanner) : Nat :=
  let waiting := s.candidates.filter fun c => c.2.required || !s.isStale c.2
  waiting.foldl (fun n c => min n c.2.number) s.tokens.size

def Scanner.run (s : Scanner) : (fuel : Nat) → Tokens
  | 0 => ⟨s.tokens.toList, some .malformed⟩
  | fuel + 1 => match s.step with
    | .error r => ⟨s.tokens.toList.take s.ready, some r⟩
    | .ok (true, s) => ⟨s.tokens.toList, none⟩
    | .ok (false, s) => s.run fuel

def isReadable (c : Char) : Bool :=
  let n := c.toNat
  n = 9 ∨ n = 10 ∨ n = 13 ∨ (0x20 ≤ n ∧ n ≤ 0x7e) ∨ n = 0x85 ∨ (0xa0 ≤ n ∧ n ≤ 0xfffd) ∨ 0x10000 ≤ n

/-- The tokens of a text; a byte order mark at its start is left out. -/
def Tokens.of (cs : List Char) : Tokens :=
  if !cs.all isReadable then ⟨[], some .malformed⟩
  else
    let start : Cursor := { rest := cs }
    let start := if start.peek = some '\ufeff' then start.next else start
    { cursor := start : Scanner }.run (2 * cs.length + 2)

end Dismantle.Yaml
