/-! Line boundaries. Text is cut at every boundary the character database knows; a file is
read with its line ends turned into line feeds. -/
namespace Dismantle.Text

def isLineEnd (c : Char) : Bool :=
  let n := c.toNat
  (10 ≤ n ∧ n ≤ 13) ∨ (28 ≤ n ∧ n ≤ 30) ∨ n = 0x85 ∨ n = 0x2028 ∨ n = 0x2029

/-- `open` holds the characters of the line being read, last first, or nothing between lines. -/
def cutLines : List Char → Option (List Char) → List (List Char)
  | [], none => []
  | [], some line => [line.reverse]
  | '\r' :: '\n' :: rest, line => (line.getD []).reverse :: cutLines rest none
  | c :: rest, line =>
    if isLineEnd c then (line.getD []).reverse :: cutLines rest none
    else cutLines rest (some (c :: line.getD []))

/-- The lines of a text without their ends; a line end at the end starts no further line. -/
def splitLines (s : String) : List String := (cutLines s.toList none).map .ofList

def unifyLineEnds : List Char → List Char
  | [] => []
  | '\r' :: '\n' :: rest => '\n' :: unifyLineEnds rest
  | c :: rest => (if c = '\r' then '\n' else c) :: unifyLineEnds rest

end Dismantle.Text
