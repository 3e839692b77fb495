import Dismantle.Console.Width
import Dismantle.Text.Blank
import Dismantle.Text.Lines
/-! Fitting text to a terminal: lines are wrapped between words, words that are too long are cut,
and a panel draws a box around its lines. -/
namespace Dismantle.Console

/-- Tabs go to the next multiple of eight columns. -/
def expandTabs : (column : Nat) → List Char → List Char
  | _, [] => []
  | column, '\t' :: cs =>
    let n := 8 - column % 8
    List.replicate n ' ' ++ expandTabs (column + n) cs
  | column, c :: cs => c :: expandTabs (column + charWidth c) cs

def wordLength (cs : List Char) : Nat :=
  let lead := cs.takeWhile Text.isBlank
  let rest := cs.drop lead.length
  let body := rest.takeWhile fun c => !Text.isBlank c
  let tail := (rest.drop body.length).takeWhile Text.isBlank
  if body.isEmpty then 0 else lead.length + body.length + tail.length

/-- The words of a line. A line of blanks has none. `fuel` is the length of the line. -/
def words : (fuel : Nat) → List Char → List (List Char)
  | 0, _ => []
  | fuel + 1, cs =>
    let n := wordLength cs
    if n = 0 then [] else cs.take n :: words fuel (cs.drop n)

def trimEnd (cs : List Char) : List Char := (cs.reverse.dropWhile Text.isBlank).reverse

/-- Cuts a word into parts that fit; `part` holds the present one, last character first. -/
def chop (limit : Nat) : (part : List Char) → List Char → List (List Char)
  | part, [] => [part.reverse]
  | part, c :: cs =>
    if limit < width part + charWidth c then part.reverse :: chop limit [c] cs
    else chop limit (c :: part) cs

/-- Lines made of words: `line` is the present one, `used` its width. A word that fits nowhere is
cut. -/
def fill (limit : Nat) : (line : List Char) → (used : Nat) → List (List Char) → List (List Char)
  | line, _, [] => [line]
  | line, used, word :: rest =>
    let size := width (trimEnd word)
    if size ≤ limit - used ∧ used ≤ limit then fill limit (line ++ word) (used + width word) rest
    else if limit < size then
      let parts := chop limit [] word
      let last := parts.getLastD []
      let full := if line.isEmpty then parts.dropLast else line :: parts.dropLast
      full ++ fill limit last (width last) rest
    else line :: fill limit word (width word) rest

/-- Blanks that reach over the end of a line are dropped. -/
def dropOverhang (limit : Nat) (cs : List Char) : List Char :=
  let blanks := (cs.reverse.takeWhile Text.isBlank).length
  cs.take (cs.length - min blanks (cs.length - limit))

/-- As much of a text as fits; half of a wide character is shown as a blank. -/
def crop (limit : Nat) : List Char → List Char
  | [] => []
  | c :: cs =>
    let n := charWidth c
    if n ≤ limit then c :: crop (limit - n) cs else List.replicate limit ' '

def wrapLine (limit : Nat) (line : List Char) : List (List Char) :=
  let line := if line.contains '\t' then expandTabs 0 line else line
  let words := words line.length line
  let lines := if words.isEmpty then [line] else fill limit [] 0 words
  lines.map fun l => crop limit (dropOverhang limit l)

def wrap (limit : Nat) (cs : List Char) : List (List Char) := (cs.splitOn '\n').flatMap (wrapLine limit)

def padTo (n : Nat) (cs : List Char) : List Char := cs ++ List.replicate (n - width cs) ' '

def printed (limit : Nat) (s : String) : String :=
  .ofList (List.intercalate ['\n'] (wrap limit s.toList))

def widest (s : String) : Nat := ((Text.splitLines s).map fun l => width l.toList).foldl max 0

/-- The upper border; a title stands in its middle if there is room for one. -/
def topBorder (inner : Nat) (title : List Char) : List Char :=
  if inner ≤ 2 then '╭' :: List.replicate inner '─' ++ ['╮']
  else
    let title := crop (inner - 2) title
    let spare := inner - 2 - width title
    '╭' :: '─' :: List.replicate (spare / 2) '─' ++ title
      ++ List.replicate (spare - spare / 2) '─' ++ ['─', '╮']

/-- A box as wide as its longest line or its title needs, a blank on either side. -/
def panel (limit : Nat) (title s : String) : String :=
  let title := ' ' :: title.toList ++ [' ']
  let inner := min (limit - 2) (max (widest s + 2) (width title + 2))
  let line (l : List Char) : List Char := '│' :: ' ' :: padTo (inner - 2) l ++ [' ', '│']
  let lines := topBorder inner title :: (wrap (inner - 2) s.toList).map line
    ++ ['╰' :: List.replicate inner '─' ++ ['╯']]
  .ofList (lines.flatMap (· ++ ['\n']))

end Dismantle.Console
