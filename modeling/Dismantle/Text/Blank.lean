/-! Blank characters and trimming. Two sets are in use: blanks, which include the four
information separators, and plain white space, which does not. -/
namespace Dismantle.Text

def isSpace (c : Char) : Bool :=
  let n := c.toNat
  (9 ≤ n ∧ n ≤ 13) ∨ n = 0x20 ∨ n = 0x85 ∨ n = 0xa0 ∨ n = 0x1680 ∨ (0x2000 ≤ n ∧ n ≤ 0x200a)
    ∨ n = 0x2028 ∨ n = 0x2029 ∨ n = 0x202f ∨ n = 0x205f ∨ n = 0x3000

/-- White space and the information separators FS, GS, RS and US. -/
def isBlank (c : Char) : Bool :=
  isSpace c ∨ (28 ≤ c.toNat ∧ c.toNat ≤ 31)

def trimEnds (p : Char → Bool) (cs : List Char) : List Char :=
  ((cs.dropWhile p).reverse.dropWhile p).reverse

def strip (s : String) : String := .ofList (trimEnds isBlank s.toList)

end Dismantle.Text
