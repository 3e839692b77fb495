/-! How alike two words are: the longest run that both have, and what is alike on either side of
it, counted against the length of both. -/
namespace Dismantle.Text

def commonStart : List Char → List Char → Nat
  | a :: as, b :: bs => if a = b then commonStart as bs + 1 else 0
  | _, _ => 0

/-- The places of a longest common run and its length; of several the first one counts. -/
def longestRun (as bs : List Char) : Nat × Nat × Nat :=
  let places := (List.range as.length).flatMap fun i => (List.range bs.length).map fun j => (i, j)
  places.foldl (fun best (i, j) =>
    let n := commonStart (as.drop i) (bs.drop j)
    if best.2.2 < n then (i, j, n) else best) (0, 0, 0)

/-- How many characters are alike. `fuel` is the length of the first word. -/
def alike : (fuel : Nat) → List Char → List Char → Nat
  | 0, _, _ => 0
  | fuel + 1, as, bs =>
    let (i, j, n) := longestRun as bs
    if n = 0 then 0
    else n + alike fuel (as.take i) (bs.take j) + alike fuel (as.drop (i + n)) (bs.drop (j + n))

/-- Three fifths of both words are alike. -/
def isSimilar (known word : String) : Bool :=
  let as := known.toList
  let bs := word.toList
  3 * (as.length + bs.length) ≤ 10 * alike as.length as bs

/-- The known words that a word resembles, in order. -/
def similarTo (known : List String) (word : String) : List String :=
  (known.filter (isSimilar · word)).mergeSort fun a b => decide (a ≤ b)

end Dismantle.Text
