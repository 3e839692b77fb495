import Dismantle.Text.Utf8
import Dismantle.Text.Lines
/-! The content of a file: text, or bytes of which nothing is known. -/
namespace Dismantle

inductive Content where
  | text (s : String)
  | bytes (bs : List UInt8)
  deriving DecidableEq, Repr, Inhabited

namespace Content

def ofBytes (bs : List UInt8) : Content :=
  match Text.Utf8.decode bs with
  | .ok cs => .text (.ofList cs)
  | .error _ => .bytes bs

def toBytes : Content → List UInt8
  | .text s => Text.Utf8.encode s.toList
  | .bytes bs => bs

/-- The text of a file, its line ends unified. -/
def read : Content → Except Text.Utf8.Fault String
  | .text s => .ok (.ofList (Text.unifyLineEnds s.toList))
  | .bytes bs => (Text.Utf8.decode bs).map fun cs => .ofList (Text.unifyLineEnds cs)

/-- How many bytes of a file are read at a time. -/
def pieceSize : Nat := 8192

/-- Decodes bytes piece by piece. A character cut off at the end of a piece goes on in the next,
and places in a fault are counted from the start of what is decoded at that time. `fuel` bounds
the number of pieces. -/
def decodePieces : (fuel : Nat) → (carried rest : List UInt8) →
    Except Text.Utf8.Fault (List Char)
  | 0, carried, rest => Text.Utf8.decode (carried ++ rest)
  | fuel + 1, carried, rest =>
    if rest.isEmpty then Text.Utf8.decode carried
    else
      let piece := carried ++ rest.take pieceSize
      let rest := rest.drop pieceSize
      match Text.Utf8.decode piece with
      | .ok cs => (decodePieces fuel [] rest).map (cs ++ ·)
      | .error f =>
        if f.reason = .truncated then do
          let cs ← Text.Utf8.decode (piece.take f.first)
          return cs ++ (← decodePieces fuel (piece.drop f.first) rest)
        else .error f

def readPieces : Content → Except Text.Utf8.Fault String
  | .text s => .ok (.ofList (Text.unifyLineEnds s.toList))
  | .bytes bs => (decodePieces (bs.length / pieceSize + 1) [] bs).map fun cs =>
    .ofList (Text.unifyLineEnds cs)

end Content
end Dismantle
