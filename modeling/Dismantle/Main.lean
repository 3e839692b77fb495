import Dismantle.CommandLine.Run
import Std.Time.Format
/-! The program itself. It works on the files below the directory it is started in and asks the user
on the console. It starts no process and calls no service: each of these is answered as if it had
ended well and said nothing, so a run goes as far as that leads. -/
namespace Dismantle.CommandLine

/-- The time in the two forms that records show it in, and the day. -/
def frameNow (width : Nat) : IO Frame := do
  let now ← Std.Time.Timestamp.now
  let t := Std.Time.PlainDateTime.ofWallTime (Std.Time.WallTime.ofTimestamp now Std.Time.TimeZone.Offset.zero)
  return {
    width
    date := t.format "uuuuMMdd"
    stamp := some (t.format "uuuu-MM-dd'T'HH:mm:ss" ++ "Z")
    clock := some (t.format "HH:mm:ss")
    seconds := "0.00" }

def consoleWidth : IO Nat := do
  return ((← IO.getEnv "COLUMNS").bind String.toNat?).getD 80

def withFile (t : FileTree) (p : Path) : IO FileTree := do
  try
    let bytes ← IO.FS.readBinFile p.text
    let t := (t.makeDirectories p.parts.length p.parent).toOption.getD t
    return (t.withContent p (.ofBytes bytes.toList)).toOption.getD t
  catch _ => return t

def bring (before after : FileTree) : IO Unit := do
  for (place, node) in after.entries do
    let name := "/".intercalate place
    match node with
    | .directory => IO.FS.createDirAll name
    | .file c => if before.lookup place ≠ some node then IO.FS.writeBinFile name ⟨c.toBytes.toArray⟩
  for (place, node) in before.entries do
    if node ≠ .directory ∧ (after.lookup place).isNone then
      IO.FS.removeFile ("/".intercalate place)

end Dismantle.CommandLine

open Dismantle CommandLine in
def main (arguments : List String) : IO UInt32 := do
  let frame ← frameNow (← consoleWidth)
  let settled ← (filesRead frame arguments {}).foldlM withFile {}
  let files ← (filesRead frame arguments settled).foldlM withFile {}
  let host : Host := { files }
  let (finish, h) := run frame arguments host
  let (finish, h) ← match h.asked with
    | none => pure (finish, h)
    | some n => do
      IO.print (String.join (h.shown.take n))
      (← IO.getStdout).flush
      let line ← (← IO.getStdin).getLine
      let (finish, h) := run frame arguments { host with input := line.toList }
      pure (finish, { h with shown := h.shown.drop n })
  bring files h.files
  IO.print (String.join h.shown)
  IO.eprint (finish.aside frame h)
  return finish.status.toUInt32
