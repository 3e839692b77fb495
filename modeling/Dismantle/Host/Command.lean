import Dismantle.Host.Basic
import Dismantle.Text.Blank
import Dismantle.Fault.Text
/-! Running a program and judging how it ended. -/
namespace Dismantle

structure Command where
  arguments : List String
  /-- Whether the program works in the workspace, or where this program does. -/
  inWorkspace : Bool := false
  exports : Variables := []
  /-- Files outside the workspace that the arguments or variables name. -/
  named : NamedFiles := []
  /-- Whether a failure of the program is a fault. -/
  check : Bool := true

structure CommandResult where
  status : Int
  output : String
  errors : String
  line : String
  deriving Repr, DecidableEq

def CommandResult.succeeded (r : CommandResult) : Bool := r.status == 0

def CommandResult.everything (r : CommandResult) : String := Text.strip (r.output ++ "\n" ++ r.errors)

namespace Command

def logger : String := "envteardown.utils.commands"

def line (c : Command) : String := " ".intercalate c.arguments

def program (c : Command) : String := c.arguments.headD ""

def settled (vs : Variables) : Variables :=
  vs.foldl (fun done v =>
    if done.any (·.1 = v.1) then done.map fun d => if d.1 = v.1 then v else d else done ++ [v]) []

def start (c : Command) (h : Host) : ProcessStart :=
  let workspace := if c.inWorkspace then h.workspace else none
  { arguments := c.arguments
    directory := workspace.map (·.name)
    exports := if c.exports.isEmpty then none else some (settled c.exports)
    files := (workspace.map (·.files)).getD [] ++ c.named }

/-- Starts the program and waits until it has ended. -/
def launch (c : Command) : Act Host ProcessEnding := fun h =>
  let started := c.start h
  let (reply, h) := { h with starts := h.starts ++ [started] }.takeReply
  let reply := started.outcome reply
  let h := if c.inWorkspace then
      { h with workspace := h.workspace.map fun w => { w with files := reply.change w.files } }
    else h
  (.ok reply.ending, h)

/-- The result of a program that ended, or the report on one that failed. -/
def judge (c : Command) : ProcessEnding → Except Fault CommandResult
  | .notStarted number =>
    let fault := Fault.system ⟨number, [c.program]⟩
    .error (.reportOf .command ("failed to run " ++ c.program ++ ": " ++ fault.text) fault)
  | .refused => .error (.plain .value "embedded null byte")
  | .garbled _ fault => .error (.undecodable fault)
  | .exited status output errors =>
    if c.check ∧ status ≠ 0 then
      .error (.report .command (c.program ++ " exited with status " ++ toString status ++ ": "
        ++ Text.strip errors))
    else .ok { status, output, errors, line := c.line }

def run (c : Command) : Act Host CommandResult := do
  Host.note Log.debug logger ("Running: " ++ c.line)
  let ending ← c.launch
  Act.ofExcept (c.judge ending)

end Command
end Dismantle
