import Dismantle.Fault.Text
/-! The flags of a teardown. Any number of dashes may stand before a name, a flag takes no value,
and nothing but flags is accepted. -/
namespace Dismantle.Teardown

structure Flags where
  skipIfMissing : Bool := false
  noConfirm : Bool := false
  deriving DecidableEq, Repr, Inhabited

inductive Flag where
  | skipIfMissing | noConfirm
  deriving DecidableEq, Repr

def Flag.named? (name : String) : Option Flag :=
  if name = "skip-if-missing" then some .skipIfMissing
  else if name = "no-confirm" ∨ name = "n" then some .noConfirm
  else none

/-- An argument is a flag, or stands on its own, or is a flag that nobody knows or that has been
given a value. -/
inductive Argument where
  | flag (f : Flag)
  | alone (s : String)
  | unknown (name : String)
  | valued (name value : String)
  deriving DecidableEq, Repr

def Argument.of (s : String) : Argument :=
  match s.toList with
  | '-' :: c :: cs =>
    let body := (c :: cs).dropWhile (· = '-')
    let name := String.ofList (body.takeWhile (· ≠ '='))
    match Flag.named? name, body.dropWhile (· ≠ '=') with
    | none, _ => .unknown name
    | some _, _ :: value => .valued name (.ofList value)
    | some f, [] => .flag f
  | _ => .alone s

def Flags.with (flags : Flags) : Flag → Flags
  | .skipIfMissing => { flags with skipIfMissing := true }
  | .noConfirm => { flags with noConfirm := true }

/-- The flags, if nothing stands alone beside them. -/
def Flags.only (flags : Flags) (alone : List String) : Except Fault Flags :=
  if alone.isEmpty then .ok flags
  else .error (.reportOf .flag (leftoverText alone) (.leftoverArguments alone))

/-- Reads arguments in order. Two dashes end the flags: what follows stands on its own. A bad
flag is reported at once, arguments that stand alone only once all flags are known to be good. -/
def Flags.read (flags : Flags) (alone : List String) : List String → Except Fault Flags
  | [] => flags.only alone
  | s :: rest =>
    if s = "--" then flags.only (alone ++ rest)
    else match Argument.of s with
      | .flag f => (flags.with f).read alone rest
      | .alone s => flags.read (alone ++ [s]) rest
      | .unknown name => .error (.report .flag ("flag provided but not defined: -" ++ name))
      | .valued name value =>
        .error (.report .flag ("invalid boolean flag " ++ name ++ ": " ++ value))

def Flags.parse (arguments : List String) : Except Fault Flags := Flags.read {} [] arguments

end Dismantle.Teardown
