import Dismantle.Fault.Basic
/-! A service seen from outside: it is called by name and answers what it answers. Its answers to
come are known beforehand, so that a teardown can be rehearsed against any of them. -/
namespace Dismantle

/-- One answer: a value, the pages of a listing, a fault. The pages come before the fault. -/
structure CloudReply where
  value : Json := .obj []
  pages : List Json := []
  fault : Option Fault := none
  deriving Repr, Inhabited

structure CloudCall where
  name : String
  arguments : Fields
  deriving Repr

/-- The answers to come for each name, and the calls made so far. -/
structure Cloud where
  replies : List (String × List CloudReply) := []
  calls : List CloudCall := []
  deriving Repr, Inhabited

namespace Cloud

def take (name : String) : List (String × List CloudReply) →
    CloudReply × List (String × List CloudReply)
  | [] => ({}, [])
  | (n, rs) :: rest =>
    if n = name then match rs with
      | r :: rs => (r, (n, rs) :: rest)
      | [] => ({}, (n, []) :: rest)
    else
      let (r, rest) := take name rest
      (r, (n, rs) :: rest)

def record (c : Cloud) (name : String) (arguments : Fields) : Cloud :=
  { c with calls := c.calls ++ [⟨name, arguments⟩] }

def call (c : Cloud) (name : String) (arguments : Fields) : CloudReply × Cloud :=
  let (reply, replies) := take name c.replies
  (reply, { (c.record name arguments) with replies })

end Cloud
end Dismantle
