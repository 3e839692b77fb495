import Dismantle.Host.Basic
/-! Contacts of a host with what is outside it: requests that services have answered, and processes.
Both can be read off a host before and after some work. -/
namespace Dismantle

/-- A request, and how the service answered it. -/
structure Request where
  call : CloudCall
  reply : CloudReply

/-- A process that was to be started, and what came of it. -/
structure Launch where
  start : ProcessStart
  reply : ProcessReply

/-- The program was given a command: what its arguments begin with. -/
def Launch.Runs (l : Launch) (command : List String) : Prop := command <+: l.start.arguments.tail

inductive Contact where
  | request (q : Request)
  | launch (l : Launch)

namespace Contact

def request? : Contact → Option Request
  | .request q => some q
  | .launch _ => none

def launch? : Contact → Option Launch
  | .launch l => some l
  | .request _ => none

end Contact

/-- Sessions and clients that are made are put down among the calls, but nobody is asked. -/
def CloudCall.asks (c : CloudCall) : Bool := c.name != "session" && c.name != "client"

/-- Requests in order: each gets the first answer that is left for its name. -/
def Cloud.replay : List (String × List CloudReply) → List CloudCall →
    List Request × List (String × List CloudReply)
  | replies, [] => ([], replies)
  | replies, c :: cs =>
    if c.asks then
      let (reply, replies) := take c.name replies
      let (qs, replies) := replay replies cs
      (⟨c, reply⟩ :: qs, replies)
    else replay replies cs

/-- Processes in order: each does what is known first of those to come, if it is started. -/
def ProcessReply.replay : List ProcessReply → List ProcessStart → List Launch
  | _, [] => []
  | replies, s :: starts => ⟨s, s.outcome (replies.headD {})⟩ :: replay replies.tail starts

namespace Host

def requests (h h' : Host) : List Request :=
  (Cloud.replay h.cloud.replies (h'.cloud.calls.drop h.cloud.calls.length)).1

/-- The processes that were started from one host to a later one. -/
def launches (h h' : Host) : List Launch :=
  ProcessReply.replay h.replies (h'.starts.drop h.starts.length)

/-- Work that leads from one host to another, with its contacts. -/
inductive Contacts : Host → List Contact → Host → Prop where
  | quiet {h h' : Host} : h'.cloud = h.cloud → h'.starts = h.starts → h'.replies = h.replies →
      Contacts h [] h'
  | made {h h' : Host} {name : String} {arguments : Fields} :
      CloudCall.asks ⟨name, arguments⟩ = false → h'.cloud = h.cloud.record name arguments →
      h'.starts = h.starts → h'.replies = h.replies → Contacts h [] h'
  | request {h h' : Host} {name : String} {arguments : Fields} :
      CloudCall.asks ⟨name, arguments⟩ = true → h'.cloud = (h.cloud.call name arguments).2 →
      h'.starts = h.starts → h'.replies = h.replies →
      Contacts h [.request ⟨⟨name, arguments⟩, (h.cloud.call name arguments).1⟩] h'
  | launch {h h' : Host} {start : ProcessStart} :
      h'.cloud = h.cloud → h'.starts = h.starts ++ [start] → h'.replies = h.replies.tail →
      Contacts h [.launch ⟨start, start.outcome (h.replies.headD {})⟩] h'
  | append {h h' h'' : Host} {es es' : List Contact} :
      Contacts h es h' → Contacts h' es' h'' → Contacts h (es ++ es') h''

end Host

theorem Cloud.replay_append (replies : List (String × List CloudReply)) (cs cs' : List CloudCall) :
    replay replies (cs ++ cs') = ((replay replies cs).1 ++ (replay (replay replies cs).2 cs').1,
      (replay (replay replies cs).2 cs').2) := by
  induction cs generalizing replies with
  | nil => rfl
  | cons c cs ih =>
      simp only [List.cons_append, replay, ih]
      split <;> rfl

theorem ProcessReply.replay_append (replies : List ProcessReply) (starts starts' : List ProcessStart) :
    replay replies (starts ++ starts') =
      replay replies starts ++ replay (replies.drop starts.length) starts' := by
  induction starts generalizing replies with
  | nil => rfl
  | cons s starts ih =>
      simp only [List.cons_append, replay, ih, List.length_cons, List.drop_tail]

/-- The answer may be given by a service whose answers to come are these. -/
def Cloud.Gives (replies : List (String × List CloudReply)) (r : CloudReply) : Prop :=
  r = {} ∨ ∃ name rs, (name, rs) ∈ replies ∧ r ∈ rs

theorem Cloud.Gives.tail {replies : List (String × List CloudReply)} {r : CloudReply}
    (h : Gives replies r) (n : String × List CloudReply) : Gives (n :: replies) r := by
  rcases h with none | ⟨name, rs, member, among⟩
  · exact .inl none
  · exact .inr ⟨name, rs, List.mem_cons_of_mem n member, among⟩

theorem Cloud.take_gives (name : String) (replies : List (String × List CloudReply)) :
    Gives replies (take name replies).1 ∧
      ∀ r, Gives (take name replies).2 r → Gives replies r := by
  induction replies with
  | nil => exact ⟨.inl rfl, fun r given => given⟩
  | cons entry rest ih =>
      obtain ⟨n, rs⟩ := entry
      simp only [take]
      split
      case isTrue =>
          cases rs with
          | nil => exact ⟨.inl rfl, fun r given => given⟩
          | cons r rs =>
              refine ⟨.inr ⟨n, r :: rs, List.mem_cons_self, List.mem_cons_self⟩, ?_⟩
              rintro r' (none | ⟨m, rs', member, among⟩)
              · exact .inl none
              · rcases List.mem_cons.mp member with same | member
                · cases same
                  exact .inr ⟨n, r :: rs, List.mem_cons_self, List.mem_cons_of_mem r among⟩
                · exact .inr ⟨m, rs', List.mem_cons_of_mem _ member, among⟩
      case isFalse =>
          refine ⟨ih.1.tail _, ?_⟩
          rintro r (none | ⟨m, rs', member, among⟩)
          · exact .inl none
          · rcases List.mem_cons.mp member with same | member
            · cases same
              exact .inr ⟨n, rs, List.mem_cons_self, among⟩
            · exact (ih.2 r (.inr ⟨m, rs', member, among⟩)).tail _

theorem Cloud.replay_gives {replies : List (String × List CloudReply)} {cs : List CloudCall}
    {q : Request} (member : q ∈ (replay replies cs).1) : Gives replies q.reply := by
  induction cs generalizing replies with
  | nil => cases member
  | cons c cs ih =>
      simp only [replay] at member
      split at member
      case isTrue =>
          obtain ⟨first, rest⟩ := take_gives c.name replies
          rcases List.mem_cons.mp member with rfl | member
          · exact first
          · exact rest _ (ih member)
      case isFalse => exact ih member

/-- Services fail in words of their own: the report on a missing stack is not theirs. -/
def Cloud.IsForeign (c : Cloud) : Prop :=
  ∀ name rs, (name, rs) ∈ c.replies → ∀ r ∈ rs, ∀ stack, r.fault ≠ some (.missingStack stack)

theorem Cloud.IsForeign.gives {c : Cloud} (h : c.IsForeign) {r : CloudReply}
    (given : Gives c.replies r) (stack : String) : r.fault ≠ some (.missingStack stack) := by
  rcases given with rfl | ⟨name, rs, member, among⟩
  · exact nofun
  · exact h name rs member r among stack

namespace Host.Contacts
variable {h h' : Host} {es : List Contact}

theorem replayed (w : h.Contacts es h') : ∃ calls, h'.cloud.calls = h.cloud.calls ++ calls ∧
    Cloud.replay h.cloud.replies calls = (es.filterMap Contact.request?, h'.cloud.replies) := by
  induction w with
  | quiet cloud _ _ =>
      rw [cloud]
      exact ⟨[], (List.append_nil _).symm, rfl⟩
  | made silent cloud _ _ =>
      rw [cloud]
      refine ⟨[⟨_, _⟩], rfl, ?_⟩
      simp only [Cloud.replay, silent, Bool.false_eq_true, if_false, List.filterMap_nil, Cloud.record]
  | request asks cloud _ _ =>
      rw [cloud]
      refine ⟨[⟨_, _⟩], rfl, ?_⟩
      simp only [Cloud.replay, asks, if_true, Cloud.call]
      rfl
  | launch cloud _ _ =>
      rw [cloud]
      exact ⟨[], (List.append_nil _).symm, rfl⟩
  | append _ _ ih ih' =>
      obtain ⟨calls, same, replayed⟩ := ih
      obtain ⟨calls', same', replayed'⟩ := ih'
      refine ⟨calls ++ calls', ?_, ?_⟩
      · rw [same', same, List.append_assoc]
      · rw [Cloud.replay_append, replayed, replayed', List.filterMap_append]

theorem started (w : h.Contacts es h') : ∃ starts, h'.starts = h.starts ++ starts ∧
    ProcessReply.replay h.replies starts = es.filterMap Contact.launch? ∧
    h'.replies = h.replies.drop starts.length := by
  induction w with
  | quiet _ starts replies =>
      rw [starts, replies]
      exact ⟨[], (List.append_nil _).symm, rfl, rfl⟩
  | made _ _ starts replies =>
      rw [starts, replies]
      exact ⟨[], (List.append_nil _).symm, rfl, rfl⟩
  | request _ _ starts replies =>
      rw [starts, replies]
      exact ⟨[], (List.append_nil _).symm, rfl, rfl⟩
  | launch _ starts replies =>
      rw [starts, replies]
      exact ⟨[_], rfl, rfl, List.drop_one.symm⟩
  | append _ _ ih ih' =>
      obtain ⟨starts, same, replayed, left⟩ := ih
      obtain ⟨starts', same', replayed', left'⟩ := ih'
      refine ⟨starts ++ starts', ?_, ?_, ?_⟩
      · rw [same', same, List.append_assoc]
      · rw [ProcessReply.replay_append, ← left, replayed, replayed', List.filterMap_append]
      · rw [left', left, List.drop_drop, List.length_append]

theorem requests (w : h.Contacts es h') : h.requests h' = es.filterMap Contact.request? := by
  obtain ⟨calls, same, replayed⟩ := w.replayed
  rw [Host.requests, same, List.drop_left, replayed]

theorem launches (w : h.Contacts es h') : h.launches h' = es.filterMap Contact.launch? := by
  obtain ⟨starts, same, replayed, _⟩ := w.started
  rw [Host.launches, same, List.drop_left, replayed]

/-- Where work starts and ends only the contacts count, not the rest of the host. -/
theorem framed {g g' : Host} (w : h.Contacts es h')
    (cloud : h.cloud = g.cloud) (starts : h.starts = g.starts) (replies : h.replies = g.replies)
    (cloud' : g'.cloud = h'.cloud) (starts' : g'.starts = h'.starts)
    (replies' : g'.replies = h'.replies) : g.Contacts es g' := by
  have before : g.Contacts [] h := .quiet cloud starts replies
  have after : h'.Contacts [] g' := .quiet cloud' starts' replies'
  have whole := before.append (w.append after)
  rwa [List.nil_append, List.append_nil] at whole

end Host.Contacts
end Dismantle
