import Dismantle.Text.Utf8
/-! Text decoded in parts. What follows a text is decoded as if it stood alone, and a text that
breaks off is one up to the character that broke off. -/
namespace Dismantle.Text.Utf8

/-- What one more byte comes to: a character that has yet to end, or one that ended. -/
def read (b : UInt8) (place : Nat) : Option Pending → Except Fault (Option Pending × List Char)
  | none =>
    if b.toNat < 0x80 then .ok (none, [Char.ofNat b.toNat])
    else match announced b.toNat with
      | none => .error ⟨.badStart, place, place, b⟩
      | some (bits, next, later) => .ok (some ⟨place, b, bits, next, later⟩, [])
  | some p =>
    if p.next.1 ≤ b.toNat ∧ b.toNat ≤ p.next.2 then
      let bits := 64 * p.bits + (b.toNat - 0x80)
      match p.later with
      | [] => .ok (none, [Char.ofNat bits])
      | next :: later => .ok (some { p with bits, next, later }, [])
    else .error ⟨.badContinuation, p.start, place - 1, p.lead⟩

theorem scan_cons (b : UInt8) (rest : List UInt8) (place : Nat) (p : Option Pending)
    (done : List Char) : scan (b :: rest) place p done =
      (read b place p).bind fun m => scan rest (place + 1) m.1 (m.2 ++ done) := by
  cases p with
  | none =>
      rw [scan, read]
      split
      · rfl
      · cases announced b.toNat <;> rfl
  | some p =>
      obtain ⟨start, lead, bits, next, later⟩ := p
      rw [scan, read]
      split
      · cases later <;> rfl
      · rfl

/-- A character's bits and what may come next; where it started matters for faults only. -/
def Pending.rest (p : Pending) : Nat × (Nat × Nat) × List (Nat × Nat) := (p.bits, p.next, p.later)

theorem read_alike {p p' : Option Pending} (alike : p.map Pending.rest = p'.map Pending.rest)
    (b : UInt8) (place place' : Nat) :
    (∃ f f', read b place p = .error f ∧ read b place' p' = .error f') ∨
      ∃ q q' cs, read b place p = .ok (q, cs) ∧ read b place' p' = .ok (q', cs) ∧
        q.map Pending.rest = q'.map Pending.rest := by
  cases p with
  | none =>
      obtain rfl : p' = none := Option.map_eq_none_iff.mp alike.symm
      simp only [read]
      split
      · exact .inr ⟨_, _, _, rfl, rfl, rfl⟩
      · cases announced b.toNat with
        | none => exact .inl ⟨_, _, rfl, rfl⟩
        | some kind => exact .inr ⟨_, _, _, rfl, rfl, rfl⟩
  | some p =>
      obtain ⟨p', rfl, same⟩ := Option.map_eq_some_iff.mp alike.symm
      obtain ⟨start, lead, bits, next, later⟩ := p
      obtain ⟨start', lead', bits', next', later'⟩ := p'
      cases same
      simp only [read]
      split
      · cases later with
        | nil => exact .inr ⟨_, _, _, rfl, rfl, rfl⟩
        | cons next later => exact .inr ⟨_, _, _, rfl, rfl, rfl⟩
      · exact .inl ⟨_, _, rfl, rfl⟩

theorem scan_alike {p p' : Option Pending} (alike : p.map Pending.rest = p'.map Pending.rest)
    (bs : List UInt8) (place place' : Nat) (done done' : List Char) :
    (scan bs place p (done' ++ done)).toOption =
      (scan bs place' p' done').toOption.map (done.reverse ++ ·) := by
  induction bs generalizing place place' p p' done' with
  | nil =>
      cases p with
      | none =>
          obtain rfl : p' = none := Option.map_eq_none_iff.mp alike.symm
          simp [scan, Except.toOption]
      | some p =>
          obtain ⟨p', rfl, -⟩ := Option.map_eq_some_iff.mp alike.symm
          rfl
  | cons b rest ih =>
      rw [scan_cons, scan_cons]
      rcases read_alike alike b place place' with ⟨f, f', failed, failed'⟩ |
        ⟨q, q', cs, read, read', alike⟩
      · rw [failed, failed']
        rfl
      · rw [read, read']
        change (scan rest _ q (cs ++ (done' ++ done))).toOption = _
        rw [← List.append_assoc]
        exact ih alike _ _ _

/-- What comes after a text is decoded as if it stood alone. -/
theorem scan_append {xs : List UInt8} {place : Nat} {p : Option Pending} {done cs : List Char}
    (whole : scan xs place p done = .ok cs) (ys : List UInt8) :
    scan (xs ++ ys) place p done = scan ys (place + xs.length) none cs.reverse := by
  induction xs generalizing place p done with
  | nil =>
      cases p with
      | none =>
          cases whole
          rw [List.reverse_reverse]
          rfl
      | some p => cases whole
  | cons b rest ih =>
      rw [scan_cons] at whole
      rw [List.cons_append, scan_cons]
      cases step : read b place p with
      | error f =>
          rw [step] at whole
          cases whole
      | ok m =>
          rw [step] at whole
          have after := ih whole
          rw [Nat.add_right_comm, Nat.add_assoc] at after
          exact after

theorem decode_append {xs : List UInt8} {cs : List Char} (whole : decode xs = .ok cs)
    (ys : List UInt8) : (decode (xs ++ ys)).toOption = (decode ys).toOption.map (cs ++ ·) := by
  have alone := scan_alike (p := none) rfl ys (0 + xs.length) 0 cs.reverse []
  rw [List.reverse_reverse] at alone
  rw [decode, scan_append whole]
  exact alone

/-- A fault that is not the end of the text is met whatever comes after. -/
theorem scan_append_of_error {xs : List UInt8} {place : Nat} {p : Option Pending}
    {done : List Char} {f : Fault} (failed : scan xs place p done = .error f)
    (inside : f.reason ≠ .truncated) (ys : List UInt8) :
    scan (xs ++ ys) place p done = .error f := by
  induction xs generalizing place p done with
  | nil =>
      cases p with
      | none => cases failed
      | some p =>
          cases failed
          exact absurd rfl inside
  | cons b rest ih =>
      rw [scan_cons] at failed
      rw [List.cons_append, scan_cons]
      cases step : read b place p with
      | error f' =>
          rw [step] at failed
          exact failed
      | ok m =>
          rw [step] at failed
          exact ih failed

theorem decode_append_of_error {xs : List UInt8} {f : Fault} (failed : decode xs = .error f)
    (inside : f.reason ≠ .truncated) (ys : List UInt8) : decode (xs ++ ys) = .error f :=
  scan_append_of_error failed inside ys

/-- A byte that fails a text does not break it off, and a character that has yet to end started
with this byte or was pending. -/
theorem read_cases (b : UInt8) (place : Nat) (p : Option Pending) :
    (∃ f, read b place p = .error f ∧ f.reason ≠ .truncated) ∨
      ∃ q cs, read b place p = .ok (q, cs) ∧ ∀ q', q = some q' →
        (p = none ∧ q'.start = place) ∨ ∃ p', p = some p' ∧ q'.start = p'.start := by
  cases p with
  | none =>
      rw [read]
      split
      · exact .inr ⟨_, _, rfl, nofun⟩
      · cases announced b.toNat with
        | none => exact .inl ⟨_, rfl, nofun⟩
        | some kind =>
            refine .inr ⟨_, _, rfl, ?_⟩
            rintro _ ⟨⟩
            exact .inl ⟨rfl, rfl⟩
  | some p =>
      obtain ⟨start, lead, bits, next, later⟩ := p
      rw [read]
      split
      · cases later with
        | nil => exact .inr ⟨_, _, rfl, nofun⟩
        | cons next later =>
            refine .inr ⟨_, _, rfl, ?_⟩
            rintro _ ⟨⟩
            exact .inr ⟨_, rfl, rfl⟩
      · exact .inl ⟨_, rfl, nofun⟩

/-- Where a text breaks off, it is one up to the character that broke off: one that was pending
already, or one that starts at a later place. -/
theorem scan_take {xs : List UInt8} {place : Nat} {p : Option Pending} {done : List Char}
    {f : Fault} (failed : scan xs place p done = .error f) (broken : f.reason = .truncated) :
    (∃ q, p = some q ∧ f.first = q.start) ∨
      ∃ n cs, f.first = place + n ∧ scan (xs.take n) place p done = .ok cs := by
  induction xs generalizing place p done with
  | nil =>
      cases p with
      | none => cases failed
      | some p =>
          cases failed
          exact .inl ⟨p, rfl, rfl⟩
  | cons b rest ih =>
      rw [scan_cons] at failed
      rcases read_cases b place p with ⟨f', step, other⟩ | ⟨q, cs, step, pending⟩
      · rw [step] at failed
        cases failed
        exact absurd broken other
      · rw [step] at failed
        rcases ih failed with ⟨q', some_, first⟩ | ⟨n, cs', first, whole⟩
        · rcases pending q' some_ with ⟨rfl, start⟩ | ⟨p', rfl, start⟩
          · exact .inr ⟨0, _, first.trans start, rfl⟩
          · exact .inl ⟨p', rfl, first.trans start⟩
        · refine .inr ⟨n + 1, cs', by omega, ?_⟩
          rw [List.take_succ_cons, scan_cons, step]
          exact whole

theorem decode_take {xs : List UInt8} {f : Fault} (failed : decode xs = .error f)
    (broken : f.reason = .truncated) : ∃ cs, decode (xs.take f.first) = .ok cs := by
  rcases scan_take failed broken with ⟨q, none, -⟩ | ⟨n, cs, first, whole⟩
  · cases none
  · rw [Nat.zero_add] at first
    exact ⟨cs, first ▸ whole⟩

end Dismantle.Text.Utf8
