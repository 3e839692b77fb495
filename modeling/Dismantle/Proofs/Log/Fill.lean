import Dismantle.Log.Fill
import Dismantle.Proofs.Json.Access
/-! Messages made of text and of places for values. Filling one gives the text as it is and each
value in the form that its letter asks for, or the first fault among the values. -/
namespace Dismantle.Log

/-- A part of a message: text, or a place with the value that it takes. -/
inductive Piece where
  | text (cs : List Char)
  | place (letter : Char) (v : Json)

namespace Piece

def letters : List Char :=
  ['s', 'r', 'a', 'd', 'i', 'u', 'o', 'x', 'X', 'e', 'E', 'f', 'F', 'g', 'G', 'c']

/-- How a part stands in a message. A percent sign in a text stands twice. -/
def pattern : Piece → List Char
  | text cs => cs.flatMap fun c => if c = '%' then ['%', '%'] else [c]
  | place letter _ => ['%', letter]

def value? : Piece → Option Json
  | text _ => none
  | place _ v => some v

def filled : Piece → Except Fault (List Char)
  | text cs => .ok cs
  | place letter v => Place.put {} letter 0 v

/-- What becomes of all parts, up to the first fault. -/
def filledAll : List Piece → Except Fault (List Char)
  | [] => .ok []
  | p :: ps => do
    let cs ← p.filled
    let rest ← filledAll ps
    .ok (cs ++ rest)

def WellFormed : Piece → Prop
  | text _ => True
  | place letter _ => letter ∈ letters

def size : Piece → Nat
  | text cs => cs.length
  | place _ _ => 1

def sizes : List Piece → Nat
  | [] => 0
  | p :: ps => p.size + sizes ps

theorem size_le (p : Piece) : p.size ≤ p.pattern.length := by
  cases p with
  | place letter v => exact Nat.le_succ 1
  | text cs =>
      rw [size, pattern]
      induction cs with
      | nil => exact Nat.le.refl
      | cons c cs ih =>
          rw [List.flatMap_cons, List.length_append, List.length_cons]
          split <;> simp only [List.length_cons, List.length_nil] <;> omega

end Piece

def Values.Left : Values → List Json → Prop
  | .row rest, vs => rest = vs
  | .named _ next, vs => next.toList = vs

theorem Values.Left.take {values : Values} {v : Json} {vs : List Json} (left : values.Left (v :: vs)) :
    ∃ values', values.take = .ok (v, values') ∧ values'.Left vs := by
  cases values with
  | row rest =>
      cases left
      exact ⟨_, rfl, rfl⟩
  | named fields next =>
      cases next with
      | none => cases left
      | some w =>
          cases left
          exact ⟨_, rfl, rfl⟩

theorem readPlace_letter {letter : Char} (known : letter ∈ Piece.letters) (values : Values)
    (cs : List Char) : readPlace values (letter :: cs) = .ok ({}, letter :: cs, values) := by
  have apart : (Piece.letters.all fun l => !(['(', '*', '.', 'h', 'l', 'L'].contains l) &&
      (Place.withFlag {} l).isNone && !Json.isDigit l) = true := by decide
  have apart := List.all_eq_true.mp apart letter known
  simp only [Bool.and_eq_true, Bool.not_eq_true', List.contains_eq_mem, decide_eq_false_iff_not,
    List.mem_cons, List.not_mem_nil, or_false, not_or, Option.isNone_iff_eq_none] at apart
  obtain ⟨⟨⟨named, starred, pointed, short, long, longer⟩, flag⟩, digit⟩ := apart
  have flags : readFlags {} (letter :: cs) = ({}, letter :: cs) := by
    unfold readFlags
    split
    case h_1 some => cases flag.symm.trans some
    case h_2 => rfl
  have digits : Json.spanDigits (letter :: cs) = ([], letter :: cs) := by
    simp [Json.spanDigits, digit]
  have size : readSize values (letter :: cs) = .ok (none, letter :: cs, values) := by
    rw [readSize, digits]
    · rfl
    · rintro rest ⟨⟩
      exact starred rfl
  have room : 0 < twoTo 63 := by decide
  have width : readWidth {} values (letter :: cs) = .ok ({}, letter :: cs, values) := by
    simp [readWidth, size, bind, Except.bind, room]
  have precision : readPrecision {} values (letter :: cs) = .ok ({}, letter :: cs, values) := by
    rw [readPrecision]
    rintro rest ⟨⟩
    exact pointed rfl
  simp [readPlace, named, short, long, longer, flags, width, precision, bind, Except.bind]

theorem Place.put_index {letter : Char} (known : letter ∈ Piece.letters) (p : Place) (index : Nat)
    (v : Json) : p.put letter index v = p.put letter 0 v := by
  simp only [Piece.letters, List.mem_cons, List.not_mem_nil, or_false] at known
  unfold Place.put
  split
  case h_17 => simp_all only [imp_false, false_or]
  all_goals rfl

section
variable (length : Nat) {fuel : Nat}

theorem fillFrom_text (cs rest : List Char) (values : Values) (done : List Char) :
    fillFrom length (fuel + cs.length) (Piece.pattern (.text cs) ++ rest) values done =
      fillFrom length fuel rest values (cs.reverse ++ done) := by
  induction cs generalizing done with
  | nil => rfl
  | cons c cs ih =>
      have later := ih (c :: done)
      rw [List.length_cons, ← Nat.add_assoc, List.reverse_cons, List.append_assoc]
      by_cases percent : c = '%'
      · subst percent
        exact later
      · have kept : Piece.pattern (.text (c :: cs)) = c :: Piece.pattern (.text cs) := by
          rw [Piece.pattern, List.flatMap_cons, if_neg percent]
          rfl
        rw [kept, List.cons_append, fillFrom.eq_def]
        simpa [percent] using later

theorem fillFrom_place {letter : Char} (known : letter ∈ Piece.letters) {v : Json}
    {values values' : Values} (takes : values.take = .ok (v, values')) (rest done : List Char) :
    fillFrom length (fuel + 1) (Piece.pattern (.place letter v) ++ rest) values done =
      (do
        let text ← Place.put {} letter 0 v
        fillFrom length fuel rest values' (text.reverse ++ done)) := by
  have single : letter ≠ '%' := by
    rintro rfl
    exact absurd known (by decide)
  have shape : Piece.pattern (.place letter v) ++ rest = '%' :: letter :: rest := rfl
  rw [shape, fillFrom]
  · simp only [readPlace_letter known, bind, Except.bind, takes, Place.put_index known]
  · rintro cs ⟨⟩
    exact single rfl

theorem fillFrom_pieces {ps : List Piece} (known : ∀ p ∈ ps, p.WellFormed) {values : Values}
    (left : values.Left (ps.filterMap Piece.value?)) (done : List Char) :
    ∃ values', values'.Left [] ∧
      fillFrom length (fuel + Piece.sizes ps + 1) (ps.flatMap Piece.pattern) values done =
        (Piece.filledAll ps).map fun cs => (done.reverse ++ cs, values') := by
  induction ps generalizing values done with
  | nil => exact ⟨values, left, by simp [fillFrom, Piece.filledAll, Except.map]⟩
  | cons p ps ih =>
      obtain ⟨first, others⟩ := List.forall_mem_cons.mp known
      rw [List.flatMap_cons, Piece.sizes]
      cases p with
      | text cs =>
          have steps : fuel + (cs.length + Piece.sizes ps) + 1
              = fuel + Piece.sizes ps + 1 + cs.length := by omega
          obtain ⟨values', none, rest⟩ := ih others left (cs.reverse ++ done)
          refine ⟨values', none, ?_⟩
          rw [Piece.size, steps, fillFrom_text, rest, Piece.filledAll]
          cases Piece.filledAll ps <;> simp [Piece.filled, Except.map, bind, Except.bind]
      | place letter v =>
          have steps : fuel + (1 + Piece.sizes ps) + 1
              = fuel + Piece.sizes ps + 1 + 1 := by omega
          obtain ⟨next, takes, left⟩ := left.take
          rw [Piece.size, steps]
          simp only [fillFrom_place length first takes, Piece.filledAll, Piece.filled]
          cases Place.put {} letter 0 v with
          | error f => exact ⟨.row [], rfl, rfl⟩
          | ok cs =>
              obtain ⟨values', none, rest⟩ := ih others left (cs.reverse ++ done)
              refine ⟨values', none, ?_⟩
              simp only [bind, Except.bind]
              rw [rest]
              cases Piece.filledAll ps <;> simp [Except.map]

end

theorem Piece.sizes_le (ps : List Piece) : sizes ps ≤ (ps.flatMap pattern).length := by
  induction ps with
  | nil => exact Nat.le.refl
  | cons p ps ih =>
      rw [sizes, List.flatMap_cons, List.length_append]
      exact Nat.add_le_add p.size_le ih

theorem Values.left_start (vs : List Json) : (start vs).Left vs := by
  unfold start
  split <;> rfl

/-- A message of text and places, with as many values as places, comes out as its parts do. -/
theorem fill_pieces {ps : List Piece} (known : ∀ p ∈ ps, p.WellFormed)
    (given : ps.filterMap Piece.value? ≠ []) :
    fill (.ofList (ps.flatMap Piece.pattern)) (ps.filterMap Piece.value?) =
      (Piece.filledAll ps).map String.ofList := by
  have enough := Piece.sizes_le ps
  rw [fill, if_neg (by simpa using given)]
  dsimp only
  rw [String.toList_ofList]
  generalize length : (ps.flatMap Piece.pattern).length = n at enough ⊢
  have steps : n + 1 = n - Piece.sizes ps + Piece.sizes ps + 1 := by omega
  obtain ⟨values', left, filled⟩ :=
    fillFrom_pieces n known (Values.left_start (ps.filterMap Piece.value?)) []
  rw [← steps] at filled
  rw [filled]
  cases Piece.filledAll ps with
  | error f => rfl
  | ok cs =>
      cases values' with
      | named fields next => rfl
      | row rest =>
          cases left
          rfl

end Dismantle.Log
