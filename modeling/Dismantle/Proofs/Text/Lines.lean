import Dismantle.Text.Blank
import Dismantle.Text.Lines
import Dismantle.Text.Search
import Mathlib.Data.List.DropRight
import Mathlib.Data.List.Infix
import Mathlib.Data.List.TakeWhile
/-! Texts in parts: where one occurs in another, what is left without the blanks at the ends, and
that lines which are joined are found again. -/
namespace Dismantle.Text

theorem occursIn_iff {part cs : List Char} : occursIn part cs = true ↔ part <:+: cs := by
  induction cs with
  | nil => rw [occursIn, List.isEmpty_iff, List.infix_nil]
  | cons c cs ih =>
      rw [occursIn, Bool.or_eq_true, List.isPrefixOf_iff_prefix, ih, List.infix_cons_iff]

/-- A text without characters of a class at its ends. -/
structure IsTrimmed (p : Char → Bool) (cs : List Char) : Prop where
  head : ∀ c ∈ cs.head?, p c = false
  last : ∀ c ∈ cs.getLast?, p c = false

section Trimming
variable {p : Char → Bool} {cs ts : List Char}

theorem head_dropWhile : ∀ c ∈ (cs.dropWhile p).head?, p c = false := by
  intro c head
  have stopped := List.head?_dropWhile_not p cs
  rw [Option.mem_def.mp head] at stopped
  simpa using stopped

theorem dropWhile_append_of_head {front : List Char} (dropped : ∀ c ∈ front, p c = true)
    (head : ∀ c ∈ ts.head?, p c = false) : (front ++ ts).dropWhile p = ts := by
  rw [List.dropWhile_append_of_pos dropped]
  cases ts with
  | nil => rfl
  | cons c ts => rw [List.dropWhile_cons_of_neg (by simpa using head c)]

theorem takeWhile_append_of_head {front : List Char} (kept : ∀ c ∈ front, p c = true)
    (head : ∀ c ∈ ts.head?, p c = false) : (front ++ ts).takeWhile p = front := by
  rw [List.takeWhile_append_of_pos kept]
  cases ts with
  | nil => rw [List.takeWhile_nil, List.append_nil]
  | cons c ts => rw [List.takeWhile_cons_of_neg (by simpa using head c), List.append_nil]

theorem rdropWhile_append_of_last {back : List Char} (last : ∀ c ∈ ts.getLast?, p c = false) :
    (ts ++ back).rdropWhile p = ts ++ back.rdropWhile p := by
  induction back using List.reverseRecOn with
  | nil =>
      rw [List.append_nil, List.rdropWhile_nil, List.append_nil, List.rdropWhile_eq_self_iff]
      intro some_ dropped
      simp [last _ (List.getLast?_eq_some_getLast some_)] at dropped
  | append_singleton back c ih =>
      rw [← List.append_assoc, List.rdropWhile_concat, List.rdropWhile_concat, ih]
      split
      · rfl
      · exact List.append_assoc ts back [c]

theorem trimEnds_append {front back : List Char} (trimmed : IsTrimmed p ts) (some_ : ts ≠ [])
    (dropped : ∀ c ∈ front, p c = true) :
    trimEnds p (front ++ ts ++ back) = ts ++ back.rdropWhile p := by
  have head : ∀ c ∈ (ts ++ back).head?, p c = false := by
    rw [List.head?_append_of_ne_nil ts some_]
    exact trimmed.head
  rw [← rdropWhile_append_of_last trimmed.last, List.append_assoc]
  unfold trimEnds
  rw [dropWhile_append_of_head dropped head]
  rfl

theorem exists_trimEnds (p : Char → Bool) (cs : List Char) : ∃ front back,
    cs = front ++ trimEnds p cs ++ back ∧ (∀ c ∈ front, p c = true) ∧ ∀ c ∈ back, p c = true := by
  let rest := cs.dropWhile p
  refine ⟨cs.takeWhile p, (rest.reverse.takeWhile p).reverse, ?_, ?_, ?_⟩
  · rw [trimEnds, List.append_assoc, ← List.reverse_append, List.takeWhile_append_dropWhile,
      List.reverse_reverse, List.takeWhile_append_dropWhile]
  · exact fun c => List.mem_takeWhile_imp
  · intro c member
    exact List.mem_takeWhile_imp (List.mem_reverse.mp member)

theorem trimEnds_isTrimmed (p : Char → Bool) (cs : List Char) : IsTrimmed p (trimEnds p cs) := by
  have kept : trimEnds p cs <+: cs.dropWhile p :=
    List.reverse_suffix.mp (by simpa [trimEnds] using List.dropWhile_suffix p)
  refine ⟨fun c head => ?_, ?_⟩
  · obtain ⟨back, whole⟩ := kept
    have first : c ∈ (cs.dropWhile p).head? := by
      rw [← whole, List.head?_append, Option.mem_def.mp head]
      rfl
    exact head_dropWhile c first
  · rw [trimEnds, List.getLast?_reverse]
    exact head_dropWhile

end Trimming

theorem strip_isTrimmed (s : String) : IsTrimmed isBlank (strip s).toList := by
  rw [strip, String.toList_ofList]
  exact trimEnds_isTrimmed isBlank s.toList

/-- Nothing is left of blanks, and of nothing else. -/
theorem strip_eq_empty {s : String} : strip s = "" ↔ ∀ c ∈ s.toList, isBlank c = true := by
  rw [strip, String.ofList_eq_empty_iff]
  constructor
  · intro none c member
    obtain ⟨front, back, whole, before, after⟩ := exists_trimEnds isBlank s.toList
    rw [none, List.append_nil] at whole
    rw [whole] at member
    exact (List.mem_append.mp member).elim (before c) (after c)
  · intro blank
    rw [trimEnds, List.dropWhile_eq_nil_iff.mpr blank]
    rfl

def IsLine (cs : List Char) : Prop := ∀ c ∈ cs, isLineEnd c = false

instance : DecidablePred IsLine := fun cs =>
  decidable_of_iff (cs.all fun c => !isLineEnd c) (by simp [IsLine])

/-- A text begins with a line: it ends there, or a line end follows. -/
def IsFirstLine (line cs : List Char) : Prop :=
  ∃ rest, cs = line ++ rest ∧ IsLine line ∧ ∀ c ∈ rest.head?, isLineEnd c = true

theorem cutLines_cons_of_line {c : Char} (rest : List Char) (inside : isLineEnd c = false)
    (line : Option (List Char)) :
    cutLines (c :: rest) line = cutLines rest (some (c :: line.getD [])) := by
  rw [cutLines, if_neg (by simp [inside])]
  rintro rest' rfl
  cases inside

theorem cutLines_line {cs : List Char} (whole : IsLine cs) (rest : List Char)
    (line : Option (List Char)) :
    cutLines (cs ++ '\n' :: rest) line = ((line.getD []).reverse ++ cs) :: cutLines rest none := by
  induction cs generalizing line with
  | nil => simp [cutLines, isLineEnd]
  | cons c cs ih =>
      obtain ⟨inside, others⟩ := List.forall_mem_cons.mp whole
      rw [List.cons_append, cutLines_cons_of_line _ inside, ih others]
      simp

theorem cutLines_last {cs : List Char} (whole : IsLine cs) (line : List Char) :
    cutLines cs (some line) = [line.reverse ++ cs] := by
  induction cs generalizing line with
  | nil => simp [cutLines]
  | cons c cs ih =>
      obtain ⟨inside, others⟩ := List.forall_mem_cons.mp whole
      rw [cutLines_cons_of_line _ inside, ih others]
      simp

theorem cutLines_cons_of_end {c : Char} (ends : isLineEnd c = true) (rest : List Char)
    (line : Option (List Char)) :
    (cutLines (c :: rest) line).head? = some (line.getD []).reverse := by
  unfold cutLines
  split
  case h_3 => rfl
  case h_4 same =>
      obtain ⟨rfl, rfl⟩ := List.cons.inj same
      rw [if_pos ends]
      rfl
  all_goals contradiction

theorem cutLines_head {line rest : List Char} (whole : IsLine line)
    (ends : ∀ c ∈ rest.head?, isLineEnd c = true) (read : List Char) :
    (cutLines (line ++ rest) (some read)).head? = some (read.reverse ++ line) := by
  induction line generalizing read with
  | nil =>
      rw [List.nil_append, List.append_nil]
      cases rest with
      | nil => rfl
      | cons c rest => exact cutLines_cons_of_end (ends c rfl) rest (some read)
  | cons c line ih =>
      obtain ⟨inside, others⟩ := List.forall_mem_cons.mp whole
      rw [List.cons_append, cutLines_cons_of_line _ inside, ih others]
      simp

theorem splitLines_head {line : List Char} {s : String} (first : IsFirstLine line s.toList) :
    (splitLines s).headD "" = .ofList line := by
  obtain ⟨rest, same, whole, ends⟩ := first
  rw [splitLines, same]
  cases line with
  | nil =>
      cases rest with
      | nil => rfl
      | cons c rest =>
          have head := cutLines_cons_of_end (ends c rfl) rest none
          simp [head]
  | cons c line =>
      obtain ⟨inside, others⟩ := List.forall_mem_cons.mp whole
      rw [List.cons_append, cutLines_cons_of_line _ inside]
      simp [cutLines_head others ends]

theorem cutLines_isLine {cs : List Char} {line : Option (List Char)}
    (whole : IsLine (line.getD [])) : ∀ l ∈ cutLines cs line, IsLine l := by
  have reversed {line : List Char} (whole : IsLine line) : IsLine line.reverse :=
    fun c member => whole c (List.mem_reverse.mp member)
  fun_induction cutLines cs line with
  | case1 => exact List.forall_mem_nil _
  | case2 line => exact List.forall_mem_singleton.mpr (reversed whole)
  | case3 line rest ih => exact List.forall_mem_cons.mpr ⟨reversed whole, ih (List.forall_mem_nil _)⟩
  | case4 c rest line _ ended ih =>
      exact List.forall_mem_cons.mpr ⟨reversed whole, ih (List.forall_mem_nil _)⟩
  | case5 c rest line _ inside ih =>
      exact ih (List.forall_mem_cons.mpr ⟨by simpa using inside, whole⟩)

theorem splitLines_isLine (s : String) : ∀ line ∈ splitLines s, IsLine line.toList := by
  intro line member
  obtain ⟨cs, among, rfl⟩ := List.mem_map.mp member
  rw [String.toList_ofList]
  have between : IsLine (none.getD []) := List.forall_mem_nil _
  exact cutLines_isLine between cs among

theorem splitLines_join {lines : List String}
    (whole : ∀ line ∈ lines, line ≠ "" ∧ IsLine line.toList) :
    splitLines ("\n".intercalate lines) = lines := by
  unfold splitLines
  induction lines with
  | nil => rfl
  | cons line rest ih =>
      obtain ⟨⟨some_, first⟩, others⟩ := List.forall_mem_cons.mp whole
      cases rest with
      | nil =>
          rw [String.intercalate_singleton]
          cases chars : line.toList with
          | nil => exact absurd (String.toList_eq_nil_iff.mp chars) some_
          | cons c cs =>
              rw [chars] at first
              obtain ⟨inside, later⟩ := List.forall_mem_cons.mp first
              rw [cutLines_cons_of_line _ inside, cutLines_last later]
              simp [← chars]
      | cons next rest =>
          have cut := cutLines_line first ("\n".intercalate (next :: rest)).toList none
          have newline : "\n".toList = ['\n'] := rfl
          rw [String.intercalate_cons_cons, String.toList_append, String.toList_append, newline,
            List.append_assoc, List.singleton_append, cut, List.map_cons, ih others]
          simp

end Dismantle.Text
