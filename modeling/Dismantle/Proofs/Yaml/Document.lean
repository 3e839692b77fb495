import Dismantle.Proofs.Json.Form
import Dismantle.Yaml.Writer
import Mathlib.Data.List.SplitBy
/-! The characters that documents are written in. -/
namespace Dismantle
open Json (Printed)

namespace Binary64

theorem printed_of_mem_zeros {n : Nat} : ∀ c ∈ zeros n, Printed c := by
  intro c member
  rw [List.eq_of_mem_replicate member]
  decide

theorem printed_of_mem_trimZeros {ds : List Char} (digits : ∀ c ∈ ds, Printed c) :
    ∀ c ∈ trimZeros ds, Printed c := by
  unfold trimZeros
  split
  case h_1 => exact Json.printed_of_all rfl
  case h_2 =>
      intro c member
      have inside := (List.dropWhile_sublist _).mem (List.mem_reverse.mp member)
      exact digits c (List.mem_reverse.mp inside)

theorem printed_of_mem_positional {d : Decimal} (digits : ∀ c ∈ d.digits, Printed c) :
    ∀ c ∈ positional d, Printed c := by
  have taken (n : Nat) : ∀ c ∈ d.digits.take n, Printed c :=
    fun c member => digits c (List.mem_of_mem_take member)
  have left (n : Nat) : ∀ c ∈ d.digits.drop n, Printed c :=
    fun c member => digits c (List.mem_of_mem_drop member)
  have point : Printed '.' := by decide
  unfold positional
  dsimp only
  split
  · simp only [List.cons_append, List.forall_mem_cons, List.forall_mem_append]
    exact ⟨by decide, point, printed_of_mem_zeros, digits⟩
  · simp only [List.forall_mem_cons, List.forall_mem_append]
    refine ⟨⟨taken _, printed_of_mem_zeros⟩, point, ?_⟩
    split
    · exact Json.printed_of_all rfl
    · exact left _

theorem printed_of_mem_exponentText {e : Int} : ∀ c ∈ exponentText e, Printed c := by
  unfold exponentText
  refine List.forall_mem_cons.mpr ⟨by split <;> decide, ?_⟩
  split
  · exact List.forall_mem_cons.mpr ⟨by decide, fun c => Json.printed_of_mem_toDigits⟩
  · exact fun c => Json.printed_of_mem_toDigits

theorem printed_of_mem_scientific {d : Decimal} (digits : ∀ c ∈ d.digits, Printed c) :
    ∀ c ∈ scientific d, Printed c := by
  unfold scientific
  simp only [List.forall_mem_append, List.forall_mem_cons]
  refine ⟨⟨fun c member => digits c (List.mem_of_mem_take member), ?_⟩, by decide,
    printed_of_mem_exponentText⟩
  split
  · exact List.forall_mem_nil _
  · refine List.forall_mem_cons.mpr ⟨by decide, ?_⟩
    exact fun c member => digits c (List.mem_of_mem_drop member)

theorem printed_of_mem_signed {negative : Bool} {cs : List Char} (h : ∀ c ∈ cs, Printed c) :
    ∀ c ∈ signed negative cs, Printed c := by
  cases negative with
  | false => exact h
  | true => exact List.forall_mem_cons.mpr ⟨by decide, h⟩

theorem printed_of_mem_text (d : Binary64) : ∀ c ∈ d.text.toList, Printed c := by
  cases d with
  | nan => exact Json.printed_of_all rfl
  | infinite negative =>
      rw [text, String.toList_ofList]
      exact printed_of_mem_signed (Json.printed_of_all rfl)
  | finite negative m power =>
      have digits : ∀ c ∈ (shortest m power).digits, Printed c :=
        printed_of_mem_trimZeros fun c => Json.printed_of_mem_toDigits
      rw [text, String.toList_ofList]
      refine printed_of_mem_signed ?_
      split
      · exact Json.printed_of_all rfl
      · dsimp only
        split
        · exact printed_of_mem_positional digits
        · exact printed_of_mem_scientific digits

end Binary64

namespace Yaml

namespace Pen

def Printed (p : Pen) : Prop := ∀ c ∈ p.done, Json.Printed c

namespace Printed
variable {p : Pen} {cs : List Char}

theorem put (h : p.Printed) (text : ∀ c ∈ cs, Json.Printed c) : (p.put cs).Printed := by
  refine List.forall_mem_append.mpr ⟨fun c member => ?_, h⟩
  exact text c (List.mem_reverse.mp member)

theorem newLine (h : p.Printed) : p.newLine.Printed := List.forall_mem_cons.mpr ⟨.inl rfl, h⟩

theorem newLines (h : p.Printed) (n : Nat) : (p.newLines n).Printed := by
  induction n generalizing p with
  | zero => exact h
  | succ n ih => exact ih h.newLine

theorem indent (h : p.Printed) (column : Nat) : (p.indent column).Printed := by
  have blanks (n : Nat) : ∀ c ∈ List.replicate n ' ', Json.Printed c := by
    intro c member
    rw [List.eq_of_mem_replicate member]
    decide
  have filled {q : Pen} (started : q.Printed) : (if q.column < column then
      { q.put (List.replicate (column - q.column) ' ') with gap := true } else q).Printed := by
    split
    · exact started.put (blanks _)
    · exact started
  refine filled ?_
  split
  · exact h.newLine
  · exact h

theorem mark (h : p.Printed) (text : ∀ c ∈ cs, Json.Printed c) (apart gap margin : Bool) :
    (p.mark cs apart gap margin).Printed := by
  have drawn : ∀ c ∈ (if p.gap || !apart then cs else ' ' :: cs), Json.Printed c := by
    split
    · exact text
    · exact List.forall_mem_cons.mpr ⟨by decide, text⟩
  exact h.put drawn

theorem inText (h : p.Printed) : p.inText.Printed := h

end Printed
end Pen

theorem mem_of_mem_runs {cs run : List Char} (among : run ∈ runs cs) {c : Char} (member : c ∈ run) :
    c ∈ cs := by
  have whole : (runs cs).flatten = cs := List.flatten_splitBy _ _
  rw [← whole]
  exact List.mem_flatten.mpr ⟨run, among, member⟩

theorem printed_of_isOrdinary {c : Char} (ordinary : isOrdinary c = true) : Printed c := by
  rw [isOrdinary, decide_eq_true_eq] at ordinary
  rcases ordinary with rfl | ⟨low, high⟩
  · exact .inl rfl
  · rw [Char.le_def, UInt32.le_iff_toNat_le] at low high
    have low : 32 ≤ c.toNat := low
    have high : c.toNat ≤ 126 := high
    exact .inr (by omega)

theorem ordinary_of_styleOf {cs : List Char} (plain : styleOf cs ≠ .double) :
    ∀ c ∈ cs, Printed c := by
  have ordinary : cs.all isOrdinary = true := by
    unfold styleOf at plain
    split_ifs at plain with bare single
    · simp only [allowsBare, Bool.and_eq_true] at bare
      exact bare.1.1.1.1.1.2
    · simp only [allowsSingle, Bool.and_eq_true] at single
      exact single.1.1
    · exact absurd rfl plain
  exact fun c member => printed_of_isOrdinary (List.all_eq_true.mp ordinary c member)

section
variable {p : Pen} (h : p.Printed)
include h

theorem writeBareRuns_printed {rs : List (List Char)} (text : ∀ run ∈ rs, ∀ c ∈ run, Printed c)
    (column : Nat) (fold : Bool) : (writeBareRuns column fold rs p).Printed := by
  induction rs generalizing p with
  | nil => exact h
  | cons run rest ih =>
      obtain ⟨first, others⟩ := List.forall_mem_cons.mp text
      unfold writeBareRuns
      dsimp only
      split
      · exact ih (h.indent column).inText others
      · exact ih (h.put first) others

theorem writeBare_printed {cs : List Char} (text : ∀ c ∈ cs, Printed c) (column : Nat)
    (fold : Bool) : (writeBare column fold cs p).Printed := by
  refine writeBareRuns_printed (Pen.Printed.inText ?_) (fun run among c member => ?_) _ _
  case refine_2 => exact text c (mem_of_mem_runs among member)
  split
  · exact h
  · exact h.put (List.forall_mem_singleton.mpr (by decide))

theorem writeSingleRuns_printed {rs : List (List Char)} (text : ∀ run ∈ rs, ∀ c ∈ run, Printed c)
    (column : Nat) (fold first : Bool) : (writeSingleRuns column fold first rs p).Printed := by
  induction rs generalizing p first with
  | nil => exact h
  | cons run rest ih =>
      obtain ⟨here, others⟩ := List.forall_mem_cons.mp text
      unfold writeSingleRuns
      dsimp only
      split
      · exact ih ((h.newLines _).indent column) others false
      · split
        · exact ih (h.indent column) others false
        · refine ih (h.put fun c member => ?_) others false
          obtain ⟨d, inside, member⟩ := List.mem_flatMap.mp member
          split at member
          case isTrue =>
              revert member
              exact Json.printed_of_all rfl c
          case isFalse => exact List.mem_singleton.mp member ▸ here d inside

theorem writeSingle_printed {cs : List Char} (text : ∀ c ∈ cs, Printed c) (column : Nat)
    (fold : Bool) : (writeSingle column fold cs p).Printed := by
  have quote : ∀ c ∈ ['\''], Printed c := Json.printed_of_all rfl
  have inside := writeSingleRuns_printed (h.mark quote true false false)
    (fun run among c member => text c (mem_of_mem_runs among member)) column fold true
  exact inside.mark quote _ _ _

end

theorem printed_of_mem_escape {n : Nat} {cs : List Char} (escaped : escape? n = some cs) :
    ∀ c ∈ cs, Printed c := by
  have upper {width m : Nat} : ∀ c ∈ upperHex width m, Printed c := by
    have each : ∀ m : Fin 16, Printed (Text.hexDigit m).toUpper := by decide
    intro c member
    obtain ⟨d, digit, rfl⟩ := List.mem_map.mp member
    obtain ⟨m, rfl⟩ := Json.hexDigit_of_mem_hexDigits digit
    exact each m
  have back : Printed '\\' := by decide
  unfold escape? at escaped
  split at escaped
  case h_1 c letter =>
      cases escaped
      have table {l : List (Nat × Char)} (found : l.lookup n = some c)
          (letters : ∀ e ∈ l, Printed e.2) : Printed c := by
        obtain ⟨before, after, rfl, -⟩ := List.lookup_eq_some_iff.mp found
        exact letters (n, c) (List.mem_append_right before List.mem_cons_self)
      refine List.forall_mem_cons.mpr ⟨back, List.forall_mem_singleton.mpr ?_⟩
      exact table letter (by decide)
  case h_2 =>
      split_ifs at escaped <;> cases escaped
      all_goals
        refine List.forall_mem_cons.mpr ⟨back, List.forall_mem_cons.mpr ⟨by decide, upper⟩⟩

theorem printed_of_unescaped {n : Nat} (plain : escape? n = none) : Printed (Char.ofNat n) := by
  unfold escape? at plain
  split at plain
  case h_1 => cases plain
  case h_2 =>
      split_ifs at plain with visible
      exact (Json.visible_ofNat visible.1 (by omega)).printed

section
variable {p : Pen} (h : p.Printed)
include h

theorem breakDouble_printed (column : Nat) (next : Option Nat) :
    (breakDouble column next p).Printed := by
  have back : ∀ c ∈ ['\\'], Printed c := Json.printed_of_all rfl
  have broken := ((h.put back).indent column).inText
  unfold breakDouble
  dsimp only
  split
  · exact broken.put back
  · exact broken

theorem writePoints_printed (points : List Nat) (column : Nat) (fold first escaped : Bool) :
    (writePoints column fold first escaped points p).Printed := by
  induction points generalizing p first escaped with
  | nil => exact h
  | cons n rest ih =>
      unfold writePoints
      dsimp only
      split
      case h_1 cs escaped =>
          have put := h.put (printed_of_mem_escape escaped)
          split
          · exact ih (breakDouble_printed put column _) false true
          · exact ih put false true
      case h_2 plain =>
          have point := List.forall_mem_singleton.mpr (printed_of_unescaped plain)
          split
          · exact ih ((breakDouble_printed h column _).put point) false false
          · exact ih (h.put point) false false

theorem writeDouble_printed (points : List Nat) (column : Nat) (fold : Bool) :
    (writeDouble column fold points p).Printed := by
  have quote : ∀ c ∈ ['"'], Printed c := Json.printed_of_all rfl
  exact (writePoints_printed (h.mark quote true false false) points column fold true false).mark
    quote _ _ _

/-- Only double quotes take characters that cannot be printed, and they escape them. -/
theorem writeText_printed (s : String) (column : Nat) (isKey : Bool) :
    (writeText column isKey s p).Printed := by
  unfold writeText
  dsimp only
  split
  case h_1 bare => exact writeBare_printed h (ordinary_of_styleOf (by simp [bare])) _ _
  case h_2 single => exact writeSingle_printed h (ordinary_of_styleOf (by simp [single])) _ _
  case h_3 => exact writeDouble_printed h _ _ _

theorem writeKeyText_printed (key : Spelling) (column : Nat) (isKey : Bool) :
    (writeKeyText column isKey key p).Printed := by
  cases key with
  | plain s => exact writeText_printed h s column isKey
  | broken points => exact writeDouble_printed h points column _

theorem writeKey_printed (key : Spelling) (column : Nat) : (writeKey column key p).Printed := by
  have colon : ∀ c ∈ [':'], Printed c := Json.printed_of_all rfl
  have question : ∀ c ∈ ['?'], Printed c := Json.printed_of_all rfl
  have started := h.indent column
  unfold writeKey
  dsimp only
  split
  · exact (writeKeyText_printed started key _ true).mark colon _ _ _
  · have told := writeKeyText_printed (started.mark question true false true) key (column + 2) false
    exact (told.indent column).mark colon _ _ _

end

theorem printed_of_mem_floatText (d : Binary64) : ∀ c ∈ floatText d, Printed c := by
  have text := Binary64.printed_of_mem_text d
  unfold floatText
  split
  · exact Json.printed_of_all rfl
  · exact Binary64.printed_of_mem_signed (Json.printed_of_all rfl)
  · dsimp only
    split
    · exact text
    · simp only [List.forall_mem_append]
      refine ⟨⟨fun c member => text c ((List.takeWhile_sublist _).mem member), ?_⟩,
        fun c member => text c ((List.dropWhile_sublist _).mem member)⟩
      split
      · exact Json.printed_of_all rfl
      · exact List.forall_mem_nil _

def Printable (v : Json) : Prop :=
  ∀ (column : Nat) (behindKey : Bool) {p : Pen}, p.Printed →
    (writeValue column behindKey v p).Printed

theorem writeItems_printed {items : List Json} (each : ∀ x ∈ items, Printable x) (column : Nat)
    {p : Pen} (h : p.Printed) : (writeItems column items p).Printed := by
  have dash : ∀ c ∈ ['-'], Printed c := Json.printed_of_all rfl
  induction items generalizing p with
  | nil => exact h
  | cons x rest ih =>
      obtain ⟨first, others⟩ := List.forall_mem_cons.mp each
      rw [writeItems]
      exact ih others (first _ _ ((h.indent column).mark dash true false true))

theorem writeFields_printed {fields : Fields} (each : ∀ f ∈ fields, Printable f.2) (column : Nat)
    {p : Pen} (h : p.Printed) : (writeFields column fields p).Printed := by
  induction fields generalizing p with
  | nil => exact h
  | cons f rest ih =>
      obtain ⟨key, v⟩ := f
      obtain ⟨first, others⟩ := List.forall_mem_cons.mp each
      rw [writeFields]
      exact ih others (first _ _ (writeKey_printed h key column))

theorem printable (v : Json) : Printable v := by
  have mark {p : Pen} (h : p.Printed) (c : Char) (visible : Printed c) (apart gap margin : Bool) :
      (p.mark [c] apart gap margin).Printed := h.mark (List.forall_mem_singleton.mpr visible) _ _ _
  induction v using Json.built with
  | null => exact fun _ _ _ h => writeBare_printed h (Json.printed_of_all rfl) _ _
  | bool b => cases b <;> exact fun _ _ _ h => writeBare_printed h (Json.printed_of_all rfl) _ _
  | int i => exact fun _ _ _ h => writeBare_printed h (fun c => Json.printed_of_mem_writeInt) _ _
  | float d => exact fun _ _ _ h => writeBare_printed h (printed_of_mem_floatText d) _ _
  | str s => exact fun _ _ _ h => writeText_printed h s _ _
  | unpaired points => exact fun _ _ _ h => writeDouble_printed h points _ _
  | arr items ih =>
      intro column behindKey p h
      cases items with
      | nil => exact mark (mark h '[' (by decide) _ _ _) ']' (by decide) _ _ _
      | cons x rest =>
          rw [writeValue]
          · exact writeItems_printed ih _ h
          · exact nofun
  | obj fields ih =>
      intro column behindKey p h
      cases fields with
      | nil => exact mark (mark h '{' (by decide) _ _ _) '}' (by decide) _ _ _
      | cons f rest =>
          rw [writeValue]
          · exact writeFields_printed ih _ h
          · exact nofun

/-- A document is written in visible ASCII, blanks and line feeds. -/
theorem document_printed (fields : Fields) : ∀ c ∈ (document fields).toList, Printed c := by
  have blank : ({} : Pen).Printed := List.forall_mem_nil _
  rw [document, String.toList_ofList]
  refine fun c member => (Pen.Printed.indent ?_ 0) c (List.mem_reverse.mp member)
  split
  · exact writeFields_printed (fun f _ => printable f.2) 0 blank
  · exact printable _ 0 false blank

end Yaml
end Dismantle
