import Dismantle.Number.Power
import Dismantle.Proofs.Text.Lines
import Dismantle.Terraform.Version
import Mathlib.Data.Prod.Lex
/-! Version numbers in texts: which digits are read, and that the plain form of a version reads as
that version. -/
namespace Dismantle

namespace Text

theorem digitValue?_of_isDigit {c : Char} (digit : c.isDigit = true) :
    digitValue? c = some (c.toNat - '0'.toNat) := by
  have bounds : 48 ≤ c.toNat ∧ c.toNat ≤ 57 := by
    simpa [Char.isDigit, UInt32.le_iff_toNat_le] using digit
  have ascii : c.toNat < 128 := by omega
  have inside : '0' ≤ c ∧ c ≤ '9' := by
    simpa [Char.le_def, UInt32.le_iff_toNat_le] using bounds
  rw [digitValue?, if_pos ascii, if_pos inside]
  rfl

theorem isDecimal_of_isDigit {c : Char} (digit : c.isDigit = true) : isDecimal c = true := by
  rw [isDecimal, digitValue?_of_isDigit digit]
  rfl

/-- A run of decimal digits, of any script. -/
structure IsDigits (ds : List Char) : Prop where
  some_ : ds ≠ []
  decimal : ∀ c ∈ ds, isDecimal c = true

/-- A run of ASCII digits. -/
structure IsNumeral (ds : List Char) : Prop where
  some_ : ds ≠ []
  digits : ∀ c ∈ ds, c.isDigit = true

instance : DecidablePred IsNumeral := fun ds =>
  decidable_of_iff (ds ≠ [] ∧ ds.all Char.isDigit = true)
    ⟨fun h => ⟨h.1, List.all_eq_true.mp h.2⟩, fun h => ⟨h.some_, List.all_eq_true.mpr h.digits⟩⟩

theorem IsNumeral.isDigits {ds : List Char} (h : IsNumeral ds) : IsDigits ds :=
  ⟨h.some_, fun c member => isDecimal_of_isDigit (h.digits c member)⟩

theorem isNumeral_toDigits (n : Nat) : IsNumeral (Nat.toDigits 10 n) :=
  ⟨Nat.toDigits_ne_nil, fun _ => Nat.isDigit_of_mem_toDigits (by decide) (by decide)⟩

theorem natOfDigits_values {ds : List Char} (digits : ∀ c ∈ ds, c.isDigit = true) :
    natOfDigits (ds.filterMap digitValue?) = Nat.ofDigitChars 10 ds 0 := by
  have values : ds.filterMap digitValue? = ds.map fun c => c.toNat - '0'.toNat := by
    rw [← List.filterMap_eq_map]
    exact List.filterMap_congr fun c member => digitValue?_of_isDigit (digits c member)
  rw [values, natOfDigits, List.foldl_map, Nat.ofDigitChars_eq_foldl]

/-- Digits write a number below the power of ten that has one place more. -/
theorem ofDigitChars_lt {ds : List Char} (digits : ∀ c ∈ ds, c.isDigit = true) :
    Nat.ofDigitChars 10 ds 0 < tenTo ds.length := by
  induction ds using List.reverseRecOn with
  | nil => decide
  | append_singleton ds c ih =>
      have front := ih fun d member => digits d (List.mem_append_left _ member)
      have last : c.toNat ≤ 57 := by
        have digit := digits c (List.mem_append_right ds List.mem_cons_self)
        simp only [Char.isDigit, UInt32.le_iff_toNat_le, ge_iff_le, Bool.and_eq_true,
          decide_eq_true_eq] at digit
        exact digit.2
      have zero : '0'.toNat = 48 := rfl
      rw [Nat.ofDigitChars_append, Nat.ofDigitChars_cons, Nat.ofDigitChars_nil, List.length_append,
        List.length_singleton, tenTo_succ]
      omega

/-- The plain form of a number is no longer than any other that writes it. -/
theorem length_toDigits_le {ds : List Char} (h : IsNumeral ds) :
    (Nat.toDigits 10 (Nat.ofDigitChars 10 ds 0)).length ≤ ds.length :=
  (Nat.length_toDigits_le_iff (by decide) (List.length_pos_iff.mpr h.some_)).mpr
    (ofDigitChars_lt h.digits)

end Text

namespace Terraform.Version
open Text (isDecimal IsDigits IsNumeral)

variable {line major minor patch rest : List Char}

/-- Three runs of digits with points between them stand in a text, between two parts of it. -/
def Stands (line before major minor patch after : List Char) : Prop :=
  line = before ++ major ++ '.' :: minor ++ '.' :: patch ++ after ∧
    IsDigits major ∧ IsDigits minor ∧ IsDigits patch

theorem digits?_append {ds : List Char} (digits : IsDigits ds)
    (ends : ∀ c ∈ rest.head?, isDecimal c = false) : digits? (ds ++ rest) = some (ds, rest) := by
  rw [digits?, Text.takeWhile_append_of_head digits.decimal ends,
    Text.dropWhile_append_of_head digits.decimal ends]
  split
  case h_1 => exact absurd rfl digits.some_
  case h_2 => rfl

theorem digits?_eq_some {cs ds : List Char} (h : digits? cs = some (ds, rest)) :
    cs = ds ++ rest ∧ IsDigits ds := by
  unfold digits? at h
  split at h
  case h_1 => cases h
  case h_2 run some_ =>
      cases h
      exact ⟨(List.takeWhile_append_dropWhile).symm, some_, fun c => List.mem_takeWhile_imp⟩

theorem atFront?_append (majorDigits : IsDigits major) (minorDigits : IsDigits minor)
    (patchDigits : IsDigits patch) (ends : ∀ c ∈ rest.head?, isDecimal c = false) :
    atFront? (major ++ '.' :: minor ++ '.' :: patch ++ rest) = some (major, minor, patch) := by
  have point (cs : List Char) : ∀ c ∈ ('.' :: cs).head?, isDecimal c = false := by
    rintro c ⟨⟩
    decide
  simp only [List.append_assoc, List.cons_append]
  simp only [atFront?, digits?_append majorDigits (point _), digits?_append minorDigits (point _),
    digits?_append patchDigits ends]

theorem atFront?_eq_some {cs : List Char} (h : atFront? cs = some (major, minor, patch)) :
    ∃ after, Stands cs [] major minor patch after := by
  unfold atFront? at h
  split at h
  case h_2 => cases h
  case h_1 a cs first =>
  split at h
  case h_2 => cases h
  case h_1 b cs second =>
  split at h
  case h_2 => cases h
  case h_1 c cs third =>
  cases h
  obtain ⟨rfl, majorDigits⟩ := digits?_eq_some first
  obtain ⟨rfl, minorDigits⟩ := digits?_eq_some second
  obtain ⟨rfl, patchDigits⟩ := digits?_eq_some third
  exact ⟨cs, by simp, majorDigits, minorDigits, patchDigits⟩

/-- A version does not begin before the first digit of a text. -/
theorem search_append {before : List Char} (clear : ∀ c ∈ before, isDecimal c = false) :
    search (before ++ rest) = search rest := by
  induction before with
  | nil => rfl
  | cons c before ih =>
      obtain ⟨first, others⟩ := List.forall_mem_cons.mp clear
      -- No version begins with this character, so the search goes on behind it.
      have none : digits? (c :: (before ++ rest)) = none := by
        rw [digits?, List.takeWhile_cons_of_neg (by simp [first])]
      have apart : atFront? (c :: (before ++ rest)) = .none := by simp only [atFront?, none]
      rw [List.cons_append, search, apart]
      exact ih others

/-- The first runs of digits in a text are read as far as they go. -/
theorem search_stands {before after : List Char}
    (stands : Stands line before major minor patch after)
    (clear : ∀ c ∈ before, isDecimal c = false) (ends : ∀ c ∈ after.head?, isDecimal c = false) :
    search line = some (major, minor, patch) := by
  obtain ⟨rfl, majorDigits, minorDigits, patchDigits⟩ := stands
  have found := atFront?_append majorDigits minorDigits patchDigits ends
  simp only [List.append_assoc] at found ⊢
  rw [search_append clear]
  cases whole : major ++ ('.' :: minor ++ ('.' :: patch ++ after)) with
  | nil => simp at whole
  | cons c cs => rw [search, ← whole, found]

theorem search_eq_some (h : search line = some (major, minor, patch)) :
    ∃ before after, Stands line before major minor patch after := by
  induction line with
  | nil => cases h
  | cons c cs ih =>
      rw [search] at h
      split at h
      case h_1 found front =>
          cases h
          obtain ⟨after, stands⟩ := atFront?_eq_some front
          exact ⟨[], after, stands⟩
      case h_2 =>
          obtain ⟨before, after, rfl, digits⟩ := ih h
          exact ⟨c :: before, after, rfl, digits⟩

/-- The version whose numbers are written with these digits. -/
def ofDigits (major minor patch : List Char) : Version :=
  ⟨Nat.ofDigitChars 10 major 0, Nat.ofDigitChars 10 minor 0, Nat.ofDigitChars 10 patch 0⟩

/-- A line names a version in ASCII digits: there is no digit before it, none that goes on behind
it, and no number has more digits than can be read. -/
structure Names (line major minor patch : List Char) : Prop where
  place : ∃ before after, line = before ++ major ++ '.' :: minor ++ '.' :: patch ++ after ∧
    (∀ c ∈ before, isDecimal c = false) ∧ ∀ c ∈ after.head?, isDecimal c = false
  numerals : ∀ ds ∈ [major, minor, patch], IsNumeral ds ∧ ds.length ≤ 4300

theorem number_of_isNumeral {ds : List Char} (h : IsNumeral ds) (short : ds.length ≤ 4300) :
    number ds = .ok (Nat.ofDigitChars 10 ds 0) := by
  have fits : ¬Json.maxDigits < ds.length := Nat.not_lt.mpr short
  rw [number, if_neg fits, Text.natOfDigits_values h.digits]

theorem Names.parse (names : Names line major minor patch) :
    Version.parse (.ofList line) = .ok (ofDigits major minor patch) := by
  obtain ⟨before, after, same, clear, ends⟩ := names.place
  obtain ⟨⟨majorDigits, majorShort⟩, ⟨minorDigits, minorShort⟩, patchDigits, patchShort⟩ :
      (IsNumeral major ∧ major.length ≤ 4300) ∧ (IsNumeral minor ∧ minor.length ≤ 4300) ∧
        IsNumeral patch ∧ patch.length ≤ 4300 := by
    simpa using names.numerals
  have stands : Stands line before major minor patch after :=
    ⟨same, majorDigits.isDigits, minorDigits.isDigits, patchDigits.isDigits⟩
  rw [Version.parse, String.toList_ofList, search_stands stands clear ends]
  simp only [number_of_isNumeral majorDigits majorShort, number_of_isNumeral minorDigits minorShort,
    number_of_isNumeral patchDigits patchShort]
  rfl

theorem Names.plain (names : Names line major minor patch) :
    Names (ofDigits major minor patch).text.toList
      (Nat.toDigits 10 (ofDigits major minor patch).major)
      (Nat.toDigits 10 (ofDigits major minor patch).minor)
      (Nat.toDigits 10 (ofDigits major minor patch).patch) := by
  have point : ".".toList = ['.'] := rfl
  refine ⟨⟨[], [], ?_, nofun, nofun⟩, ?_⟩
  · simp [text, point]
  · have plain (ds : List Char) (member : ds ∈ [major, minor, patch]) :
        IsNumeral (Nat.toDigits 10 (Nat.ofDigitChars 10 ds 0)) ∧
          (Nat.toDigits 10 (Nat.ofDigitChars 10 ds 0)).length ≤ 4300 := by
      obtain ⟨numeral, short⟩ := names.numerals ds member
      exact ⟨Text.isNumeral_toDigits _, (Text.length_toDigits_le numeral).trans short⟩
    simpa [ofDigits] using plain

theorem ofDigits_toDigits (v : Version) :
    ofDigits (Nat.toDigits 10 v.major) (Nat.toDigits 10 v.minor) (Nat.toDigits 10 v.patch) = v := by
  simp [ofDigits]

theorem Names.parse_text (names : Names line major minor patch) :
    Version.parse (ofDigits major minor patch).text = .ok (ofDigits major minor patch) := by
  have read := names.plain.parse
  rwa [String.ofList_toList, ofDigits_toDigits] at read

theorem parse_of_absent (absent : ∀ before major minor patch after,
    ¬Stands line before major minor patch after) :
    Version.parse (.ofList line) = .error (.absent (.ofList line)) := by
  have none : search line = .none := by
    cases found : search line with
    | none => rfl
    | some parts =>
        obtain ⟨major, minor, patch⟩ := parts
        obtain ⟨before, after, stands⟩ := search_eq_some found
        exact absurd stands (absent _ _ _ _ _)
  rw [Version.parse, String.toList_ofList, none]

/-- The numbers of a version in their order: the first that differs decides. -/
def numbers (v : Version) : ℕ ×ₗ ℕ ×ₗ ℕ := toLex (v.major, toLex (v.minor, v.patch))

theorem atLeast_iff (v least : Version) : v.atLeast least = true ↔ least.numbers ≤ v.numbers := by
  simp [atLeast, numbers, Prod.Lex.toLex_le_toLex]

end Terraform.Version
end Dismantle
