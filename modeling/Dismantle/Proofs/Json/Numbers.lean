import Dismantle.Json.Reader
import Dismantle.Json.Writer
import Mathlib.Data.List.Basic
/-! A written integer, read back: its digits are read up to what follows them, which must be no
more of a number. -/
namespace Dismantle.Json

/-- What follows a number that ends here: no digit, no point and no exponent. -/
def Ends (rest : List Char) : Prop :=
  ∀ c ∈ rest.head?, isDigit c = false ∧ c ≠ '.' ∧ c ≠ 'e' ∧ c ≠ 'E'

theorem isDigit_of_toDigits {n : Nat} {c : Char} (h : c ∈ Nat.toDigits 10 n) : isDigit c = true := by
  have digit := Nat.isDigit_of_mem_toDigits (by decide) (by decide) h
  simpa [isDigit, Char.isDigit, Char.le_def] using digit

theorem toDigits_head_ne_zero {n : Nat} (pos : 0 < n) : (Nat.toDigits 10 n).head? ≠ some '0' := by
  induction n using Nat.strongRecOn with
  | ind n ih =>
      rw [Nat.toDigits_eq_if (by decide)]
      split
      case isTrue small =>
        intro same
        have each : ∀ m : Fin 10, 0 < m.val → (some m.val.digitChar) ≠ some '0' := by decide
        exact each ⟨n, small⟩ pos same
      case isFalse large =>
        rw [List.head?_append_of_ne_nil _ Nat.toDigits_ne_nil]
        exact ih (n / 10) (by omega) (by omega)

theorem natOf_toDigits (n : Nat) : natOf (Nat.toDigits 10 n) = n := by
  have back := Nat.ofDigitChars_toDigits (b := 10) (n := n) (by decide) (by decide)
  rwa [Nat.ofDigitChars_eq_foldl] at back

theorem spanDigits_append {ds rest : List Char} (digits : ∀ c ∈ ds, isDigit c = true)
    (ends : Ends rest) : spanDigits (ds ++ rest) = (ds, rest) := by
  have stop : rest.takeWhile isDigit = [] ∧ rest.dropWhile isDigit = rest := by
    cases rest with
    | nil => exact ⟨rfl, rfl⟩
    | cons c rest =>
        have notDigit := (ends c rfl).1
        exact ⟨List.takeWhile_cons_of_neg (by simp [notDigit]),
          List.dropWhile_cons_of_neg (by simp [notDigit])⟩
  rw [spanDigits, List.takeWhile_append_of_pos digits, List.dropWhile_append_of_pos digits, stop.1,
    stop.2, List.append_nil]

theorem fraction_ends {rest : List Char} (ends : Ends rest) : fraction rest = ([], rest) := by
  unfold fraction
  split
  case h_1 cs => exact absurd rfl (ends '.' rfl).2.1
  case h_2 => rfl

theorem exponent?_ends {rest : List Char} (ends : Ends rest) : exponent? rest = none := by
  cases rest with
  | nil => rfl
  | cons c rest =>
      obtain ⟨-, -, small, capital⟩ := ends c rfl
      have letter : ¬(c = 'e' ∨ c = 'E') := not_or.mpr ⟨small, capital⟩
      unfold exponent?
      exact if_neg letter

theorem wholePart_toDigits (n : Nat) {rest : List Char} (ends : Ends rest) :
    wholePart (Nat.toDigits 10 n ++ rest) = (Nat.toDigits 10 n, rest) := by
  unfold wholePart
  split
  case h_1 cs same =>
    have zero : n = 0 := by
      by_contra pos
      apply toDigits_head_ne_zero (Nat.pos_of_ne_zero pos)
      rw [← List.head?_append_of_ne_nil _ Nat.toDigits_ne_nil, same]
      rfl
    subst zero
    cases same
    rfl
  case h_2 => exact spanDigits_append (fun c => isDigit_of_toDigits) ends

theorem unsigned_toDigits {n : Nat} (short : (Nat.toDigits 10 n).length ≤ maxDigits)
    {rest : List Char} (ends : Ends rest) (negative : Bool) (start place : Nat) :
    ∃ place', unsigned negative start (Nat.toDigits 10 n ++ rest) place
      = .ok (.int (if negative then -n else n), rest, place') := by
  have length : ¬maxDigits < (Nat.toDigits 10 n).length := Nat.not_lt.mpr short
  have value := natOf_toDigits n
  unfold unsigned
  rw [wholePart_toDigits n ends]
  revert length value
  cases digits : Nat.toDigits 10 n with
  | nil => exact absurd digits Nat.toDigits_ne_nil
  | cons d ds =>
      intro length value
      simp only [fraction_ends ends, exponent?_ends ends, if_neg length, value]
      exact ⟨_, rfl⟩

theorem word?_eq_none {cs : List Char} (head : ∀ c ∈ cs.head?, isDigit c = true) (place : Nat) :
    word? cs place = none ∧ word? ('-' :: cs) place = none := by
  cases cs with
  | nil => exact ⟨rfl, rfl⟩
  | cons c cs =>
      have digit := head c rfl
      have other : 'n' ≠ c ∧ 't' ≠ c ∧ 'f' ≠ c ∧ 'N' ≠ c ∧ 'I' ≠ c ∧ '-' ≠ c := by
        refine ⟨?_, ?_, ?_, ?_, ?_, ?_⟩
        all_goals
          rintro rfl
          exact absurd digit (by decide)
      simp [word?, words, other]

theorem head_toDigits (n : Nat) (rest : List Char) :
    ∀ c ∈ (Nat.toDigits 10 n ++ rest).head?, isDigit c = true := by
  intro c head
  rw [List.head?_append_of_ne_nil _ Nat.toDigits_ne_nil] at head
  exact isDigit_of_toDigits (List.mem_of_mem_head? head)

def Short (i : Int) : Prop := (Nat.toDigits 10 i.natAbs).length ≤ maxDigits

instance : DecidablePred Short :=
  fun i => inferInstanceAs (Decidable ((Nat.toDigits 10 i.natAbs).length ≤ maxDigits))

theorem scalar_writeInt {i : Int} (short : Short i) {rest : List Char}
    (ends : Ends rest) (place : Nat) :
    ∃ place', scalar (writeInt i ++ rest) place = .ok (.int i, rest, place') := by
  have noWord := word?_eq_none (head_toDigits i.natAbs rest) place
  unfold writeInt
  split
  case isTrue negative =>
    obtain ⟨place', read⟩ := unsigned_toDigits short ends true place (place + 1)
    refine ⟨place', ?_⟩
    have value : (if true = true then -(i.natAbs : Int) else i.natAbs) = i := by
      rw [if_pos rfl]
      omega
    rw [List.cons_append, scalar, noWord.2]
    rw [value] at read
    exact read
  case isFalse positive =>
    obtain ⟨place', read⟩ := unsigned_toDigits short ends false place place
    refine ⟨place', ?_⟩
    have value : (if false = true then -(i.natAbs : Int) else i.natAbs) = i := by
      rw [if_neg Bool.false_ne_true]
      omega
    rw [value] at read
    rw [scalar, noWord.1]
    · exact read
    · intro cs same
      have digit := head_toDigits i.natAbs rest '-' (by rw [same]; rfl)
      exact absurd digit (by decide)

end Dismantle.Json
