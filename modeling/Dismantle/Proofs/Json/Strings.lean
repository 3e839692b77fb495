import Dismantle.Json.Reader
import Dismantle.Json.Writer
import Mathlib.Data.List.Chain
/-! A written string, read back. An escape stands for one UTF-16 unit, so a character above the
first plane takes two of them, and reading joins a low half to the high half right before it. -/
namespace Dismantle.Json

open Text (isHigh isLow isHalf)

theorem hexValue?_hexDigit {n : Nat} (h : n < 16) : hexValue? (Text.hexDigit n) = some n := by
  have each : ∀ m : Fin 16, hexValue? (Text.hexDigit m) = some m.val := by decide
  exact each ⟨n, h⟩

theorem hexDigits_four (n : Nat) :
    Text.hexDigits 4 n = [Text.hexDigit (n / 16 / 16 / 16 % 16), Text.hexDigit (n / 16 / 16 % 16),
      Text.hexDigit (n / 16 % 16), Text.hexDigit (n % 16)] := rfl

theorem unit?_hexDigits {n : Nat} (h : n < 0x10000) :
    unit? (Text.hexDigit (n / 16 / 16 / 16 % 16)) (Text.hexDigit (n / 16 / 16 % 16))
      (Text.hexDigit (n / 16 % 16)) (Text.hexDigit (n % 16)) = some n := by
  have digit (m : Nat) : hexValue? (Text.hexDigit (m % 16)) = some (m % 16) :=
    hexValue?_hexDigit (Nat.mod_lt m (by decide))
  simp only [unit?, digit, bind, Option.bind, Option.some.injEq]
  omega

def Visible (c : Char) : Prop := 32 ≤ c.toNat ∧ c.toNat < 127

instance : DecidablePred Visible :=
  fun c => inferInstanceAs (Decidable (32 ≤ c.toNat ∧ c.toNat < 127))

theorem toNat_ofNat_of_ascii {n : Nat} (ascii : n < 128) : (Char.ofNat n).toNat = n := by
  rw [Char.ofNat, dif_pos (.inl (by omega))]
  rfl

/-- How a point may be written inside a string. -/
inductive Spelled (n : Nat) : List Char → Prop where
  | short (c : Char) : Visible c → c ≠ 'u' → escapeValue? c = some n → n < 127 →
      Spelled n ['\\', c]
  | plain (c : Char) : Visible c → c ≠ '"' → c ≠ '\\' → c.toNat = n → Spelled n [c]
  | unit : n < 0x10000 → Spelled n (unitEscape n)
  | halves : 0x10000 ≤ n → Spelled n (unitEscape (0xd800 + (n - 0x10000) / 1024)
      ++ unitEscape (0xdc00 + (n - 0x10000) % 1024))

theorem writePoint_spelled (n : Nat) : Spelled n (writePoint n) := by
  by_cases quote : n = 34
  · exact quote ▸ .short '"' (by decide) (by decide) rfl (by decide)
  by_cases slash : n = 92
  · exact slash ▸ .short '\\' (by decide) (by decide) rfl (by decide)
  by_cases feed : n = 10
  · exact feed ▸ .short 'n' (by decide) (by decide) rfl (by decide)
  by_cases ret : n = 13
  · exact ret ▸ .short 'r' (by decide) (by decide) rfl (by decide)
  by_cases tab : n = 9
  · exact tab ▸ .short 't' (by decide) (by decide) rfl (by decide)
  by_cases form : n = 12
  · exact form ▸ .short 'f' (by decide) (by decide) rfl (by decide)
  by_cases back : n = 8
  · exact back ▸ .short 'b' (by decide) (by decide) rfl (by decide)
  rw [writePoint, if_neg quote, if_neg slash, if_neg feed, if_neg ret, if_neg tab, if_neg form,
    if_neg back]
  split
  case isTrue printable =>
      have same : (Char.ofNat n).toNat = n := toNat_ofNat_of_ascii (by omega)
      have differs {c : Char} (other : n ≠ c.toNat) : Char.ofNat n ≠ c := by
        rintro rfl
        exact other same.symm
      exact .plain _ ⟨by omega, by omega⟩ (differs quote) (differs slash) same
  case isFalse =>
      split
      case isTrue plane => exact .unit plane
      case isFalse plane => exact .halves (Nat.le_of_not_lt plane)

section
variable {start place : Nat} {afterHigh : Bool} {done : List Nat} {next : Char} {rest : List Char}

theorem stringBody_unitEscape {n : Nat} (h : n < 0x10000) :
    stringBody start (unitEscape n ++ next :: rest) place afterHigh done
      = stringBody start (next :: rest) (place + 6) (!(afterHigh && isLow n) && isHigh n)
          (joinUnit n afterHigh done) := by
  rw [unitEscape, hexDigits_four]
  simp only [List.cons_append, List.nil_append]
  rw [stringBody, unit?_hexDigits h]

theorem stringBody_plain {c : Char} (quote : c ≠ '"') (slash : c ≠ '\\') (visible : 32 ≤ c.toNat) :
    stringBody start (c :: rest) place afterHigh done
      = stringBody start rest (place + 1) false (c.toNat :: done) := by
  rw [stringBody]
  · rw [if_neg (Nat.not_lt.mpr visible)]
  · exact quote
  all_goals
    intros
    contradiction

theorem stringBody_escape {c : Char} {n : Nat} (long : c ≠ 'u') (value : escapeValue? c = some n) :
    stringBody start ('\\' :: c :: rest) place afterHigh done
      = stringBody start rest (place + 2) false (n :: done) := by
  rw [stringBody, value]
  · intro _ _ _ _ _ _ same
    exact absurd same long
  · exact long

/-- Halves of a pair do not stand side by side: `a` is no high half or `b` is no low one. -/
def Apart (a b : Nat) : Prop := (isHigh a && isLow b) = false

theorem joinUnit_apart {n : Nat} (apart : (afterHigh && isLow n) = false) :
    joinUnit n afterHigh done = n :: done := by
  cases afterHigh with
  | false => rfl
  | true =>
      cases done with
      | nil => rfl
      | cons high below => simp_all [joinUnit]

/-- A character above the first plane is the high half and the low half of its two escapes. -/
theorem joinUnit_halves {n : Nat} (low : 0x10000 ≤ n) (high : n < 0x110000) :
    joinUnit (0xdc00 + (n - 0x10000) % 1024) true ((0xd800 + (n - 0x10000) / 1024) :: done)
      = n :: done := by
  have half : isLow (0xdc00 + (n - 0x10000) % 1024) = true := by
    simp only [isLow, decide_eq_true_eq]
    omega
  simp only [joinUnit, half, if_true, List.cons.injEq, and_true]
  omega

/-- The two escapes of a character above the first plane are read back as that character. -/
theorem stringBody_halves {n : Nat} (plane : 0x10000 ≤ n) (bound : n < 0x110000) :
    stringBody start (unitEscape (0xd800 + (n - 0x10000) / 1024)
        ++ unitEscape (0xdc00 + (n - 0x10000) % 1024) ++ next :: rest) place afterHigh done
      = stringBody start (next :: rest) (place + 6 + 6) false (n :: done) := by
  have high : isHigh (0xd800 + (n - 0x10000) / 1024) = true := by
    simp only [isHigh, decide_eq_true_eq]
    omega
  have notLow : isLow (0xd800 + (n - 0x10000) / 1024) = false := by
    simp only [isLow, decide_eq_false_iff_not]
    omega
  have low : isLow (0xdc00 + (n - 0x10000) % 1024) = true := by
    simp only [isLow, decide_eq_true_eq]
    omega
  have front : unitEscape (0xdc00 + (n - 0x10000) % 1024) ++ next :: rest
      = '\\' :: ('u' :: Text.hexDigits 4 (0xdc00 + (n - 0x10000) % 1024) ++ next :: rest) := rfl
  -- The escape of the high half is not joined to anything before it, so the low half finds it.
  rw [List.append_assoc, front, stringBody_unitEscape (by omega), ← front,
    joinUnit_apart (by rw [notLow, Bool.and_false]), notLow, high, Bool.and_false, Bool.not_false,
    Bool.and_true, stringBody_unitEscape (by omega), low, joinUnit_halves plane bound]
  rfl

/-- One point of a written string is read back; what counts of it for the next one is whether it is
a high half. -/
theorem stringBody_writePoint {n : Nat} (bound : n < 0x110000)
    (apart : (afterHigh && isLow n) = false) :
    ∃ place', stringBody start (writePoint n ++ next :: rest) place afterHigh done
      = stringBody start (next :: rest) place' (isHigh n) (n :: done) := by
  have ascii (small : n < 127) : isHigh n = false := by
    simp only [isHigh, decide_eq_false_iff_not]
    omega
  have spelled := writePoint_spelled n
  generalize writePoint n = cs at spelled ⊢
  cases spelled with
  | short c visible long value small =>
      refine ⟨place + 2, ?_⟩
      rw [List.cons_append, List.singleton_append, stringBody_escape long value, ascii small]
  | plain c visible quote slash same =>
      refine ⟨place + 1, ?_⟩
      rw [List.singleton_append, stringBody_plain quote slash visible.1, same,
        ascii (same ▸ visible.2)]
  | unit plane =>
      rw [stringBody_unitEscape plane, apart, joinUnit_apart apart]
      exact ⟨_, rfl⟩
  | halves plane =>
      have whole : isHigh n = false := by
        simp only [isHigh, decide_eq_false_iff_not]
        omega
      rw [whole, stringBody_halves plane bound]
      exact ⟨_, rfl⟩

/-- A written run of points is read back up to the closing quote. -/
theorem stringBody_flatMap {points : List Nat} (bound : ∀ n ∈ points, n < 0x110000)
    (apart : points.IsChain Apart) (first : ∀ n ∈ points.head?, (afterHigh && isLow n) = false) :
    ∃ place', stringBody start (points.flatMap writePoint ++ '"' :: rest) place afterHigh done
      = .ok (done.reverse ++ points, rest, place') := by
  induction points generalizing place afterHigh done with
  | nil =>
      refine ⟨place + 1, ?_⟩
      rw [List.flatMap_nil, List.nil_append, stringBody, List.append_nil]
  | cons n points ih =>
      have here := List.forall_mem_cons.mp bound
      have apart' : points.IsChain Apart ∧ ∀ m ∈ points.head?, (isHigh n && isLow m) = false := by
        cases points with
        | nil => exact ⟨.nil, by simp⟩
        | cons m points =>
            obtain ⟨between, apart⟩ := List.isChain_cons_cons.mp apart
            refine ⟨apart, ?_⟩
            rintro k ⟨⟩
            exact between
      have nonempty : ∃ c cs, points.flatMap writePoint ++ '"' :: rest = c :: cs :=
        List.exists_cons_of_ne_nil (by simp)
      obtain ⟨c, cs, tail⟩ := nonempty
      have point : ∃ place', stringBody start (writePoint n ++ c :: cs) place afterHigh done
          = stringBody start (c :: cs) place' (isHigh n) (n :: done) :=
        stringBody_writePoint here.1 (first n rfl)
      obtain ⟨place', step⟩ := point
      obtain ⟨place'', run⟩ := @ih place' (isHigh n) (n :: done) here.2 apart'.1 apart'.2
      refine ⟨place'', ?_⟩
      rw [List.flatMap_cons, List.append_assoc, tail, step, ← tail, run, List.reverse_cons,
        List.append_assoc, List.singleton_append]

end

/-- Code points that a written string gives back: no two of them are halves of one pair. -/
def Lasting (points : List Nat) : Prop := (∀ n ∈ points, n < 0x110000) ∧ points.IsChain Apart

instance : DecidableRel Apart := fun a b => inferInstanceAs (Decidable ((isHigh a && isLow b) = false))

instance (points : List Nat) : Decidable (Lasting points) :=
  inferInstanceAs (Decidable ((∀ n ∈ points, n < 0x110000) ∧ points.IsChain Apart))

theorem stringBody_writePoints {points : List Nat} (lasting : Lasting points) {start place : Nat}
    {rest : List Char} :
    ∃ place', stringBody start (points.flatMap writePoint ++ '"' :: rest) place false []
      = .ok (points, rest, place') :=
  stringBody_flatMap lasting.1 lasting.2 fun _ _ => rfl

theorem not_isHalf_toNat (c : Char) : isHalf c.toNat = false := by
  have valid : c.toNat < 0xd800 ∨ (0xdfff < c.toNat ∧ c.toNat < 0x110000) := c.valid
  simp only [isHalf, isHigh, isLow, Bool.or_eq_false_iff, decide_eq_false_iff_not]
  omega

theorem lasting_toNat (cs : List Char) : Lasting (cs.map Char.toNat) := by
  constructor
  · intro n member
    obtain ⟨c, -, rfl⟩ := List.mem_map.mp member
    have valid : c.toNat < 0xd800 ∨ (0xdfff < c.toNat ∧ c.toNat < 0x110000) := c.valid
    omega
  · induction cs with
    | nil => exact .nil
    | cons c cs ih =>
        cases cs with
        | nil => exact .singleton _
        | cons d cs =>
            refine List.isChain_cons_cons.mpr ⟨?_, ih⟩
            have whole := Bool.or_eq_false_iff.mp (not_isHalf_toNat c)
            rw [Apart, whole.1, Bool.false_and]

end Dismantle.Json

namespace Dismantle.Spelling

theorem ofPoints_toNat (s : String) : ofPoints (s.toList.map Char.toNat) = .plain s := by
  have whole : (s.toList.map Char.toNat).any Text.isHalf = false := by
    rw [List.any_map, List.any_eq_false]
    intro c _
    rw [Function.comp_apply, Json.not_isHalf_toNat c]
    exact Bool.false_ne_true
  have same : (s.toList.map Char.toNat).map Char.ofNat = s.toList := by
    rw [List.map_map]
    exact List.map_id'' Char.ofNat_toNat _
  rw [ofPoints, whole, if_neg Bool.false_ne_true, same, String.ofList_toList]

/-- A text that its written form gives back. -/
def lasts (t : Spelling) : Bool := decide (ofPoints t.points = t ∧ Json.Lasting t.points)

theorem lasts_eq_true {t : Spelling} :
    t.lasts = true ↔ ofPoints t.points = t ∧ Json.Lasting t.points := decide_eq_true_iff

@[simp] theorem lasts_plain (s : String) : (plain s).lasts = true :=
  lasts_eq_true.mpr ⟨ofPoints_toNat s, Json.lasting_toNat s.toList⟩

end Dismantle.Spelling
