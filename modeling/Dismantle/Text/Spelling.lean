/-! Text that may have half of a surrogate pair in it. Such a half is a code point without a
character: it can be kept and written as an escape, but no bytes spell it. -/
namespace Dismantle

namespace Text

def isHigh (n : Nat) : Bool := 0xd800 ≤ n ∧ n < 0xdc00
def isLow (n : Nat) : Bool := 0xdc00 ≤ n ∧ n < 0xe000
def isHalf (n : Nat) : Bool := isHigh n || isLow n

/-- The code points from `first` to `last` are halves, the first of them `point`. -/
structure Unencodable where
  first : Nat
  last : Nat
  point : Nat
  deriving DecidableEq, Repr

end Text

/-- `broken` is text with a half in it, given by its code points. -/
inductive Spelling where
  | plain (s : String)
  | broken (points : List Nat)
  deriving DecidableEq, Repr, Inhabited

instance : Coe String Spelling := ⟨.plain⟩

namespace Spelling

def ofPoints (points : List Nat) : Spelling :=
  if points.any Text.isHalf then .broken points else .plain (.ofList (points.map Char.ofNat))

def points : Spelling → List Nat
  | .plain s => s.toList.map Char.toNat
  | .broken points => points

def text? : Spelling → Option String
  | .plain s => some s
  | .broken _ => none

/-- A text as bytes can spell it; the three bytes of a half are shown as replacement characters. -/
def shown : Spelling → String
  | .plain s => s
  | .broken points => .ofList (points.flatMap fun n =>
      if Text.isHalf n then List.replicate 3 (Char.ofNat 0xfffd) else [Char.ofNat n])

def firstHalves (points : List Nat) : Text.Unencodable :=
  let first := (points.takeWhile fun n => !Text.isHalf n).length
  let halves := (points.drop first).takeWhile Text.isHalf
  ⟨first, first + halves.length - 1, halves.headD 0⟩

/-- The text that bytes can spell, or what is in the way. -/
def encodable : Spelling → Except Text.Unencodable String
  | .plain s => .ok s
  | .broken points => .error (firstHalves points)

theorem encodable_eq_ok {t : Spelling} {s : String} : t.encodable = .ok s ↔ t = .plain s := by
  cases t <;> simp [encodable]

theorem exists_plain {t : Spelling} (h : t.text?.isSome = true) : ∃ s, t = .plain s := by
  cases t with
  | plain s => exact ⟨s, rfl⟩
  | broken points => cases h

theorem plain_shown {t : Spelling} (h : t.text?.isSome = true) : .plain t.shown = t := by
  obtain ⟨s, rfl⟩ := exists_plain h
  rfl

@[simp] theorem plain_beq_plain (s t : String) : (plain s == plain t) = (s == t) := by
  rw [Bool.eq_iff_iff, beq_iff_eq, beq_iff_eq, plain.injEq]

theorem mapM_text?_eq_some {names : List Spelling} {texts : List String} :
    names.mapM text? = some texts ↔ names = texts.map .plain := by
  induction names generalizing texts with
  | nil => cases texts <;> simp
  | cons name names ih =>
    cases name with
    | plain s =>
      cases texts with
      | nil => simp [List.mapM_cons, text?, Option.bind_eq_some_iff]
      | cons text texts =>
        simp [List.mapM_cons, text?, ih, Option.bind_eq_some_iff, and_comm (b := s = text)]
    | broken points => cases texts <;> simp [List.mapM_cons, text?]

end Spelling

/-- What texts may be made of: characters alone, or characters and halves. -/
class Wording (τ : Type) where
  blank : τ
  spelling : τ → Spelling
  ofSpelling? : Spelling → Option τ
  ofSpelling?_spelling (t : τ) : ofSpelling? (spelling t) = some t

namespace Wording

instance : Wording String where
  blank := ""
  spelling := .plain
  ofSpelling? := Spelling.text?
  ofSpelling?_spelling _ := rfl

instance : Wording Spelling where
  blank := ""
  spelling := id
  ofSpelling? := some
  ofSpelling?_spelling _ := rfl

@[simp] theorem blank_string : (blank : String) = "" := rfl

end Wording
end Dismantle
