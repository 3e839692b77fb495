import Dismantle.Files.Content
import Dismantle.Proofs.Text.Utf8
/-! The text that is found in a file: what its bytes spell, with a line feed for each line end. -/
namespace Dismantle

/-- Two texts are the same but for their line ends, which are line feeds in the second. -/
inductive Text.Unified : List Char → List Char → Prop
  | nil : Unified [] []
  | pair {cs ds : List Char} : Unified cs ds → Unified ('\r' :: '\n' :: cs) ('\n' :: ds)
  | carriage {cs ds : List Char} : cs.head? ≠ some '\n' → Unified cs ds →
      Unified ('\r' :: cs) ('\n' :: ds)
  | char {c : Char} {cs ds : List Char} : c ≠ '\r' → Unified cs ds → Unified (c :: cs) (c :: ds)

theorem Text.unified_unifyLineEnds (cs : List Char) : Unified cs (unifyLineEnds cs) := by
  fun_induction unifyLineEnds cs with
  | case1 => exact .nil
  | case2 rest ih => exact .pair ih
  | case3 c rest other ih =>
      by_cases carriage : c = '\r'
      · subst carriage
        rw [if_pos rfl]
        refine .carriage (fun head => ?_) ih
        obtain ⟨cs, rfl⟩ := List.head?_eq_some_iff.mp head
        exact other cs rfl rfl
      · rw [if_neg carriage]
        exact .char carriage ih

theorem Text.unified_iff {cs ds : List Char} : Unified cs ds ↔ unifyLineEnds cs = ds := by
  constructor
  · intro unified
    induction unified with
    | nil => rfl
    | pair _ ih => rw [unifyLineEnds, ih]
    | @carriage cs ds head _ ih =>
        rw [unifyLineEnds, if_pos rfl, ih]
        rintro rest - rfl
        exact head rfl
    | char other _ ih =>
        rw [unifyLineEnds, if_neg other, ih]
        rintro rest same
        exact absurd same other
  · rintro rfl
    exact unified_unifyLineEnds cs

namespace Content

/-- A file holds a text. -/
inductive Holds : Content → String → Prop
  | text {raw s : String} (unified : Text.Unified raw.toList s.toList) : Holds (.text raw) s
  | bytes {bs : List UInt8} {raw : List Char} {s : String} (spelled : Text.Utf8.decode bs = .ok raw)
      (unified : Text.Unified raw s.toList) : Holds (.bytes bs) s

theorem read_eq_ok {c : Content} {s : String} : c.read = .ok s ↔ c.Holds s := by
  constructor
  · intro read
    cases c with
    | text raw =>
        cases read
        refine .text ?_
        rw [String.toList_ofList]
        exact Text.unified_unifyLineEnds raw.toList
    | bytes bs =>
        cases spelled : Text.Utf8.decode bs with
        | error f =>
            rw [Content.read, spelled] at read
            cases read
        | ok raw =>
            rw [Content.read, spelled] at read
            cases read
            refine .bytes spelled ?_
            rw [String.toList_ofList]
            exact Text.unified_unifyLineEnds raw
  · rintro (unified | ⟨spelled, unified⟩)
    · rw [Content.read, Text.unified_iff.mp unified, String.ofList_toList]
    · rw [Content.read, spelled, ← String.ofList_toList (s := s), ← Text.unified_iff.mp unified]
      rfl

section
open Text.Utf8
variable {ε α β : Type}

theorem toOption_eq_some {r : Except ε α} {a : α} : r.toOption = some a ↔ r = .ok a := by
  cases r with
  | error e => exact ⟨nofun, nofun⟩
  | ok b => exact ⟨(congrArg Except.ok <| Option.some.inj ·), (congrArg some <| Except.ok.inj ·)⟩

theorem toOption_map (f : α → β) (r : Except ε α) : (r.map f).toOption = r.toOption.map f := by
  cases r <;> rfl

theorem decodePieces_toOption (fuel : Nat) (carried rest : List UInt8) :
    (decodePieces fuel carried rest).toOption = (decode (carried ++ rest)).toOption := by
  fun_induction decodePieces fuel carried rest with
  | case1 => rfl
  | case2 fuel carried rest none => rw [List.isEmpty_iff.mp none, List.append_nil]
  | case3 fuel carried rest _ piece later cs whole ih =>
      have parts : carried ++ rest = piece ++ later := by
        rw [List.append_assoc, List.take_append_drop]
      rw [parts, decode_append whole, toOption_map, ih, List.nil_append]
  | case4 fuel carried rest _ piece later f failed broken ih =>
      obtain ⟨cs, front⟩ := decode_take failed broken
      have parts : carried ++ rest = piece.take f.first ++ (piece.drop f.first ++ later) := by
        rw [← List.append_assoc, List.take_append_drop, List.append_assoc, List.take_append_drop]
      rw [parts, decode_append front, ← ih, front, ← toOption_map]
      rfl
  | case5 fuel carried rest _ piece f failed inside =>
      have parts : carried ++ rest = piece ++ rest.drop pieceSize := by
        rw [List.append_assoc, List.take_append_drop]
      rw [parts, decode_append_of_error failed inside]

theorem readPieces_eq_ok {c : Content} {s : String} : c.readPieces = .ok s ↔ c.Holds s := by
  rw [← read_eq_ok]
  cases c with
  | text raw => rfl
  | bytes bs => rw [← toOption_eq_some, ← toOption_eq_some, readPieces, read, toOption_map,
      toOption_map, decodePieces_toOption, List.nil_append]

end

end Content
end Dismantle
