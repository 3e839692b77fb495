import Dismantle.Proofs.Json.Numbers
import Dismantle.Proofs.Json.Strings
/-! Written data: what of it comes back when it is read, and the characters it is written in. -/
namespace Dismantle.Json

theorem built {P : Json → Prop} (null : P .null) (bool : ∀ b, P (.bool b)) (int : ∀ i, P (.int i))
    (float : ∀ d, P (.float d)) (str : ∀ s, P (.str s)) (unpaired : ∀ points, P (.unpaired points))
    (arr : ∀ items, (∀ x ∈ items, P x) → P (.arr items))
    (obj : ∀ fields : Fields, (∀ f ∈ fields, P f.2) → P (.obj fields)) (v : Json) : P v := by
  refine @Json.rec P (fun items => ∀ x ∈ items, P x) (fun fields => ∀ f ∈ fields, P f.2)
    (fun f => P f.2) null bool int float str unpaired arr obj ?noItem ?item ?noField ?field ?under v
  case noItem => exact List.forall_mem_nil _
  case item => exact fun x items first others => List.forall_mem_cons.mpr ⟨first, others⟩
  case noField => exact List.forall_mem_nil _
  case field => exact fun f fields first others => List.forall_mem_cons.mpr ⟨first, others⟩
  case under => exact fun key v ih => ih

mutual
/-- Data that its written form gives back, with so many more lists and objects open inside one
another: no number with a decimal form, no integer with more digits than are read, no two halves of
one pair side by side in a text or a key, and no key twice in an object. -/
def storable (room : Nat) : Json → Bool
  | .null | .bool _ | .str _ => true
  | .int i => decide (Short i)
  | .float _ => false
  | .unpaired points => (Spelling.broken points).lasts
  | .arr items => decide (0 < room) && storableItems (room - 1) items
  | .obj fields =>
    decide (0 < room) && decide (fields.map Prod.fst).Nodup && fields.all (·.1.lasts)
      && storableFields (room - 1) fields
def storableItems (room : Nat) : List Json → Bool
  | [] => true
  | x :: xs => x.storable room && storableItems room xs
def storableFields (room : Nat) : List (Spelling × Json) → Bool
  | [] => true
  | (_, v) :: rest => v.storable room && storableFields room rest
end

theorem storableItems_eq_true {room : Nat} {items : List Json} :
    storableItems room items = true ↔ ∀ x ∈ items, x.storable room = true := by
  induction items with
  | nil => simp [storableItems]
  | cons x xs ih => simp [storableItems, ih]

theorem storableFields_eq_true {room : Nat} {fields : Fields} :
    storableFields room fields = true ↔ ∀ f ∈ fields, f.2.storable room = true := by
  induction fields with
  | nil => simp [storableFields]
  | cons f fs ih =>
      obtain ⟨key, v⟩ := f
      simp [storableFields, ih]

theorem storable_int {room : Nat} {i : Int} :
    (Json.int i).storable room = true ↔ Short i := by
  rw [storable, decide_eq_true_eq]

theorem storable_arr {room : Nat} {items : List Json} :
    (Json.arr items).storable room = true ↔
      0 < room ∧ ∀ x ∈ items, x.storable (room - 1) = true := by
  rw [storable, Bool.and_eq_true, decide_eq_true_eq, storableItems_eq_true]

theorem storable_obj {room : Nat} {fields : Fields} :
    (Json.obj fields).storable room = true ↔
      0 < room ∧ (fields.map Prod.fst).Nodup ∧ (∀ f ∈ fields, f.1.lasts = true) ∧
        ∀ f ∈ fields, f.2.storable (room - 1) = true := by
  rw [storable, Bool.and_eq_true, Bool.and_eq_true, Bool.and_eq_true, decide_eq_true_eq,
    decide_eq_true_eq, List.all_eq_true, storableFields_eq_true, and_assoc, and_assoc]

/-- Where no key stands twice, each value is found under its key. -/
theorem get?_of_mem {fs : Fields} (keys : (fs.map Prod.fst).Nodup) {f : Spelling × Json}
    (member : f ∈ fs) : fs.get? f.1 = some f.2 := by
  obtain ⟨before, after, rfl⟩ := List.append_of_mem member
  refine List.lookup_eq_some_iff.mpr ⟨before, after, rfl, fun p there => bne_iff_ne.mpr ?_⟩
  rw [List.map_append, List.nodup_append] at keys
  exact Ne.symm (keys.2.2 p.1 (List.mem_map_of_mem there) f.1 List.mem_cons_self)

theorem sameItems_self {items : List Json} (each : ∀ x ∈ items, x.same x = true) :
    sameItems items items = true := by
  induction items with
  | nil => rfl
  | cons x xs ih =>
      obtain ⟨first, others⟩ := List.forall_mem_cons.mp each
      rw [sameItems, first, ih others]
      rfl

theorem sameFields_eq_true {fields others : Fields}
    (each : ∀ f ∈ fields, ∃ w, others.get? f.1 = some w ∧ f.2.same w = true) :
    sameFields fields others = true := by
  induction fields with
  | nil => rfl
  | cons f fs ih =>
      obtain ⟨key, v⟩ := f
      obtain ⟨⟨w, found, same⟩, rest⟩ := List.forall_mem_cons.mp each
      rw [sameFields, found, ih rest, Bool.and_true]
      exact same

/-- Data in which no key stands twice is the same as itself. -/
theorem same_self {v : Json} {room : Nat} (storable : v.storable room = true) : v.same v = true := by
  induction v using built generalizing room with
  | float d => cases storable
  | arr items ih =>
      obtain ⟨-, each⟩ := storable_arr.mp storable
      rw [same]
      exact sameItems_self fun x member => ih x member (each x member)
  | obj fields ih =>
      obtain ⟨-, keys, -, each⟩ := storable_obj.mp storable
      rw [same, beq_self_eq_true, Bool.true_and]
      refine sameFields_eq_true fun f member => ⟨f.2, ?_, ih f member (each f member)⟩
      exact get?_of_mem keys member
  | _ => simp [same, number?]

/-- Blanks and line feeds only set things apart. -/
structure Layout.Blank (l : Layout) : Prop where
  comma : ∀ depth, ∃ bs, l.comma depth = ',' :: bs ∧ ∀ c ∈ bs, c = ' ' ∨ c = '\n'
  start : ∀ depth, ∀ c ∈ l.start depth, c = ' ' ∨ c = '\n'
  finish : ∀ depth, ∀ c ∈ l.finish depth, c = ' ' ∨ c = '\n'

theorem newLine_blank (depth : Nat) : ∀ c ∈ newLine depth, c = ' ' ∨ c = '\n' := by
  intro c member
  rcases List.mem_cons.mp member with rfl | blank
  · exact .inr rfl
  · exact .inl (List.eq_of_mem_replicate blank)

theorem Layout.indented_blank : Layout.indented.Blank where
  comma depth := ⟨newLine (depth + 1), rfl, newLine_blank _⟩
  start _ := newLine_blank _
  finish _ := newLine_blank _

theorem Layout.oneLine_blank : Layout.oneLine.Blank where
  comma _ := ⟨[' '], rfl, fun _ member => .inl (List.mem_singleton.mp member)⟩
  start _ := List.forall_mem_nil _
  finish _ := List.forall_mem_nil _

theorem solid_of_isDigit {c : Char} (digit : isDigit c = true) : isLayout c = false ∧ c ≠ ']' := by
  constructor
  · rw [isLayout, decide_eq_false_iff_not]
    rintro (rfl | rfl | rfl | rfl) <;> exact absurd digit (by decide)
  · rintro rfl
    exact absurd digit (by decide)

/-- The first character of a value's written form. -/
theorem write_head (l : Layout) (k : Nat) {v : Json} {room : Nat} (h : v.storable room = true) :
    ∃ c cs, write l k v = c :: cs ∧ isLayout c = false ∧ c ≠ ']' := by
  cases v with
  | null => exact ⟨_, _, rfl, rfl, by decide⟩
  | bool b => cases b <;> exact ⟨_, _, rfl, rfl, by decide⟩
  | int i =>
      rw [write, writeInt]
      split
      case isTrue => exact ⟨_, _, rfl, rfl, by decide⟩
      case isFalse =>
        obtain ⟨d, ds, digits⟩ := List.exists_cons_of_ne_nil (Nat.toDigits_ne_nil (n := i.natAbs) (b := 10))
        have digit : isDigit d = true := isDigit_of_toDigits (by rw [digits]; exact List.mem_cons_self)
        exact ⟨d, ds, digits, solid_of_isDigit digit⟩
  | float d => exact absurd h Bool.false_ne_true
  | str s => exact ⟨_, _, rfl, rfl, by decide⟩
  | unpaired points => exact ⟨_, _, rfl, rfl, by decide⟩
  | arr items => cases items <;> exact ⟨_, _, rfl, rfl, by decide⟩
  | obj fields =>
      cases fields with
      | nil => exact ⟨_, _, rfl, rfl, by decide⟩
      | cons f fs => exact ⟨_, _, rfl, rfl, by decide⟩

/-- A member as it is written: its key, a colon and its value. -/
def writeMember (l : Layout) (k : Nat) (f : Spelling × Json) : List Char :=
  writeKey f.1 ++ ':' :: ' ' :: write l (k + 1) f.2

theorem length_write_le (l : Layout) (k : Nat) (f : Spelling × Json) :
    (write l (k + 1) f.2).length ≤ (writeMember l k f).length := by
  simp only [writeMember, List.length_append, List.length_cons]
  omega

theorem writeFields_cons (l : Layout) (k : Nat) (f : Spelling × Json) (fs : Fields) :
    writeFields l k (f :: fs) = l.comma k ++ writeMember l k f ++ writeFields l k fs := by
  obtain ⟨key, v⟩ := f
  simp only [writeFields, writeMember, List.append_assoc, List.cons_append]

/-- Visible ASCII, the space and the line feed. -/
def Printed (c : Char) : Prop := c = '\n' ∨ (32 ≤ c.toNat ∧ c.toNat < 127)

instance : DecidablePred Printed :=
  fun c => inferInstanceAs (Decidable (c = '\n' ∨ (32 ≤ c.toNat ∧ c.toNat < 127)))

theorem Visible.printed {c : Char} (h : Visible c) : Printed c := .inr h

theorem visible_of_all {cs : List Char}
    (h : cs.all (fun c => 32 ≤ c.toNat && decide (c.toNat < 127)) = true) : ∀ c ∈ cs, Visible c := by
  intro c member
  have visible := List.all_eq_true.mp h c member
  rw [Bool.and_eq_true, decide_eq_true_eq, decide_eq_true_eq] at visible
  exact visible

theorem printed_of_all {cs : List Char}
    (h : cs.all (fun c => 32 ≤ c.toNat && decide (c.toNat < 127)) = true) : ∀ c ∈ cs, Printed c :=
  fun c member => (visible_of_all h c member).printed

theorem visible_ofNat {n : Nat} (low : 32 ≤ n) (high : n < 127) : Visible (Char.ofNat n) := by
  rw [Visible, toNat_ofNat_of_ascii (by omega)]
  exact ⟨low, high⟩

theorem printed_of_blank {c : Char} (blank : c = ' ' ∨ c = '\n') : Printed c := by
  rcases blank with rfl | rfl
  · exact .inr (by decide)
  · exact .inl rfl

theorem hexDigit_of_mem_hexDigits {width n : Nat} {c : Char} (h : c ∈ Text.hexDigits width n) :
    ∃ m : Fin 16, c = Text.hexDigit m := by
  induction width generalizing n with
  | zero => cases h
  | succ width ih =>
      rw [Text.hexDigits] at h
      rcases List.mem_append.mp h with front | last
      · exact ih front
      · exact ⟨⟨n % 16, Nat.mod_lt n (by decide)⟩, List.mem_singleton.mp last⟩

theorem visible_of_mem_hexDigits {width n : Nat} {c : Char} (h : c ∈ Text.hexDigits width n) :
    Visible c := by
  have each : ∀ m : Fin 16, Visible (Text.hexDigit m) := by decide
  obtain ⟨m, rfl⟩ := hexDigit_of_mem_hexDigits h
  exact each m

theorem visible_of_mem_unitEscape {n : Nat} : ∀ c ∈ unitEscape n, Visible c :=
  List.forall_mem_cons.mpr ⟨by decide,
    List.forall_mem_cons.mpr ⟨by decide, fun _ => visible_of_mem_hexDigits⟩⟩

theorem visible_of_mem_writePoint {n : Nat} : ∀ c ∈ writePoint n, Visible c := by
  have spelled := writePoint_spelled n
  generalize writePoint n = cs at spelled ⊢
  cases spelled with
  | short c visible =>
      exact List.forall_mem_cons.mpr ⟨by decide, List.forall_mem_singleton.mpr visible⟩
  | plain c visible => exact List.forall_mem_singleton.mpr visible
  | unit => exact visible_of_mem_unitEscape
  | halves =>
      exact List.forall_mem_append.mpr ⟨visible_of_mem_unitEscape, visible_of_mem_unitEscape⟩

theorem visible_of_mem_writePoints {points : List Nat} : ∀ c ∈ writePoints points, Visible c := by
  have quote : Visible '"' := by decide
  refine List.forall_mem_cons.mpr ⟨quote, List.forall_mem_append.mpr ⟨fun c member => ?_, ?_⟩⟩
  · obtain ⟨n, -, member⟩ := List.mem_flatMap.mp member
    exact visible_of_mem_writePoint c member
  · exact List.forall_mem_singleton.mpr quote

theorem visible_of_mem_toDigits {n : Nat} {c : Char} (h : c ∈ Nat.toDigits 10 n) : Visible c := by
  have range := isDigit_of_toDigits h
  rw [isDigit, decide_eq_true_eq, Char.le_def, Char.le_def, UInt32.le_iff_toNat_le,
    UInt32.le_iff_toNat_le] at range
  have low : 48 ≤ c.toNat := range.1
  have high : c.toNat ≤ 57 := range.2
  exact ⟨by omega, by omega⟩

theorem printed_of_mem_toDigits {n : Nat} {c : Char} (h : c ∈ Nat.toDigits 10 n) : Printed c :=
  (visible_of_mem_toDigits h).printed

theorem visible_of_mem_writeInt {i : Int} : ∀ c ∈ writeInt i, Visible c := by
  unfold writeInt
  split
  case isTrue => exact List.forall_mem_cons.mpr ⟨by decide, fun _ => visible_of_mem_toDigits⟩
  case isFalse => exact fun _ => visible_of_mem_toDigits

theorem printed_of_mem_writeInt {i : Int} {c : Char} (h : c ∈ writeInt i) : Printed c :=
  (visible_of_mem_writeInt c h).printed

/-- What sets things apart is in characters that `P` holds of. -/
structure Layout.In (l : Layout) (P : Char → Prop) : Prop where
  comma : ∀ depth, ∀ c ∈ l.comma depth, P c
  start : ∀ depth, ∀ c ∈ l.start depth, P c
  finish : ∀ depth, ∀ c ∈ l.finish depth, P c

section
variable {P : Char → Prop} {l : Layout} {k : Nat}

theorem forall_mem_writeItems (inside : l.In P) {xs : List Json}
    (each : ∀ x ∈ xs, ∀ c ∈ write l (k + 1) x, P c) : ∀ c ∈ writeItems l k xs, P c := by
  induction xs with
  | nil => exact List.forall_mem_nil _
  | cons x xs ih =>
      obtain ⟨first, others⟩ := List.forall_mem_cons.mp each
      rw [writeItems]
      exact List.forall_mem_append.mpr ⟨List.forall_mem_append.mpr ⟨inside.comma k, first⟩, ih others⟩

theorem forall_mem_writeMember (visible : ∀ c, Visible c → P c) {f : Spelling × Json}
    (value : ∀ c ∈ write l (k + 1) f.2, P c) : ∀ c ∈ writeMember l k f, P c := by
  refine List.forall_mem_append.mpr ⟨fun c key => visible c (visible_of_mem_writePoints c key), ?_⟩
  refine List.forall_mem_cons.mpr ⟨visible ':' (by decide), ?_⟩
  exact List.forall_mem_cons.mpr ⟨visible ' ' (by decide), value⟩

theorem forall_mem_writeFields (visible : ∀ c, Visible c → P c) (inside : l.In P) {fs : Fields}
    (each : ∀ f ∈ fs, ∀ c ∈ write l (k + 1) f.2, P c) : ∀ c ∈ writeFields l k fs, P c := by
  induction fs with
  | nil => exact List.forall_mem_nil _
  | cons f fs ih =>
      obtain ⟨first, others⟩ := List.forall_mem_cons.mp each
      rw [writeFields_cons]
      refine List.forall_mem_append.mpr ⟨List.forall_mem_append.mpr ⟨inside.comma k, ?_⟩, ih others⟩
      exact forall_mem_writeMember visible first

theorem forall_mem_write (visible : ∀ c, Visible c → P c) (inside : l.In P) {v : Json} {room : Nat}
    (storable : v.storable room = true) (k : Nat) : ∀ c ∈ write l k v, P c := by
  have shown {cs : List Char} (each : ∀ c ∈ cs, Visible c) : ∀ c ∈ cs, P c :=
    fun c member => visible c (each c member)
  induction v using built generalizing room k with
  | null => exact shown (visible_of_all rfl)
  | bool b => cases b <;> exact shown (visible_of_all rfl)
  | int i => exact shown visible_of_mem_writeInt
  | float d => exact absurd storable Bool.false_ne_true
  | str s => exact shown visible_of_mem_writePoints
  | unpaired points => exact shown visible_of_mem_writePoints
  | arr items ih =>
      obtain ⟨-, each⟩ := storable_arr.mp storable
      cases items with
      | nil => exact shown (visible_of_all rfl)
      | cons x xs =>
          have items := fun y member => ih y member (each y member) (k + 1)
          obtain ⟨first, others⟩ := List.forall_mem_cons.mp items
          have rest := forall_mem_writeItems inside others
          simp only [write, List.forall_mem_append, List.forall_mem_cons]
          exact ⟨⟨⟨⟨⟨visible '[' (by decide), inside.start k⟩, first⟩, rest⟩, inside.finish k⟩,
            visible ']' (by decide), List.forall_mem_nil _⟩
  | obj fields ih =>
      obtain ⟨-, -, -, each⟩ := storable_obj.mp storable
      cases fields with
      | nil => exact shown (visible_of_all rfl)
      | cons f fs =>
          have members := fun g member => ih g member (each g member) (k + 1)
          obtain ⟨first, others⟩ := List.forall_mem_cons.mp members
          have rest := forall_mem_writeFields visible inside others
          have text : write l k (.obj (f :: fs)) = '{' :: l.start k ++ writeMember l k f
              ++ writeFields l k fs ++ l.finish k ++ ['}'] := by
            obtain ⟨key, v⟩ := f
            simp only [write, writeMember, List.cons_append, List.append_assoc]
          simp only [text, List.forall_mem_append, List.forall_mem_cons]
          exact ⟨⟨⟨⟨⟨visible '{' (by decide), inside.start k⟩, forall_mem_writeMember visible first⟩,
            rest⟩, inside.finish k⟩, visible '}' (by decide), List.forall_mem_nil _⟩

theorem Layout.Blank.printed (blank : l.Blank) : l.In Printed where
  comma k := by
    obtain ⟨bs, comma, blanks⟩ := blank.comma k
    rw [comma]
    exact List.forall_mem_cons.mpr ⟨.inr (by decide), fun c member => printed_of_blank (blanks c member)⟩
  start k := fun c member => printed_of_blank (blank.start k c member)
  finish k := fun c member => printed_of_blank (blank.finish k c member)

theorem printed_of_mem_write (blank : l.Blank) {v : Json} {room : Nat}
    (storable : v.storable room = true) (k : Nat) : ∀ c ∈ write l k v, Printed c :=
  forall_mem_write (fun _ => Visible.printed) blank.printed storable k

end

theorem Layout.oneLine_visible : Layout.oneLine.In Visible where
  comma _ := visible_of_all rfl
  start _ := List.forall_mem_nil _
  finish _ := List.forall_mem_nil _

theorem visible_of_mem_line {v : Json} {room : Nat} (storable : v.storable room = true) :
    ∀ c ∈ v.line.toList, Visible c := by
  rw [line, String.toList_ofList]
  exact forall_mem_write (fun _ => id) Layout.oneLine_visible storable 0

theorem cutShort_int {l : Layout} {k : Nat} {i : Int} :
    cutShort l k (.int i) = none ↔ Short i := by
  rw [cutShort, Short]
  split
  case isTrue long => simp [long]
  case isFalse short => simpa using short

theorem cutShortItems_eq_none {l : Layout} {k : Nat} {xs : List Json}
    (each : ∀ x ∈ xs, cutShort l (k + 1) x = none) (lead : List Char) :
    cutShortItems l k lead xs = none := by
  induction xs generalizing lead with
  | nil => rfl
  | cons x xs ih =>
      obtain ⟨first, others⟩ := List.forall_mem_cons.mp each
      rw [cutShortItems, first, ih others]
      rfl

theorem cutShortFields_eq_none {l : Layout} {k : Nat} {fs : Fields}
    (each : ∀ f ∈ fs, cutShort l (k + 1) f.2 = none) (lead : List Char) :
    cutShortFields l k lead fs = none := by
  induction fs generalizing lead with
  | nil => rfl
  | cons f fs ih =>
      obtain ⟨key, v⟩ := f
      obtain ⟨first, others⟩ := List.forall_mem_cons.mp each
      rw [cutShortFields, first, ih others]
      rfl

/-- Data that comes back is written to its end. -/
theorem cutShort_of_storable {l : Layout} {v : Json} {room : Nat} (storable : v.storable room = true)
    (k : Nat) : cutShort l k v = none := by
  induction v using built generalizing room k with
  | int i => exact cutShort_int.mpr (storable_int.mp storable)
  | arr items ih =>
      obtain ⟨-, each⟩ := storable_arr.mp storable
      rw [cutShort]
      exact cutShortItems_eq_none (fun x member => ih x member (each x member) (k + 1)) _
  | obj fields ih =>
      obtain ⟨-, -, -, each⟩ := storable_obj.mp storable
      rw [cutShort]
      exact cutShortFields_eq_none (fun f member => ih f member (each f member) (k + 1)) _
  | _ => rfl

end Dismantle.Json
