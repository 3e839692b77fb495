import Dismantle.Yaml.Plain
import Mathlib.Tactic.ByContra
/-! What values are taken for: texts, and values that count for nothing. A map that is read has
no key twice. -/
namespace Dismantle

namespace Yaml

def Value.IsText (v : Value) : Prop := ∃ t, v = .ofSpelling t

theorem Value.spelling?_eq_some {v : Value} {t : Spelling} :
    v.spelling? = some t ↔ v = .ofSpelling t := by
  cases v <;> cases t <;> simp [spelling?, ofSpelling]

/-- A map with texts for keys, from its entries. -/
def Entries.pairs (entries : Entries) : List (Value × Value) :=
  entries.map fun e => (.ofSpelling e.1, e.2)

theorem Entries.pairs_isText (entries : Entries) : ∀ entry ∈ entries.pairs, entry.1.IsText :=
  List.forall_mem_map.mpr fun e _ => ⟨e.1, rfl⟩

/-- The values that count for nothing. -/
inductive Value.Hollow : Value → Prop
  | null : Hollow .null
  | no : Hollow (.bool false)
  | int : Hollow (.int 0)
  | float (negative : Bool) (power : Int) : Hollow (.float (.finite negative 0 power))
  | str : Hollow (.str "")
  | bytes : Hollow (.bytes [])
  | list : Hollow (.list [])
  | set : Hollow (.set [])
  | map : Hollow (.map [])

theorem Value.counts_eq_false {v : Value} : v.counts = false ↔ v.Hollow := by
  constructor
  · intro none
    cases v with
    | null => exact .null
    | bool b =>
        cases none
        exact .no
    | int i =>
        obtain rfl : i = 0 := by simpa [counts] using none
        exact .int
    | float d =>
        cases d with
        | nan | infinite => cases none
        | finite negative mantissa power =>
            obtain rfl : mantissa = 0 := by
              by_contra some_
              simp [counts, Binary64.equal, Binary64.zero, some_] at none
            exact .float negative power
    | str s =>
        obtain rfl : s = "" := by simpa [counts] using none
        exact .str
    | unpaired | moment | pair | cycle => cases none
    | bytes bs =>
        obtain rfl : bs = [] := by simpa [counts] using none
        exact .bytes
    | list items =>
        obtain rfl : items = [] := by simpa [counts] using none
        exact .list
    | set members =>
        obtain rfl : members = [] := by simpa [counts] using none
        exact .set
    | map entries =>
        obtain rfl : entries = [] := by simpa [counts] using none
        exact .map
  · intro hollow
    cases hollow with
    | float negative power => simp [counts, Binary64.equal, Binary64.zero]
    | _ => rfl

theorem Entries.eq_nil_of_hollow {entries : Entries} (hollow : (Value.map entries.pairs).Hollow) :
    entries = [] := by
  generalize same : entries.pairs = given at hollow
  cases hollow
  exact List.map_eq_nil_iff.mp same

def Value.Distinct (es : List (Value × Value)) : Prop :=
  (es.map (·.1)).Pairwise fun k l => ¬k.same l

theorem Entries.nodup_of_distinct {entries : Entries} (distinct : Value.Distinct entries.pairs) :
    (entries.map (·.1)).Nodup := by
  rw [Value.Distinct, Entries.pairs, List.map_map, List.pairwise_map] at distinct
  rw [List.Nodup, List.pairwise_map]
  refine distinct.imp fun {a b} other same => other ?_
  rw [Function.comp_apply, Function.comp_apply, same]
  cases b.1 <;> simp [Value.ofSpelling, Value.same]

/-- An entry takes the place of one with the same key, or comes last. -/
theorem Value.keys_put (key v : Value) (es : List (Value × Value)) :
    (put key v es).map (·.1) = es.map (·.1) ∨
      ((put key v es).map (·.1) = es.map (·.1) ++ [key] ∧ ∀ e ∈ es, ¬e.1.same key) := by
  induction es with
  | nil => exact .inr ⟨rfl, List.forall_mem_nil _⟩
  | cons e rest ih =>
      rw [put]
      split
      case isTrue => exact .inl rfl
      case isFalse other =>
          rcases ih with keys | ⟨keys, others⟩
          · exact .inl (congrArg (e.1 :: ·) keys)
          · exact .inr ⟨congrArg (e.1 :: ·) keys, List.forall_mem_cons.mpr ⟨other, others⟩⟩

theorem Value.Distinct.put {es : List (Value × Value)} (distinct : Distinct es) (key v : Value) :
    Distinct (Value.put key v es) := by
  rw [Distinct]
  rcases keys_put key v es with keys | ⟨keys, others⟩ <;> rw [keys]
  · exact distinct
  · refine List.pairwise_append.mpr ⟨distinct, List.pairwise_singleton _ _, ?_⟩
    intro k member l last
    obtain rfl := List.mem_singleton.mp last
    obtain ⟨e, given, rfl⟩ : ∃ e ∈ es, e.1 = k := List.mem_map.mp member
    exact others e given

theorem Value.distinct_foldl_put (given : List (Value × Value)) :
    Distinct (given.foldl (fun done e => Value.put e.1 e.2 done) []) := by
  suffices general : ∀ done, Distinct done →
      Distinct (given.foldl (fun done e => Value.put e.1 e.2 done) done) from general [] .nil
  induction given with
  | nil => exact fun _ distinct => distinct
  | cons e rest ih => exact fun done distinct => ih _ (distinct.put e.1 e.2)

theorem map_ne_ok {ε α β : Type} {f : α → β} {b : β} (other : ∀ a, f a ≠ b) (r : Except ε α) :
    f <$> r ≠ .ok b := by
  cases r with
  | error e => exact nofun
  | ok a => exact fun same => other a (Except.ok.inj same)

theorem scalarOf_ne_map {kind : Kind} {points : List Nat} {es : List (Value × Value)} :
    scalarOf kind points ≠ .ok (.map es) := by
  intro made
  unfold scalarOf at made
  split at made
  case h_3 | h_4 => exact map_ne_ok (fun _ same => by cases same) _ made
  case h_7 =>
      unfold Value.ofPoints Value.ofSpelling at made
      split at made <;> cases made
  all_goals
    dsimp only at made
    repeat' split at made
    all_goals cases made

theorem Node.make_distinct {fuel depth : Nat} {n : Node} {es : List (Value × Value)}
    (made : (n.make fuel depth).value = .map es) : Value.Distinct es := by
  unfold Node.make at made
  split at made
  · cases made
  · cases made
  · split at made
    case h_4 =>
        cases made
        exact Value.distinct_foldl_put _
    all_goals try cases made
    split at made
    · split at made
      · split at made
        case h_1 whole =>
            obtain rfl := made
            exact absurd whole scalarOf_ne_map
        case h_2 => cases made
      · cases made
    · cases made

theorem Value.read_distinct {levels : Nat} {cs : List Char} {es : List (Value × Value)}
    (whole : Value.read levels cs = .ok (.map es)) : Distinct es := by
  unfold Value.read at whole
  cases document : Node.read? levels cs with
  | error r =>
      rw [document] at whole
      cases whole
  | ok n? =>
      rw [document] at whole
      cases n? with
      | none => cases whole
      | some n =>
          change (n.make (n.height + 1) 0).result = .ok (.map es) at whole
          rw [Made.result] at whole
          split at whole
          · exact Node.make_distinct (Except.ok.inj whole)
          · cases whole

theorem Value.read_of_unreadable {levels : Nat} {cs : List Char}
    (strange : cs.all isReadable = false) : Value.read levels cs = .error .malformed := by
  have tokens : Tokens.of cs = ⟨[], some .malformed⟩ := by
    rw [Tokens.of, strange]
    rfl
  rw [Value.read, Node.read?, tokens]
  rfl

deriving instance DecidableEq for Impossible, Refusal

section
variable {ε α : Type}

instance decidableEqError [DecidableEq ε] : (r : Except ε α) → (e : ε) → Decidable (r = .error e)
  | .ok _, _ => isFalse nofun
  | .error e, e' => decidable_of_iff (e = e') ⟨congrArg Except.error, Except.error.inj⟩

/-- Only equality with the one value is asked for, as values have no equality that is decided. -/
instance decidableEqOk {a : α} [DecidablePred (· = a)] : (r : Except ε α) → Decidable (r = .ok a)
  | .ok b => decidable_of_iff (b = a) ⟨congrArg Except.ok, Except.ok.inj⟩
  | .error _ => isFalse nofun

end

instance Value.decidableEqNil : DecidablePred (· = Value.list [])
  | .list [] => isTrue rfl
  | .list (_ :: _) | .null | .bool _ | .int _ | .float _ | .str _ | .unpaired _ | .bytes _
  | .moment _ | .pair .. | .set _ | .map _ | .cycle => isFalse nofun

def Value.texts? : List (Value × Value) → Option (List (Spelling × Spelling))
  | [] => some []
  | (k, v) :: rest => do return (← k.spelling?, ← v.spelling?) :: (← texts? rest)

theorem Value.texts?_eq_some {es : List (Value × Value)} {ts : List (Spelling × Spelling)} :
    texts? es = some ts ↔ es = ts.map fun e => (.ofSpelling e.1, .ofSpelling e.2) := by
  induction es generalizing ts with
  | nil => cases ts <;> simp [texts?]
  | cons e rest ih =>
      obtain ⟨k, v⟩ := e
      cases ts with
      | nil => simp [texts?, Option.bind_eq_some_iff]
      | cons t ts =>
          obtain ⟨name, text⟩ := t
          simp only [texts?, bind, pure, Option.bind_eq_some_iff, spelling?_eq_some, ih, List.map_cons,
            List.cons.injEq, Prod.mk.injEq, Option.some.injEq]
          constructor
          · rintro ⟨_, rfl, _, rfl, _, rfl, ⟨rfl, rfl⟩, rfl⟩
            exact ⟨⟨rfl, rfl⟩, rfl⟩
          · rintro ⟨⟨rfl, rfl⟩, rfl⟩
            exact ⟨_, rfl, _, rfl, _, rfl, ⟨rfl, rfl⟩, rfl⟩

def Value.ofTexts (ts : List (Spelling × Spelling)) : Value :=
  .map (ts.map fun e => (.ofSpelling e.1, .ofSpelling e.2))

instance Value.decidableEqTexts (ts : List (Spelling × Spelling)) :
    DecidablePred (· = Value.ofTexts ts)
  | .map es => decidable_of_iff (texts? es = some ts) (texts?_eq_some.trans ⟨congrArg _, map.inj⟩)
  | .null | .bool _ | .int _ | .float _ | .str _ | .unpaired _ | .bytes _ | .moment _ | .list _
  | .pair .. | .set _ | .cycle => isFalse nofun

end Yaml

end Dismantle
