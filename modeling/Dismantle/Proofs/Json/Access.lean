import Dismantle.Json.Access
import Mathlib.Data.List.Forall2
import Mathlib.Data.List.Induction
/-! What there is in data that somebody else wrote, and that looking into it finds just this. -/
namespace Dismantle

theorem Except.bind_eq_ok {ε α β : Type} {r : Except ε α} {f : α → Except ε β} {b : β}
    (h : r >>= f = .ok b) : ∃ a, r = .ok a ∧ f a = .ok b := by
  cases r with
  | error e => cases h
  | ok a => exact ⟨a, rfl, h⟩

theorem Except.bind_eq_error {ε α β : Type} {r : Except ε α} {f : α → Except ε β} {e : ε}
    (h : r >>= f = .error e) : r = .error e ∨ ∃ a, r = .ok a ∧ f a = .error e := by
  cases r with
  | error e' => exact .inl (congrArg Except.error (Except.error.inj h))
  | ok a => exact .inr ⟨a, rfl, h⟩

theorem Except.map_eq_ok {ε α β : Type} {r : Except ε α} {f : α → β} {b : β}
    (h : r.map f = .ok b) : ∃ a, r = .ok a ∧ f a = b := by
  cases r with
  | error e => cases h
  | ok a => exact ⟨a, rfl, Except.ok.inj h⟩

theorem Except.map_eq_error {ε α β : Type} {r : Except ε α} {f : α → β} {e : ε}
    (h : r.map f = .error e) : r = .error e := by
  cases r with
  | error e' => exact congrArg Except.error (Except.error.inj h)
  | ok a => cases h

theorem Except.bind_eq_error_of_ne {ε α β : Type} {r : Except ε α} {f : α → Except ε β} {e : ε}
    (h : r >>= f = .error e) (first : r ≠ .error e) : ∃ a, r = .ok a ∧ f a = .error e :=
  (bind_eq_error h).resolve_left first

theorem Except.mapM_eq_ok {ε α β : Type} {f : α → Except ε β} {xs : List α} {ys : List β}
    (h : xs.mapM f = .ok ys) : List.Forall₂ (fun x y => f x = .ok y) xs ys := by
  induction xs generalizing ys with
  | nil =>
      cases h
      exact .nil
  | cons x xs ih =>
      rw [List.mapM_cons] at h
      obtain ⟨y, first, h⟩ := bind_eq_ok h
      obtain ⟨rest, others, h⟩ := bind_eq_ok h
      cases h
      exact .cons first (ih others)

/-- Work that succeeds for every item of a list succeeds for the list. -/
theorem Except.mapM_of_forall {ε α β : Type} {f : α → Except ε β} {g : α → β} {xs : List α}
    (h : ∀ x ∈ xs, f x = .ok (g x)) : xs.mapM f = .ok (xs.map g) := by
  induction xs with
  | nil => rfl
  | cons x xs ih =>
      obtain ⟨first, others⟩ := List.forall_mem_cons.mp h
      rw [List.mapM_cons, first, ih others]
      rfl

theorem Except.mapM_mem {ε α β : Type} {f : α → Except ε β} {xs : List α} {ys : List β} {x : α}
    (h : xs.mapM f = .ok ys) (member : x ∈ xs) : ∃ y ∈ ys, f x = .ok y := by
  have each := mapM_eq_ok h
  clear h
  induction each with
  | nil => cases member
  | cons first _ ih =>
      rcases List.mem_cons.mp member with rfl | member
      · exact ⟨_, List.mem_cons_self, first⟩
      · obtain ⟨y, among, same⟩ := ih member
        exact ⟨y, List.mem_cons_of_mem _ among, same⟩

theorem Except.mapM_eq_error {ε α β : Type} {f : α → Except ε β} {xs : List α} {e : ε}
    (h : xs.mapM f = .error e) : ∃ x ∈ xs, f x = .error e := by
  induction xs with
  | nil => cases h
  | cons x xs ih =>
      rw [List.mapM_cons] at h
      rcases bind_eq_error h with first | ⟨y, _, h⟩
      · exact ⟨x, List.mem_cons_self, first⟩
      · rcases bind_eq_error h with others | ⟨rest, _, h⟩
        · obtain ⟨x', member, failed⟩ := ih others
          exact ⟨x', List.mem_cons_of_mem x member, failed⟩
        · cases h

/-- The value that counts for a key is the last one given to it. -/
theorem Fields.get?_ofPairs (ps : Fields) (key : Spelling) :
    get? (ofPairs ps) key = ((ps.filter fun p => p.1 = key).getLast?).map (·.2) := by
  induction ps using List.reverseRecOn with
  | nil => rfl
  | append_singleton ps p ih =>
      have put_last : ofPairs (ps ++ [p]) = put (ofPairs ps) p.1 p.2 := by
        simp only [ofPairs, List.foldl_append, List.foldl_cons, List.foldl_nil]
      rw [get?] at ih ⊢
      rw [put_last, lookup_put, ih, List.filter_append]
      by_cases same : p.1 = key
      · simp [same]
      · simp [same, Ne.symm same]

/-- Faults of looking into data that is not formed as expected. -/
def Fault.isMalformed : Fault → Bool
  | .noAttribute .. | .wrongType _ | .plain .. => true
  | _ => false

namespace Json

def under (v : Json) (key : String) : Option Json :=
  match v with
  | .obj fs => Fields.get? fs key
  | _ => none

def elements : Json → List Json
  | .arr xs => xs
  | _ => []

def itemsUnder (v : Json) (key : String) : List Json := ((v.under key).getD .null).elements

def textUnder (v : Json) (key : String) : Option String := (v.under key).bind text?

def IsObject (v : Json) : Prop := ∃ fs, v = .obj fs

def IsText (v : Json) : Prop := ∃ s, v = .str s

def IsListOf (P : Json → Prop) (v : Json) : Prop := ∃ xs, v = .arr xs ∧ ∀ x ∈ xs, P x

/-- An object that has nothing under a key but what is as `P` says. -/
def Admits (v : Json) (key : String) (P : Json → Prop) : Prop :=
  v.IsObject ∧ ∀ w, v.under key = some w → P w

variable {v w default : Json} {key : String} {P : Json → Prop}

theorem find_eq_ok (h : v.find key default = .ok w) :
    v.IsObject ∧ w = (v.under key).getD default := by
  cases v with
  | obj fs => exact ⟨⟨fs, rfl⟩, (Except.ok.inj h).symm⟩
  | _ => cases h

theorem find_malformed {f : Fault} (h : v.find key default = .error f) : f.isMalformed = true := by
  cases v <;> cases h <;> rfl

theorem IsObject.find (h : v.IsObject) (key : String) (default : Json) :
    v.find key default = .ok ((v.under key).getD default) := by
  obtain ⟨fs, rfl⟩ := h
  rfl

theorem isObject_of_under (found : v.under key = some w) : v.IsObject := by
  cases v with
  | obj fs => exact ⟨fs, rfl⟩
  | _ => cases found

theorem textUnder_eq_some {s : String} : v.textUnder key = some s ↔ v.under key = some (.str s) := by
  rw [textUnder, Option.bind_eq_some_iff]
  constructor
  · rintro ⟨w, under, text⟩
    cases w with
    | str t => rw [under, Option.some.inj text]
    | _ => cases text
  · exact fun under => ⟨_, under, rfl⟩

theorem Admits.find_text (h : v.Admits key IsText) (other : String) :
    v.find key (.str other) = .ok (.str ((v.textUnder key).getD other)) := by
  rw [h.1.find]
  cases under : v.under key with
  | none =>
      rw [textUnder, under]
      rfl
  | some w =>
      obtain ⟨s, rfl⟩ := h.2 w under
      rw [textUnder_eq_some.mpr under]
      rfl

/-- Where an object has nothing but a list under a key, its items are found. -/
theorem Admits.find_items (h : v.Admits key (IsListOf P)) :
    ∃ w, v.find key (.arr []) = .ok w ∧ w.each = .ok (v.itemsUnder key) := by
  refine ⟨_, h.1.find key _, ?_⟩
  unfold itemsUnder
  cases under : v.under key with
  | none => rfl
  | some w =>
      obtain ⟨xs, rfl, -⟩ := h.2 w under
      rfl

theorem Admits.items (h : v.Admits key (IsListOf P)) : ∀ x ∈ v.itemsUnder key, P x := by
  unfold itemsUnder
  cases under : v.under key with
  | none => exact List.forall_mem_nil _
  | some w =>
      obtain ⟨xs, rfl, items⟩ := h.2 w under
      exact items

theorem demand_eq_ok (h : v.demand key = .ok w) : v.under key = some w := by
  cases v with
  | obj fs =>
      simp only [demand] at h
      split at h
      case h_1 u found =>
          cases h
          exact found
      case h_2 => cases h
  | _ => cases h

theorem demand_of_under (found : v.under key = some w) : v.demand key = .ok w := by
  cases v with
  | obj fs =>
      change Fields.get? fs key = some w at found
      rw [demand, found]
  | _ => cases found

theorem demand_malformed {f : Fault} (h : v.demand key = .error f) : f.isMalformed = true := by
  unfold demand at h
  split at h
  case h_1 => split at h <;> cases h; rfl
  all_goals cases h; rfl

theorem each_malformed {f : Fault} (h : v.each = .error f) : f.isMalformed = true := by
  cases v <;> cases h <;> rfl

theorem first_malformed {f : Fault} (h : v.first = .error f) : f.isMalformed = true := by
  unfold first at h
  split at h
  case h_1 => cases h
  case h_2 => split at h <;> cases h; rfl
  all_goals cases h; rfl

theorem ofSpelling_ne_obj (t : Spelling) (fs : Fields) : ofSpelling t ≠ .obj fs := by
  cases t <;> exact nofun

/-- If the first of a value's parts is an object, the value is a list. -/
theorem elements_of_each {xs : List Json} (each : v.each = .ok xs)
    (objects : ∀ x ∈ xs.head?, x.IsObject) : v.elements = xs := by
  cases v with
  | arr ys => exact Except.ok.inj each
  | obj fs =>
      cases each
      cases fs with
      | nil => rfl
      | cons f fs =>
          obtain ⟨gs, same⟩ := objects _ rfl
          exact absurd same (ofSpelling_ne_obj _ _)
  | str s =>
      cases each
      cases chars : s.toList with
      | nil => rfl
      | cons c cs =>
          rw [chars] at objects
          exact absurd (objects _ rfl) nofun
  | unpaired points =>
      cases each
      cases points with
      | nil => rfl
      | cons n points =>
          obtain ⟨fs, same⟩ := objects _ rfl
          exact absurd same (ofSpelling_ne_obj _ _)
  | _ => cases each

/-- Work that succeeds for objects only has looked at the items of a list. -/
theorem elements_of_mapM {α : Type} {f : Json → Except Fault α} {xs : List Json} {ys : List α}
    (each : v.each = .ok xs) (mapped : xs.mapM f = .ok ys)
    (objects : ∀ x y, f x = .ok y → x.IsObject) : v.elements = xs := by
  refine elements_of_each each ?_
  cases Except.mapM_eq_ok mapped with
  | nil => exact nofun
  | cons first _ =>
      rintro x ⟨⟩
      exact objects _ _ first

theorem under_of_not_counts (none : v.counts = false) : v.under key = .none := by
  cases v with
  | obj fs =>
      obtain rfl : fs = [] := by simpa [counts] using none
      rfl
  | _ => rfl

theorem elements_of_not_counts (none : v.counts = false) : v.elements = [] := by
  cases v with
  | arr xs => simpa [counts, elements] using none
  | _ => rfl

/-- The first part of a value, if it is an object, is the first item of a list. -/
theorem elements_of_first {x : Json} (first : v.first = .ok x) (object : x.IsObject) :
    v.elements.head? = some x := by
  obtain ⟨fs, rfl⟩ := object
  unfold Json.first at first
  split at first
  case h_1 y rest =>
      cases first
      rfl
  case h_2 => split at first <;> cases first
  all_goals cases first

theorem itemsUnder_eq (found : v.find key (.arr []) = .ok w) : v.itemsUnder key = w.elements := by
  obtain ⟨-, rfl⟩ := find_eq_ok found
  unfold itemsUnder
  cases v.under key <;> rfl

theorem same_str {s : String} : v.same (.str s) = true ↔ v = .str s := by
  cases v <;> simp [same, number?]

theorem sortedNames_texts (names : List String) : ∃ sorted,
    sortedNames (names.map .str) = .ok sorted ∧ sorted.Perm names ∧ sorted.Pairwise (· ≤ ·) := by
  have texts : (names.map Json.str).mapM text? = some names := by
    induction names with
    | nil => rfl
    | cons name names ih =>
        rw [List.map_cons, List.mapM_cons, ih]
        rfl
  refine ⟨_, by rw [sortedNames, texts], List.mergeSort_perm _ _, ?_⟩
  have trans (a b c : String) : decide (a ≤ b) = true → decide (b ≤ c) = true →
      decide (a ≤ c) = true := by simpa using String.le_trans
  have total (a b : String) : (decide (a ≤ b) || decide (b ≤ a)) = true := by
    simpa using String.le_total a b
  exact (List.pairwise_mergeSort trans total names).imp of_decide_eq_true

theorem under_eq_of_same {s : String} (found : v.find key .null = .ok w)
    (h : w.same (.str s) = true) : v.under key = some (.str s) := by
  obtain ⟨-, rfl⟩ := find_eq_ok found
  have same := same_str.mp h
  cases under : v.under key with
  | none =>
      rw [under] at same
      cases same
  | some u =>
      rw [under] at same
      exact congrArg some same

end Json
end Dismantle
