import Dismantle.Files.Tree
import Mathlib.Data.List.Induction
/-! What lies at each place of a tree after an operation: it changes the places that it names and no
others. A path leads through the places of its parts, and double dots lead back. -/
namespace Dismantle

namespace Place

/-- Where one part of a path leads from a place. -/
def next (place : Place) (part : String) : Place :=
  if part = ".." then place.dropLast else place ++ [part]

/-- Where the parts of a path lead from a place. -/
def follow (place : Place) (parts : List String) : Place := parts.foldl next place

theorem follow_append (place : Place) (parts more : List String) :
    follow place (parts ++ more) = follow (follow place parts) more := List.foldl_append

theorem follow_name (place : Place) (parts : List String) {name : String} (h : name ≠ "..") :
    follow place (parts ++ [name]) = follow place parts ++ [name] := by
  rw [follow_append]
  exact if_neg h

/-- Without double dots the parts of a path are the names of a place. -/
theorem follow_plain {parts : List String} (plain : ".." ∉ parts) (place : Place) :
    follow place parts = place ++ parts := by
  induction parts generalizing place with
  | nil => exact (List.append_nil place).symm
  | cons part rest ih =>
      rw [List.mem_cons, not_or] at plain
      have step : next place part = place ++ [part] := if_neg (Ne.symm plain.1)
      rw [follow, List.foldl_cons, step]
      exact (ih plain.2 _).trans (by rw [List.append_assoc, List.singleton_append])

/-- What leads to a place leads through everything that the place lies in. -/
theorem follow_prefix {parts : List String} {q : Place} (h : q <+: follow [] parts) :
    ∃ front, front <+: parts ∧ q = follow [] front := by
  induction parts using List.reverseRecOn with
  | nil => exact ⟨[], List.prefix_rfl, List.prefix_nil.mp h⟩
  | append_singleton parts part ih =>
      rw [follow_append] at h
      by_cases back : part = ".."
      · have here : q <+: (follow [] parts).dropLast := by
          rw [follow, List.foldl_cons, List.foldl_nil, next, if_pos back] at h
          exact h
        obtain ⟨front, le, same⟩ := ih (here.trans (List.dropLast_prefix _))
        exact ⟨front, le.trans (List.prefix_append _ _), same⟩
      · have here : q <+: follow [] parts ++ [part] := by
          rw [follow, List.foldl_cons, List.foldl_nil, next, if_neg back] at h
          exact h
        rcases List.prefix_concat_iff.mp here with whole | inside
        · exact ⟨parts ++ [part], List.prefix_rfl, by rw [whole, follow_name _ _ back]⟩
        · obtain ⟨front, le, same⟩ := ih inside
          exact ⟨front, le.trans (List.prefix_append _ _), same⟩

end Place

namespace Path

/-- The place that a path names when all that it leads through is there. -/
def place (p : Path) : Place := Place.follow [] p.parts

def LeadsThrough (p : Path) (q : Place) : Prop := ∃ front, front <+: p.parts ∧ q = Place.follow [] front

theorem LeadsThrough.of_parent {p : Path} {q : Place} (h : p.parent.LeadsThrough q) :
    p.LeadsThrough q := by
  obtain ⟨front, le, rfl⟩ := h
  exact ⟨front, le.trans p.parts.dropLast_prefix, rfl⟩

theorem LeadsThrough.of_prefix {p : Path} {q r : Place} (h : p.LeadsThrough q) (le : r <+: q) :
    p.LeadsThrough r := by
  obtain ⟨front, within, rfl⟩ := h
  obtain ⟨front', le', same⟩ := Place.follow_prefix le
  exact ⟨front', le'.trans within, same⟩

theorem leadsThrough_place (p : Path) : p.LeadsThrough p.place := ⟨p.parts, List.prefix_rfl, rfl⟩

theorem LeadsThrough.length_le {p : Path} {q : Place} (plain : ".." ∉ p.parts)
    (h : p.LeadsThrough q) : q.length ≤ p.parts.length := by
  obtain ⟨front, le, rfl⟩ := h
  rw [Place.follow_plain (fun back => plain (le.subset back)), List.nil_append]
  exact le.length_le

/-- The last part of a path leads to what lies in a place of its parent, or back from there. -/
theorem parent_leadsThrough_dropLast {p : Path} (h : p.parts ≠ []) :
    p.parent.LeadsThrough p.place.dropLast := by
  have last : p.place = p.parent.place.next (p.parts.getLast h) := by
    rw [place, parent, place]
    nth_rewrite 1 [← List.dropLast_concat_getLast h]
    exact Place.follow_append _ _ _
  have below : p.place.dropLast <+: p.parent.place := by
    rw [last, Place.next]
    split
    case isTrue => exact (List.dropLast_prefix _).trans (List.dropLast_prefix _)
    case isFalse => exact ⟨[], by rw [List.append_nil, List.dropLast_concat]⟩
  exact p.parent.leadsThrough_place.of_prefix below

end Path

namespace FileTree
variable {t t' : FileTree} {place goal : Place} {node : Node} {p : Path}

theorem lookup_root (t : FileTree) : t.lookup [] = some .directory := rfl

theorem lookup_erase_self (h : place ≠ []) : (t.erase place).lookup place = none := by
  rw [lookup, if_neg h, List.lookup_eq_none_iff]
  intro entry member
  have other := of_decide_eq_true (List.mem_filter.mp member).2
  simpa using Ne.symm other

theorem lookup_filter_ne {entries : List (Place × Node)} (h : goal ≠ place) :
    (entries.filter fun e => e.1 ≠ place).lookup goal = entries.lookup goal := by
  induction entries with
  | nil => rfl
  | cons e entries ih =>
      obtain ⟨k, n⟩ := e
      by_cases same : k = place
      · have other : (goal == k) = false := by
          rw [same]
          exact beq_false_of_ne h
        rw [List.filter_cons_of_neg (by simpa using same), ih, List.lookup_cons, other]
      · rw [List.filter_cons_of_pos (by simpa using same), List.lookup_cons, List.lookup_cons, ih]

theorem lookup_erase_of_ne (h : goal ≠ place) : (t.erase place).lookup goal = t.lookup goal := by
  unfold lookup
  split
  case isTrue => rfl
  case isFalse => exact lookup_filter_ne h

theorem lookup_put_self (h : place ≠ []) : (t.put place node).lookup place = some node := by
  have gone := lookup_erase_self (t := t) h
  rw [lookup, if_neg h] at gone ⊢
  rw [put, List.lookup_append, gone]
  simp

theorem lookup_put_of_ne (h : goal ≠ place) : (t.put place node).lookup goal = t.lookup goal := by
  rw [← lookup_erase_of_ne (t := t) h]
  unfold lookup
  split
  case isTrue => rfl
  case isFalse =>
    rw [put, List.lookup_append]
    have other : (goal == place) = false := beq_false_of_ne h
    simp [List.lookup_cons, other]

/-- Everything that the parts of a path lead through from a place is a directory. -/
def Passable (t : FileTree) (place : Place) : List String → Prop
  | [] => True
  | part :: rest => t.lookup place = some .directory ∧ t.Passable (place.next part) rest

theorem walk_eq_ok {parts : List String} :
    t.walk place parts = .ok goal ↔ t.Passable place parts ∧ goal = place.follow parts := by
  induction parts generalizing place with
  | nil =>
      rw [walk, Passable, true_and, Except.ok.injEq]
      exact eq_comm
  | cons part rest ih =>
      rw [walk, Passable]
      split
      case h_1 missing => simp [missing]
      case h_2 content file => simp [file]
      case h_3 directory =>
        rw [directory, eq_self, true_and]
        exact ih

theorem passable_append {parts more : List String} :
    t.Passable place (parts ++ more) ↔ t.Passable place parts ∧ t.Passable (place.follow parts) more := by
  induction parts generalizing place with
  | nil => simp [Passable, Place.follow]
  | cons part rest ih =>
      rw [List.cons_append, Passable, Passable, ih, and_assoc]
      rfl

theorem Passable.directory {parts front : List String} (h : t.Passable place parts)
    (le : front <+: parts) (proper : front ≠ parts) :
    t.lookup (place.follow front) = some .directory := by
  obtain ⟨rest, rfl⟩ := le
  cases rest with
  | nil => exact absurd (List.append_nil front).symm proper
  | cons part rest => exact (passable_append.mp h).2.1

theorem passable_of_directories {parts : List String}
    (h : ∀ front, front <+: parts → t.lookup (place.follow front) = some .directory) :
    t.Passable place parts := by
  induction parts generalizing place with
  | nil => trivial
  | cons part rest ih =>
      refine ⟨h [] (List.nil_prefix), ih fun front le => ?_⟩
      exact h (part :: front) (List.prefix_cons_inj part |>.mpr le)

/-- A way that meets no file ends at something missing, if it ends at all. -/
theorem walk_eq_error {parts : List String} {n : Nat} (h : t.walk place parts = .error n)
    (free : ∀ front c, front <+: parts → t.lookup (place.follow front) ≠ some (.file c)) :
    n = SystemFault.notFound := by
  induction parts generalizing place with
  | nil => cases h
  | cons part rest ih =>
      rw [walk] at h
      split at h
      case h_1 => exact (Except.error.inj h).symm
      case h_2 c file => exact absurd file (free [] c List.nil_prefix)
      case h_3 =>
        exact ih h fun front c le => free (part :: front) c (List.prefix_cons_inj part |>.mpr le)

/-- Where every directory is kept, every way stays open. -/
theorem Passable.mono {parts : List String}
    (kept : ∀ q, t.lookup q = some .directory → t'.lookup q = some .directory)
    (h : t.Passable place parts) : t'.Passable place parts := by
  induction parts generalizing place with
  | nil => trivial
  | cons part rest ih => exact ⟨kept place h.1, ih h.2⟩

theorem resolve_eq_ok : t.resolve p = .ok place ↔ t.Passable [] p.parts ∧ place = p.place :=
  walk_eq_ok

theorem find_eq_ok :
    t.find p = .ok node ↔ t.Passable [] p.parts ∧ t.lookup p.place = some node := by
  unfold find
  split
  case h_1 n failed =>
    have closed : ¬t.Passable [] p.parts := by
      intro passable
      have resolved := resolve_eq_ok.mpr ⟨passable, rfl⟩
      rw [failed] at resolved
      cases resolved
    simp [closed]
  case h_2 place resolved =>
    obtain ⟨passable, rfl⟩ := resolve_eq_ok.mp resolved
    split
    case h_1 found => simp [passable, found]
    case h_2 missing => simp [missing]

theorem has_eq_true : t.has p = true ↔ ∃ node, t.find p = .ok node := by
  unfold has
  cases t.find p with
  | error n => simp [Except.isOk, Except.toBool]
  | ok node => simp [Except.isOk, Except.toBool]

theorem has_eq_false (missing : t.lookup p.place = none) : t.has p = false := by
  rw [Bool.eq_false_iff]
  intro there
  obtain ⟨node, found⟩ := has_eq_true.mp there
  rw [(find_eq_ok.mp found).2] at missing
  cases missing

theorem isDirectory_eq_true : t.isDirectory p = true ↔ t.find p = .ok .directory := by
  unfold isDirectory
  split
  case h_1 found => simp [found]
  case h_2 other => simpa using other

theorem contentAt_eq_ok {c : Content} : t.contentAt p = .ok c ↔ t.find p = .ok (.file c) := by
  unfold contentAt
  split
  case h_1 c' found => simp [found]
  case h_2 found => simp [found, fault]
  case h_3 n failed => simp [failed, fault]

theorem withContent_eq_ok {c : Content} (h : t.withContent p c = .ok t') :
    t.Passable [] p.parts ∧ t.lookup p.place ≠ some .directory ∧ t' = t.put p.place (.file c) := by
  unfold withContent at h
  split at h
  case h_1 => cases h
  case h_2 place resolved =>
    obtain ⟨passable, rfl⟩ := resolve_eq_ok.mp resolved
    split at h
    case h_1 => cases h
    case h_2 c' old =>
      refine ⟨passable, ?_, (Except.ok.inj h).symm⟩
      rw [old]
      nofun
    case h_3 none =>
      split at h
      case h_1 =>
        refine ⟨passable, ?_, (Except.ok.inj h).symm⟩
        rw [none]
        nofun
      case h_2 => cases h
      case h_3 => cases h

theorem makeDirectory_eq_ok (h : t.makeDirectory p = .ok t') :
    t.Passable [] p.parts ∧ t.lookup p.place = none ∧ t' = t.put p.place .directory := by
  unfold makeDirectory at h
  split at h
  case h_1 => cases h
  case h_2 place resolved =>
    obtain ⟨passable, rfl⟩ := resolve_eq_ok.mp resolved
    split at h
    case h_1 => cases h
    case h_2 none =>
      split at h
      case h_1 => exact ⟨passable, none, (Except.ok.inj h).symm⟩
      case h_2 => cases h
      case h_3 => cases h

theorem removeFile_eq_ok (h : t.removeFile p = .ok t') :
    t.Passable [] p.parts ∧ (∃ c, t.lookup p.place = some (.file c)) ∧ t' = t.erase p.place := by
  unfold removeFile at h
  split at h
  case h_1 => cases h
  case h_2 place resolved =>
    obtain ⟨passable, rfl⟩ := resolve_eq_ok.mp resolved
    split at h
    case h_1 c file => exact ⟨passable, ⟨c, file⟩, (Except.ok.inj h).symm⟩
    case h_2 => cases h
    case h_3 => cases h

theorem withContent_of_free {c : Content} (passable : t.Passable [] p.parts)
    (free : t.lookup p.place ≠ some .directory)
    (above : t.lookup p.place.dropLast = some .directory) :
    t.withContent p c = .ok (t.put p.place (.file c)) := by
  rw [withContent, resolve_eq_ok.mpr ⟨passable, rfl⟩]
  cases here : t.lookup p.place with
  | none => simp only [here, above]
  | some node =>
      cases node with
      | directory => exact absurd here free
      | file => simp only [here]

theorem removeFile_of_file {c : Content} (passable : t.Passable [] p.parts)
    (file : t.lookup p.place = some (.file c)) : t.removeFile p = .ok (t.erase p.place) := by
  rw [removeFile, resolve_eq_ok.mpr ⟨passable, rfl⟩]
  simp only [file]

theorem replaceFile_of_file {target : Path} {c : Content} (passable : t.Passable [] p.parts)
    (reachable : t.Passable [] target.parts) (file : t.lookup p.place = some (.file c))
    (free : t.lookup target.place ≠ some .directory) :
    t.replaceFile p target = .ok ((t.erase p.place).put target.place (.file c)) := by
  rw [replaceFile, resolve_eq_ok.mpr ⟨passable, rfl⟩, resolve_eq_ok.mpr ⟨reachable, rfl⟩]
  simp only [file]

theorem replaceFile_eq_ok {target : Path} (h : t.replaceFile p target = .ok t') :
    t.Passable [] target.parts ∧ t.lookup target.place ≠ some .directory ∧
      ∃ c, t.lookup p.place = some (.file c) ∧
        t' = (t.erase p.place).put target.place (.file c) := by
  unfold replaceFile at h
  dsimp only at h
  split at h
  case h_1 => cases h
  case h_2 => cases h
  case h_3 place goal resolved aimed =>
    obtain ⟨-, rfl⟩ := resolve_eq_ok.mp resolved
    obtain ⟨passable, rfl⟩ := resolve_eq_ok.mp aimed
    split at h
    case h_1 => cases h
    case h_2 c file free =>
      exact ⟨passable, free, c, file, (Except.ok.inj h).symm⟩
    case h_3 => cases h

end FileTree
end Dismantle
