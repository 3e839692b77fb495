import Dismantle.Proofs.Files.Tree
/-! Making directories. Whatever comes of it, the only change is new directories on the way, and
all of them get made exactly if no file is in the way. -/
namespace Dismantle.FileTree
variable {t t' : FileTree} {p : Path}

/-- Nothing has changed but that there are new directories, at places as `P` says. -/
def Grown (t : FileTree) (P : Place → Prop) (t' : FileTree) : Prop :=
  ∀ q, t'.lookup q = t.lookup q ∨
    (P q ∧ t.lookup q = none ∧ t'.lookup q = some .directory)

namespace Grown
variable {P Q : Place → Prop} {t'' : FileTree}

theorem refl (P : Place → Prop) (t : FileTree) : t.Grown P t := fun _ => .inl rfl

theorem trans (h : t.Grown P t') (h' : t'.Grown P t'') : t.Grown P t'' := by
  intro q
  rcases h q with same | ⟨allowed, missing, made⟩
  · rw [← same]
    exact h' q
  · rcases h' q with same | ⟨-, missing', -⟩
    · exact .inr ⟨allowed, missing, same.trans made⟩
    · rw [made] at missing'
      cases missing'

theorem mono (h : t.Grown P t') (le : ∀ q, P q → Q q) : t.Grown Q t' :=
  fun q => (h q).imp_right (And.imp_left (le q))

theorem unchanged (h : t.Grown P t') {q : Place} (off : ¬P q) : t'.lookup q = t.lookup q :=
  (h q).resolve_right fun new => off new.1

theorem directory (h : t.Grown P t') {q : Place} (there : t.lookup q = some .directory) :
    t'.lookup q = some .directory := by
  rcases h q with same | ⟨-, missing, -⟩
  · exact same.trans there
  · rw [there] at missing
    cases missing

theorem file (h : t.Grown P t') {q : Place} {c : Content} :
    t'.lookup q = some (.file c) ↔ t.lookup q = some (.file c) := by
  rcases h q with same | ⟨-, missing, made⟩
  · rw [same]
  · rw [missing, made]
    exact iff_of_false nofun nofun

end Grown

theorem makeDirectory_grown (h : t.makeDirectory p = .ok t') : t.Grown p.LeadsThrough t' := by
  obtain ⟨-, missing, rfl⟩ := makeDirectory_eq_ok h
  have below : p.place ≠ [] := by
    intro root
    rw [root, lookup_root] at missing
    cases missing
  intro q
  by_cases here : q = p.place
  · subst here
    exact .inr ⟨p.leadsThrough_place, missing, lookup_put_self below⟩
  · exact .inl (lookup_put_of_ne here)

/-- However far it gets, making a directory and those above it changes nothing else. -/
theorem reachDirectory_grown (t : FileTree) (fuel : Nat) (p : Path) :
    t.Grown p.LeadsThrough (t.reachDirectory fuel p).2 := by
  induction fuel generalizing t p with
  | zero =>
      unfold reachDirectory
      split
      case h_1 made => exact makeDirectory_grown made
      case h_2 =>
        split
        · exact .refl _ t
        · exact .refl _ t
  | succ fuel ih =>
      unfold reachDirectory
      split
      case h_1 made => exact makeDirectory_grown made
      case h_2 =>
        split
        case isFalse => exact .refl _ t
        case isTrue =>
          dsimp only
          split
          case isTrue => exact .refl _ t
          case isFalse =>
            have above := (ih t p.parent).mono fun q => Path.LeadsThrough.of_parent
            split
            case h_1 failed =>
              rw [failed] at above
              exact above
            case h_2 reached =>
              rw [reached] at above
              split
              case h_1 made => exact above.trans (makeDirectory_grown made)
              case h_2 => exact above

theorem makeDirectory_free (free : ∀ q c, p.LeadsThrough q → t.lookup q ≠ some (.file c)) :
    (∃ t', t.makeDirectory p = .ok t') ∨
    (∃ e, t.makeDirectory p = .error e ∧ e.number = SystemFault.exists_ ∧
      t.Passable [] p.parts ∧ t.lookup p.place = some .directory) ∨
    (∃ e, t.makeDirectory p = .error e ∧ e.number = SystemFault.notFound ∧
      ¬(t.Passable [] p.parts ∧ t.lookup p.place.dropLast = some .directory)) := by
  unfold makeDirectory
  split
  case h_1 n failed =>
    have missing : n = SystemFault.notFound :=
      walk_eq_error failed fun front c le => free _ c ⟨front, le, rfl⟩
    refine .inr (.inr ⟨_, rfl, missing, fun ⟨passable, _⟩ => ?_⟩)
    have resolved := resolve_eq_ok.mpr ⟨passable, rfl⟩
    rw [failed] at resolved
    cases resolved
  case h_2 place resolved =>
    obtain ⟨passable, rfl⟩ := resolve_eq_ok.mp resolved
    split
    case h_1 node there =>
      cases node with
      | directory => exact .inr (.inl ⟨_, rfl, rfl, passable, there⟩)
      | file c => exact absurd there (free _ c p.leadsThrough_place)
    case h_2 =>
      split
      case h_1 => exact .inl ⟨_, rfl⟩
      case h_2 c file =>
        exact absurd file (free _ c (p.leadsThrough_place.of_prefix (List.dropLast_prefix _)))
      case h_3 missing =>
        refine .inr (.inr ⟨_, rfl, rfl, fun ⟨_, there⟩ => ?_⟩)
        rw [missing] at there
        cases there

theorem directories_of_passable (passable : t.Passable [] p.parts)
    (there : t.lookup p.place = some .directory) {q : Place} (h : p.LeadsThrough q) :
    t.lookup q = some .directory := by
  obtain ⟨front, le, rfl⟩ := h
  by_cases whole : front = p.parts
  · rw [whole]
    exact there
  · exact passable.directory le whole

theorem makeDirectory_reaches (made : t.makeDirectory p = .ok t') {q : Place}
    (h : p.LeadsThrough q) : t'.lookup q = some .directory := by
  have grown := makeDirectory_grown made
  obtain ⟨passable, missing, rfl⟩ := makeDirectory_eq_ok made
  have below : p.place ≠ [] := by
    intro root
    rw [root, lookup_root] at missing
    cases missing
  exact directories_of_passable (passable.mono fun _ there => grown.directory there)
    (lookup_put_self below) h

theorem passable_of_parent (h : ∀ q, p.parent.LeadsThrough q → t.lookup q = some .directory) :
    t.Passable [] p.parts := by
  rcases List.eq_nil_or_concat p.parts with root | ⟨parts, part, cons⟩
  · rw [root]
    trivial
  · have above : p.parent.parts = parts := by
      rw [Path.parent, cons, List.concat_eq_append, List.dropLast_concat]
    rw [cons, List.concat_eq_append, passable_append, ← above]
    refine ⟨passable_of_directories fun front le => h _ ⟨front, le, rfl⟩, ?_, trivial⟩
    exact h _ p.parent.leadsThrough_place

/-- A directory and those above it are there now, and nothing has failed. -/
def Reached (p : Path) (r : Except SystemFault Unit × FileTree) : Prop :=
  r.1 = .ok () ∧ ∀ q, p.LeadsThrough q → r.2.lookup q = some .directory

theorem reached_of_there (passable : t.Passable [] p.parts)
    (there : t.lookup p.place = some .directory) (e : SystemFault) :
    Reached p (if t.isDirectory p then .ok () else .error e, t) := by
  have settled : t.isDirectory p = true :=
    isDirectory_eq_true.mpr (find_eq_ok.mpr ⟨passable, there⟩)
  rw [settled, if_pos rfl]
  exact ⟨rfl, fun q => directories_of_passable passable there⟩

theorem reachDirectory_step (fuel : Nat)
    (free : ∀ q c, p.LeadsThrough q → t.lookup q ≠ some (.file c)) :
    Reached p (t.reachDirectory fuel p) ∨
      ∃ e, t.makeDirectory p = .error e ∧ e.number = SystemFault.notFound ∧
        ¬(t.Passable [] p.parts ∧ t.lookup p.place.dropLast = some .directory) := by
  rcases makeDirectory_free free with ⟨t', made⟩ | ⟨e, failed, number, passable, there⟩ | closed
  · refine .inl ?_
    unfold reachDirectory
    rw [made]
    exact ⟨rfl, fun q => makeDirectory_reaches made⟩
  · refine .inl ?_
    unfold reachDirectory
    rw [failed]
    dsimp only
    rw [number, if_neg (by decide)]
    exact reached_of_there passable there e
  · exact .inr closed

theorem reachDirectory_reaches {fuel : Nat} (enough : p.parts.length ≤ fuel)
    (free : ∀ q c, p.LeadsThrough q → t.lookup q ≠ some (.file c)) :
    Reached p (t.reachDirectory fuel p) := by
  induction fuel generalizing t p with
  | zero =>
      have root : p.parts = [] := List.length_eq_zero_iff.mp (Nat.le_zero.mp enough)
      rcases reachDirectory_step 0 free with reached | ⟨e, failed, number, closed⟩
      · exact reached
      · refine absurd ⟨?_, ?_⟩ closed
        · rw [root]
          trivial
        · rw [Path.place, root]
          rfl
  | succ fuel ih =>
      rcases reachDirectory_step (fuel + 1) free with reached | ⟨e, failed, number, closed⟩
      · exact reached
      have parts : p.parts ≠ [] := by
        intro root
        apply closed
        rw [Path.place, root]
        exact ⟨trivial, rfl⟩
      have shorter : p.parent.parts.length ≤ fuel := by
        rw [Path.parent, List.length_dropLast]
        omega
      obtain ⟨reached, above⟩ := @ih t p.parent shorter fun q c h => free q c h.of_parent
      have grown := (reachDirectory_grown t fuel p.parent).mono fun q => Path.LeadsThrough.of_parent
      unfold reachDirectory
      rw [failed]
      dsimp only
      rw [number, if_pos rfl, if_neg parts]
      cases run : t.reachDirectory fuel p.parent with | mk r t₁ =>
      rw [run] at reached above grown
      subst reached
      dsimp only
      have free₁ : ∀ q c, p.LeadsThrough q → t₁.lookup q ≠ some (.file c) :=
        fun q c h file => free q c h (grown.file.mp file)
      rcases makeDirectory_free free₁ with ⟨t', made⟩ | ⟨e, failed, number, passable, there⟩ |
        ⟨e, failed, number, closed⟩
      · rw [made]
        exact ⟨rfl, fun q => makeDirectory_reaches made⟩
      · rw [failed]
        exact reached_of_there passable there e
      · have passable := passable_of_parent above
        exact absurd ⟨passable, above _ (Path.parent_leadsThrough_dropLast parts)⟩ closed

theorem directories_of_reachDirectory {fuel : Nat} (done : (t.reachDirectory fuel p).1 = .ok ())
    {q : Place} (h : p.LeadsThrough q) : (t.reachDirectory fuel p).2.lookup q = some .directory := by
  have settled {t' : FileTree} {e : SystemFault}
      (there : (if t'.isDirectory p then .ok () else .error e : Except SystemFault Unit) = .ok ()) :
      t'.lookup q = some .directory := by
    split at there
    case isTrue directory =>
      obtain ⟨passable, here⟩ := find_eq_ok.mp (isDirectory_eq_true.mp directory)
      exact directories_of_passable passable here h
    case isFalse => cases there
  revert done
  unfold reachDirectory
  split
  case h_1 made => exact fun _ => makeDirectory_reaches made h
  case h_2 =>
    split
    case isFalse => exact settled
    case isTrue =>
      split
      case h_1 => nofun
      case h_2 =>
        split
        case isTrue => nofun
        case isFalse =>
          split
          case h_1 => nofun
          case h_2 =>
            split
            case h_1 made => exact fun _ => makeDirectory_reaches made h
            case h_2 => exact settled

/-- A directory and those above it can be made exactly if no file is in the way. -/
theorem reachDirectory_eq_ok {fuel : Nat} (enough : p.parts.length ≤ fuel) :
    (t.reachDirectory fuel p).1 = .ok () ↔ ∀ q c, p.LeadsThrough q → t.lookup q ≠ some (.file c) := by
  constructor
  · intro done q c on file
    have there := directories_of_reachDirectory done on
    rw [(reachDirectory_grown t fuel p).file.mpr file] at there
    cases there
  · exact fun free => (reachDirectory_reaches enough free).1

end Dismantle.FileTree
