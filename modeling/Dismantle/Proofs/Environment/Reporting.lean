import Dismantle.Proofs.Environment.RoundTrip
/-! Which faults of loading and saving a record are reports on it. What can be read, or moved into
place, and is not right is reported; bytes that are no text, data beyond the limits of its reader
and a directory that cannot be made end the work as they are. -/
namespace Dismantle

def Fault.ReportsState (f : Fault) : Prop := ∃ message c cause suggestions,
  f = .reported .state message c cause suggestions

/-- The fault that keeps a content from being looked at as data, whatever the data is. -/
inductive Content.Illegible (c : Content) : Fault → Prop
  /-- The bytes spell no text. -/
  | undecodable {f : Text.Utf8.Fault} (read : c.read = .error f) : Illegible c (.undecodable f)
  /-- A number in the text has more digits than are read. -/
  | tooManyDigits {text : String} {n : Nat} (read : c.read = .ok text)
      (stopped : Json.read text = .error (.tooManyDigits n)) :
      Illegible c (.unreadable (.tooManyDigits n))
  /-- More values are open at once than are followed. -/
  | tooDeep {text : String} {list : Bool} (read : c.read = .ok text)
      (stopped : Json.read text = .error (.tooDeep list)) :
      Illegible c (.unreadable (.tooDeep list))

namespace Content
variable {c : Content} {f : Fault}

/-- If the bytes spell a text, reading stops in it, and not at broken syntax. -/
theorem Illegible.stopped (h : c.Illegible f) {text : String} (read : c.read = .ok text) :
    ∃ u, Json.read text = .error u ∧ ∀ problem line column place, u ≠ .broken problem line column place := by
  cases h with
  | undecodable failed =>
      rw [read] at failed
      cases failed
  | tooManyDigits same stopped =>
      rw [read] at same
      cases same
      exact ⟨_, stopped, nofun⟩
  | tooDeep same stopped =>
      rw [read] at same
      cases same
      exact ⟨_, stopped, nofun⟩

theorem Illegible.bare (h : c.Illegible f) : ¬f.ReportsState := by
  rintro ⟨_, _, _, _, rfl⟩
  cases h

end Content

namespace Store
variable {τ : Type} [Wording τ] {s : Store} {e : Environment τ} {t : FileTree}

theorem trouble_reports (what : String) (cause : Fault) : (trouble what cause).ReportsState :=
  ⟨_, _, _, _, rfl⟩

/-- What loading from the files `t` ends with. -/
inductive Loading (s : Store) (t : FileTree) : Except Fault (Environment τ) → Prop
  /-- Without a file the record is empty. -/
  | absent (missing : t.has s.file = false) : Loading s t (.ok {})
  | directory (found : t.find s.file = .ok .directory) :
      Loading s t (.error (trouble "Failed to read state file"
        (.system ⟨SystemFault.isDirectory, [s.file.text]⟩)))
  | illegible {c : Content} {f : Fault} (found : t.find s.file = .ok (.file c))
      (illegible : c.Illegible f) : Loading s t (.error f)
  | broken {c : Content} {text : String} {problem : Json.Problem} {line column place : Nat}
      (found : t.find s.file = .ok (.file c)) (read : c.read = .ok text)
      (stopped : Json.read text = .error (.broken problem line column place)) :
      Loading s t (.error (trouble "Failed to parse state file"
        (.unreadable (.broken problem line column place))))
  | invalid {c : Content} {text : String} {v : Json} {i : Invalid}
      (found : t.find s.file = .ok (.file c)) (read : c.read = .ok text)
      (whole : Json.read text = .ok v)
      (refused : Environment.ofJson (τ := τ) v = .error i) :
      Loading s t (.error (trouble ("Invalid state file " ++ s.file.text) (.invalid i)))
  | loaded {c : Content} {text : String} {v : Json} {e : Environment τ}
      (found : t.find s.file = .ok (.file c)) (read : c.read = .ok text)
      (whole : Json.read text = .ok v) (valid : Environment.ofJson v = .ok e) :
      Loading s t (.ok e)

theorem parse_loading {c : Content} (found : t.find s.file = .ok (.file c)) :
    s.Loading t (s.parse c : Except Fault (Environment τ)) := by
  unfold parse
  split
  case h_1 f failed => exact .illegible found (.undecodable failed)
  case h_2 text read =>
    split
    case h_1 stopped => exact .broken found read stopped
    case h_2 f other stopped =>
      cases f with
      | broken problem line column place => exact absurd rfl (other problem line column place)
      | tooManyDigits n => exact .illegible found (.tooManyDigits read stopped)
      | tooDeep list => exact .illegible found (.tooDeep read stopped)
    case h_3 v whole =>
      split
      case h_1 e valid => exact .loaded found read whole valid
      case h_2 i refused => exact .invalid found read whole refused

theorem load_loading (s : Store) (h : Host) :
    s.Loading h.files ((s.load h).1 : Except Fault (Environment τ)) := by
  cases there : h.files.has s.file with
  | false =>
      rw [load_of_missing there]
      exact .absent there
  | true =>
      obtain ⟨node, found⟩ := FileTree.has_eq_true.mp there
      cases node with
      | file c =>
          rw [load_of_found found]
          exact parse_loading found
      | directory =>
          have unopened : h.files.contentAt s.file
              = .error ⟨SystemFault.isDirectory, [s.file.text]⟩ := by
            rw [FileTree.contentAt, found]
            rfl
          rw [load, exists_, there, if_pos rfl, unopened]
          exact .directory found

/-- What is in the record's file cannot be looked at as data. -/
def Illegible (s : Store) (t : FileTree) (f : Fault) : Prop :=
  ∃ c, t.find s.file = .ok (.file c) ∧ c.Illegible f

theorem Illegible.bare {f : Fault} (h : s.Illegible t f) : ¬f.ReportsState := by
  obtain ⟨c, -, illegible⟩ := h
  exact Content.Illegible.bare illegible

theorem load_of_illegible {h : Host} {f : Fault} (illegible : s.Illegible h.files f) :
    (s.load h).1 = (.error f : Except Fault (Environment τ)) := by
  obtain ⟨c, found, illegible⟩ := illegible
  rw [load_of_found found, parse]
  cases illegible with
  | undecodable read => rw [read]
  | tooManyDigits read stopped =>
      rw [read]
      dsimp only
      rw [stopped]
  | tooDeep read stopped =>
      rw [read]
      dsimp only
      rw [stopped]

/-- Loading ends with a record or with a report on it exactly if what is in the file can be looked
at as data. If it cannot be, the bare fault ends it. A record that is loaded has been checked. -/
theorem load_reports (s : Store) (h : Host) :
    let r : Except Fault (Environment τ) := (s.load h).1
    s.Loading h.files r ∧
    ((∀ f, r = .error f → f.ReportsState) ↔ ∀ f, ¬s.Illegible h.files f) ∧
    (∀ f, s.Illegible h.files f → r = .error f ∧ ¬f.ReportsState) ∧
    (∀ e, r = .ok e → ∃ v, Environment.ofJson v = .ok e) := by
  intro r
  have loading : s.Loading h.files r := s.load_loading h
  refine ⟨loading, ⟨?_, ?_⟩, ?_, ?_⟩
  · intro reports f illegible
    exact illegible.bare (reports f (load_of_illegible illegible))
  · intro legible f failed
    rw [failed] at loading
    cases loading with
    | directory => exact trouble_reports _ _
    | illegible found illegible => exact absurd ⟨_, found, illegible⟩ (legible f)
    | broken => exact trouble_reports _ _
    | invalid => exact trouble_reports _ _
  · exact fun f illegible => ⟨load_of_illegible illegible, illegible.bare⟩
  · intro e done
    rw [done] at loading
    cases loading with
    | absent => exact ⟨.obj [], rfl⟩
    | loaded found read whole valid => exact ⟨_, valid⟩

/-- One byte that spells nothing is enough to end loading without a report. -/
theorem load_without_report :
    let s : Store := ⟨⟨false, []⟩⟩
    let h : Host := { files := ⟨[([fileName], .file (.bytes [0xff]))]⟩ }
    let r : Except Fault Environment := (s.load h).1
    r = .error (.undecodable ⟨.badStart, 0, 0, 0xff⟩) ∧ ¬∀ f, r = .error f → f.ReportsState := by
  intro s h r
  have failed : r = .error (.undecodable ⟨.badStart, 0, 0, 0xff⟩) := by
    refine load_of_illegible ⟨.bytes [0xff], ?_, .undecodable rfl⟩
    rw [file_eq]
    rfl
  refine ⟨failed, fun reports => ?_⟩
  obtain ⟨_, _, _, _, same⟩ := reports _ failed
  cases same

/-- A file lies on the way to the directory. -/
def Obstructed (s : Store) (t : FileTree) : Prop :=
  ∃ q c, s.directory.LeadsThrough q ∧ t.lookup q = some (.file c)

/-- A directory lies at a place, or is made there on the way to the store's own. -/
def Occupied (s : Store) (t : FileTree) (q : Place) : Prop :=
  t.lookup q = some .directory ∨ s.directory.LeadsThrough q

/-- Once the store's directory is there, a place is occupied if a directory is there. -/
theorem occupied_iff {t₁ : FileTree} (grown : t.Grown s.directory.LeadsThrough t₁)
    (reached : ∀ q, s.directory.LeadsThrough q → t₁.lookup q = some .directory) (q : Place) :
    s.Occupied t q ↔ t₁.lookup q = some .directory := by
  constructor
  · rintro (there | on)
    · exact grown.directory there
    · exact reached q on
  · intro there
    rcases grown q with same | ⟨on, -, -⟩
    · exact .inl (same.symm.trans there)
    · exact .inr on

theorem draft_written_iff {c : Content}
    (reached : ∀ q, s.directory.LeadsThrough q → t.lookup q = some .directory) :
    (∃ t₁, t.withContent s.draft c = .ok t₁) ↔ t.lookup s.draft.place ≠ some .directory := by
  constructor
  · rintro ⟨t₁, written⟩
    exact (FileTree.withContent_eq_ok written).2.1
  · exact fun free => ⟨_, drafted_of_reached reached free c⟩

theorem draft_moved_iff {c : Content} {t₁ : FileTree}
    (reached : ∀ q, s.directory.LeadsThrough q → t.lookup q = some .directory)
    (written : t.withContent s.draft c = .ok t₁) :
    (∃ t₂, t₁.replaceFile s.draft s.file = .ok t₂) ↔ t.lookup s.file.place ≠ some .directory := by
  obtain ⟨-, free, -⟩ := FileTree.withContent_eq_ok written
  constructor
  · rintro ⟨t₂, moved⟩
    have vacant := (FileTree.replaceFile_eq_ok moved).2.1
    obtain ⟨-, -, rfl⟩ := FileTree.withContent_eq_ok written
    rw [FileTree.lookup_put_of_ne s.draft_ne_file.symm] at vacant
    exact vacant
  · intro vacant
    obtain ⟨t₁', t₂, written', moved⟩ := replaced_of_reached reached vacant free c
    rw [written] at written'
    cases written'
    exact ⟨t₂, moved⟩

section
variable [Limits]

/-- Why a record is not written to its end. -/
inductive Unwritable (e : Environment τ) : Fault → Prop
  /-- Its data lies too deep, or holds itself. -/
  | knotted {k : Yaml.Value.Knot}
      (knot : Yaml.Value.knotOfItems? Limits.saving e.director.data = some k) :
      Unwritable e (.plain .value k.text)
  /-- A number in it has more digits than are written. -/
  | long (followed : Yaml.Value.knotOfItems? Limits.saving e.director.data = none)
      (long : cutShort e ≠ none) : Unwritable e (.plain .value Json.unwritableText)

theorem finished_eq_error {f : Fault} : finished e = .error f ↔ Unwritable e f := by
  unfold finished Environment.written
  constructor
  · intro failed
    cases knot : Yaml.Value.knotOfItems? Limits.saving e.director.data with
    | some k =>
        rw [knot] at failed
        cases failed
        exact .knotted knot
    | none =>
        rw [knot] at failed
        cases cut : cutShort e with
        | none =>
            rw [cut] at failed
            cases failed
        | some cs =>
            rw [cut] at failed
            cases failed
            exact .long knot (by simp [cut])
  · rintro (⟨knot⟩ | ⟨followed, long⟩)
    · rw [knot]
      rfl
    · obtain ⟨cs, cut⟩ := Option.ne_none_iff_exists'.mp long
      rw [followed, cut]
      rfl

theorem finished_eq_ok_iff : finished e = .ok () ↔ ∀ f, ¬Unwritable e f := by
  constructor
  · intro done f unwritable
    rw [finished_eq_error.mpr unwritable] at done
    cases done
  · intro writable
    cases done : finished e with
    | ok => rfl
    | error f => exact absurd (finished_eq_error.mp done) (writable f)

theorem Unwritable.plain {f : Fault} (h : Unwritable e f) : ∃ text, f = .plain .value text := by
  cases h with
  | knotted => exact ⟨_, rfl⟩
  | long => exact ⟨_, rfl⟩

variable [DecidableEq τ]

/-- What saving among the files `t` ends with. -/
inductive Ending (s : Store) (e : Environment τ) (t : FileTree) : Except Fault Unit → Prop
  | forgotten (empty : e.isEmpty = true) (free : t.find s.file ≠ .ok .directory) :
      Ending s e t (.ok ())
  | unremoved (f : SystemFault) (empty : e.isEmpty = true) (directory : t.find s.file = .ok .directory) :
      Ending s e t (.error (trouble "Failed to remove state file" (.system f)))
  /-- The directory cannot be made. -/
  | obstructed (f : SystemFault) (nonempty : e.isEmpty = false) (obstructed : s.Obstructed t) :
      Ending s e t (.error (.system f))
  | unwritten (f : SystemFault) (nonempty : e.isEmpty = false) (open_ : ¬s.Obstructed t)
      (occupied : s.Occupied t s.draft.place) :
      Ending s e t (.error (trouble "Failed to save state file" (.system f)))
  /-- The draft is begun, and cannot be finished. -/
  | unfinished {f : Fault} (nonempty : e.isEmpty = false) (open_ : ¬s.Obstructed t)
      (free : ¬s.Occupied t s.draft.place) (unwritable : Unwritable e f) : Ending s e t (.error f)
  | unmoved (f : SystemFault) (nonempty : e.isEmpty = false) (open_ : ¬s.Obstructed t)
      (free : ¬s.Occupied t s.draft.place) (whole : ∀ f, ¬Unwritable e f)
      (occupied : s.Occupied t s.file.place) :
      Ending s e t (.error (trouble "Failed to save state file" (.system f)))
  | saved (nonempty : e.isEmpty = false) (open_ : ¬s.Obstructed t)
      (free : ¬s.Occupied t s.draft.place) (whole : ∀ f, ¬Unwritable e f)
      (vacant : ¬s.Occupied t s.file.place) : Ending s e t (.ok ())

theorem remove_ending {h : Host} (empty : e.isEmpty = true) :
    s.Ending e h.files (s.remove h).1 := by
  unfold remove
  split
  case isFalse missing =>
    refine .forgotten empty fun found => missing ?_
    exact FileTree.has_eq_true.mpr ⟨_, found⟩
  case isTrue there =>
    obtain ⟨node, found⟩ := FileTree.has_eq_true.mp there
    obtain ⟨passable, here⟩ := FileTree.find_eq_ok.mp found
    rw [Act.bind_apply]
    cases node with
    | file c =>
        rw [Host.change_of_ok (FileTree.removeFile_of_file passable here)]
        refine .forgotten empty ?_
        rw [found]
        nofun
    | directory =>
        cases step : h.files.removeFile s.file with
        | error f =>
            rw [Host.change_of_error step]
            exact .unremoved f empty found
        | ok t =>
            obtain ⟨c, file⟩ := (FileTree.removeFile_eq_ok step).2.1
            rw [here] at file
            cases file

theorem save_ending (s : Store) (e : Environment τ) (h : Host) :
    s.Ending e h.files (s.save e h).1 := by
  unfold save
  split
  case isTrue empty => exact remove_ending empty
  case isFalse full =>
    have nonempty : e.isEmpty = false := Bool.eq_false_iff.mpr full
    have grown := FileTree.reachDirectory_grown h.files s.directory.parts.length s.directory
    have opens := FileTree.reachDirectory_eq_ok (t := h.files) (p := s.directory) Nat.le.refl
    simp only [Act.bind_apply, Host.makeDirectories]
    cases run : h.files.reachDirectory s.directory.parts.length s.directory with | mk r t₁ =>
    have reached (done : r = .ok ()) (q : Place) (on : s.directory.LeadsThrough q) :
        t₁.lookup q = some .directory := by
      subst done
      have there := FileTree.directories_of_reachDirectory (congrArg Prod.fst run) on
      rw [run] at there
      exact there
    rw [run] at grown opens
    cases r with
    | error f =>
        refine .obstructed f nonempty ?_
        by_contra open_
        have done := opens.mpr fun q c on file => open_ ⟨q, c, on, file⟩
        cases done
    | ok =>
      have open_ : ¬s.Obstructed h.files := by
        rintro ⟨q, c, on, file⟩
        exact opens.mp rfl q c on file
      have occupied := occupied_iff grown (reached rfl)
      have written_iff := draft_written_iff (c := .text (begun e)) (reached rfl)
      simp only [Except.mapError]
      cases written : t₁.withContent s.draft (.text (begun e)) with
      | error f =>
          rw [Host.change_of_error written]
          refine .unwritten f nonempty open_ ((occupied _).mpr ?_)
          by_contra free
          obtain ⟨t₂, done⟩ := written_iff.mpr free
          rw [written] at done
          cases done
      | ok t₂ =>
          have free := mt (occupied _).mp (written_iff.mp ⟨t₂, written⟩)
          have moved_iff := draft_moved_iff (reached rfl) written
          rw [Host.change_of_ok written]
          cases done : finished e with
          | error f => exact .unfinished nonempty open_ free (finished_eq_error.mp done)
          | ok =>
              have whole := finished_eq_ok_iff.mp done
              simp only [Act.ofExcept]
              cases moved : t₂.replaceFile s.draft s.file with
              | error f =>
                  rw [Host.change_of_error moved]
                  refine .unmoved f nonempty open_ free whole ((occupied _).mpr ?_)
                  by_contra vacant
                  obtain ⟨t₃, done⟩ := moved_iff.mpr vacant
                  rw [moved] at done
                  cases done
              | ok t₃ =>
                  rw [Host.change_of_ok moved]
                  exact .saved nonempty open_ free whole (mt (occupied _).mp (moved_iff.mp ⟨t₃, moved⟩))

namespace Ending
variable {r : Except Fault Unit}

/-- The system's own fault comes out exactly if there is something to write and a file in the way. -/
theorem system_iff (h : s.Ending e t r) :
    (∃ f, r = .error (.system f)) ↔ e.isEmpty = false ∧ s.Obstructed t := by
  cases h with
  | forgotten empty free => simp [empty]
  | unremoved f empty => simp [empty, trouble, Fault.reportOf]
  | obstructed f nonempty obstructed => simp [nonempty, obstructed]
  | unwritten f nonempty open_ => simp [open_, trouble, Fault.reportOf]
  | unfinished nonempty open_ free unwritable =>
      obtain ⟨text, rfl⟩ := unwritable.plain
      simp [open_]
  | unmoved f nonempty open_ => simp [open_, trouble, Fault.reportOf]
  | saved nonempty open_ => simp [open_]

/-- Nothing but a report comes out unless the directory cannot be made or the record cannot be
written to its end. -/
theorem reports_iff (h : s.Ending e t r) : (∀ f, r = .error f → f.ReportsState) ↔
    e.isEmpty = true ∨
      (¬s.Obstructed t ∧ ((∀ f, ¬Unwritable e f) ∨ s.Occupied t s.draft.place)) := by
  cases h with
  | forgotten empty free => simp [empty]
  | unremoved f empty => simp [empty, trouble_reports]
  | obstructed f nonempty obstructed => simp [nonempty, obstructed, Fault.ReportsState]
  | unwritten f nonempty open_ occupied => simp [open_, occupied, trouble_reports]
  | unfinished nonempty open_ free unwritable =>
      have stopped : ¬∀ f, ¬Unwritable e f := fun whole => whole _ unwritable
      obtain ⟨text, rfl⟩ := unwritable.plain
      simp [nonempty, free, stopped, Fault.ReportsState]
  | unmoved f nonempty open_ free whole => simp [open_, whole, trouble_reports]
  | saved nonempty open_ free whole => simp [open_, whole]

theorem ok_iff (h : s.Ending e t r) :
    r = .ok () ↔ (e.isEmpty = true ∧ t.find s.file ≠ .ok .directory) ∨
      (e.isEmpty = false ∧ ¬s.Obstructed t ∧ ¬s.Occupied t s.draft.place ∧
        (∀ f, ¬Unwritable e f) ∧ ¬s.Occupied t s.file.place) := by
  cases h with
  | forgotten empty free => simp [empty, free]
  | unremoved f empty directory => simp [empty, directory]
  | obstructed f nonempty obstructed => simp [nonempty, obstructed]
  | unwritten f nonempty open_ occupied => simp [nonempty, occupied]
  | unfinished nonempty open_ free unwritable =>
      have stopped : ¬∀ f, ¬Unwritable e f := fun whole => whole _ unwritable
      simp [nonempty, stopped]
  | unmoved f nonempty open_ free whole occupied => simp [nonempty, occupied]
  | saved nonempty open_ free whole vacant => simp [nonempty, open_, free, whole, vacant]

end Ending

end

end Store
end Dismantle
