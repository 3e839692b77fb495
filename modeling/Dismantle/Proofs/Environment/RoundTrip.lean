import Dismantle.Proofs.Environment.Form
import Dismantle.Proofs.Environment.Saving
import Dismantle.Proofs.Json.RoundTrip
/-! A saved record, loaded again. What is written is plain ASCII without carriage returns, so neither
the bytes of the file nor its line ends come between the text and its reader. -/
namespace Dismantle

namespace Text

theorem unifyLineEnds_eq_self {cs : List Char} (h : '\r' ∉ cs) : unifyLineEnds cs = cs := by
  induction cs with
  | nil => rfl
  | cons c cs ih =>
      rw [List.mem_cons, not_or] at h
      rw [unifyLineEnds, if_neg (Ne.symm h.1), ih h.2]
      rintro rest rfl
      exact absurd rfl h.1

theorem unifyLineEnds_printed {cs : List Char} (printed : ∀ c ∈ cs, Json.Printed c) :
    unifyLineEnds cs = cs :=
  unifyLineEnds_eq_self fun member => absurd (printed _ member) (by decide)

/-- Characters of one byte each come back from their bytes. -/
theorem Utf8.decode_encode {cs : List Char} (ascii : ∀ c ∈ cs, c.toNat < 0x80) :
    Utf8.decode (Utf8.encode cs) = .ok cs := by
  have onto (place : Nat) (done : List Char) :
      Utf8.scan (Utf8.encode cs) place none done = .ok (done.reverse ++ cs) := by
    induction cs generalizing place done with
    | nil =>
        rw [List.append_nil]
        rfl
    | cons c cs ih =>
        obtain ⟨here, others⟩ := List.forall_mem_cons.mp ascii
        have byte : (UInt8.ofNat c.toNat).toNat = c.toNat := by
          rw [UInt8.toNat_ofNat']
          omega
        have one : Utf8.encode (c :: cs) = UInt8.ofNat c.toNat :: Utf8.encode cs := by
          rw [Utf8.encode, List.flatMap_cons, Utf8.encodeChar]
          simp only [if_pos here]
          rfl
        rw [one, Utf8.scan, byte, if_pos here, Char.ofNat_toNat, ih others, List.reverse_cons,
          List.append_assoc, List.singleton_append]
  exact onto 0 []

end Text

theorem Content.read_printed {text : String} (printed : ∀ c ∈ text.toList, Json.Printed c) :
    (Content.text text).read = .ok text := by
  rw [read, Text.unifyLineEnds_printed printed, String.ofList_toList]

namespace Store
variable {τ : Type} [Wording τ] {s : Store} {e : Environment τ} {t : FileTree}

theorem form_printed (storable : e.toJson.storable Json.maxDepth = true) :
    ∀ c ∈ (form e).toList, Json.Printed c := by
  rw [form, Json.page, String.toList_ofList]
  exact Json.printed_of_mem_write Json.Layout.indented_blank storable 0

theorem parse_of_read {c : Content} (storable : e.toJson.storable Json.maxDepth = true)
    (settled : e.settled = e) (read : c.read = .ok (form e)) : s.parse c = .ok e := by
  rw [parse, read]
  simp only [form, Json.read_page storable, Environment.ofJson_toJson, settled]

theorem parse_form (storable : e.toJson.storable Json.maxDepth = true) (settled : e.settled = e) :
    s.parse (.text (form e)) = .ok e :=
  parse_of_read storable settled (Content.read_printed (form_printed storable))

theorem parse_bytes (storable : e.toJson.storable Json.maxDepth = true) (settled : e.settled = e) :
    s.parse (.bytes (Content.text (form e)).toBytes) = .ok e := by
  have printed := form_printed storable
  have ascii : ∀ c ∈ (form e).toList, c.toNat < 0x80 := by
    intro c member
    rcases printed c member with rfl | visible
    · decide
    · omega
  apply parse_of_read storable settled
  rw [Content.read, Content.toBytes, Text.Utf8.decode_encode ascii]
  simp only [Except.map]
  rw [Text.unifyLineEnds_printed printed, String.ofList_toList]

theorem load_of_missing {h : Host} (missing : h.files.has s.file = false) :
    (s.load h).1 = .ok ({} : Environment τ) := by
  rw [load, exists_, missing, if_neg Bool.false_ne_true]
  rfl

theorem load_of_found {h : Host} {c : Content} (found : h.files.find s.file = .ok (.file c)) :
    (s.load h).1 = (s.parse c : Except Fault (Environment τ)) := by
  have there : h.files.has s.file = true := FileTree.has_eq_true.mpr ⟨_, found⟩
  rw [load, exists_, there, if_pos rfl, FileTree.contentAt_eq_ok.mpr found]

/-- A record can be saved: no file is in the way of the directory, and neither the record's file nor
its draft is a directory or a place that the way to them leads through. -/
structure Writable (s : Store) (t : FileTree) : Prop where
  free : ∀ q c, s.directory.LeadsThrough q → t.lookup q ≠ some (.file c)
  file : t.lookup s.file.place ≠ some .directory
  draft : t.lookup s.draft.place ≠ some .directory
  apart : ¬s.directory.LeadsThrough s.file.place ∧ ¬s.directory.LeadsThrough s.draft.place

/-- Below a path without double dots, no file in the way is all it takes. -/
theorem writable_of_plain (plain : ".." ∉ s.directory.parts)
    (free : ∀ q c, s.directory.LeadsThrough q → t.lookup q ≠ some (.file c))
    (file : t.lookup s.file.place ≠ some .directory)
    (draft : t.lookup s.draft.place ≠ some .directory) : s.Writable t := by
  have below (name : String) : ¬s.directory.LeadsThrough (s.directory.place ++ [name]) := by
    intro h
    have length := h.length_le plain
    rw [Path.place, Place.follow_plain plain, List.length_append, List.length_append,
      List.length_singleton] at length
    omega
  refine ⟨free, file, draft, ?_, ?_⟩
  · rw [file_place]
    exact below fileName
  · rw [draft_place]
    exact below "envteardown-state.tmp"

/-- New directories on the way are in nobody's way. -/
theorem Writable.grown {t' : FileTree} (h : s.Writable t)
    (grown : t.Grown s.directory.LeadsThrough t') : s.Writable t' := by
  refine ⟨fun q c on file => h.free q c on (grown.file.mp file), ?_, ?_, h.apart⟩
  · rw [grown.unchanged h.apart.1]
    exact h.file
  · rw [grown.unchanged h.apart.2]
    exact h.draft

/-- Nor is what happens to the file and the draft, unless they become directories. -/
theorem Writable.elsewhere {t' : FileTree} (h : s.Writable t)
    (same : ∀ q, q ≠ s.file.place → q ≠ s.draft.place → t'.lookup q = t.lookup q)
    (file : t'.lookup s.file.place ≠ some .directory)
    (draft : t'.lookup s.draft.place ≠ some .directory) : s.Writable t' := by
  refine ⟨fun q c on => ?_, file, draft, h.apart⟩
  have notFile : q ≠ s.file.place := by
    rintro rfl
    exact h.apart.1 on
  have notDraft : q ≠ s.draft.place := by
    rintro rfl
    exact h.apart.2 on
  rw [same q notFile notDraft]
  exact h.free q c on

theorem writable_of_none (plain : ".." ∉ s.directory.parts) : s.Writable {} := by
  have nothing (q : Place) (h : q ≠ []) : FileTree.lookup {} q = none := if_neg h
  refine writable_of_plain plain ?_ ?_ ?_
  · intro q c _ file
    by_cases root : q = []
    · rw [root] at file
      cases file
    · rw [nothing q root] at file
      cases file
  · rw [nothing _ s.file_ne_root]
    nofun
  · rw [nothing _ s.draft_ne_root]
    nofun

theorem draft_parent (s : Store) : s.draft.place.dropLast = s.directory.place := by
  rw [draft_place, List.dropLast_concat]

/-- With the directory and all above it there, the way to what lies in it is open. -/
theorem passable_of_reached (reached : ∀ q, s.directory.LeadsThrough q → t.lookup q = some .directory) :
    t.Passable [] s.file.parts ∧ t.Passable [] s.draft.parts := by
  have inside (name : String) : t.Passable [] (s.directory.parts ++ [name]) := by
    rw [FileTree.passable_append]
    refine ⟨FileTree.passable_of_directories fun front le => reached _ ⟨front, le, rfl⟩, ?_, trivial⟩
    exact reached _ s.directory.leadsThrough_place
  rw [file_eq, draft_eq]
  exact ⟨inside _, inside _⟩

theorem remove_of_writable {h : Host} (writable : s.Writable h.files) : (s.remove h).1 = .ok () := by
  unfold remove
  split
  case isFalse => rfl
  case isTrue there =>
    obtain ⟨node, found⟩ := FileTree.has_eq_true.mp there
    obtain ⟨passable, here⟩ := FileTree.find_eq_ok.mp found
    cases node with
    | directory => exact absurd here writable.file
    | file c =>
        rw [Act.bind_apply, Host.change_of_ok (FileTree.removeFile_of_file passable here)]
        rfl

theorem drafted_of_reached
    (reached : ∀ q, s.directory.LeadsThrough q → t.lookup q = some .directory)
    (draft : t.lookup s.draft.place ≠ some .directory) (c : Content) :
    t.withContent s.draft c = .ok (t.put s.draft.place (.file c)) := by
  refine FileTree.withContent_of_free (passable_of_reached reached).2 draft ?_
  rw [draft_parent]
  exact reached _ s.directory.leadsThrough_place

theorem replaced_of_reached
    (reached : ∀ q, s.directory.LeadsThrough q → t.lookup q = some .directory)
    (file : t.lookup s.file.place ≠ some .directory)
    (draft : t.lookup s.draft.place ≠ some .directory) (c : Content) :
    ∃ t₁ t₂, t.withContent s.draft c = .ok t₁ ∧ t₁.replaceFile s.draft s.file = .ok t₂ := by
  obtain ⟨toFile, toDraft⟩ := passable_of_reached reached
  have written := drafted_of_reached reached draft c
  have stays (q : Place) (there : t.lookup q = some .directory) :
      (t.put s.draft.place (.file c)).lookup q = some .directory := by
    have other : q ≠ s.draft.place := by
      rintro rfl
      exact draft there
    rw [FileTree.lookup_put_of_ne other, there]
  have free : (t.put s.draft.place (.file c)).lookup s.file.place ≠ some .directory := by
    rw [FileTree.lookup_put_of_ne s.draft_ne_file.symm]
    exact file
  exact ⟨_, _, written, FileTree.replaceFile_of_file (toDraft.mono stays) (toFile.mono stays)
    (FileTree.lookup_put_self s.draft_ne_root) free⟩

theorem recordVersion_short : Json.Short recordVersion := by
  decide

section
variable [Limits]

/-- The version comes first, so a record is only written to its end if its version is short. -/
theorem version_short (whole : finished e = .ok ()) : Json.Short e.version := by
  have whole := (finished_eq_ok.mp whole).2
  cases stopped : Json.cutShort .indented 1 (.int e.version) with
  | none => exact Json.cutShort_int.mp stopped
  | some cs =>
      rw [cutShort, Environment.toJson, Json.cutShort, Json.cutShortFields, stopped] at whole
      cases whole

theorem finished_of_storable (storable : e.Storable) (short : Json.Short e.version) :
    finished e = .ok () := by
  refine finished_eq_ok.mpr ⟨⟨_, Environment.written_of_durable storable.director.durable⟩, ?_⟩
  exact Json.cutShort_of_storable (Environment.storable_toJson storable short) 0

variable [DecidableEq τ]

theorem save_of_writable {h : Host} (writable : s.Writable h.files) :
    (s.save e h).1 = if e.isEmpty then .ok () else finished e := by
  unfold save
  split
  case isTrue => exact remove_of_writable writable
  case isFalse nonempty =>
    obtain ⟨made, reached⟩ := FileTree.reachDirectory_reaches Nat.le.refl writable.free
    have grown := FileTree.reachDirectory_grown h.files s.directory.parts.length s.directory
    simp only [Act.bind_apply, Host.makeDirectories]
    cases run : h.files.reachDirectory s.directory.parts.length s.directory with | mk r t₁ =>
    rw [run] at made reached grown
    subst made
    have writable₁ := writable.grown grown
    obtain ⟨t₂, t₃, written, moved⟩ :=
      replaced_of_reached reached writable₁.file writable₁.draft (.text (begun e))
    simp only [Except.mapError]
    rw [Host.change_of_ok written]
    cases done : finished e with
    | error f => rfl
    | ok =>
        simp only [Act.ofExcept]
        rw [Host.change_of_ok moved]
        rfl

/-- However saving ends, a record can be saved again. -/
theorem Saving.writable {r : Except Fault Unit} {t' : FileTree} (saving : s.Saving e t r t')
    (h : s.Writable t) : s.Writable t' := by
  cases saving with
  | absent => exact h
  | removed empty gone =>
      obtain ⟨-, -, rfl⟩ := FileTree.removeFile_eq_ok gone
      refine h.elsewhere (fun q notFile _ => FileTree.lookup_erase_of_ne notFile) ?_ ?_
      · rw [FileTree.lookup_erase_self s.file_ne_root]
        nofun
      · rw [FileTree.lookup_erase_of_ne s.draft_ne_file]
        exact h.draft
  | stuck => exact h
  | unwritten f grown => exact h.grown grown
  | drafted f grown written =>
      obtain ⟨-, -, rfl⟩ := FileTree.withContent_eq_ok written
      refine (h.grown grown).elsewhere (fun q _ notDraft => FileTree.lookup_put_of_ne notDraft) ?_ ?_
      · rw [FileTree.lookup_put_of_ne s.draft_ne_file.symm]
        exact (h.grown grown).file
      · rw [FileTree.lookup_put_self s.draft_ne_root]
        nofun
  | replaced nonempty whole grown written moved =>
      obtain ⟨found, noDraft, same⟩ := replaced_files written moved
      refine (h.grown grown).elsewhere same ?_ ?_
      · rw [(FileTree.find_eq_ok.mp found).2]
        nofun
      · rw [noDraft]
        nofun

theorem load_of_saved {h : Host} (storable : e.Storable) (saved : (s.save e h).1 = .ok ()) :
    (s.load (s.save e h).2).1 = .ok (if e.isEmpty then {} else e) := by
  have outcome := (s.save_saving e h).allOrNothing
  have saving := s.save_saving e h
  rw [saved] at saving
  cases empty : e.isEmpty with
  | true =>
      rw [if_pos rfl]
      exact load_of_missing (outcome.removed saved empty)
  | false =>
      obtain ⟨found, -⟩ := outcome.saved saved empty
      have whole : finished e = .ok () := by
        generalize (s.save e h).2.files = files at saving
        cases saving with
        | absent full =>
            rw [empty] at full
            cases full
        | removed full =>
            rw [empty] at full
            cases full
        | replaced _ whole => exact whole
      have written := Environment.storable_toJson storable (version_short whole)
      rw [if_neg Bool.false_ne_true, load_of_found found]
      exact parse_form written (Environment.settled_of_durable storable.director.durable)

/-- What is written like another record, one that a file gives back, is loaded as that record. -/
theorem load_of_alike {e e' : Environment τ} {h : Host} (writable : s.Writable h.files)
    (finishes : finished e = .ok ()) (alike : form e = form e') (full : e.isEmpty = false)
    (full' : e'.isEmpty = false) (storable : e'.Storable) (short : Json.Short e'.version) :
    ∃ h', s.save e h = (.ok (), h') ∧ (s.load h').1 = .ok e' := by
  have finishes' := finished_of_storable storable short
  have same : s.save e = s.save e' := by
    rw [save, save, full, full', begun_of_finished finishes, begun_of_finished finishes', alike,
      finishes, finishes']
  have saved : (s.save e' h).1 = .ok () := by
    rw [save_of_writable writable, full', finishes']
    rfl
  have loaded := load_of_saved storable saved
  rw [full', if_neg Bool.false_ne_true] at loaded
  refine ⟨(s.save e' h).2, ?_, loaded⟩
  rw [same, ← saved]

end

/-- A record of no more than a name and the state that a deployment left. -/
def lake (state : Fields) : Environment := { envId := "lake", director := { state } }

theorem lake_storable {state : Fields} (plain : (Json.obj state).isPlain = true)
    (shallow : (Yaml.Value.ofJson (.obj state)).height ≤ Limits.saving + 1)
    (storable : (Json.obj state).storable (Json.maxDepth - 2) = true) : (lake state).Storable :=
  Environment.storable_of_director (Director.storable_of_state rfl ⟨plain, shallow⟩ storable)

theorem form_lake {given taken : Fields} (alike : ∀ k, Json.write .indented k (Json.obj given).settled
      = Json.write .indented k (Json.obj taken).settled) : form (lake given) = form (lake taken) := by
  simp only [form, Json.page, lake, Environment.toJson, Director.toJson, Json.write, Json.writeFields,
    alike]

/-- A record like this is loaded as one that is written alike, if a file gives that one back. -/
theorem load_lake {s : Store} (writable : s.Writable {}) (given taken : Fields)
    (finishes : finished (lake given) = .ok ())
    (alike : ∀ k, Json.write .indented k (Json.obj given).settled
      = Json.write .indented k (Json.obj taken).settled) (storable : (lake taken).Storable) :
    ∃ h, s.save (lake given) {} = (.ok (), h) ∧ (s.load h).1 = .ok (lake taken) :=
  load_of_alike writable finishes (form_lake alike) rfl rfl storable recordVersion_short

end Store
end Dismantle
