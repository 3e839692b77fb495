import Dismantle.Proofs.Bosh.Tool
import Dismantle.Proofs.Environment.RoundTrip
import Dismantle.Proofs.Files.Reading
import Dismantle.Proofs.Yaml.Value
/-! The credentials that a failed deletion tells. Whatever text the program has left of them stands
for a value or is malformed, and this decides what is taken. -/
namespace Dismantle

namespace Bosh

theorem handed_state (d : Director) :
    (handed d).get? stateFile = some (.text (Json.line (.obj d.state))) := by
  rw [handed, NamedFiles.get?_put, if_neg (by decide), NamedFiles.get?_put, if_pos rfl]

theorem read_line {fields : Fields} (storable : (Json.obj fields).storable Json.maxDepth = true) :
    (Content.text (Json.line (.obj fields))).read = .ok (Json.line (.obj fields)) := by
  refine Content.read_printed ?_
  rw [Json.line, String.toList_ofList]
  exact Json.printed_of_mem_write Json.Layout.oneLine_blank storable 0

theorem nameOf_ofSpelling (t : Spelling) : Tool.nameOf (.ofSpelling t) = .ok t := by
  cases t <;> rfl

theorem misnamed_of_isText {entries : List (Yaml.Value × Yaml.Value)}
    (texts : ∀ entry ∈ entries, entry.1.IsText) : (misnamed entries).issues = [] := by
  refine List.filterMap_eq_nil_iff.mpr fun entry member => ?_
  obtain ⟨t, text⟩ := texts entry member
  rw [text, nameOf_ofSpelling]

/-- A map with texts for keys is taken as it is. -/
theorem named_pairs {entries : Yaml.Entries} (distinct : Yaml.Value.Distinct entries.pairs) :
    named entries.pairs = entries := by
  rw [named, Yaml.Entries.pairs, List.foldl_map]
  simp only [nameOf_ofSpelling]
  exact Json.foldl_put_of_nodup entries [] (Yaml.Entries.nodup_of_distinct distinct)

section
variable [Limits] {known credentials : Yaml.Entries} {c : Content} {s : String} {f : Fault}

theorem CredentialsTaken.of_value {v : Yaml.Value} (holds : c.Holds s)
    (whole : Yaml.Value.read Limits.reading s.toList = .ok v)
    (taken : CredentialsTaken known (some c) credentials) :
    (v.Hollow ∧ credentials = []) ∨
      (¬v.Hollow ∧ (∀ entries, v ≠ .map entries) ∧ credentials = known) ∨
      ∃ entries, v = .map entries ∧ credentials = named entries := by
  have same := Content.read_eq_ok.mpr holds
  cases taken with
  | malformed read stopped =>
      cases read.symm.trans same
      cases stopped.symm.trans whole
  | none read whole' nothing =>
      cases read.symm.trans same
      cases whole'.symm.trans whole
      exact .inl ⟨Yaml.Value.counts_eq_false.mp nothing, rfl⟩
  | foreign read whole' counts other =>
      cases read.symm.trans same
      cases whole'.symm.trans whole
      refine .inr (.inl ⟨fun hollow => ?_, other, rfl⟩)
      cases counts.symm.trans (Yaml.Value.counts_eq_false.mpr hollow)
  | taken read whole' =>
      cases read.symm.trans same
      cases whole'.symm.trans whole
      exact .inr (.inr ⟨_, rfl, rfl⟩)

theorem CredentialsTaken.of_malformed (holds : c.Holds s)
    (stopped : Yaml.Value.read Limits.reading s.toList = .error .malformed)
    (taken : CredentialsTaken known (some c) credentials) : credentials = known := by
  have same := Content.read_eq_ok.mpr holds
  cases taken with
  | malformed => rfl
  | foreign => rfl
  | none read whole | taken read whole =>
      cases read.symm.trans same
      cases whole.symm.trans stopped

/-- Credentials that stand for a value fit, unless they are a map with a key that is no text. -/
theorem fit_of_value {v : Yaml.Value} (holds : c.Holds s)
    (whole : Yaml.Value.read Limits.reading s.toList = .ok v)
    (texts : ∀ entries, v = .map entries → ∀ entry ∈ entries, entry.1.IsText) : ¬Unfit c f := by
  have same := Content.read_eq_ok.mpr holds
  intro unfit
  cases unfit with
  | undecodable read => cases read.symm.trans same
  | impossible read stopped | tooDeep read stopped =>
      cases read.symm.trans same
      cases stopped.symm.trans whole
  | misnamed read whole' counts wrong =>
      cases read.symm.trans same
      exact wrong (misnamed_of_isText (texts _ (Except.ok.inj (whole.symm.trans whole'))))

theorem fit_of_malformed (holds : c.Holds s)
    (stopped : Yaml.Value.read Limits.reading s.toList = .error .malformed) : ¬Unfit c f := by
  have same := Content.read_eq_ok.mpr holds
  intro unfit
  cases unfit with
  | undecodable read => cases read.symm.trans same
  | impossible read other | tooDeep read other =>
      cases read.symm.trans same
      cases other.symm.trans stopped
  | misnamed read whole =>
      cases read.symm.trans same
      cases whole.symm.trans stopped

end

theorem legible_of_line {fields : Fields} {f : Fault}
    (storable : (Json.obj fields).storable Json.maxDepth = true) :
    ¬(Content.text (Json.line (.obj fields))).Illegible f := by
  intro illegible
  obtain ⟨u, stopped, -⟩ := illegible.stopped (read_line storable)
  cases stopped.symm.trans (Json.read_line storable)

section
variable [Limits]

theorem Recovered.credentials {e left : Environment} {files : NamedFiles}
    (recovered : Recovered e files left) : CredentialsTaken e.director.credentials
      (files.get? credentialsFile) left.director.credentials := by
  obtain ⟨-, state, credentials, -, taken, rfl⟩ := recovered
  exact taken

/-- A failed deletion tells what is left if the record can be copied, the state file can be looked at
as data and the credentials fit. -/
theorem Deletion.recovers {t : Tool} {e : Environment} {reply : ProcessReply}
    {r : Except Fault Unit} (deletion : Deletion t e reply r) (tells : reply.ending.Tells)
    (shallow : e.director.height ≤ Limits.copying)
    (legible : ∀ c f, (reply.change (handed e.director)).get? stateFile = some c → ¬c.Illegible f)
    {c : Content} (found : (reply.change (handed e.director)).get? credentialsFile = some c)
    (fit : ∀ f, ¬Unfit c f) : ∃ left cause, r = .error (.directorLeft left cause) ∧
      Recovered e (reply.change (handed e.director)) left := by
  rcases deletion.of_failed tells.failed with
    ⟨left, cause, -, -, told, recovered⟩ | ⟨f, -, untold⟩
  · exact ⟨left, cause, told, recovered⟩
  · cases untold with
    | escaped escapes => exact absurd tells escapes.not_tells
    | spoilt _ spoilt =>
        cases spoilt with
        | record deep => exact absurd shallow (Nat.not_le_of_lt deep)
        | state _ found illegible => exact absurd illegible (legible _ _ found)
        | credentials _ legible found' unfit =>
            cases found'.symm.trans found
            exact absurd unfit (fit _)

/-- A failed deletion tells nothing of a record that cannot be copied. -/
theorem Deletion.exhausted {t : Tool} {e : Environment} {reply : ProcessReply}
    {r : Except Fault Unit} (deletion : Deletion t e reply r) (tells : reply.ending.Tells)
    (deep : Limits.copying < e.director.height) : r = .error .exhausted := by
  have deep := Nat.not_le_of_lt deep
  rcases deletion.of_failed tells.failed with
    ⟨left, cause, -, -, -, shallow, -⟩ | ⟨f, rfl, untold⟩
  · exact absurd shallow deep
  · cases untold with
    | escaped escapes => exact absurd tells escapes.not_tells
    | spoilt _ spoilt =>
        cases spoilt with
        | record => rfl
        | state shallow | credentials shallow => exact absurd shallow deep

/-- A director that can be deleted: the program is started once and does what it is known to do. -/
theorem Tool.delete_launches (t : Tool) {e : Environment} (deletable : Deletable e.director)
    (h : Host) : ∃ l, h.launches (t.delete e h).2 = [l] ∧
      l.Begins ["delete-env"] (handed e.director) ∧
      (isArgument t.program = true → l.reply = h.replies.headD {}) ∧
      Deletion t e l.reply (t.delete e h).1 := by
  obtain ⟨es, contacts, ⟨-, -, unfit⟩ | ⟨l, rfl, given, begins, deletion⟩⟩ := t.delete_engages e h
  · exact absurd deletable unfit
  · have launched : h.launches (t.delete e h).2 = [l] := contacts.launches
    refine ⟨l, launched, begins, fun argument => ?_, deletion⟩
    refine (Host.reply_of_launches launched).2 ?_
    rw [given, Tool.command, List.all_cons, argument]
    decide

end

/-- A failure that tells what is left of a director, with these credentials. -/
def Tells (r : Except Fault Unit) (credentials : Yaml.Entries) : Prop :=
  ∃ left cause, r = .error (.directorLeft left cause) ∧ left.director.credentials = credentials

/-- What a failed deletion tells of the credentials when the program has left this text of them. -/
structure TellsCredentials [Limits] (known : Yaml.Entries) (s : String) (r : Except Fault Unit) :
    Prop where
  named (entries : Yaml.Entries) : Yaml.Value.read Limits.reading s.toList = .ok (.map entries.pairs) →
    Tells r entries
  hollow (v : Yaml.Value) : Yaml.Value.read Limits.reading s.toList = .ok v → v.Hollow → Tells r []
  foreign (v : Yaml.Value) : Yaml.Value.read Limits.reading s.toList = .ok v → ¬v.Hollow →
    (∀ entries, v ≠ .map entries) → Tells r known
  malformed : Yaml.Value.read Limits.reading s.toList = .error .malformed → Tells r known

section
variable [Limits] {t : Tool} {e : Environment} {reply : ProcessReply} {r : Except Fault Unit}
  {c : Content} {s : String}

/-- What a failed deletion tells of credentials that fit. -/
theorem Deletion.takes (deletion : Deletion t e reply r) (tells : reply.ending.Tells)
    (shallow : e.director.height ≤ Limits.copying)
    (legible : ∀ c f, (reply.change (handed e.director)).get? stateFile = some c → ¬c.Illegible f)
    (found : (reply.change (handed e.director)).get? credentialsFile = some c)
    (fit : ∀ f, ¬Unfit c f) : ∃ left cause, r = .error (.directorLeft left cause) ∧
      CredentialsTaken e.director.credentials (some c) left.director.credentials := by
  obtain ⟨left, cause, told, recovered⟩ := deletion.recovers tells shallow legible found fit
  exact ⟨left, cause, told, found ▸ recovered.credentials⟩

/-- What a failed deletion tells of credentials, by the value that their text stands for. -/
theorem Deletion.tellsCredentials (deletion : Deletion t e reply r) (tells : reply.ending.Tells)
    (shallow : e.director.height ≤ Limits.copying)
    (legible : ∀ c f, (reply.change (handed e.director)).get? stateFile = some c → ¬c.Illegible f)
    (found : (reply.change (handed e.director)).get? credentialsFile = some c)
    (holds : c.Holds s) : TellsCredentials e.director.credentials s r := by
  have takes := deletion.takes tells shallow legible found
  constructor
  case named =>
      intro entries whole
      have fit (f : Fault) : ¬Unfit c f :=
        fit_of_value holds whole fun _ same => Yaml.Value.map.inj same ▸ entries.pairs_isText
      obtain ⟨left, cause, told, taken⟩ := takes fit
      refine ⟨left, cause, told, ?_⟩
      rcases taken.of_value holds whole with ⟨hollow, none⟩ | ⟨-, other, -⟩ | ⟨_, same, given⟩
      · rw [none, Yaml.Entries.eq_nil_of_hollow hollow]
      · exact absurd rfl (other entries.pairs)
      · cases same
        rw [given, named_pairs (Yaml.Value.read_distinct whole)]
  case hollow =>
      intro v whole hollow
      have fit (f : Fault) : ¬Unfit c f := by
        refine fit_of_value holds whole fun entries map => ?_
        subst map
        cases hollow
        exact List.forall_mem_nil _
      obtain ⟨left, cause, told, taken⟩ := takes fit
      refine ⟨left, cause, told, ?_⟩
      rcases taken.of_value holds whole with ⟨-, none⟩ | ⟨solid, -, -⟩ | ⟨entries, map, given⟩
      · exact none
      · exact absurd hollow solid
      · cases map
        cases hollow
        exact given
  case foreign =>
      intro v whole solid other
      have fit (f : Fault) : ¬Unfit c f :=
        fit_of_value holds whole fun entries map => absurd map (other entries)
      obtain ⟨left, cause, told, taken⟩ := takes fit
      refine ⟨left, cause, told, ?_⟩
      rcases taken.of_value holds whole with ⟨hollow, -⟩ | ⟨-, -, kept⟩ | ⟨entries, map, -⟩
      · exact absurd hollow solid
      · exact kept
      · exact absurd map (other entries)
  case malformed =>
      intro stopped
      obtain ⟨left, cause, told, taken⟩ := takes fun f => fit_of_malformed holds stopped
      exact ⟨left, cause, told, taken.of_malformed holds stopped⟩

end

/-- Whatever text a program that failed has left of the credentials, a map with texts for keys is taken
as it is, anything that counts for nothing is taken for no credentials, and else they stay as recorded. -/
theorem failed_deletion_tells [Limits] {t : Tool} {e : Environment} {h : Host} {l : Launch}
    (launched : l ∈ h.launches (t.delete e h).2) (tells : l.reply.ending.Tells)
    (shallow : e.director.height ≤ Limits.copying)
    (legible : ∀ c f, (l.reply.change (handed e.director)).get? stateFile = some c → ¬c.Illegible f)
    {c : Content} {s : String}
    (found : (l.reply.change (handed e.director)).get? credentialsFile = some c)
    (holds : c.Holds s) : TellsCredentials e.director.credentials s (t.delete e h).1 := by
  have deletion : Deletion t e l.reply (t.delete e h).1 := Tool.delete_settled launched
  exact deletion.tellsCredentials tells shallow legible found holds

/-- A record of a director, its state and its password. -/
def remembered : Environment := { director := {
  manifest := "name: lake"
  state := [("current_vm_cid", .str "vm")]
  credentials := [("password", .str "pass")] } }

theorem remembered_deletable : Deletable remembered.director := ⟨by decide, rfl, rfl⟩

theorem remembered_shallow : remembered.director.height ≤ Limits.copying := by decide

/-- A program that fails and leaves this text of the credentials. -/
def damaging (text : String) : ProcessReply :=
  { writes := [(credentialsFile, .text text)], ending := .exited 1 "" "" }

section
variable (text : String)

theorem damaging_tells : (damaging text).ending.Tells := by simp [damaging, ProcessEnding.Tells]

theorem damaging_spares : (damaging text).Spares stateFile := by
  have other : stateFile ≠ credentialsFile := by decide
  exact ⟨mt List.mem_singleton.mp other, List.not_mem_nil⟩

theorem damaging_credentials : ((damaging text).change (handed remembered.director)).get?
    credentialsFile = some (.text text) := rfl

theorem damaging_legible (c : Content) (f : Fault) (found :
    ((damaging text).change (handed remembered.director)).get? stateFile = some c) :
    ¬c.Illegible f := by
  rw [ProcessReply.get?_change (damaging_spares text), handed_state] at found
  cases found
  exact legible_of_line rfl

theorem damaging_launches : ∃ l,
    l ∈ Host.launches { replies := [damaging text] }
      (({} : Tool).delete remembered { replies := [damaging text] }).2 ∧
      l.reply = damaging text := by
  obtain ⟨l, launched, -, same, -⟩ :=
    Tool.delete_launches {} remembered_deletable { replies := [damaging text] }
  exact ⟨l, launched ▸ List.mem_singleton_self l, same (by decide)⟩

end

theorem failed_deletion_tells_damaged :
    let h : Host := { replies := [damaging "*"] }
    (∃ l ∈ h.launches (({} : Tool).delete remembered h).2, l.reply.ending.Tells) ∧
      Tells (({} : Tool).delete remembered h).1 [("password", .str "pass")] := by
  intro h
  obtain ⟨l, launched, reply⟩ := damaging_launches "*"
  have failed : l.reply.ending.Tells := reply ▸ damaging_tells "*"
  have holds : (Content.text "*").Holds "*" := Content.read_eq_ok.mp rfl
  have tells := failed_deletion_tells launched failed remembered_shallow
    (reply ▸ damaging_legible "*") (reply ▸ damaging_credentials "*") holds
  have stopped : Yaml.Value.read Limits.reading "*".toList = .error .malformed := by decide +kernel
  exact ⟨⟨l, launched, failed⟩, tells.malformed stopped⟩

/-- An empty list is no map, and yet it is taken for no credentials. -/
theorem failed_deletion_forgets :
    let h : Host := { replies := [damaging "[]"] }
    (∃ l ∈ h.launches (({} : Tool).delete remembered h).2, l.reply.ending.Tells) ∧
      Yaml.Value.read Limits.reading "[]".toList = .ok (.list []) ∧
      Tells (({} : Tool).delete remembered h).1 [] ∧
      ¬Tells (({} : Tool).delete remembered h).1 [("password", .str "pass")] := by
  intro h
  obtain ⟨l, launched, reply⟩ := damaging_launches "[]"
  have failed : l.reply.ending.Tells := reply ▸ damaging_tells "[]"
  have holds : (Content.text "[]").Holds "[]" := Content.read_eq_ok.mp rfl
  have read : Yaml.Value.read Limits.reading "[]".toList = .ok (.list []) := by decide +kernel
  have deletion : Deletion {} remembered (damaging "[]") (({} : Tool).delete remembered h).1 :=
    reply ▸ Tool.delete_settled launched
  have tells := deletion.tellsCredentials (damaging_tells "[]") remembered_shallow
    (damaging_legible "[]") (damaging_credentials "[]") holds
  have none : Tells (({} : Tool).delete remembered h).1 [] := tells.hollow _ read .list
  refine ⟨⟨l, launched, failed⟩, read, none, ?_⟩
  rintro ⟨left, cause, told, kept⟩
  obtain ⟨left', cause', told', gone⟩ := none
  cases told.symm.trans told'
  cases kept.symm.trans gone

end Bosh
end Dismantle
