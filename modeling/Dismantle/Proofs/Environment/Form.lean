import Dismantle.Environment.Check
import Dismantle.Environment.Form
import Dismantle.Proofs.Environment.Depth
import Dismantle.Proofs.Json.Access
import Dismantle.Proofs.Json.RoundTrip
/-! A record and its written form: the form passes every check, and what the checks make of it is
the record again. -/
namespace Dismantle

theorem Json.settledItems_eq_self {items : List Json} (each : ∀ x ∈ items, x.settled = x) :
    Json.settledItems items = items := by
  induction items with
  | nil => rfl
  | cons x xs ih =>
      obtain ⟨first, others⟩ := List.forall_mem_cons.mp each
      rw [Json.settledItems, first, ih others]

namespace Json

mutual
/-- Data that a record holds as it is given: no number has a decimal form, no key stands twice in an
object, and every key is text that bytes can spell. -/
def isPlain : Json → Bool
  | .float _ => false
  | .arr items => itemsArePlain items
  | .obj fields => decide (fields.map Prod.fst).Nodup && fieldsArePlain fields
  | _ => true
def itemsArePlain : List Json → Bool
  | [] => true
  | x :: xs => x.isPlain && itemsArePlain xs
def fieldsArePlain : List (Spelling × Json) → Bool
  | [] => true
  | (k, v) :: rest => k.text?.isSome && v.isPlain && fieldsArePlain rest
end

theorem isPlain_arr {items : List Json} :
    (Json.arr items).isPlain = true ↔ ∀ x ∈ items, x.isPlain = true := by
  rw [isPlain]
  induction items with
  | nil => simp [itemsArePlain]
  | cons x xs ih => simp [itemsArePlain, ih]

theorem isPlain_obj {fields : Fields} : (Json.obj fields).isPlain = true ↔
    (fields.map Prod.fst).Nodup ∧
      ∀ f ∈ fields, f.1.text?.isSome = true ∧ f.2.isPlain = true := by
  have each : fieldsArePlain fields = true ↔
      ∀ f ∈ fields, f.1.text?.isSome = true ∧ f.2.isPlain = true := by
    induction fields with
    | nil => simp [fieldsArePlain]
    | cons f fs ih =>
        obtain ⟨key, v⟩ := f
        simp [fieldsArePlain, ih, and_assoc]
  rw [isPlain, Bool.and_eq_true, decide_eq_true_eq, each]

theorem settledFields_eq_self {fields : Fields} (plain : ∀ f ∈ fields, f.1.text?.isSome = true)
    (each : ∀ f ∈ fields, f.2.settled = f.2) : settledFields fields = fields := by
  induction fields with
  | nil => rfl
  | cons f fs ih =>
      obtain ⟨key, v⟩ := f
      obtain ⟨first, others⟩ := List.forall_mem_cons.mp each
      obtain ⟨name, names⟩ := List.forall_mem_cons.mp plain
      rw [settledFields, first, ih names others, Spelling.plain_shown name]

theorem settled_eq_self {v : Json} (plain : v.isPlain = true) : v.settled = v := by
  induction v using built with
  | float d => cases plain
  | arr items ih =>
      have plain := isPlain_arr.mp plain
      rw [settled, settledItems_eq_self fun x member => ih x member (plain x member)]
  | obj fields ih =>
      obtain ⟨distinct, plain⟩ := isPlain_obj.mp plain
      rw [settled, settledFields_eq_self (fun f member => (plain f member).1) fun f member =>
        ih f member (plain f member).2, ofPairs_of_nodup distinct]
  | _ => rfl

/-- Data that a record gives back when it is written: plain, and not too deep for what writes it. -/
structure Durable [Limits] (v : Json) : Prop where
  plain : v.isPlain = true
  shallow : (Yaml.Value.ofJson v).height ≤ Limits.saving + 1

theorem durable_empty [Limits] : (Json.obj []).Durable where
  plain := rfl
  shallow := Nat.le_add_left 1 _

end Json

namespace Yaml

theorem Value.toJsonItems_ofJson {items : List Json} (each : ∀ x ∈ items, (ofJson x).toJson = x) :
    toJsonItems (ofJsonItems items) = items := by
  induction items with
  | nil => rfl
  | cons x xs ih =>
      obtain ⟨first, others⟩ := List.forall_mem_cons.mp each
      rw [ofJsonItems, toJsonItems, first, ih others]

theorem Value.keyText_ofSpelling (t : Spelling) : (ofSpelling t).keyText = t := by
  cases t <;> rfl

theorem Value.toJsonEntries_ofJson {fields : Fields}
    (each : ∀ f ∈ fields, (ofJson f.2).toJson = f.2) : toJsonEntries (ofJsonFields fields) = fields := by
  induction fields with
  | nil => rfl
  | cons f fs ih =>
      obtain ⟨key, v⟩ := f
      obtain ⟨first, others⟩ := List.forall_mem_cons.mp each
      rw [ofJsonFields, toJsonEntries, keyText_ofSpelling, first, ih others]

theorem Value.toJson_ofJson {v : Json} (plain : v.isPlain = true) : (ofJson v).toJson = v := by
  induction v using Json.built with
  | arr items ih =>
      have plain := Json.isPlain_arr.mp plain
      rw [ofJson, toJson, toJsonItems_ofJson fun x member => ih x member (plain x member)]
  | obj fields ih =>
      obtain ⟨distinct, plain⟩ := Json.isPlain_obj.mp plain
      rw [ofJson, toJson, toJsonEntries_ofJson fun f member => ih f member (plain f member).2,
        Json.ofPairs_of_nodup distinct]
  | _ => rfl

theorem Entries.fields_ofFields {fs : Fields} (plain : (Json.obj fs).isPlain = true) :
    (ofFields fs).fields = fs := by
  obtain ⟨-, plain⟩ := Json.isPlain_obj.mp plain
  rw [fields, ofFields, List.map_map]
  refine (List.map_congr_left fun f member => ?_).trans (List.map_id fs)
  exact Prod.ext rfl (Value.toJson_ofJson (plain f member).2)

end Yaml

section
variable {τ : Type} [Wording τ]

theorem Environment.same_of_data [DecidableEq τ] {e : Environment τ} {credentials : Yaml.Entries}
    {state : Fields}
    (given : (Json.obj credentials.fields).same (.obj e.director.credentials.fields) = true)
    (left : (Json.obj state).same (.obj e.director.state) = true) :
    Environment.same { e with director := { e.director with credentials, state } } e = true := by
  simp [Environment.same, Director.same, given, left]

def Director.settled (d : Director τ) : Director τ :=
  { d with
    credentials := .ofFields (.ofPairs (Json.settledFields d.credentials.fields))
    state := .ofPairs (Json.settledFields d.state) }

/-- The record with its director's data as it is written. -/
def Environment.settled (e : Environment τ) : Environment τ :=
  { e with director := e.director.settled }

/-- A director whose data a record gives back. -/
structure Director.Durable [Limits] (d : Director τ) : Prop where
  credentials : ∃ fs : Fields, d.credentials = .ofFields fs ∧ (Json.obj fs).Durable
  state : (Json.obj d.state).Durable

namespace Director.Durable
variable [Limits] {d : Director τ}

theorem fields (durable : d.Durable) :
    (Json.obj d.credentials.fields).Durable ∧ d.credentials = .ofFields d.credentials.fields := by
  obtain ⟨fs, same, durable⟩ := durable.credentials
  rw [same, Yaml.Entries.fields_ofFields durable.plain]
  exact ⟨durable, rfl⟩

theorem shallow (durable : d.Durable) : d.height ≤ Limits.saving := by
  obtain ⟨fs, same, credentials⟩ := durable.credentials
  have credentials := credentials.shallow
  have state := durable.state.shallow
  rw [Yaml.Value.height_obj, Nat.add_le_add_iff_right] at credentials state
  rw [Director.height_eq, same, Nat.max_le]
  exact ⟨credentials, state⟩

theorem settled (durable : d.Durable) : d.settled = d := by
  obtain ⟨durable', same⟩ := durable.fields
  have credentials : Fields.ofPairs (Json.settledFields d.credentials.fields) = d.credentials.fields :=
    Json.obj.inj (Json.settled_eq_self durable'.plain)
  have state : Fields.ofPairs (Json.settledFields d.state) = d.state :=
    Json.obj.inj (Json.settled_eq_self durable.state.plain)
  rw [Director.settled, credentials, state, ← same]

end Director.Durable

namespace Environment
variable [Limits] {e : Environment τ}

theorem settled_of_durable (durable : e.director.Durable) : e.settled = e := by
  rw [settled, durable.settled]

theorem written_of_durable (durable : e.director.Durable) : e.written = .ok e.toJson := by
  obtain ⟨fs, same, -⟩ := durable.credentials
  exact (written_eq_ok ⟨fs, same⟩).mpr ⟨durable.shallow, rfl⟩

end Environment

namespace Check
variable {α : Type} {key other : String} {v : Json} {fs : Fields} {default : α} {check : Json → Check α}

theorem pure_bind {β : Type} (a : α) (f : α → Check β) : (pure a >>= f) = f a := rfl

theorem under_pure (key : String) (a : α) : (pure a : Check α).under key = pure a := rfl

theorem text_ofSpelling (t : τ) : text (.ofSpelling (Wording.spelling t)) = pure t := by
  have spelled : (Json.ofSpelling (Wording.spelling t)).spelling? = some (Wording.spelling t) := by
    cases Wording.spelling t <;> rfl
  unfold text
  rw [spelled]
  simp only [Wording.ofSpelling?_spelling]

theorem field_cons_self : field ((.plain key, v) :: fs) key default check = (check v).under key := by
  rw [field, Fields.get?, List.lookup_cons_self]

theorem field_cons_of_ne (h : key ≠ other) :
    field ((.plain other, v) :: fs) key default check = field fs key default check := by
  have differ : (Spelling.plain key == Spelling.plain other) = false := by simp [h]
  rw [field, Fields.get?, List.lookup_cons, differ]
  rfl

theorem unknownKeys_self (known : List String) : unknownKeys known known = pure () := by
  have none_left : (known.filter fun key => !known.contains key) = [] := by
    rw [List.filter_eq_nil_iff]
    intro key member
    simp [member]
  rw [unknownKeys, none_left]
  rfl

/-- A section with the keys that it should have is checked field by field. -/
theorem sectionOf_obj {title : String} {known : List String} {fields : Fields → Check α}
    (keys : fs.map (·.1) = known.map .plain) :
    sectionOf title known default fields (.obj fs) = fields fs := by
  have names := Spelling.mapM_text?_eq_some.mpr keys
  have checked : (do let a ← fields fs; unknownKeys known known; return a) = fields fs := by
    rw [unknownKeys_self]
    exact congrArg (Check.mk _) (List.append_nil _)
  rw [sectionOf, names]
  exact checked

end Check

section
open Check

theorem AwsAccount.check_toJson (a : AwsAccount τ) : AwsAccount.check a.toJson = pure a := by
  rw [check, toJson, sectionOf_obj rfl]
  simp [textField, field_cons_self, field_cons_of_ne, text_ofSpelling, under_pure, Check.pure_bind]

theorem GcpAccount.check_toJson (g : GcpAccount τ) : GcpAccount.check g.toJson = pure g := by
  rw [check, toJson, sectionOf_obj rfl]
  simp [textField, field_cons_self, field_cons_of_ne, text_ofSpelling, under_pure, Check.pure_bind]

theorem KeyPair.check_toJson (k : KeyPair τ) : KeyPair.check k.toJson = pure k := by
  rw [check, toJson, sectionOf_obj rfl]
  simp [textField, field_cons_self, field_cons_of_ne, text_ofSpelling, under_pure, Check.pure_bind]

theorem Director.check_toJson (d : Director τ) : Director.check d.toJson = pure d.settled := by
  rw [check, toJson, sectionOf_obj rfl]
  simp [textField, field_cons_self, field_cons_of_ne, text_ofSpelling, under_pure, Check.pure_bind]
  rfl

theorem Stack.check_toJson (s : Stack τ) : Stack.check s.toJson = pure s := by
  rw [check, toJson, sectionOf_obj rfl]
  simp [textField, field_cons_self, field_cons_of_ne, text_ofSpelling, under_pure, Check.pure_bind]

theorem Provider.check_text (p : Provider) : Check.provider (.str p.text) = pure p := by
  cases p <;> rfl

theorem Environment.check_toJson (e : Environment τ) :
    Environment.check e.toJson = pure e.settled := by
  rw [check, toJson, sectionOf_obj rfl]
  simp [textField, field_cons_self, field_cons_of_ne, text_ofSpelling, under_pure, Check.pure_bind,
    AwsAccount.check_toJson, GcpAccount.check_toJson, KeyPair.check_toJson, Director.check_toJson,
    Stack.check_toJson, Provider.check_text]
  rfl

end

theorem Environment.ofJson_toJson (e : Environment τ) : Environment.ofJson e.toJson = .ok e.settled := by
  rw [Environment.ofJson, Environment.check_toJson]
  rfl

end

def Json.directorData (v : Json) : List Json :=
  ["credentials", "state"].filterMap fun key => (v.under "bosh").bind (·.under key)

theorem Check.value_of_result {α : Type} {title : String} {c : Check α} {a : α}
    (h : c.result title = .ok a) : c.value = a := by
  unfold Check.result at h
  split at h
  case h_1 => exact Except.ok.inj h
  case h_2 => cases h

section
variable [Limits] {τ : Type} [Wording τ]

theorem Check.mapping_durable {fs : Fields} {key : String}
    (durable : ∀ data, fs.get? key = some data → data.Durable) :
    (Json.obj (field fs key [] mapping).value).Durable := by
  unfold Check.field
  split
  case h_1 v found =>
    cases v with
    | obj fields => exact durable _ found
    | _ => exact Json.durable_empty
  case h_2 => exact Json.durable_empty

theorem Check.entries_durable {fs : Fields} {key : String}
    (durable : ∀ data, fs.get? key = some data → data.Durable) :
    ∃ gs : Fields, (field fs key [] entries).value = Yaml.Entries.ofFields gs ∧ (Json.obj gs).Durable := by
  unfold Check.field
  split
  case h_1 v found =>
    cases v with
    | obj fields => exact ⟨fields, rfl, durable _ found⟩
    | _ => exact ⟨[], rfl, Json.durable_empty⟩
  case h_2 => exact ⟨[], rfl, Json.durable_empty⟩

theorem Director.durable_empty : ({} : Director τ).Durable where
  credentials := ⟨[], rfl, Json.durable_empty⟩
  state := Json.durable_empty

theorem Director.check_durable {v : Json}
    (durable : ∀ key ∈ ["credentials", "state"], ∀ data, v.under key = some data → data.Durable) :
    (Director.check v : Check (Director τ)).value.Durable := by
  cases v with
  | obj fields =>
      rw [Director.check, Check.sectionOf]
      split
      case h_1 => exact
        { credentials := Check.entries_durable (durable "credentials" (by simp))
          state := Check.mapping_durable (durable "state" (by simp)) }
      case h_2 => exact Director.durable_empty
  | _ => exact Director.durable_empty

/-- The director's data in a record is the data that the record was read from. -/
theorem Environment.ofJson_durable {v : Json} {e : Environment τ} (h : Environment.ofJson v = .ok e)
    (durable : ∀ data ∈ v.directorData, data.Durable) : e.director.Durable := by
  rw [← Check.value_of_result h]
  cases v with
  | obj fields =>
      have director :
          (Check.field fields "bosh" {} Director.check : Check (Director τ)).value.Durable := by
        unfold Check.field
        split
        case h_1 w found =>
          refine Director.check_durable fun key member data there => durable data ?_
          refine List.mem_filterMap.mpr ⟨key, member, ?_⟩
          rw [Json.under, found]
          exact there
        case h_2 => exact Director.durable_empty
      rw [Environment.check, Check.sectionOf]
      split
      case h_1 => exact director
      case h_2 => exact Director.durable_empty
  | _ => exact Director.durable_empty

def Environment.texts (e : Environment τ) : List τ :=
  [e.envId, e.aws.accessKeyId, e.aws.secretAccessKey, e.aws.region, e.gcp.serviceAccountKey,
    e.gcp.projectId, e.gcp.zone, e.gcp.region, e.keyPair.name, e.keyPair.privateKey,
    e.keyPair.publicKey, e.director.name, e.director.username, e.director.password,
    e.director.address, e.director.sslCertificate, e.director.sslPrivateKey, e.director.manifest,
    e.stack.name, e.stack.lbType, e.stack.certificateName, e.tfState]

/-- A director whose data a file gives back as well. -/
structure Director.Storable (d : Director τ) : Prop where
  durable : d.Durable
  credentials : (Json.obj d.credentials.fields).storable (Json.maxDepth - 2) = true
  state : (Json.obj d.state).storable (Json.maxDepth - 2) = true

theorem Director.storable_of_state {d : Director τ} (none : d.credentials = [])
    (durable : (Json.obj d.state).Durable)
    (storable : (Json.obj d.state).storable (Json.maxDepth - 2) = true) : d.Storable where
  durable := ⟨⟨[], none, Json.durable_empty⟩, durable⟩
  credentials := by
    rw [none]
    rfl
  state := storable

/-- A record that a file gives back. -/
structure Environment.Storable (e : Environment τ) : Prop where
  texts : ∀ t ∈ e.texts, (Wording.spelling t).lasts = true
  director : e.director.Storable

theorem Environment.storable_of_director {e : Environment} (director : e.director.Storable) :
    e.Storable where
  texts t _ := Spelling.lasts_plain t
  director := director

end

namespace Json
variable {τ : Type} [Wording τ] {room : Nat}

theorem storable_ofSpelling {t : Spelling} (lasts : t.lasts = true) :
    (Json.ofSpelling t).storable room = true := by
  cases t with
  | plain s => rfl
  | broken points => exact lasts

theorem storable_section {fs : Fields} (known : List String) (keys : fs.map Prod.fst = known.map .plain)
    (distinct : known.Nodup) (each : ∀ f ∈ fs, f.2.storable room = true) :
    (Json.obj fs).storable (room + 1) = true := by
  refine storable_obj.mpr ⟨Nat.succ_pos room, ?_, ?_, each⟩
  · rw [keys]
    exact List.Pairwise.map _ (fun _ _ differ same => differ (Spelling.plain.inj same)) distinct
  · intro f member
    have named : f.1 ∈ known.map Spelling.plain := keys ▸ List.mem_map_of_mem member
    obtain ⟨name, -, same⟩ := List.mem_map.mp named
    rw [← same, Spelling.lasts_plain]

end Json

/-- The written form of a record comes back if its version is not too long a number. -/
theorem Environment.storable_toJson [Limits] {τ : Type} [Wording τ] {e : Environment τ}
    (storable : e.Storable) (short : Json.Short e.version) :
    e.toJson.storable Json.maxDepth = true := by
  have text : ∀ t ∈ e.texts, ∀ room, (Json.ofSpelling (Wording.spelling t)).storable room = true :=
    fun t member _ => Json.storable_ofSpelling (storable.texts t member)
  have durable := storable.director.durable
  simp only [texts, List.forall_mem_cons] at text
  have aws (room : Nat) : e.aws.toJson.storable (room + 1) = true := by
    refine Json.storable_section AwsAccount.keys rfl (by decide) ?_
    simp [text]
  have gcp (room : Nat) : e.gcp.toJson.storable (room + 1) = true := by
    refine Json.storable_section GcpAccount.keys rfl (by decide) ?_
    simp [text]
  have keyPair (room : Nat) : e.keyPair.toJson.storable (room + 1) = true := by
    refine Json.storable_section KeyPair.keys rfl (by decide) ?_
    simp [text]
  have stack (room : Nat) : e.stack.toJson.storable (room + 1) = true := by
    refine Json.storable_section Stack.keys rfl (by decide) ?_
    simp [text]
  have director (room : Nat)
      (credentials : (Json.obj e.director.credentials.fields).storable room = true)
      (state : (Json.obj e.director.state).storable room = true) :
      e.director.toJson.storable (room + 1) = true := by
    rw [Director.toJson, Json.settled_eq_self durable.fields.1.plain,
      Json.settled_eq_self durable.state.plain]
    refine Json.storable_section Director.keys rfl (by decide) ?_
    simp [text, credentials, state]
  have whole (room : Nat) (director : e.director.toJson.storable (room + 1) = true) :
      e.toJson.storable (room + 2) = true := by
    refine Json.storable_section Environment.keys rfl (by decide) ?_
    have provider : (Json.str e.provider.text).storable (room + 1) = true := rfl
    simp [text, aws, gcp, keyPair, stack, director, provider, Json.storable_int.mpr short]
  exact whole _ (director _ storable.director.credentials storable.director.state)

end Dismantle
