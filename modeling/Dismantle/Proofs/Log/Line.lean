import Dismantle.Log.Line
import Dismantle.Proofs.Json.RoundTrip
import Dismantle.Teardown.Task
/-! Lines of a log file. A line is visible ASCII, and reading it gives the record back; work that
opens contexts leaves records with what the contexts around them set, the innermost first. -/
namespace Dismantle.Log
open Json (Visible)
open Teardown (Program Progress)

theorem optionalField_keys (key : String) (v : Option Json) :
    ((optionalField key v).map Prod.fst).Sublist [Spelling.plain key] := by
  cases v with
  | none => exact List.nil_sublist _
  | some => exact List.Sublist.refl _

def Record.data (r : Record) (time : Option String) : Fields :=
  optionalField "timestamp" (time.map .str) ++ r.fields

theorem Record.data_keys (r : Record) (time : Option String) :
    ((r.data time).map Prod.fst).Nodup := by
  have keys : ((r.data time).map Prod.fst).Sublist ([Spelling.plain "timestamp"]
      ++ ([Spelling.plain "level", "logger", "message"] ++ [Spelling.plain "exception"]
        ++ [Spelling.plain "env_id"] ++ [Spelling.plain "iaas"] ++ [Spelling.plain "step"])) := by
    simp only [data, fields, List.map_append]
    refine (optionalField_keys _ _).append ?_
    refine List.Sublist.append ?_ (optionalField_keys _ _)
    refine List.Sublist.append ?_ (optionalField_keys _ _)
    refine List.Sublist.append ?_ (optionalField_keys _ _)
    exact (List.Sublist.refl _).append (optionalField_keys _ _)
  exact keys.nodup (by decide)

/-- Tags that a line gives back. -/
def Tags.Lasting (tags : Tags) : Prop :=
  ∀ v, tags.envId = some v ∨ tags.provider = some v ∨ tags.step = some v →
    v.storable (Json.maxDepth - 1) = true

theorem storable_of_mem_optionalField {key : String} {v : Option Json} {room : Nat}
    (storable : ∀ x, v = some x → x.storable room = true) :
    ∀ f ∈ optionalField key v, f.2.storable room = true := by
  cases v with
  | none => exact List.forall_mem_nil _
  | some x => exact List.forall_mem_singleton.mpr (storable x rfl)

theorem lasts_of_mem_optionalField {key : String} {v : Option Json} :
    ∀ f ∈ optionalField key v, f.1.lasts = true := by
  cases v with
  | none => exact List.forall_mem_nil _
  | some x => exact List.forall_mem_singleton.mpr (Spelling.lasts_plain key)

theorem storable_of_map_str {s : Option String} {v : Json} {room : Nat}
    (same : s.map Json.str = some v) : v.storable room = true := by
  obtain ⟨_, -, rfl⟩ := Option.map_eq_some_iff.mp same
  rfl

theorem Record.data_storable {r : Record} (lasting : r.tags.Lasting) (time : Option String) :
    (Json.obj (r.data time)).storable Json.maxDepth = true := by
  have names : ∀ f ∈ r.data time, f.1.lasts = true := by
    simp only [data, fields, List.forall_mem_append, List.forall_mem_cons]
    exact ⟨lasts_of_mem_optionalField, ⟨⟨⟨⟨Spelling.lasts_plain _, Spelling.lasts_plain _,
      Spelling.lasts_plain _, List.forall_mem_nil _⟩, lasts_of_mem_optionalField⟩,
      lasts_of_mem_optionalField⟩, lasts_of_mem_optionalField⟩, lasts_of_mem_optionalField⟩
  refine Json.storable_obj.mpr ⟨by decide, r.data_keys time, names, ?_⟩
  simp only [data, fields, List.forall_mem_append, List.forall_mem_cons]
  exact ⟨storable_of_mem_optionalField fun v same => storable_of_map_str same,
    ⟨⟨⟨⟨rfl, rfl, rfl, List.forall_mem_nil _⟩,
    storable_of_mem_optionalField fun v same => storable_of_map_str same⟩,
    storable_of_mem_optionalField fun v same => lasting v (.inl same)⟩,
    storable_of_mem_optionalField fun v same => lasting v (.inr (.inl same))⟩,
    storable_of_mem_optionalField fun v same => lasting v (.inr (.inr same))⟩

theorem Record.read_jsonLine {r : Record} (lasting : r.tags.Lasting) (time : Option String) :
    Json.read (r.jsonLine time) = .ok (.obj (r.data time)) :=
  Json.read_line (r.data_storable lasting time)

theorem Record.visible_jsonLine {r : Record} (lasting : r.tags.Lasting) (time : Option String) :
    ∀ c ∈ (r.jsonLine time).toList, Visible c :=
  Json.visible_of_mem_line (data_storable lasting time)

inductive Tag where
  | envId
  | provider
  | step

def Tag.key : Tag → String
  | .envId => "env_id"
  | .provider => "iaas"
  | .step => "step"

abbrev Context := Tag → Option String

def Context.tags (c : Context) : Tags :=
  ⟨(c .envId).map .str, (c .provider).map .str, (c .step).map .str⟩

/-- What is set inside these contexts, the innermost of which stands first. -/
def inside (contexts : List Context) : Context := fun t => contexts.findSome? (· t)

theorem within_inside (c : Context) (contexts : List Context) :
    c.tags.within (Context.tags (inside contexts)) = Context.tags (inside (c :: contexts)) := by
  have inner (t : Tag) : ((c t).map Json.str <|> (inside contexts t).map Json.str)
      = (inside (c :: contexts) t).map Json.str := by
    rw [inside, inside, List.findSome?_cons]
    cases c t with
    | none => rfl
    | some => rfl
  rw [Tags.within, Context.tags, Context.tags, Context.tags, inner, inner, inner]

theorem Context.tags_lasting (c : Context) : c.tags.Lasting := by
  intro v among
  rcases among with same | same | same
  · exact storable_of_map_str same
  · exact storable_of_map_str same
  · exact storable_of_map_str same

/-- Something that is logged, and the contexts it is logged in. -/
structure Entry where
  level : Level
  logger : String
  message : String
  /-- The contexts around it, the innermost first. -/
  contexts : List Context

def Entry.record (e : Entry) : Record :=
  { level := e.level, logger := e.logger, message := e.message
    tags := Context.tags (inside e.contexts) }

/-- What a reader of the line should find, and nothing else. -/
def Entry.data (e : Entry) (time : Option String) : Fields :=
  (time.map fun t => (Spelling.plain "timestamp", Json.str t)).toList
    ++ [(Spelling.plain "level", .str (levelName e.level)), ("logger", .str e.logger),
      ("message", .str e.message)]
    ++ [Tag.envId, .provider, .step].filterMap fun t =>
      (inside e.contexts t).map fun s => (Spelling.plain t.key, Json.str s)

theorem optionalField_str (key : String) (s : Option String) :
    optionalField key (s.map .str) = (s.map fun text => (Spelling.plain key, Json.str text)).toList := by
  cases s with
  | none => rfl
  | some => rfl

theorem Entry.data_record (e : Entry) (time : Option String) : e.record.data time = e.data time := by
  have plain : optionalField "exception" (e.record.trace.map .str) = [] := rfl
  have tag (t : Tag) (ts : List Tag) :
      ((t :: ts).filterMap fun t => (inside e.contexts t).map fun s => (Spelling.plain t.key, Json.str s))
        = optionalField t.key ((inside e.contexts t).map .str)
          ++ ts.filterMap fun t => (inside e.contexts t).map fun s => (Spelling.plain t.key, Json.str s) := by
    rw [optionalField_str, List.filterMap_cons]
    cases inside e.contexts t with
    | none => rfl
    | some => rfl
  rw [Record.data, Record.fields, plain, data, tag, tag, tag, List.filterMap_nil, optionalField_str]
  simp only [List.append_assoc, List.append_nil]
  rfl

/-- Work that logs. It may open contexts, which end with the work inside them, also when that
fails. -/
inductive Work where
  | log (level : Level) (logger message : String)
  | both (first second : Work)
  | under (context : Context) (work : Work)
  | fail (f : Fault)
  | attempt (work : Work)

namespace Work

def task : Work → Teardown.Task Unit
  | .log level logger message => Teardown.Task.log level logger message
  | .both first second => do
    first.task
    second.task
  | .under context work => Teardown.Task.within context.tags work.task
  | .fail f => Teardown.Task.fail f
  | .attempt work => do
    let _ ← Teardown.Task.attempt work.task

def result : Work → Except Fault Unit
  | .log .. | .attempt _ => .ok ()
  | .both first second => match first.result with
    | .ok () => second.result
    | .error f => .error f
  | .under _ work => work.result
  | .fail f => .error f

/-- What is logged, in order, inside these contexts. -/
def entries (contexts : List Context) : Work → List Entry
  | .log level logger message => [⟨level, logger, message, contexts⟩]
  | .both first second => first.entries contexts ++ match first.result with
    | .ok () => second.entries contexts
    | .error _ => []
  | .under context work => work.entries (context :: contexts)
  | .fail _ => []
  | .attempt work => work.entries contexts

end Work

def noting {α : Type} (rs : List Record) (next : Program α) : Program α := rs.foldr .log next

theorem noting_append {α : Type} (rs rs' : List Record) (next : Program α) :
    noting (rs ++ rs') next = noting rs (noting rs' next) := List.foldr_append

theorem bind_noting {α β : Type} (rs : List Record) (next : Program α) (f : α → Program β) :
    (noting rs next).bind f = noting rs (next.bind f) := by
  induction rs with
  | nil => rfl
  | cons r rs ih => exact congrArg (Program.log r) ih

/-- Work does nothing but log, under the tags that the contexts around it set; afterwards those in
force before are in force again. -/
theorem Work.task_notes (w : Work) (contexts : List Context) (p : Progress)
    (tags : p.tags = Context.tags (inside contexts)) :
    w.task p = noting ((w.entries contexts).map Entry.record) (.done (w.result, p)) := by
  induction w generalizing contexts p with
  | log level logger message =>
      rw [task, Teardown.Task.log, tags]
      rfl
  | both first second ih ih' =>
      rw [task, Teardown.Task.bind_apply, ih contexts p tags, bind_noting, entries, result]
      cases first.result with
      | ok =>
          rw [List.map_append, noting_append]
          exact congrArg (noting _) (ih' contexts p tags)
      | error f =>
          rw [List.append_nil]
          rfl
  | under context work ih =>
      -- The tags in force inside are again those of the contexts around, one more of them.
      have inner : context.tags.within p.tags = Context.tags (inside (context :: contexts)) := by
        rw [tags, within_inside]
      rw [task, Teardown.Task.within, ih (context :: contexts) _ inner, bind_noting]
      rfl
  | fail f => rfl
  | attempt work ih =>
      rw [task, Teardown.Task.bind_apply, Teardown.Task.attempt, ih contexts p tags, bind_noting,
        bind_noting]
      rfl

/-- Lines of a log lose nothing. Whatever contexts are opened and left around it, each record is
written in visible ASCII, so on one line; and what is read from the line is its level, its logger,
its message and what the contexts around it set, each tag as the innermost has it. -/
theorem log_lines_lossless (w : Work) (p : Progress) (time : Option String) :
    w.task { p with tags := {} } =
      noting ((w.entries []).map Entry.record) (.done (w.result, { p with tags := {} })) ∧
    ∀ e : Entry, (∀ c ∈ (e.record.jsonLine time).toList, Visible c) ∧
      Json.read (e.record.jsonLine time) = .ok (.obj (e.data time)) := by
  refine ⟨w.task_notes [] _ rfl, fun e => ?_⟩
  have lasting : e.record.tags.Lasting := Context.tags_lasting _
  refine ⟨Record.visible_jsonLine lasting time, ?_⟩
  rw [Record.read_jsonLine lasting, Entry.data_record]

end Dismantle.Log
