import Dismantle.Proofs.Files.Reading
import Dismantle.Proofs.Files.Tree
import Dismantle.Proofs.Json.Access
import Dismantle.Proofs.Settings.Merge
import Dismantle.Proofs.Yaml.Value
/-! Loading settings. What the file says is merged with what the user gives; settings are made of
that or all that is wrong is listed, and a load that fails leaves the settings in force. -/
namespace Dismantle

namespace Content

/-- The text in a file stands for a value. -/
def Means [Limits] (c : Content) (v : Yaml.Value) : Prop :=
  ∃ s, c.Holds s ∧ Yaml.Value.read Limits.reading s.toList = .ok v

/-- The text in a file stands for none, though each of its characters may be in a document. -/
def Misses [Limits] (c : Content) (r : Yaml.Refusal) : Prop :=
  ∃ s, c.Holds s ∧ s.toList.all Yaml.isReadable = true ∧
    Yaml.Value.read Limits.reading s.toList = .error r

/-- What a reader stops at wherever it stands in the file. -/
inductive Corrupt (c : Content) : Fault → Prop
  | undecodable {f : Text.Utf8.Fault} (failed : c.readPieces = .error f) : c.Corrupt (.undecodable f)
  | unreadable {s : String} (holds : c.Holds s) (strange : s.toList.all Yaml.isReadable = false) :
      c.Corrupt (Configuration.refused .malformed)

end Content

namespace Configuration
open Settings

/-- What a load comes to by what is known of the file. -/
def outcome (data : Yaml.Value) (overrides : Given) : Except Fault Settings := do
  let es ← entriesOf data
  let g ← named es
  Settings.of (overridden g overrides)

def verdict (file : Path) (v : Yaml.Value) (overrides : Given) : Except Fault Settings :=
  match v with
  | .map es => outcome (.map es) overrides
  | _ => .error (badFile ("Configuration file " ++ file.text ++ " must contain a mapping"))

def settle (c : Configuration) : Except Fault Settings → Configuration
  | .ok s => { c with settings := s }
  | .error _ => c

@[simp] theorem settle_file (c : Configuration) (r : Except Fault Settings) :
    (c.settle r).file = c.file := by cases r <;> rfl

@[simp] theorem settle_data (c : Configuration) (r : Except Fault Settings) :
    (c.settle r).data = c.data := by cases r <;> rfl

@[simp] theorem settle_settings (c : Configuration) (r : Except Fault Settings) :
    (c.settle r).settings = r.toOption.getD c.settings := by cases r <;> rfl

/-- Entries of a document whose keys are text; an empty document has none. -/
inductive Entries : Yaml.Value → Given → Prop
  | none : Entries .null []
  | map (g : Given) : Entries (.map (g.map fun e => (.ofSpelling e.1, e.2))) g

theorem spelling?_ofSpelling (t : Spelling) : (Yaml.Value.ofSpelling t).spelling? = some t := by
  cases t <;> rfl

theorem same_ofSpelling (t : Spelling) :
    (Yaml.Value.ofSpelling t).same (Yaml.Value.ofSpelling t) = true := by
  cases t <;> simp [Yaml.Value.ofSpelling, Yaml.Value.same]

theorem named_texts (g : Given) : named (g.map fun e => (.ofSpelling e.1, e.2)) = .ok g := by
  induction g with
  | nil => rfl
  | cons e rest ih =>
      rw [named] at ih ⊢
      rw [List.map_cons, List.mapM_cons, ih]
      dsimp only
      rw [spelling?_ofSpelling]
      rfl

theorem outcome_entries (g overrides : Given) :
    outcome (.map (g.map fun e => (.ofSpelling e.1, e.2))) overrides =
      Settings.of (overridden g overrides) := by
  change (named _).bind _ = _
  rw [named_texts]
  rfl

theorem Entries.distinct {v : Yaml.Value} {g : Given} (entries : Entries v g)
    (unlike : ∀ es, v = .map es → Yaml.Value.Distinct es) : g.names.Nodup := by
  cases entries with
  | none => exact List.nodup_nil
  | map =>
      have keys := unlike _ rfl
      rw [Yaml.Value.Distinct, List.map_map, List.pairwise_map] at keys
      refine List.pairwise_map.mpr (keys.imp fun other same => other ?_)
      change (Yaml.Value.ofSpelling _).same (Yaml.Value.ofSpelling _) = true
      rw [same]
      exact same_ofSpelling _

theorem nodup_namesInForce {file overrides : Given} (distinct : file.names.Nodup) (distinct' : overrides.names.Nodup) :
    (namesInForce file overrides).Nodup := by
  refine List.nodup_append.mpr ⟨distinct, (names_telling_sublist.nodup distinct').filter _, ?_⟩
  rintro name inside _ outside rfl
  simpa [inside] using (List.mem_filter.mp outside).2

section
variable [Limits] [PieceReader]

/-- What is found in a file. -/
inductive Finds (c : Content) : Except Fault Yaml.Value → Prop
  | corrupt {f : Fault} (corrupt : c.Corrupt f) (first : PieceReader.early c = none) : Finds c (.error f)
  /-- What the file begins with is refused before the reader gets to the rest. -/
  | early {f : Fault} {r : Yaml.Refusal} (corrupt : c.Corrupt f)
      (early : PieceReader.early c = some r) : Finds c (.error (refused r))
  | missed {r : Yaml.Refusal} (misses : c.Misses r) : Finds c (.error (refused r))
  | hollow {v : Yaml.Value} (means : c.Means v) (hollow : v.Hollow) : Finds c (.ok (.map []))
  | solid {v : Yaml.Value} (means : c.Means v) (solid : ¬v.Hollow) : Finds c (.ok v)

omit [Limits] in
theorem textIn_of_corrupt {c : Content} {f : Fault} (corrupt : c.Corrupt f) :
    textIn c = .error (((PieceReader.early c).map refused).getD f) := by
  cases corrupt with
  | undecodable failed => rw [textIn, failed]
  | unreadable holds strange =>
      rw [textIn, Content.readPieces_eq_ok.mpr holds]
      dsimp only
      rw [strange]
      rfl

omit [Limits] in
theorem textIn_eq_ok {c : Content} {s : String} :
    textIn c = .ok s ↔ c.Holds s ∧ s.toList.all Yaml.isReadable = true := by
  rw [← Content.readPieces_eq_ok, textIn]
  cases c.readPieces with
  | error f => exact ⟨nofun, nofun⟩
  | ok text =>
      dsimp only
      split
      case isTrue readable =>
          constructor
          · rintro ⟨⟩
            exact ⟨rfl, readable⟩
          · rintro ⟨⟨⟩, -⟩
            rfl
      case isFalse strange => exact ⟨nofun, fun same => absurd (Except.ok.inj same.1 ▸ same.2) strange⟩

theorem contentOf_of_text {c : Content} {s : String} (text : textIn c = .ok s) :
    contentOf c = match Yaml.Value.read Limits.reading s.toList with
      | .error r => .error (refused r)
      | .ok v => .ok (if v.counts then v else .map []) := by
  rw [contentOf, text]
  rfl

theorem contentOf_of_corrupt {c : Content} {f : Fault} (corrupt : c.Corrupt f) :
    contentOf c = .error (((PieceReader.early c).map refused).getD f) := by
  rw [contentOf, textIn_of_corrupt corrupt]
  rfl

omit [Limits] in
theorem corrupt_or_text (c : Content) : (∃ f, c.Corrupt f) ∨ ∃ s, textIn c = .ok s := by
  cases text : c.readPieces with
  | error f => exact .inl ⟨_, .undecodable text⟩
  | ok s =>
      have holds : c.Holds s := Content.readPieces_eq_ok.mp text
      cases readable : s.toList.all Yaml.isReadable with
      | false => exact .inl ⟨_, .unreadable holds readable⟩
      | true => exact .inr ⟨s, textIn_eq_ok.mpr ⟨holds, readable⟩⟩

theorem contentOf_finds (c : Content) : Finds c (contentOf c) := by
  rcases corrupt_or_text c with ⟨f, corrupt⟩ | ⟨s, text⟩
  · rw [contentOf_of_corrupt corrupt]
    cases first : PieceReader.early c with
    | none => exact .corrupt corrupt first
    | some r => exact .early corrupt first
  · obtain ⟨holds, readable⟩ := textIn_eq_ok.mp text
    rw [contentOf_of_text text]
    cases read : Yaml.Value.read Limits.reading s.toList with
    | error r => exact .missed ⟨s, holds, readable, read⟩
    | ok v =>
        dsimp only
        split
        case isTrue counts =>
            refine .solid ⟨s, holds, read⟩ fun hollow => ?_
            cases counts.symm.trans (Yaml.Value.counts_eq_false.mpr hollow)
        case isFalse none =>
            exact .hollow ⟨s, holds, read⟩
              (Yaml.Value.counts_eq_false.mp (eq_false_of_ne_true none))

theorem contentOf_of_means {c : Content} {v : Yaml.Value} (means : c.Means v) :
    contentOf c = .ok (if v.counts then v else .map []) := by
  obtain ⟨s, holds, read⟩ := means
  have readable : s.toList.all Yaml.isReadable = true := by
    refine eq_true_of_ne_false fun strange => ?_
    cases read.symm.trans (Yaml.Value.read_of_unreadable strange)
  rw [contentOf_of_text (textIn_eq_ok.mpr ⟨holds, readable⟩), read]

def said (t : FileTree) (p : Path) : Option (Except Fault Yaml.Value) :=
  if t.has p then some (match t.contentAt p with
    | .error e => .error (.system e)
    | .ok content => contentOf content)
  else none

theorem said_of_content {t : FileTree} {p : Path} {content : Content}
    (there : t.contentAt p = .ok content) : said t p = some (contentOf content) := by
  have here : t.has p = true := FileTree.has_eq_true.mpr ⟨_, FileTree.contentAt_eq_ok.mp there⟩
  rw [said, if_pos here, there]

section
variable (t : FileTree) (overrides : Given) (c : Configuration)

theorem load_of_refreshed {c' : Configuration} (refreshed : refresh t c = (.ok (), c')) :
    load t overrides c = (outcome c'.data overrides, c'.settle (outcome c'.data overrides)) := by
  simp only [load, Act.bind_apply, refreshed, Act.get, Act.ofExcept]
  rw [outcome]
  cases entriesOf c'.data with
  | error f => rfl
  | ok es =>
      dsimp only [bind, Except.bind]
      cases named es with
      | error f => rfl
      | ok g =>
          dsimp only
          cases Settings.of (overridden g overrides) <;> rfl

theorem load_of_refused {c' : Configuration} {f : Fault} (refused : refresh t c = (.error f, c')) :
    load t overrides c = (.error f, c') := by
  rw [load, Act.bind_apply, refused]

theorem refresh_eq : refresh t c = match said t c.file with
    | none => (.ok (), c)
    | some (.error f) => (.error f, c)
    | some (.ok (.map es)) => (.ok (), { c with data := .map es })
    | some (.ok v) => (.error (badFile ("Configuration file " ++ c.file.text
        ++ " must contain a mapping")), { c with data := v }) := by
  rw [refresh, said]
  split
  case isFalse => rfl
  case isTrue =>
      cases t.contentAt c.file with
      | error e => rfl
      | ok content =>
          dsimp only
          cases contentOf content with
          | error f => rfl
          | ok v => cases v <;> rfl

theorem load_eq : load t overrides c = match said t c.file with
    | none => (outcome c.data overrides, c.settle (outcome c.data overrides))
    | some (.error f) => (.error f, c)
    | some (.ok v) => (verdict c.file v overrides,
        { c with data := v }.settle (verdict c.file v overrides)) := by
  have refreshed := refresh_eq t c
  cases here : said t c.file with
  | none =>
      rw [here] at refreshed
      exact load_of_refreshed _ _ _ refreshed
  | some r =>
      rw [here] at refreshed
      cases r with
      | error f => exact load_of_refused _ _ _ refreshed
      | ok v =>
          cases v with
          | map es => exact load_of_refreshed _ _ _ refreshed
          | _ => exact load_of_refused _ _ _ refreshed

@[simp] theorem load_file : (load t overrides c).2.file = c.file := by
  rw [load_eq]
  split <;> simp

@[simp] theorem load_data : (load t overrides c).2.data =
    ((said t c.file).bind Except.toOption).getD c.data := by
  rw [load_eq]
  rcases said t c.file with _ | _ | v
  · exact settle_data _ _
  · rfl
  · exact settle_data _ _

/-- A load that fails leaves the settings in force, any other puts its own in force. -/
@[simp] theorem load_settings : (load t overrides c).2.settings =
    (load t overrides c).1.toOption.getD c.settings := by
  rw [load_eq]
  rcases said t c.file with _ | _ | v
  · exact settle_settings _ _
  · rfl
  · exact settle_settings _ _

end

/-- One load: what lies in the file system then, and what the user gives with it. -/
structure Occasion where
  tree : FileTree
  overrides : Given

def loadAt (c : Configuration) (o : Occasion) : Except Fault Settings × Configuration :=
  load o.tree o.overrides c

/-- What is left of a configuration after some loads. -/
def after (c : Configuration) : List Occasion → Configuration
  | [] => c
  | o :: later => (c.loadAt o).2.after later

def results (c : Configuration) : List Occasion → List (Except Fault Settings)
  | [] => []
  | o :: later => (c.loadAt o).1 :: (c.loadAt o).2.results later

theorem after_settings (c : Configuration) (history : List Occasion) :
    (c.after history).settings =
      ((c.results history).filterMap Except.toOption).getLastD c.settings := by
  induction history generalizing c with
  | nil => rfl
  | cons o later ih =>
      rw [after, ih, results, loadAt, load_settings]
      cases (load o.tree o.overrides c).1 with
      | error f => rfl
      | ok s => exact List.getLastD_cons.symm

/-- What a load finds to be said in the file: nothing where there is none and none was before. -/
inductive Reads (c : Configuration) (t : FileTree) : Given → Prop
  | absent (absent : t.has c.file = false) (unread : c.data = .map []) : Reads c t []
  | document {content : Content} {v : Yaml.Value} {g : Given}
      (there : t.contentAt c.file = .ok content) (means : content.Means v) (entries : Entries v g) :
      Reads c t g

theorem contentOf_entries {content : Content} {v : Yaml.Value} {g : Given}
    (means : content.Means v) (entries : Entries v g) :
    contentOf content = .ok (.map (g.map fun e => (.ofSpelling e.1, e.2))) := by
  rw [contentOf_of_means means]
  cases entries with
  | none => rfl
  | map => cases g <;> rfl

section
variable {c : Configuration} {t : FileTree} {file overrides : Given}

theorem Reads.result (reads : c.Reads t file) (overrides : Given) :
    (load t overrides c).1 = Settings.of (overridden file overrides) := by
  rw [load_eq, ← outcome_entries file overrides]
  cases reads with
  | absent absent unread =>
      rw [said, if_neg (ne_true_of_eq_false absent)]
      exact congrArg (outcome · overrides) unread
  | document there means entries =>
      rw [said_of_content there, contentOf_entries means entries]
      rfl

omit [PieceReader] in
theorem Reads.distinct (reads : c.Reads t file) : file.names.Nodup := by
  cases reads with
  | absent => exact List.nodup_nil
  | document _ means entries =>
      obtain ⟨s, -, read⟩ := means
      exact entries.distinct fun es same => Yaml.Value.read_distinct (same ▸ read)

end

/-- What a load comes to that merges what the file says with what the user gives. -/
structure Merges (file overrides : Given) (r : Except Fault Settings) : Prop where
  accepts : (∃ s, r = .ok s) ↔ (∀ name ∈ namesInForce file overrides, name ∈ keys.map .plain) ∧
    ∀ f : Field, ∃ a, f.Gets (inForce file overrides f.key) a
  settles : ∀ s, r = .ok s ↔ MadeOf (inForce file overrides) (namesInForce file overrides) s
  reports : ∀ f, r = .error f → ∃ issues, f = refusal issues ∧ issues ≠ [] ∧
    Report (inForce file overrides) (namesInForce file overrides) issues ∧
    (issues.map (·.keys)).Nodup

theorem Reads.merges {c : Configuration} {t : FileTree} {file : Given} (reads : c.Reads t file)
    {overrides : Given} (distinct : overrides.names.Nodup) :
    Merges file overrides (load t overrides c).1 := by
  have values : (fun name => (overridden file overrides).lookup name) = inForce file overrides :=
    funext (lookup_overridden distinct)
  have names : (overridden file overrides).map (·.1) = namesInForce file overrides :=
    names_overridden distinct
  have nodup : (namesInForce file overrides).Nodup :=
    nodup_namesInForce reads.distinct distinct
  rw [reads.result]
  refine ⟨?_, fun s => ?_, fun f failed => ?_⟩
  · rw [of_isOk_iff, names]
    simp only [lookup_overridden distinct]
  · rw [of_eq_ok, names, values]
  · rcases of_settled (overridden file overrides) with ⟨s, same, -⟩ | ⟨issues, same, some_, report⟩
    · cases failed.symm.trans same
    · rw [names, values] at report
      cases failed.symm.trans same
      exact ⟨issues, rfl, some_, report, report.nodup nodup⟩

/-- After any loads, the settings in force are those of the last one that did not fail, and a load
merges what the file says with what the user gives. -/
theorem loads_merge (p : Path) (history : List Occasion) :
    (after { file := p } history).settings =
        ((results { file := p } history).filterMap Except.toOption).getLastD {} ∧
      ∀ t file overrides, Reads (after { file := p } history) t file → overrides.names.Nodup →
        Merges file overrides (load t overrides (after { file := p } history)).1 :=
  ⟨after_settings _ history, fun _ _ _ reads distinct => reads.merges distinct⟩

end

def holding (p : Path) (content : Content) : FileTree := ⟨[(p.parts, .file content)]⟩

def lake : Path := ⟨false, ["lake.yaml"]⟩

/-- A name with half of a pair in it, and a value that is wrong. Of the second nothing is said. -/
theorem loads_merge_broken :
    let content : Content := .text "\"\\uD800\": pond\nlog_level: loud\n"
    Reads { file := lake } (holding lake content)
        [(.broken [0xd800], .str "pond"), ("log_level", .str "loud")] ∧
      (load (holding lake content) [] { file := lake }).1 = .error (refusal [⟨[], .brokenText⟩]) ∧
      Field.logLevel.Refuses (.str "loud") (.unmatched "^(debug|info|warning|error)$") := by
  intro content
  have read : Yaml.Value.read Limits.reading "\"\\uD800\": pond\nlog_level: loud\n".toList =
      .ok (.ofTexts [(.broken [0xd800], "pond"), ("log_level", "loud")]) := by decide +kernel
  have reads : Reads { file := lake } (holding lake content)
      [(.broken [0xd800], .str "pond"), ("log_level", .str "loud")] :=
    .document rfl ⟨_, Content.read_eq_ok.mp rfl, read⟩
      (.map [(.broken [0xd800], .str "pond"), ("log_level", .str "loud")])
  refine ⟨reads, ?_, .text (.str "loud") ?_⟩
  · rw [reads.result]
    rfl
  · rintro ⟨s, member, same⟩
    cases same
    revert member
    decide

/-- What the user gives hides what is wrong in the file. -/
theorem loads_merge_hidden :
    Merges [("log_level", .str "loud"), ("state_dir", .str "lakes")]
        [("log_level", .str "info"), ("state_dir", .null)]
        (load (holding lake (.text "log_level: loud\nstate_dir: lakes\n"))
          [("log_level", .str "info"), ("state_dir", .null)] { file := lake }).1 ∧
      (load (holding lake (.text "log_level: loud\nstate_dir: lakes\n"))
        [("log_level", .str "info"), ("state_dir", .null)] { file := lake }).1 =
        .ok { stateDir := "lakes", logLevel := "info" } := by
  have read : Yaml.Value.read Limits.reading "log_level: loud\nstate_dir: lakes\n".toList =
      .ok (.ofTexts [("log_level", "loud"), ("state_dir", "lakes")]) := by decide +kernel
  have reads : Reads { file := lake }
      (holding lake (.text "log_level: loud\nstate_dir: lakes\n"))
      [("log_level", .str "loud"), ("state_dir", .str "lakes")] :=
    .document rfl ⟨_, Content.read_eq_ok.mp rfl, read⟩
      (.map [("log_level", .str "loud"), ("state_dir", .str "lakes")])
  have merges := (loads_merge lake []).2 _ _ [("log_level", .str "info"), ("state_dir", .null)]
    reads (by decide)
  refine ⟨merges, (merges.settles _).mpr ⟨by decide, fun f => ?_⟩⟩
  cases f with
  | stateDir => exact .text (.str "lakes") ⟨"lakes", by decide, rfl⟩ (nomatch ·.1)
  | logLevel => exact .text (.str "info") ⟨"info", by decide, rfl⟩ (nomatch ·.1)
  | _ => rfl

end Configuration
end Dismantle
