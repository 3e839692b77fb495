import Dismantle.Proofs.Text.Lines
import Dismantle.Settings.Check
import Mathlib.Data.List.Nodup
/-! What each setting may be. A check finds settings of which each is what its value makes of it, or
lists what is wrong: the settings in their order, then names that are no settings. -/
namespace Dismantle

namespace Yaml

/-- Text, or bytes that spell one. -/
inductive Value.Spells : Value → Spelling → Prop
  | str (s : String) : Spells (.str s) s
  | unpaired (points : List Nat) : Spells (.unpaired points) (.broken points)
  | bytes {bs : List UInt8} {cs : List Char} (spelled : Text.Utf8.decode bs = .ok cs) :
      Spells (.bytes bs) (String.ofList cs)

/-- What was meant to be text but spells none. -/
inductive Value.Garbled : Value → Prop
  | bytes {bs : List UInt8} {f : Text.Utf8.Fault} (failed : Text.Utf8.decode bs = .error f) :
      Garbled (.bytes bs)

def Value.Foreign (v : Value) : Prop := (∀ t, ¬v.Spells t) ∧ ¬v.Garbled

theorem Value.Spells.unique {v : Value} {t t' : Spelling} (first : v.Spells t) (second : v.Spells t') :
    t = t' := by
  cases first with
  | str | unpaired =>
      cases second
      rfl
  | bytes spelled =>
      cases second with
      | bytes other =>
          cases spelled.symm.trans other
          rfl

theorem Value.Spells.not_garbled {v : Value} {t : Spelling} (spells : v.Spells t) : ¬v.Garbled := by
  rintro ⟨failed⟩
  cases spells with
  | bytes spelled => cases failed.symm.trans spelled

end Yaml

namespace Settings
open Check

theorem spellingOf_settled (v : Yaml.Value) :
    (∃ t, v.Spells t ∧ spellingOf v = pure t) ∨
      (v.Garbled ∧ spellingOf v = fail (.plain "") .brokenText) ∨
      (v.Foreign ∧ spellingOf v = fail (.plain "") .notText) := by
  cases v with
  | str s => exact .inl ⟨s, .str s, rfl⟩
  | unpaired points => exact .inl ⟨.broken points, .unpaired points, rfl⟩
  | bytes bs =>
      cases spelled : Text.Utf8.decode bs with
      | ok cs => exact .inl ⟨_, .bytes spelled, by rw [spellingOf, spelled]⟩
      | error f => exact .inr (.inl ⟨.bytes spelled, by rw [spellingOf, spelled]⟩)
  | _ => exact .inr (.inr ⟨⟨nofun, nofun⟩, rfl⟩)

inductive Field where
  | stateDir | logLevel | logDir | terraformBinary | boshBinary | gcloudBinary | awsProfile
  deriving DecidableEq, Repr

namespace Field

def all : List Field :=
  [.stateDir, .logLevel, .logDir, .terraformBinary, .boshBinary, .gcloudBinary, .awsProfile]

def key : Field → String
  | .stateDir => "state_dir"
  | .logLevel => "log_level"
  | .logDir => "log_dir"
  | .terraformBinary => "terraform_binary"
  | .boshBinary => "bosh_binary"
  | .gcloudBinary => "gcloud_binary"
  | .awsProfile => "aws_profile"

/-- What a field is set to, unless it is switched off. -/
def of (s : Settings) : Field → Option Spelling
  | .stateDir => some s.stateDir
  | .logLevel => some s.logLevel
  | .logDir => s.logDir
  | .terraformBinary => some s.terraformBinary
  | .boshBinary => some s.boshBinary
  | .gcloudBinary => some s.gcloudBinary
  | .awsProfile => s.awsProfile

/-- What a field is set to where nothing is said. -/
def usual (f : Field) : Option Spelling := f.of {}

def Optional (f : Field) : Prop := f = .logDir ∨ f = .awsProfile
  deriving Decidable

def Allows : Field → Spelling → Prop
  | .logLevel, t => ∃ s ∈ ["debug", "info", "warning", "error"], t = .plain s
  | .logDir, _ | .awsProfile, _ => True
  | _, t => ∃ s, s ≠ "" ∧ t = .plain s

/-- What is wrong with a text that a field may not be set to. -/
def complaint : Field → Spelling → Problem
  | _, .broken _ => .brokenText
  | .logLevel, _ => .unmatched "^(debug|info|warning|error)$"
  | _, _ => .emptyText

/-- A text of blanks names no directory. -/
def Hides (f : Field) (t : Spelling) : Prop :=
  f = .logDir ∧ ∃ s, t = .plain s ∧ ∀ c ∈ s.toList, Text.isBlank c = true

/-- What a value sets a field to. -/
inductive Takes : Field → Yaml.Value → Option Spelling → Prop
  | off {f : Field} (optional : f.Optional) : Takes f .null none
  | hidden {f : Field} {v : Yaml.Value} {t : Spelling} (spells : v.Spells t) (hides : f.Hides t) :
      Takes f v none
  | text {f : Field} {v : Yaml.Value} {t : Spelling} (spells : v.Spells t) (allowed : f.Allows t)
      (shows : ¬f.Hides t) : Takes f v (some t)

/-- What is wrong with a value. -/
inductive Refuses : Field → Yaml.Value → Problem → Prop
  | garbled {f : Field} {v : Yaml.Value} (garbled : v.Garbled) : Refuses f v .brokenText
  | foreign {f : Field} {v : Yaml.Value} (foreign : v.Foreign) (given : f.Optional → v ≠ .null) :
      Refuses f v .notText
  | text {f : Field} {v : Yaml.Value} {t : Spelling} (spells : v.Spells t) (other : ¬f.Allows t) :
      Refuses f v (f.complaint t)

theorem mem_all (f : Field) : f ∈ all := by
  cases f <;> decide

theorem ext_of {s s' : Settings} (same : ∀ f : Field, f.of s = f.of s') : s = s' := by
  obtain ⟨stateDir, logLevel, logDir, terraformBinary, boshBinary, gcloudBinary, awsProfile⟩ := s
  cases same .stateDir
  cases same .logLevel
  cases same .logDir
  cases same .terraformBinary
  cases same .boshBinary
  cases same .gcloudBinary
  cases same .awsProfile
  rfl

theorem Takes.unique {f : Field} {v : Yaml.Value} {a b : Option Spelling} (first : f.Takes v a)
    (second : f.Takes v b) : a = b := by
  cases first with
  | off =>
      cases second with
      | off => rfl
      | hidden spells | text spells => cases spells
  | hidden spells hides =>
      cases second with
      | off | hidden => rfl
      | text spells' _ shows => exact absurd (spells.unique spells' ▸ hides) shows
  | text spells _ shows =>
      cases second with
      | off => cases spells
      | hidden spells' hides => exact absurd (spells'.unique spells ▸ hides) shows
      | text spells' => rw [spells.unique spells']

/-- A value that sets a field has nothing wrong with it. -/
theorem Refuses.not_takes {f : Field} {v : Yaml.Value} {p : Problem} (refuses : f.Refuses v p)
    (a : Option Spelling) : ¬f.Takes v a := by
  intro takes
  cases refuses with
  | garbled garbled =>
      cases takes with
      | off => cases garbled
      | hidden spells | text spells => exact spells.not_garbled garbled
  | foreign foreign given =>
      cases takes with
      | off optional => exact given optional rfl
      | hidden spells | text spells => exact foreign.1 _ spells
  | text spells other =>
      cases takes with
      | off => cases spells
      | hidden _ hides =>
          obtain ⟨rfl, -⟩ := hides
          exact other trivial
      | text spells' allowed => exact other (spells.unique spells' ▸ allowed)

/-- How the value of a field is checked. -/
def judge : Field → Yaml.Value → Check (Option Spelling)
  | .logLevel, v => (some ∘ .plain) <$> level v
  | .logDir, v => directory v
  | .awsProfile, v => optionalText v
  | _, v => (some ∘ .plain) <$> nonempty v

/-- A check that finds what a value sets a field to, or else the one thing that is wrong with it. -/
def Judged (f : Field) (v : Yaml.Value) (c : Check (Option Spelling)) : Prop :=
  (∃ a, f.Takes v a ∧ c = pure a) ∨ ∃ p, f.Refuses v p ∧ c.issues = [⟨[], p⟩]

theorem judged_require {f : Field} (needed : ¬f.Optional) (v : Yaml.Value) (holds : String → Bool)
    (p : Problem) (complains : ∀ s, f.complaint (.plain s) = p)
    (decides : ∀ t, (∃ s, holds s = true ∧ t = .plain s) ↔ f.Allows t) :
    f.Judged v ((some ∘ .plain) <$> require (holds (textOf v).value) p (textOf v)) := by
  rw [textOf]
  rcases spellingOf_settled v with ⟨t, spells, text⟩ | ⟨garbled, text⟩ | ⟨foreign, text⟩ <;> rw [text]
  · cases t with
    | plain s =>
        change f.Judged v ((some ∘ .plain) <$> require (holds s) p (pure s))
        cases allowed : holds s with
        | true =>
            have shows : ¬f.Hides s := fun hides => needed (.inl hides.1)
            exact .inl ⟨some s, .text spells ((decides s).mp ⟨s, allowed, rfl⟩) shows, rfl⟩
        | false =>
            have refuses : f.Refuses v (f.complaint (.plain s)) := by
              refine .text spells fun allows => ?_
              obtain ⟨s', allowed', same⟩ := (decides s).mpr allows
              cases same
              cases allowed.symm.trans allowed'
            exact .inr ⟨p, complains s ▸ refuses, rfl⟩
    | broken points =>
        have refuses : f.Refuses v (f.complaint (.broken points)) := by
          refine .text spells fun allows => ?_
          obtain ⟨s, -, same⟩ := (decides _).mpr allows
          cases same
        have same : f.complaint (.broken points) = .brokenText := by cases f <;> rfl
        exact .inr ⟨_, same ▸ refuses, rfl⟩
  · exact .inr ⟨_, .garbled garbled, rfl⟩
  · exact .inr ⟨_, .foreign foreign fun optional => absurd optional needed, rfl⟩

/-- Where none is needed, null is looked for first. -/
theorem optionalText_settled (v : Yaml.Value) :
    (v = .null ∧ optionalText v = pure none) ∨
      (∃ t, v.Spells t ∧ optionalText v = pure (some t)) ∨
      (v.Garbled ∧ (optionalText v).issues = [⟨[], .brokenText⟩]) ∨
      (v.Foreign ∧ v ≠ .null ∧ (optionalText v).issues = [⟨[], .notText⟩]) := by
  by_cases given : v = .null
  · exact .inl ⟨given, by rw [given]; rfl⟩
  have later : optionalText v = some <$> spellingOf v := by
    cases v with
    | null => exact absurd rfl given
    | _ => rfl
  rw [later]
  rcases spellingOf_settled v with ⟨t, spells, text⟩ | ⟨garbled, text⟩ | ⟨foreign, text⟩ <;> rw [text]
  · exact .inr (.inl ⟨t, spells, rfl⟩)
  · exact .inr (.inr (.inl ⟨garbled, rfl⟩))
  · exact .inr (.inr (.inr ⟨foreign, given, rfl⟩))

theorem isBlank_eq_true {t : Spelling} :
    isBlank t = true ↔ ∃ s, t = .plain s ∧ ∀ c ∈ s.toList, Text.isBlank c = true := by
  cases t with
  | plain s => simp [isBlank, Text.strip_eq_empty]
  | broken points => simp [isBlank]

theorem judged_directory (v : Yaml.Value) : Field.logDir.Judged v (directory v) := by
  have kept : directory v = (·.filter (!isBlank ·)) <$> optionalText v := rfl
  rw [kept]
  rcases optionalText_settled v with ⟨rfl, same⟩ | ⟨t, spells, same⟩ | ⟨garbled, same⟩ |
    ⟨foreign, given, same⟩
  · rw [same]
    exact .inl ⟨none, .off (.inl rfl), rfl⟩
  · rw [same]
    change Field.logDir.Judged v (pure ((some t).filter (!isBlank ·)))
    cases blank : isBlank t with
    | true =>
        rw [Option.filter_some_neg (by simp [blank])]
        exact .inl ⟨none, .hidden spells ⟨rfl, isBlank_eq_true.mp blank⟩, rfl⟩
    | false =>
        rw [Option.filter_some_pos (by simp [blank])]
        refine .inl ⟨some t, .text spells trivial fun hides => ?_, rfl⟩
        cases blank.symm.trans (isBlank_eq_true.mpr hides.2)
  · exact .inr ⟨_, .garbled garbled, congrArg (· ++ []) same⟩
  · exact .inr ⟨_, .foreign foreign fun _ => given, congrArg (· ++ []) same⟩

theorem judged_profile (v : Yaml.Value) : Field.awsProfile.Judged v (optionalText v) := by
  rcases optionalText_settled v with ⟨rfl, same⟩ | ⟨s, spells, same⟩ | ⟨garbled, same⟩ |
    ⟨foreign, given, same⟩
  · exact .inl ⟨none, .off (.inr rfl), same⟩
  · exact .inl ⟨some s, .text spells trivial nofun, same⟩
  · exact .inr ⟨_, .garbled garbled, same⟩
  · exact .inr ⟨_, .foreign foreign fun _ => given, same⟩

theorem judge_judged (f : Field) (v : Yaml.Value) : f.Judged v (f.judge v) := by
  cases f with
  | logLevel =>
      refine judged_require (by decide) v logLevels.contains _ (fun _ => rfl) fun t => ?_
      simp only [List.contains_iff_mem]
      rfl
  | logDir => exact judged_directory v
  | awsProfile => exact judged_profile v
  | _ =>
      refine judged_require (by decide) v (· ≠ "") _ (fun _ => rfl) fun t => ?_
      simp only [decide_eq_true_iff]
      rfl

/-- What a field comes to by the value that is given, if there is one. -/
def Gets (f : Field) : Option Yaml.Value → Option Spelling → Prop
  | none, a => a = f.usual
  | some v, a => f.Takes v a

theorem Gets.unique {f : Field} {v? : Option Yaml.Value} {a b : Option Spelling}
    (first : f.Gets v? a) (second : f.Gets v? b) : a = b := by
  cases v? with
  | none => exact first.trans second.symm
  | some v => exact Takes.unique first second

/-- How a field is checked among all that is given. -/
def checked (g : Given) (f : Field) : Check (Option Spelling) := setting g f.key f.usual f.judge

theorem checked_settled (g : Given) (f : Field) :
    (∃ a, f.Gets (g.lookup (.plain f.key)) a ∧ f.checked g = pure a) ∨
      ∃ v p, g.lookup (.plain f.key) = some v ∧ f.Refuses v p ∧
        (f.checked g).issues = [⟨[.name f.key], p⟩] := by
  rw [checked, setting]
  cases g.lookup (.plain f.key) with
  | none => exact .inl ⟨f.usual, rfl, rfl⟩
  | some v =>
      rcases f.judge_judged v with ⟨a, takes, same⟩ | ⟨p, refuses, same⟩
      · refine .inl ⟨a, takes, ?_⟩
        change (f.judge v).under f.key = _
        rw [same]
        rfl
      · refine .inr ⟨v, p, rfl, refuses, ?_⟩
        change ((f.judge v).under f.key).issues = _
        rw [under, same]
        rfl

end Field

section
variable (g : Given)

theorem setting_map_some (name default : String) (c : Yaml.Value → Check String) :
    setting g name (some (.plain default)) (fun v => (some ∘ Spelling.plain) <$> c v) =
      ⟨some (.plain (setting g name default c).value), (setting g name default c).issues⟩ := by
  unfold setting
  cases g.lookup (.plain name) with
  | none => rfl
  | some v =>
      change Check.mk _ _ = Check.mk _ _
      congr 1
      exact congrArg (List.map _) (List.append_nil _)

theorem of_checkFields (f : Field) : f.of (checkFields g).value = (f.checked g).value := by
  cases f with
  | logDir | awsProfile => rfl
  | _ => exact (congrArg Check.value (setting_map_some g _ _ _)).symm

theorem checkFields_issues :
    (checkFields g).issues = Field.all.flatMap fun f => (f.checked g).issues := by
  have same (name default : String) (c : Yaml.Value → Check String) :=
    congrArg Check.issues (setting_map_some g name default c)
  let judged (name default : String) (c : Yaml.Value → Check String) : List Issue :=
    (setting g name (some (.plain default)) fun v => (some ∘ Spelling.plain) <$> c v).issues
  change _ = judged "state_dir" "." nonempty ++ (judged "log_level" "warning" level ++
    ((setting g "log_dir" _ directory).issues ++ (judged "terraform_binary" "terraform" nonempty ++
    (judged "bosh_binary" "bosh" nonempty ++ (judged "gcloud_binary" "gcloud" nonempty ++
    ((setting g "aws_profile" none optionalText).issues ++ []))))))
  simp only [judged, same]
  rfl

/-- Without a broken name the fields are checked, and the names that are none are listed. -/
theorem check_issues {texts : List String} (plain : g.map (·.1) = texts.map .plain) :
    (check g).issues = (Field.all.flatMap fun f => (f.checked g).issues) ++
      (unknownKeys keys texts).issues ∧ (check g).value = (checkFields g).value := by
  rw [check, Spelling.mapM_text?_eq_some.mpr plain, ← checkFields_issues]
  refine ⟨?_, rfl⟩
  change _ ++ (_ ++ []) = _
  rw [List.append_nil]

theorem check_broken {points : List Nat} (member : .broken points ∈ g.map (·.1)) :
    (check g).issues = [⟨[], .brokenText⟩] := by
  cases names : (g.map (·.1)).mapM Spelling.text? with
  | none =>
      rw [check, names]
      rfl
  | some texts =>
      rw [Spelling.mapM_text?_eq_some.mp names] at member
      obtain ⟨text, -, same⟩ := List.mem_map.mp member
      cases same

end

/-- What is wrong with the values of some fields, one finding for each value that is wrong. -/
inductive Findings (value : Spelling → Option Yaml.Value) : List Field → List Issue → Prop
  | nil : Findings value [] []
  | fine {f : Field} {fs : List Field} {issues : List Issue} {a : Option Spelling}
      (gets : f.Gets (value f.key) a) (rest : Findings value fs issues) :
      Findings value (f :: fs) issues
  | wrong {f : Field} {fs : List Field} {issues : List Issue} {v : Yaml.Value} {p : Problem}
      (found : value f.key = some v) (refuses : f.Refuses v p) (rest : Findings value fs issues) :
      Findings value (f :: fs) (⟨[.name f.key], p⟩ :: issues)

/-- Settings that are made of values by name, and of no others. -/
structure MadeOf (value : Spelling → Option Yaml.Value) (names : List Spelling) (s : Settings) :
    Prop where
  known : ∀ name ∈ names, name ∈ keys.map .plain
  fields : ∀ f : Field, f.Gets (value f.key) (f.of s)

/-- All that is wrong with values by name: first the fields in their order, then the names that are
no fields in theirs. Of a name with half of a pair in it no more is told than that it is broken. -/
inductive Report (value : Spelling → Option Yaml.Value) (names : List Spelling) : List Issue → Prop
  | all {texts : List String} {found : List Issue} (plain : names = texts.map .plain)
      (findings : Findings value Field.all found) :
      Report value names
        (found ++ (texts.filter (· ∉ keys)).map fun name => ⟨[.name name], .unknownKey⟩)
  | broken {points : List Nat} (member : .broken points ∈ names) :
      Report value names [⟨[], .brokenText⟩]

section
variable {value : Spelling → Option Yaml.Value} {names : List Spelling} {issues : List Issue}
  {s : Settings}

theorem findings_checked (g : Given) (fs : List Field) :
    Findings (g.lookup ·) fs (fs.flatMap fun f => (f.checked g).issues) := by
  induction fs with
  | nil => exact .nil
  | cons f fs ih =>
      rw [List.flatMap_cons]
      rcases f.checked_settled g with ⟨a, gets, same⟩ | ⟨v, p, found, refuses, same⟩ <;> rw [same]
      · exact .fine gets ih
      · exact .wrong found refuses ih

theorem Findings.eq_nil {fs : List Field} (found : Findings value fs issues)
    (gets : ∀ f ∈ fs, ∃ a, f.Gets (value f.key) a) : issues = [] := by
  induction found with
  | nil => rfl
  | fine _ _ ih => exact ih (List.forall_mem_cons.mp gets).2
  | wrong found refuses =>
      obtain ⟨a, takes⟩ := (List.forall_mem_cons.mp gets).1
      rw [found] at takes
      exact absurd takes (refuses.not_takes a)

theorem MadeOf.unique {s' : Settings} (made : MadeOf value names s) (made' : MadeOf value names s') :
    s = s' :=
  Field.ext_of fun f => (made.fields f).unique (made'.fields f)

theorem Report.eq_nil (report : Report value names issues)
    (known : ∀ name ∈ names, name ∈ keys.map .plain)
    (gets : ∀ f : Field, ∃ a, f.Gets (value f.key) a) : issues = [] := by
  cases report with
  | all plain findings =>
      have none : ∀ name ∈ _, ¬decide (name ∉ keys) = true := fun name member => by
        have known := known (.plain name) (plain ▸ List.mem_map_of_mem member)
        simpa using known
      rw [findings.eq_nil fun f _ => gets f, List.filter_eq_nil_iff.mpr none]
      rfl
  | broken member =>
      obtain ⟨name, -, same⟩ := List.mem_map.mp (known _ member)
      cases same

theorem Findings.keys_sublist {fs : List Field} (found : Findings value fs issues) :
    (issues.map (·.keys)).Sublist (fs.map fun f => [.name f.key]) := by
  induction found with
  | nil => exact .slnil
  | fine _ _ ih => exact .cons _ ih
  | wrong _ _ _ ih => exact .cons_cons _ ih

theorem Report.nodup (report : Report value names issues) (distinct : names.Nodup) :
    (issues.map (·.keys)).Nodup := by
  cases report with
  | broken member => exact List.nodup_singleton _
  | @all texts found plain findings =>
      have below := findings.keys_sublist
      have fields : (Field.all.map fun f => [Key.name f.key]).Nodup := by decide
      have distinct : texts.Nodup := (plain ▸ distinct).of_map _
      have unknown : ((texts.filter (· ∉ keys)).map fun name => [Key.name name]).Nodup :=
        (distinct.filter _).map fun a b same => by simpa using same
      rw [List.map_append, List.map_map]
      refine List.nodup_append.mpr ⟨below.nodup fields, unknown, ?_⟩
      rintro path inside _ outside rfl
      obtain ⟨f, -, rfl⟩ := List.mem_map.mp (below.subset inside)
      obtain ⟨name, member, same⟩ := List.mem_map.mp outside
      have strange : name ∉ keys := by simpa using (List.mem_filter.mp member).2
      obtain rfl : name = f.key := by simpa using same
      exact strange (List.mem_map_of_mem f.mem_all)

theorem names_settled (names : List Spelling) :
    (∃ texts : List String, names = texts.map .plain) ∨ ∃ points, .broken points ∈ names := by
  induction names with
  | nil => exact .inl ⟨[], rfl⟩
  | cons name names ih =>
      cases name with
      | broken points => exact .inr ⟨points, List.mem_cons_self⟩
      | plain s =>
          rcases ih with ⟨texts, rfl⟩ | ⟨points, member⟩
          · exact .inl ⟨s :: texts, rfl⟩
          · exact .inr ⟨points, List.mem_cons_of_mem _ member⟩

theorem report_check (g : Given) : Report (g.lookup ·) (g.map (·.1)) (check g).issues := by
  rcases names_settled (g.map (·.1)) with ⟨texts, plain⟩ | ⟨points, member⟩
  · have same : (fun name => !keys.contains name) = fun name => decide (name ∉ keys) := by
      funext name
      simp
    rw [(check_issues g plain).1, unknownKeys, same]
    exact .all plain (findings_checked g Field.all)
  · rw [check_broken g member]
    exact .broken member

theorem madeOf_check {g : Given} (none : (check g).issues = []) :
    MadeOf (g.lookup ·) (g.map (·.1)) (check g).value := by
  rcases names_settled (g.map (·.1)) with ⟨texts, plain⟩ | ⟨points, member⟩
  · obtain ⟨issues, value⟩ := check_issues g plain
    rw [issues, List.append_eq_nil_iff, List.flatMap_eq_nil_iff] at none
    obtain ⟨fields, unknown⟩ := none
    refine ⟨fun name member => ?_, fun f => ?_⟩
    · rw [plain] at member
      obtain ⟨text, among, rfl⟩ := List.mem_map.mp member
      have known := List.filter_eq_nil_iff.mp (List.map_eq_nil_iff.mp unknown) text among
      simpa using known
    · rw [value, of_checkFields]
      rcases f.checked_settled g with ⟨a, gets, same⟩ | ⟨v, p, -, -, same⟩
      · rw [same]
        exact gets
      · cases same.symm.trans (fields f f.mem_all)
  · rw [check_broken g member] at none
    cases none

/-- How many things are wrong, and which. -/
def refusal (issues : List Issue) : Fault :=
  .badSettings ("Configuration validation failed with " ++ toString issues.length ++ " error(s)")
    issues

theorem of_settled (g : Given) :
    (∃ s, of g = .ok s ∧ MadeOf (g.lookup ·) (g.map (·.1)) s) ∨
      ∃ issues, of g = .error (refusal issues) ∧ issues ≠ [] ∧
        Report (g.lookup ·) (g.map (·.1)) issues := by
  have report := report_check g
  unfold of
  cases found : (check g).issues with
  | nil => exact .inl ⟨_, rfl, madeOf_check found⟩
  | cons issue issues => exact .inr ⟨_, rfl, List.cons_ne_nil _ _, found ▸ report⟩

theorem of_eq_ok {g : Given} : of g = .ok s ↔ MadeOf (g.lookup ·) (g.map (·.1)) s := by
  rcases of_settled g with ⟨s', same, made⟩ | ⟨issues, same, some_, report⟩ <;> rw [same]
  · refine ⟨?_, fun other => congrArg _ (made.unique other)⟩
    rintro ⟨⟩
    exact made
  · exact ⟨nofun, fun made => absurd (report.eq_nil made.known fun f => ⟨_, made.fields f⟩) some_⟩

/-- Settings are made if only settings are named and each value sets its field. -/
theorem of_isOk_iff {g : Given} : (∃ s, of g = .ok s) ↔
    (∀ name ∈ g.map (·.1), name ∈ keys.map .plain) ∧
      ∀ f : Field, ∃ a, f.Gets (g.lookup (.plain f.key)) a := by
  rcases of_settled g with ⟨s, same, made⟩ | ⟨issues, same, some_, report⟩ <;> rw [same]
  · exact ⟨fun _ => ⟨made.known, fun f => ⟨_, made.fields f⟩⟩, fun _ => ⟨s, rfl⟩⟩
  · exact ⟨nofun, fun good => absurd (report.eq_nil good.1 good.2) some_⟩

end

end Settings
end Dismantle
