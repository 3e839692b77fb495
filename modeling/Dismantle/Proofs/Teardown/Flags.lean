import Dismantle.Proofs.Text.Lines
import Dismantle.Teardown.Flags
/-! Which arguments a teardown accepts, and what it says of those that it does not. -/
namespace Dismantle.Teardown

/-- An argument that is no flag: it begins with no dash, or is a dash and nothing else. -/
def IsAlone (s : String) : Prop := s.toList.head? ≠ some '-' ∨ s = "-"

instance : DecidablePred IsAlone := fun _ => inferInstanceAs (Decidable (_ ∨ _))

/-- A value stands behind an equals sign. -/
def assignment : Option String → List Char
  | none => []
  | some value => '=' :: value.toList

/-- An argument is a name behind any number of dashes, and goes on with a value or does not. -/
structure Gives (s name : String) (value : Option String) : Prop where
  spelled : ∃ n, s.toList = List.replicate (n + 1) '-' ++ (name.toList ++ assignment value)
  dashless : name.toList.head? ≠ some '-'
  uncut : '=' ∉ name.toList
  notDash : s ≠ "-"

def flagNames : List String := ["skip-if-missing", "no-confirm", "n"]

/-- What is said of an argument that no flag may be: its name is not known, or it has a value. -/
inductive Complaint : String → String → Prop where
  | unknown {s name : String} {value : Option String} : Gives s name value → name ∉ flagNames →
      Complaint s ("flag provided but not defined: -" ++ name)
  | valued {s name value : String} : Gives s name (some value) → name ∈ flagNames →
      Complaint s ("invalid boolean flag " ++ name ++ ": " ++ value)

def Proper (s : String) : Prop := ∀ text, ¬Complaint s text

theorem named?_eq_none {name : String} : Flag.named? name = none ↔ name ∉ flagNames := by
  unfold Flag.named?
  split
  · simp_all [flagNames]
  · split <;> simp_all [flagNames]

theorem named?_eq_skipIfMissing {name : String} :
    Flag.named? name = some .skipIfMissing ↔ name = "skip-if-missing" := by
  unfold Flag.named?
  split
  · simp_all
  · split <;> simp_all

theorem named?_eq_noConfirm {name : String} :
    Flag.named? name = some .noConfirm ↔ name = "no-confirm" ∨ name = "n" := by
  unfold Flag.named?
  split
  · simp_all
  · split <;> simp_all

theorem IsAlone.argument {s : String} (alone : IsAlone s) : Argument.of s = .alone s := by
  unfold Argument.of
  split
  case h_1 c cs chars =>
      rcases alone with dashless | rfl
      · simp [chars] at dashless
      · cases chars
  case h_2 => rfl

theorem Gives.not_isAlone {s name : String} {value : Option String} (gives : Gives s name value) :
    ¬IsAlone s := by
  obtain ⟨n, spelled⟩ := gives.spelled
  rintro (dashless | same)
  · simp [spelled, List.replicate_succ] at dashless
  · exact gives.notDash same

/-- A name and its value are told apart, wherever the equals sign is. -/
theorem assignment_parts {name : String} (uncut : '=' ∉ name.toList) (value : Option String) :
    (name.toList ++ assignment value).takeWhile (· ≠ '=') = name.toList ∧
      (name.toList ++ assignment value).dropWhile (· ≠ '=') = assignment value := by
  have clear : ∀ c ∈ name.toList, decide (c ≠ '=') = true := by
    intro c member
    exact decide_eq_true fun same => uncut (same ▸ member)
  rw [List.takeWhile_append_of_pos clear, List.dropWhile_append_of_pos clear]
  cases value <;> simp [assignment]

/-- The name begins behind the dashes and ends where the value does not yet begin. -/
theorem Gives.argument {s name : String} {value : Option String} (gives : Gives s name value) :
    Argument.of s = match Flag.named? name, value with
      | none, _ => .unknown name
      | some _, some value => .valued name value
      | some f, none => .flag f := by
  obtain ⟨n, spelled⟩ := gives.spelled
  have head : ∀ c ∈ (name.toList ++ assignment value).head?, decide (c = '-') = false := by
    have dashless := gives.dashless
    cases chars : name.toList with
    | nil => cases value <;> simp [assignment]
    | cons d ds => simpa [chars] using dashless
  have body : (List.replicate n '-' ++ (name.toList ++ assignment value)).dropWhile (· = '-') =
      name.toList ++ assignment value :=
    Text.dropWhile_append_of_head (by simp) head
  rw [List.replicate_succ, List.cons_append] at spelled
  unfold Argument.of
  split
  case h_1 c cs chars =>
      obtain ⟨-, rest⟩ := List.cons.inj (chars.symm.trans spelled)
      obtain ⟨taken, dropped⟩ := assignment_parts gives.uncut value
      simp only [rest, body, taken, dropped, String.ofList_toList]
      cases Flag.named? name <;> cases value <;> simp [assignment]
  case h_2 other =>
      cases rest : List.replicate n '-' ++ (name.toList ++ assignment value) with
      | nil =>
          rw [rest] at spelled
          exact absurd (String.toList_inj.mp spelled) gives.notDash
      | cons c cs =>
          rw [rest] at spelled
          exact absurd spelled (other c cs)

theorem exists_dashes {cs : List Char} (dash : cs.head? = some '-') : ∃ n body,
    cs = List.replicate (n + 1) '-' ++ body ∧ body.head? ≠ some '-' := by
  have dashless : (cs.dropWhile (· = '-')).head? ≠ some '-' := by
    intro head
    have stopped : decide ('-' = '-') = false := Text.head_dropWhile '-' head
    exact absurd stopped (by decide)
  have dashes : cs.takeWhile (· = '-') = List.replicate (cs.takeWhile (· = '-')).length '-' := by
    refine List.eq_replicate_iff.mpr ⟨rfl, fun c member => ?_⟩
    simpa using List.mem_takeWhile_imp member
  have whole := List.takeWhile_append_dropWhile (p := (decide <| · = '-')) (l := cs)
  rw [dashes] at whole
  cases count : (cs.takeWhile (· = '-')).length with
  | zero =>
      rw [count, List.replicate_zero, List.nil_append] at whole
      exact absurd dash (whole ▸ dashless)
  | succ n => exact ⟨n, _, by rw [← count, whole], dashless⟩

theorem isAlone_or_gives (s : String) : IsAlone s ∨ ∃ name value, Gives s name value := by
  by_cases alone : IsAlone s
  · exact .inl alone
  right
  obtain ⟨dash, notDash⟩ := not_or.mp alone
  obtain ⟨n, body, spelled, dashless⟩ := exists_dashes (not_not.mp dash)
  by_cases assigns : '=' ∈ body
  · obtain ⟨name, value, rfl, uncut⟩ := List.eq_append_cons_of_mem assigns
    refine ⟨.ofList name, some (.ofList value), ⟨n, ?_⟩, ?_, ?_, notDash⟩
    · simpa [assignment] using spelled
    · cases name <;> simp_all
    · simpa using uncut
  · refine ⟨.ofList body, none, ⟨n, ?_⟩, ?_, ?_, notDash⟩
    · simpa [assignment] using spelled
    · simpa using dashless
    · simpa using assigns

theorem argument_eq_flag {s : String} {f : Flag} :
    Argument.of s = .flag f ↔ ∃ name, Gives s name none ∧ Flag.named? name = some f := by
  constructor
  · intro argument
    rcases isAlone_or_gives s with alone | ⟨name, value, gives⟩
    · rw [alone.argument] at argument
      cases argument
    · rw [gives.argument] at argument
      cases named : Flag.named? name with
      | none => simp [named] at argument
      | some g =>
          cases value with
          | none =>
              obtain rfl : g = f := by simpa [named] using argument
              exact ⟨name, gives, named⟩
          | some value => simp [named] at argument
  · rintro ⟨name, gives, named⟩
    rw [gives.argument, named]

theorem argument_eq_skipIfMissing {s : String} :
    Argument.of s = .flag .skipIfMissing ↔ Gives s "skip-if-missing" none := by
  simp [argument_eq_flag, named?_eq_skipIfMissing]

theorem argument_eq_noConfirm {s : String} :
    Argument.of s = .flag .noConfirm ↔ Gives s "no-confirm" none ∨ Gives s "n" none := by
  simp [argument_eq_flag, named?_eq_noConfirm, and_or_left, exists_or]

/-- A proper argument is a flag or stands alone; two dashes are neither. -/
theorem Proper.flag_or_alone {s : String} (proper : Proper s) : s ≠ "--" ∧
    ((∃ f, Argument.of s = .flag f ∧ ¬IsAlone s) ∨ Argument.of s = .alone s ∧ IsAlone s) := by
  constructor
  · rintro rfl
    have gives : Gives "--" "" none := ⟨⟨1, rfl⟩, by decide, by decide, by decide⟩
    exact proper _ (.unknown gives (by decide))
  · rcases isAlone_or_gives s with alone | ⟨name, value, gives⟩
    · exact .inr ⟨alone.argument, alone⟩
    · left
      have known : name ∈ flagNames := by
        by_contra unknown
        exact proper _ (.unknown gives unknown)
      obtain ⟨f, named⟩ := Option.ne_none_iff_exists'.mp fun none => named?_eq_none.mp none known
      cases value with
      | none => exact ⟨f, argument_eq_flag.mpr ⟨name, gives, named⟩, gives.not_isAlone⟩
      | some value => exact absurd (.valued gives known) (proper _)

def Flags.has (flags : Flags) : Flag → Bool
  | .skipIfMissing => flags.skipIfMissing
  | .noConfirm => flags.noConfirm

@[simp] theorem Flags.has_with (flags : Flags) (f g : Flag) :
    (flags.with f).has g = true ↔ flags.has g = true ∨ f = g := by
  cases f <;> cases g <;> simp [Flags.with, Flags.has]

theorem Complaint.read {s text : String} (complaint : Complaint s text) (within : s ≠ "--")
    (flags : Flags) (alone rest : List String) :
    flags.read alone (s :: rest) = .error (.report .flag text) := by
  rw [Flags.read, if_neg within]
  cases complaint with
  | unknown gives unknown => rw [gives.argument, named?_eq_none.mpr unknown]
  | valued gives known =>
      obtain ⟨f, named⟩ := Option.ne_none_iff_exists'.mp fun none => named?_eq_none.mp none known
      rw [gives.argument, named]

theorem Flags.read_flag {s : String} {f : Flag} (within : s ≠ "--") (argument : Argument.of s = .flag f)
    (flags : Flags) (alone rest : List String) :
    flags.read alone (s :: rest) = (flags.with f).read alone rest := by
  rw [Flags.read, if_neg within, argument]

theorem Flags.read_alone {s : String} (within : s ≠ "--") (argument : Argument.of s = .alone s)
    (flags : Flags) (alone rest : List String) :
    flags.read alone (s :: rest) = flags.read (alone ++ [s]) rest := by
  rw [Flags.read, if_neg within, argument]

/-- Proper arguments are read to the end: each is a flag that is raised, or is put with those that
stand alone. -/
theorem read_proper {pre : List String} (proper : ∀ a ∈ pre, Proper a) (flags : Flags)
    (alone rest : List String) : ∃ flags' : Flags,
      flags.read alone (pre ++ rest) = flags'.read (alone ++ pre.filter IsAlone) rest ∧
      ∀ f, flags'.has f = true ↔ flags.has f = true ∨ ∃ a ∈ pre, Argument.of a = .flag f := by
  induction pre generalizing flags alone with
  | nil => exact ⟨flags, by simp, by simp⟩
  | cons s pre ih =>
      obtain ⟨first, others⟩ := List.forall_mem_cons.mp proper
      obtain ⟨within, ⟨f, argument, notAlone⟩ | ⟨argument, isAlone⟩⟩ := first.flag_or_alone
      · obtain ⟨flags', same, raised⟩ := ih others (flags.with f) alone
        refine ⟨flags', ?_, fun g => ?_⟩
        · rw [List.cons_append, Flags.read_flag within argument, same,
            List.filter_cons_of_neg (by simpa using notAlone)]
        · simp [raised, argument, or_assoc]
      · obtain ⟨flags', same, raised⟩ := ih others flags (alone ++ [s])
        refine ⟨flags', ?_, fun g => ?_⟩
        · rw [List.cons_append, Flags.read_alone within argument, same,
            List.filter_cons_of_pos (by simpa using isAlone), List.append_assoc]
          rfl
        · simp [raised, argument]

theorem proper_or_rejected (pre : List String) : (∀ a ∈ pre, Proper a) ∨ ∃ before s after text,
    pre = before ++ s :: after ∧ (∀ a ∈ before, Proper a) ∧ Complaint s text := by
  induction pre with
  | nil => exact .inl (List.forall_mem_nil _)
  | cons s pre ih =>
      by_cases proper : Proper s
      · rcases ih with all | ⟨before, s', after, text, rfl, all, complaint⟩
        · exact .inl (List.forall_mem_cons.mpr ⟨proper, all⟩)
        · right
          exact ⟨s :: before, s', after, text, rfl, List.forall_mem_cons.mpr ⟨proper, all⟩, complaint⟩
      · obtain ⟨text, complaint⟩ := not_forall_not.mp proper
        exact .inr ⟨[], s, pre, text, rfl, List.forall_mem_nil _, complaint⟩

/-- The arguments before the first that is two dashes, and all of them if none is. -/
def beforeDashes (arguments : List String) : List String := arguments.takeWhile (· ≠ "--")

def behindDashes (arguments : List String) : List String := (arguments.dropWhile (· ≠ "--")).tail

/-- What comes of arguments before two dashes and of others behind them: the first bad one is
reported, or else all of those that stand alone, or else the flags are those that are given. -/
inductive Parses (pre post : List String) : Except Fault Flags → Prop where
  | rejected {before after : List String} {s text : String} : pre = before ++ s :: after →
      (∀ a ∈ before, Proper a) → Complaint s text → Parses pre post (.error (.report .flag text))
  | leftover {alone : List String} : (∀ a ∈ pre, Proper a) → alone = pre.filter IsAlone ++ post →
      alone ≠ [] → Parses pre post
        (.error (.reportOf .flag (leftoverText alone) (.leftoverArguments alone)))
  | accepted {flags : Flags} : (∀ a ∈ pre, Proper a) → (∀ a ∈ pre, ¬IsAlone a) → post = [] →
      (flags.skipIfMissing = true ↔ ∃ a ∈ pre, Gives a "skip-if-missing" none) →
      (flags.noConfirm = true ↔ ∃ a ∈ pre, Gives a "no-confirm" none ∨ Gives a "n" none) →
      Parses pre post (.ok flags)

theorem parted (arguments : List String) : ∃ rest, arguments = beforeDashes arguments ++ rest ∧
    (rest = [] ∧ behindDashes arguments = [] ∨ rest = "--" :: behindDashes arguments) := by
  refine ⟨arguments.dropWhile (· ≠ "--"), List.takeWhile_append_dropWhile.symm, ?_⟩
  unfold behindDashes
  have stopped := List.head?_dropWhile_not (fun s => decide (s ≠ "--")) arguments
  cases behind : arguments.dropWhile (· ≠ "--") with
  | nil => exact .inl ⟨rfl, rfl⟩
  | cons s post =>
      rw [behind] at stopped
      obtain rfl : s = "--" := by simpa using stopped
      exact .inr rfl

theorem parse_rejected {arguments before after : List String} {s text : String}
    (bad : beforeDashes arguments = before ++ s :: after) (proper : ∀ a ∈ before, Proper a)
    (complaint : Complaint s text) : Flags.parse arguments = .error (.report .flag text) := by
  have within : s ≠ "--" := by
    have member : s ∈ beforeDashes arguments := bad ▸ List.mem_append_right before List.mem_cons_self
    simpa using List.mem_takeWhile_imp member
  obtain ⟨rest, whole, -⟩ := parted arguments
  obtain ⟨flags, read, -⟩ := read_proper proper {} [] (s :: after ++ rest)
  unfold Flags.parse
  rw [whole, bad, List.append_assoc, read]
  exact complaint.read within _ _ _

/-- Proper arguments come down to those that stand alone. -/
theorem parse_proper {arguments : List String} (proper : ∀ a ∈ beforeDashes arguments, Proper a) :
    ∃ flags : Flags, Flags.parse arguments =
        flags.only ((beforeDashes arguments).filter IsAlone ++ behindDashes arguments) ∧
      (flags.skipIfMissing = true ↔ ∃ a ∈ beforeDashes arguments, Gives a "skip-if-missing" none) ∧
      (flags.noConfirm = true ↔
        ∃ a ∈ beforeDashes arguments, Gives a "no-confirm" none ∨ Gives a "n" none) := by
  obtain ⟨rest, whole, ends⟩ := parted arguments
  obtain ⟨flags, read, raised⟩ := read_proper proper {} [] rest
  rw [← whole] at read
  refine ⟨flags, ?_, ?_, ?_⟩
  · unfold Flags.parse
    rw [read]
    rcases ends with ⟨rfl, none⟩ | rfl
    · rw [none, List.append_nil]
      rfl
    · rw [Flags.read, if_pos rfl]
      rfl
  · simpa [Flags.has, argument_eq_skipIfMissing] using raised .skipIfMissing
  · simpa [Flags.has, argument_eq_noConfirm] using raised .noConfirm

theorem Flags.only_of_alone (flags : Flags) {alone : List String} (some_ : alone ≠ []) :
    flags.only alone = .error (.reportOf .flag (leftoverText alone) (.leftoverArguments alone)) := by
  rw [Flags.only, if_neg (by simpa using some_)]

/-- What arguments come to is told by those before and behind two dashes: which flags are given
counts, but not in which order, how often or with how many dashes. -/
theorem parse_eq_iff (arguments : List String) (r : Except Fault Flags) :
    Flags.parse arguments = r ↔ Parses (beforeDashes arguments) (behindDashes arguments) r := by
  constructor
  · rintro rfl
    rcases proper_or_rejected (beforeDashes arguments) with
      proper | ⟨before, s, after, text, bad, proper, complaint⟩
    · obtain ⟨flags, parsed, skips, unasked⟩ := parse_proper proper
      rw [parsed]
      by_cases none : (beforeDashes arguments).filter IsAlone ++ behindDashes arguments = []
      · obtain ⟨flagged, nothing⟩ := List.append_eq_nil_iff.mp none
        rw [none]
        exact .accepted proper (by simpa [List.filter_eq_nil_iff] using flagged) nothing skips unasked
      · rw [flags.only_of_alone none]
        exact .leftover proper rfl none
    · rw [parse_rejected bad proper complaint]
      exact .rejected bad proper complaint
  · intro outcome
    cases outcome with
    | rejected bad proper complaint => exact parse_rejected bad proper complaint
    | leftover proper same some_ =>
        obtain ⟨flags, parsed, -⟩ := parse_proper proper
        rw [parsed, ← same, flags.only_of_alone some_]
    | @accepted flags proper flagged nothing skips unasked =>
        obtain ⟨flags', parsed, skips', unasked'⟩ := parse_proper proper
        have none : (beforeDashes arguments).filter IsAlone = [] := by
          simpa [List.filter_eq_nil_iff] using flagged
        have skip : flags'.skipIfMissing = flags.skipIfMissing :=
          Bool.eq_iff_iff.mpr (skips'.trans skips.symm)
        have confirm : flags'.noConfirm = flags.noConfirm :=
          Bool.eq_iff_iff.mpr (unasked'.trans unasked.symm)
        rw [parsed, none, nothing]
        exact congrArg Except.ok (congrArg₂ Flags.mk skip confirm)

/-- Two dashes end the flags, so that the last argument is none. -/
example : Flags.parse ["---n", "here", "--", "-n"] =
    .error (.reportOf .flag (leftoverText ["here", "-n"]) (.leftoverArguments ["here", "-n"])) := rfl

end Dismantle.Teardown
