import Dismantle.Proofs.Teardown.Stopping
import Dismantle.Proofs.Terraform.Version
/-! The check of the Terraform version, from what the program prints to how the run goes on. -/
namespace Dismantle

open Text (IsFirstLine)

namespace Command

/-- How the program ends if it is started now. -/
def ending (c : Command) (h : Host) : ProcessEnding := ((c.start h).outcome (h.replies.headD {})).ending

theorem run_result (c : Command) (h : Host) : (c.run h).1 = c.judge (c.ending h) := by
  simp only [run, Act.bind_apply, Host.note, Act.modify, launch, Act.ofExcept, Host.takeReply, ending,
    start]
  cases h.replies <;> rfl

end Command

namespace Terraform

def unknownVersion (line : String) : Fault :=
  .report .command ("could not determine terraform version from: " ++ Text.quoted line)

namespace Tool

def versionEnding (t : Tool) (h : Host) : ProcessEnding := (t.command ["version"] false).ending h

variable {t : Tool} {h : Host} {output errors : String} {line : List Char}

/-- The version is read in the first line of what the program prints, and nowhere else. -/
theorem version_of_printed (printed : t.versionEnding h = .exited 0 output errors)
    (first : IsFirstLine line (Text.strip output).toList) :
    (t.version h).1 = match Version.parse (.ofList line) with
      | .ok v => .ok v.text
      | .error _ => .error (unknownVersion (.ofList line)) := by
  have ran : ((t.command ["version"] false).run h).1 = .ok
      { status := 0, output, errors, line := (t.command ["version"] false).line } := by
    rw [Command.run_result, ← versionEnding, printed, Command.judge_of_exited]
  have read : firstLine output = .ofList line := Text.splitLines_head first
  rw [version, Act.bind_apply]
  revert ran
  rcases (t.command ["version"] false).run h with ⟨r, h'⟩
  rintro rfl
  simp only [read]
  cases Version.parse (.ofList line) <;> rfl

end Tool
end Terraform

namespace Teardown
open Terraform (Version unknownVersion)
open Terraform.Version (Names Stands ofDigits)

variable {s : Site} {output errors : String} {line major minor patch : List Char}

def versionChecked (s : Site) (p : Progress) : Except Fault Unit :=
  ((checkVersion p).perform Site.handler s).1.1

def plainly (v : Version) : String :=
  toString v.major ++ "." ++ toString v.minor ++ "." ++ toString v.patch

/-- The version is found in its plain form, which reads as the same numbers, and it passes just when
these are not below 0.8.5. -/
structure Gated (s : Site) (v : Version) : Prop where
  found : (s.terraform.version s.host).1 = .ok (plainly v)
  read : Version.parse (plainly v) = .ok v
  passes (p : Progress) : versionChecked s p = .ok () ↔ Version.numbers ⟨0, 8, 5⟩ ≤ v.numbers
  refused (p : Progress) : ¬Version.numbers ⟨0, 8, 5⟩ ≤ v.numbers →
    versionChecked s p = .error (.outdatedTerraform "0.8.5" (plainly v))

/-- No version is found, and a run that asks for it here ends with this call, by its report. -/
structure Barred (s : Site) (report : Fault) : Prop where
  found : (s.terraform.version s.host).1 = .error report
  checked (p : Progress) : versionChecked s p = .error report
  ended (start : Site) (supported : List Provider) (arguments : List String) (p : Progress)
    (before after : List (Episode Site)) (answer : Except Fault String) (now : Site) :
    (run supported arguments p).episodes Site.handler start =
      before ++ ⟨s, ⟨.terraformVersion, answer⟩, now⟩ :: after →
    after = [] ∧ ((run supported arguments p).perform Site.handler start).1.1 = .error report

theorem version_answered (printed : s.terraform.versionEnding s.host = .exited 0 output errors)
    (first : IsFirstLine line (Text.strip output).toList) (tags : Log.Tags) :
    (Site.handler.answer tags .terraformVersion s).1 = (s.terraform.version s.host).1 := by
  rw [Terraform.Tool.version_of_printed printed first]
  exact Terraform.Tool.version_of_printed printed first

theorem Task.perform_bind {α β σ : Type} (h : Handler σ) (t : Task α) (next : α → Task β)
    (p : Progress) (s : σ) :
    ((t >>= next) p).perform h s = match (t p).perform h s with
      | ((.ok a, p), s) => (next a p).perform h s
      | ((.error f, p), s) => ((.error f, p), s) := by
  rw [bind_apply, Program.perform_bind]
  rcases (t p).perform h s with ⟨⟨_ | _, _⟩, _⟩ <;> rfl

theorem checkVersion_perform {σ : Type} (h : Handler σ) (p : Progress) (s : σ) :
    ((checkVersion p).perform h s).1.1 =
      (h.answer p.tags .terraformVersion s).1.bind judgeVersion := by
  have asked (next : String → Task Unit) :=
    Task.perform_bind h (Task.ask .terraformVersion) next p s
  refine (congrArg (fun reached => reached.1.1) (asked _)).trans ?_
  have answered : (Task.ask .terraformVersion p).perform h s =
    (((h.answer p.tags .terraformVersion s).1, p), (h.answer p.tags .terraformVersion s).2) := rfl
  generalize h.answer p.tags .terraformVersion s = a at answered ⊢
  rw [answered]
  rcases a with ⟨f | found, now⟩
  · rfl
  · change _ = judgeVersion found
    simp only [Task.bind_apply, Task.ofExcept]
    cases judgeVersion found <;> rfl

theorem judgeVersion_of_parsed {found : String} {v : Version}
    (parsed : Version.parse found = .ok v) :
    judgeVersion found = if Version.numbers ⟨0, 8, 5⟩ ≤ v.numbers then .ok ()
      else .error (.outdatedTerraform "0.8.5" found) := by
  simp only [judgeVersion, parsed, Version.atLeast_iff]
  rfl

theorem gated_of_names (printed : s.terraform.versionEnding s.host = .exited 0 output errors)
    (first : IsFirstLine line (Text.strip output).toList) (names : Names line major minor patch) :
    Gated s (ofDigits major minor patch) := by
  have found : (s.terraform.version s.host).1 = .ok (plainly (ofDigits major minor patch)) := by
    rw [Terraform.Tool.version_of_printed printed first, names.parse]
    rfl
  have checked (p : Progress) : versionChecked s p =
      if Version.numbers ⟨0, 8, 5⟩ ≤ (ofDigits major minor patch).numbers then .ok ()
      else .error (.outdatedTerraform "0.8.5" (plainly (ofDigits major minor patch))) := by
    rw [versionChecked, checkVersion_perform, version_answered printed first, found]
    exact judgeVersion_of_parsed names.parse_text
  refine ⟨found, names.parse_text, fun p => ?_, fun p old => ?_⟩
  · rw [checked]
    split
    case isTrue recent => exact iff_of_true rfl recent
    case isFalse old => exact iff_of_false nofun old
  · rw [checked, if_neg old]

theorem barred_of_absent (printed : s.terraform.versionEnding s.host = .exited 0 output errors)
    (first : IsFirstLine line (Text.strip output).toList)
    (absent : ∀ before major minor patch after, ¬Stands line before major minor patch after) :
    Barred s (unknownVersion (.ofList line)) := by
  have found : (s.terraform.version s.host).1 = .error (unknownVersion (.ofList line)) := by
    rw [Terraform.Tool.version_of_printed printed first, Version.parse_of_absent absent]
  refine ⟨found, fun p => ?_, fun start supported arguments p before after answer now split => ?_⟩
  · rw [versionChecked, checkVersion_perform, version_answered printed first, found]
    rfl
  · have member : (⟨s, ⟨.terraformVersion, answer⟩, now⟩ : Episode Site) ∈
        (run supported arguments p).episodes Site.handler start := by
      rw [split]
      exact List.mem_append_right before List.mem_cons_self
    obtain ⟨tags, answered⟩ := Program.episodes_answered member
    have failed : answer = .error (unknownVersion (.ofList line)) := by
      rw [← found, ← version_answered printed first tags, answered]
    exact ((run_stopsAtOnce supported arguments).program p).stopped split rfl failed

/-- Of what the Terraform program prints, the first line decides. Three numbers in ASCII digits that
nothing but the first digits of the line can begin are taken for the version, which passes just when
it is not below 0.8.5; where no three numbers stand the run ends. -/
theorem version_gate (printed : s.terraform.versionEnding s.host = .exited 0 output errors)
    (first : IsFirstLine line (Text.strip output).toList) :
    (∀ major minor patch, Names line major minor patch → Gated s (ofDigits major minor patch)) ∧
      ((∀ before major minor patch after, ¬Stands line before major minor patch after) →
        Barred s (.report .command
          ("could not determine terraform version from: " ++ Text.quoted (.ofList line)))) :=
  ⟨fun _ _ _ => gated_of_names printed first, barred_of_absent printed first⟩

def printing (output : String) : Site :=
  .of {} {} ⟨⟨true, []⟩⟩ 80 { replies := [{ ending := .exited 0 output "" }] }

/-- What follows the last digit does not count, nor does a later line. -/
theorem version_gate_suffixed :
    Gated (printing " Terraform v0.10.0-dev\n0.8.4") ⟨0, 10, 0⟩ ∧
      Barred (printing "Terraform v1.0")
        (.report .command "could not determine terraform version from: 'Terraform v1.0'") := by
  constructor
  · have first : IsFirstLine "Terraform v0.10.0-dev".toList
        (Text.strip " Terraform v0.10.0-dev\n0.8.4").toList := by
      refine ⟨"\n0.8.4".toList, by decide +kernel, by decide +kernel, ?_⟩
      rintro _ ⟨⟩
      decide
    have clear : ("Terraform v".toList.all fun c => !Text.isDecimal c) = true := by decide +kernel
    have numerals : Text.IsNumeral ['0'] ∧ Text.IsNumeral ['1', '0'] := by decide
    have names : Names "Terraform v0.10.0-dev".toList ['0'] ['1', '0'] ['0'] := by
      refine ⟨⟨"Terraform v".toList, "-dev".toList, by decide +kernel, by simpa using clear, ?_⟩,
        by simp [numerals]⟩
      rintro _ ⟨⟩
      decide
    exact (version_gate rfl first).1 _ _ _ names
  · have first : IsFirstLine "Terraform v1.0".toList (Text.strip "Terraform v1.0").toList := by
      refine ⟨[], by decide +kernel, by decide +kernel, ?_⟩
      rintro _ ⟨⟩
    refine (version_gate rfl first).2 fun before major minor patch after stands => ?_
    have points : 2 ≤ "Terraform v1.0".toList.count '.' := by
      rw [stands.1]
      simp only [List.count_append, List.count_cons_self]
      omega
    exact absurd points (by decide +kernel)

end Teardown
end Dismantle
