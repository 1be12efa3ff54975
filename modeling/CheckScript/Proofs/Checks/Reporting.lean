import CheckScript.Checks.Report
import CheckScript.Command.Builtin
import CheckScript.Proofs.Dict.Bindings
import Mathlib

/-!
# What a suite reports

A text that lists checks is a suite iff their names are distinct, and otherwise it is refused
because of the first check whose name was there before (`Suite.ofChecks_eq_error_iff`). This is why
no entry of a report takes the place of another: the entries are those of the checks, each the same
as if its check were the only one (`Suite.covers_run`), and the order of the checks does not matter
(`Suite.run_perm`).

## Main statement

* `suite_reports_every_check`: all of this, for a text that lists checks.
-/

namespace CheckScript

open Files

variable {checks : List Check} {check : Check} {suite : Suite}
variable {read : SourceReader} {registry : Registry}

/-! ## Repeated names -/

theorem firstRepeat_eq_some_iff {seen names : List String} {name : String} :
    firstRepeat seen names = some name
      ↔ ∃ before after, names = before ++ name :: after ∧ firstRepeat seen before = none
        ∧ (name ∈ before ∨ name ∈ seen) := by
  induction names generalizing seen with
  | nil => simp [firstRepeat]
  | cons head names ih =>
    rw [firstRepeat]
    by_cases hseen : head ∈ seen
    · rw [if_pos hseen, Option.some.injEq]
      constructor
      · rintro rfl
        exact ⟨[], names, rfl, rfl, .inr hseen⟩
      · rintro ⟨before, after, heq, hnone, -⟩
        -- a name that was seen cannot be among those before the first one that repeats
        cases before with
        | nil => exact (List.cons.inj heq).1
        | cons other before =>
          obtain ⟨rfl, -⟩ := List.cons.inj heq
          simp [firstRepeat, hseen] at hnone
    · rw [if_neg hseen, ih]
      constructor
      · rintro ⟨before, after, rfl, hnone, hmem⟩
        refine ⟨head :: before, after, rfl, ?_, ?_⟩
        · rw [firstRepeat, if_neg hseen, hnone]
        · simpa [or_assoc, or_left_comm] using hmem
      · rintro ⟨before, after, heq, hnone, hmem⟩
        cases before with
        | nil =>
          obtain ⟨rfl, -⟩ := List.cons.inj heq
          simp [hseen] at hmem
        | cons other before =>
          obtain ⟨rfl, rfl⟩ := List.cons.inj heq
          rw [firstRepeat, if_neg hseen] at hnone
          exact ⟨before, after, rfl, hnone, by simpa [or_assoc, or_left_comm] using hmem⟩

/-- The check is the first one whose name was there before. -/
def FirstRepeated (checks : List Check) (check : Check) : Prop :=
  ∃ before after, checks = before ++ check :: after
    ∧ (before.map Check.name).Nodup ∧ check.name ∈ before.map Check.name

theorem firstRepeat_names_eq_some_iff {name : String} :
    firstRepeat [] (checks.map Check.name) = some name
      ↔ ∃ check, FirstRepeated checks check ∧ check.name = name := by
  rw [firstRepeat_eq_some_iff]
  constructor
  · rintro ⟨names, rest, heq, hnone, hmem⟩
    obtain ⟨before, others, rfl, rfl, hothers⟩ := List.map_eq_append_iff.mp heq
    obtain ⟨check, after, rfl, rfl, -⟩ := List.map_eq_cons_iff.mp hothers
    have hnodup := ((firstRepeat_eq_none_iff _ _).mp hnone).1
    exact ⟨check, ⟨before, after, rfl, hnodup, by simpa using hmem⟩, rfl⟩
  · rintro ⟨check, ⟨before, after, rfl, hnodup, hmem⟩, rfl⟩
    refine ⟨before.map Check.name, after.map Check.name, by simp, ?_, .inl hmem⟩
    exact (firstRepeat_eq_none_iff _ _).mpr ⟨hnodup, by simp⟩

namespace Suite

theorem ofChecks_eq_ok_iff : ofChecks checks = .ok suite ↔ suite.checks = checks := by
  unfold ofChecks
  constructor
  · intro h
    split at h <;> cases h
    rfl
  · rintro rfl
    split
    · next name hsome =>
      rw [(firstRepeat_eq_none_iff _ _).mpr ⟨suite.distinct, by simp⟩] at hsome
      cases hsome
    · rfl

/-- **What is refused is refused because of the first name that was there before.** -/
theorem ofChecks_eq_error_iff {e : SuiteError} :
    ofChecks checks = .error e
      ↔ ∃ check, FirstRepeated checks check ∧ e = .repeated check.name := by
  have hiff : ofChecks checks = .error e
      ↔ ∃ name, firstRepeat [] (checks.map Check.name) = some name ∧ e = .repeated name := by
    unfold ofChecks
    split
    · next name hsome => simp [hsome, eq_comm]
    · next hnone => simp [hnone]
  simp only [hiff, firstRepeat_names_eq_some_iff]
  constructor
  · rintro ⟨name, ⟨check, hfirst, rfl⟩, he⟩
    exact ⟨check, hfirst, he⟩
  · rintro ⟨check, hfirst, he⟩
    exact ⟨check.name, ⟨check, hfirst, rfl⟩, he⟩

theorem ofText_of_readChecks {text : String} (h : readChecks text = .ok checks) :
    ofText text = ofChecks checks := by
  unfold ofText
  rw [h]
  rfl

end Suite

/-! ## One check -/

namespace Check

/-- The script of the check: the one that it gives, or what is in the file that it names. -/
inductive HasSource (check : Check) (read : SourceReader) : String → Prop
  | given {source : String} :
    check.script = some source → check.file = none → HasSource check read source
  | kept {file source : String} :
    check.script = none → check.file = some file → read file = .ok source →
    HasSource check read source

/-- What is said about a check that does not have the one script. -/
inductive LacksSource (check : Check) (read : SourceReader) : String → Prop
  | both {source file : String} :
    check.script = some source → check.file = some file →
    LacksSource check read "check sets both `script` and `file`"
  | neither :
    check.script = none → check.file = none →
    LacksSource check read "check sets neither `script` nor `file`"
  | unreadable {file : String} {e : FileError} :
    check.script = none → check.file = some file → read file = .error e →
    LacksSource check read ("cannot read '" ++ file ++ "': " ++ e.message)

/-- What is said about a check that has no result. -/
inductive Fails (check : Check) (read : SourceReader) (registry : Registry) : String → Prop
  | source {message : String} :
    check.LacksSource read message → Fails check read registry message
  | script {source : String} {e : ScriptError} :
    check.HasSource read source → runScript source registry check.inputValue = .error e →
    Fails check read registry e.message

/-- The entry of a check: the result of its script, or what is said about it if it has none. -/
inductive HasEntry (check : Check) (read : SourceReader) (registry : Registry) : Json → Prop
  | value {source : String} {value : Value} :
    check.HasSource read source → runScript source registry check.inputValue = .ok value →
    HasEntry check read registry value.toJson
  | error {message : String} :
    check.Fails read registry message →
    HasEntry check read registry (.object [("error", .text message)])

theorem source_eq_ok_iff {source : String} :
    check.source read = .ok source ↔ check.HasSource read source := by
  constructor
  · intro h
    unfold Check.source at h
    cases hscript : check.script <;> cases hfile : check.file <;> simp only [hscript, hfile] at h
    · cases h
    · next file =>
      cases hread : read file <;> rw [hread] at h <;> cases h
      exact .kept hscript hfile hread
    · cases h
      exact .given hscript hfile
    · cases h
  · rintro (⟨hscript, hfile⟩ | ⟨hscript, hfile, hread⟩)
    · simp only [Check.source, hscript, hfile]
    · simp only [Check.source, hscript, hfile, hread]
      rfl

theorem lacksSource_iff {message : String} :
    check.LacksSource read message
      ↔ ∃ e, check.source read = .error e ∧ e.message = message := by
  constructor
  · rintro (⟨hscript, hfile⟩ | ⟨hscript, hfile⟩ | ⟨hscript, hfile, hread⟩)
    · exact ⟨.bothSources, by simp only [source, hscript, hfile], rfl⟩
    · exact ⟨.noSource, by simp only [source, hscript, hfile], rfl⟩
    · refine ⟨.unreadable _ _, ?_, rfl⟩
      simp only [source, hscript, hfile, hread]
      rfl
  · rintro ⟨e, h, rfl⟩
    unfold Check.source at h
    cases hscript : check.script <;> cases hfile : check.file <;> simp only [hscript, hfile] at h
    · cases h
      exact .neither hscript hfile
    · next file =>
      cases hread : read file <;> rw [hread] at h <;> cases h
      exact .unreadable hscript hfile hread
    · cases h
    · cases h
      exact .both hscript hfile

theorem run_of_source_eq_ok {source : String} (h : check.source read = .ok source) :
    check.run read registry = (runScript source registry check.inputValue).mapError .script := by
  unfold Check.run
  rw [h]
  rfl

theorem run_of_source_eq_error {e : CheckError} (h : check.source read = .error e) :
    check.run read registry = .error e := by
  unfold Check.run
  rw [h]
  rfl

theorem run_eq_ok_iff {value : Value} :
    check.run read registry = .ok value
      ↔ ∃ source, check.HasSource read source
        ∧ runScript source registry check.inputValue = .ok value := by
  simp only [← source_eq_ok_iff]
  constructor
  · intro h
    cases hsource : check.source read with
    | error e =>
      rw [run_of_source_eq_error hsource] at h
      cases h
    | ok source =>
      rw [run_of_source_eq_ok hsource] at h
      cases hrun : runScript source registry check.inputValue <;> rw [hrun] at h <;> cases h
      exact ⟨source, rfl, hrun⟩
  · rintro ⟨source, hsource, hrun⟩
    rw [run_of_source_eq_ok hsource, hrun]
    rfl

theorem fails_iff {message : String} :
    check.Fails read registry message
      ↔ ∃ e, check.run read registry = .error e ∧ e.message = message := by
  constructor
  · rintro (hlacks | ⟨hsource, hrun⟩)
    · obtain ⟨e, he, hmessage⟩ := lacksSource_iff.mp hlacks
      exact ⟨e, run_of_source_eq_error he, hmessage⟩
    · refine ⟨.script _, ?_, rfl⟩
      rw [run_of_source_eq_ok (source_eq_ok_iff.mpr hsource), hrun]
      rfl
  · rintro ⟨e, hrun, rfl⟩
    cases hsource : check.source read with
    | error cause =>
      rw [run_of_source_eq_error hsource] at hrun
      cases hrun
      exact .source (lacksSource_iff.mpr ⟨e, hsource, rfl⟩)
    | ok source =>
      rw [run_of_source_eq_ok hsource] at hrun
      cases hscript : runScript source registry check.inputValue <;> rw [hscript] at hrun
        <;> cases hrun
      exact .script (source_eq_ok_iff.mp hsource) hscript

/-- **The entry of a check is what came of running it.** -/
theorem hasEntry_iff {entry : Json} :
    check.HasEntry read registry entry ↔ entry = reportEntry (check.run read registry) := by
  constructor
  · rintro (⟨hhas, hrun⟩ | hfails)
    · rw [run_eq_ok_iff.mpr ⟨_, hhas, hrun⟩]
      rfl
    · obtain ⟨e, hrun, rfl⟩ := fails_iff.mp hfails
      rw [hrun]
      rfl
  · rintro rfl
    cases hrun : check.run read registry with
    | ok value =>
      obtain ⟨source, hhas, hscript⟩ := run_eq_ok_iff.mp hrun
      exact .value hhas hscript
    | error e => exact .error (fails_iff.mpr ⟨e, hrun, rfl⟩)

/-- The check has no result. -/
def Failing (check : Check) (read : SourceReader) (registry : Registry) : Prop :=
  ∃ message, check.Fails read registry message

theorem toOption_run_isNone_iff :
    (check.run read registry).toOption.isNone = true ↔ check.Failing read registry := by
  simp only [Failing, fails_iff]
  cases check.run read registry <;> simp [Except.toOption]

instance : Decidable (check.Failing read registry) :=
  decidable_of_iff _ toOption_run_isNone_iff

end Check

/-! ## All checks -/

/-- The suite with one check. -/
def Suite.alone (check : Check) : Suite := ⟨[check], List.nodup_singleton _⟩

/-- The report has the entry of every check, and no other. -/
structure Report.Covers (report : Report) (checks : List Check) (read : SourceReader)
    (registry : Registry) : Prop where
  /-- There is one entry for each check, under its name. -/
  keys_perm : report.results.keys.Perm (checks.map Check.name)
  /-- It is what came of the check, and what a suite with this check alone reports. -/
  entry : ∀ check ∈ checks, ∃ entry, check.HasEntry read registry entry
    ∧ report.results.get? check.name = some entry
    ∧ ((Suite.alone check).run read registry).results.entries = [(check.name, entry)]
  failed : report.failed = checks.countP fun check => check.Failing read registry

namespace Suite

theorem run_results :
    (suite.run read registry).results = Dict.ofList
      (suite.checks.map fun check => (check.name, reportEntry (check.run read registry))) := by
  simp only [run, Report.ofResults, List.map_map]
  rfl

theorem run_failed :
    (suite.run read registry).failed
      = suite.checks.countP fun check => check.Failing read registry := by
  simp only [run, Report.ofResults, List.countP_map]
  refine List.countP_congr fun check _ => ?_
  simpa using Check.toOption_run_isNone_iff

theorem entries_run_alone :
    ((alone check).run read registry).results.entries
      = [(check.name, reportEntry (check.run read registry))] := rfl

/-- **A report loses no check, and an entry is not touched by the other checks.** -/
theorem covers_run (suite : Suite) (read : SourceReader) (registry : Registry) :
    (suite.run read registry).Covers suite.checks read registry := by
  have hkeys : ((suite.checks.map fun check =>
      (check.name, reportEntry (check.run read registry))).map Prod.fst).Nodup := by
    simpa [Function.comp_def] using suite.distinct
  refine ⟨?_, fun check hcheck => ?_, run_failed⟩
  · rw [run_results]
    simpa [Function.comp_def] using Dict.keys_ofList_perm hkeys
  · refine ⟨_, Check.hasEntry_iff.mpr rfl, ?_, entries_run_alone⟩
    rw [run_results, Dict.get?_ofList_eq_some_iff, Dict.lastBinds_iff_mem hkeys]
    exact List.mem_map_of_mem hcheck

/-- **The order of the checks does not matter.** -/
theorem run_perm {other : Suite} (h : other.checks.Perm suite.checks) :
    other.run read registry = suite.run read registry := by
  have hresults : (other.run read registry).results = (suite.run read registry).results := by
    rw [run_results, run_results]
    refine Dict.ofList_perm (h.map _) ?_
    simpa [Function.comp_def] using other.distinct
  have hfailed : (other.run read registry).failed = (suite.run read registry).failed := by
    rw [run_failed, run_failed, h.countP_eq]
  calc other.run read registry
      = ⟨(other.run read registry).results, (other.run read registry).failed⟩ := rfl
    _ = ⟨(suite.run read registry).results, (suite.run read registry).failed⟩ := by
      rw [hresults, hfailed]

end Suite

/-- **A suite loses no check, and its checks do not see each other.** The checks that a text lists
are a suite iff their names are distinct; otherwise the first one whose name was there before is
named. The report of a suite has one entry for each check, which is the same as if the check were
alone, it counts the checks without a result, and it does not depend on the order of the checks. -/
theorem suite_reports_every_check {text : String} {checks : List Check}
    (h : Suite.readChecks text = .ok checks) :
    ((∃ suite, Suite.ofText text = .ok suite) ↔ (checks.map Check.name).Nodup)
    ∧ (¬(checks.map Check.name).Nodup →
      ∃ check e, FirstRepeated checks check ∧ Suite.ofText text = .error e
        ∧ e.message = "duplicate check name '" ++ check.name ++ "'")
    ∧ ∀ suite, Suite.ofText text = .ok suite → suite.checks = checks
      ∧ ∀ read registry, (suite.run read registry).Covers checks read registry
        ∧ ∀ other : Suite, other.checks.Perm checks →
          other.run read registry = suite.run read registry := by
  rw [Suite.ofText_of_readChecks h]
  have haccepted :
      (∃ suite, Suite.ofChecks checks = .ok suite) ↔ (checks.map Check.name).Nodup := by
    simp only [Suite.ofChecks_eq_ok_iff]
    constructor
    · rintro ⟨suite, rfl⟩
      exact suite.distinct
    · exact fun hdistinct => ⟨⟨checks, hdistinct⟩, rfl⟩
  refine ⟨haccepted, fun hrepeat => ?_, fun suite hsuite => ?_⟩
  · cases hresult : Suite.ofChecks checks with
    | ok suite => exact absurd (haccepted.mp ⟨suite, hresult⟩) hrepeat
    | error e =>
      obtain ⟨check, hfirst, rfl⟩ := Suite.ofChecks_eq_error_iff.mp hresult
      exact ⟨check, _, hfirst, rfl, rfl⟩
  · obtain rfl := Suite.ofChecks_eq_ok_iff.mp hsuite
    exact ⟨rfl, fun read registry =>
      ⟨suite.covers_run read registry, fun other hother => Suite.run_perm hother⟩⟩

/-- A text that lists a script and a file. -/
def greetingText : String :=
  "[[check]]\nname = \"a\"\nscript = \"echo hi\"\n[[check]]\nname = \"b\"\nfile = \"x\"\n"

/-- The checks of the text. -/
def greetingChecks : List Check :=
  [⟨"a", some "echo hi", none, none⟩, ⟨"b", none, some "x", none⟩]

/-- There are no files. -/
def noFiles : SourceReader := fun _ => .error .notFound

/-- Where there are no files, one of the two checks fails, and the report says why. -/
theorem suite_reports_every_check_greetingText :
    ∃ suite, Suite.ofText greetingText = .ok suite
      ∧ (suite.run noFiles .builtin).results.keys.Perm ["a", "b"]
      ∧ (suite.run noFiles .builtin).failed = 1
      ∧ (suite.run noFiles .builtin).results.get? "b" = some (.object
        [("error", .text "cannot read 'x': No such file or directory (os error 2)")]) := by
  have hread : Suite.readChecks greetingText = .ok greetingChecks := by cbv
  obtain ⟨haccepted, -, hsuite⟩ := suite_reports_every_check hread
  obtain ⟨suite, h⟩ := haccepted.mpr (by decide)
  obtain ⟨hcovers, -⟩ := (hsuite suite h).2 noFiles .builtin
  have hmem : ⟨"b", none, some "x", none⟩ ∈ greetingChecks := by simp [greetingChecks]
  obtain ⟨entry, hentry, hget, -⟩ := hcovers.entry _ hmem
  refine ⟨suite, h, hcovers.keys_perm, ?_, ?_⟩
  · rw [hcovers.failed]
    decide +kernel
  · rw [hget, Check.hasEntry_iff.mp hentry]
    rfl

end CheckScript
