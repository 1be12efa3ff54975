import CheckScript.Proofs.Checks.Reporting
import CheckScript.Proofs.Json.RoundTrip
import CheckScript.Proofs.Step.Schedule

/-!
# Telling failures from results

A check that failed is reported by an object with nothing but a text under `error`. Its place in the
report is the one that its result would have, and a result can have the same form: a script that
ends with `save error` may end with such a record. So the entries alone do not tell which checks
failed (`failures_not_told_by_entries`).

No other result has this form (`Check.isFailure_reportEntry_iff`), so for every check whose script
does not end with such a record the entry does tell. The number of failed checks is counted apart
from the entries, and a script cannot change it.

## Main statement

* `failures_told_by_entries`: all of this, and that the entries can be told from a printed report.
-/

namespace CheckScript

open Files

variable {suite : Suite} {check : Check} {read : SourceReader} {registry : Registry}

/-! ## The form of a failure -/

/-- The entry is an object with nothing but a text under `error`. -/
def Json.IsFailure (entry : Json) : Prop :=
  ∃ message, entry = .object [("error", .text message)]

/-- The value is a record with nothing but a text under `error`. -/
def Value.IsErrorRecord (v : Value) : Prop :=
  ∃ message, v = .record [("error", .text message)]

theorem Value.toJson_eq_text_iff {v : Value} {s : String} : v.toJson = .text s ↔ v = .text s := by
  cases v <;> simp [Value.toJson]

/-- **Of all values, only a record of this form is written like a failure.** -/
theorem Value.isFailure_toJson_iff {v : Value} : v.toJson.IsFailure ↔ v.IsErrorRecord := by
  constructor
  · rintro ⟨message, h⟩
    cases v with
    | unit | text | list => cases h
    | record fields =>
      rw [Value.toJson, Json.object.injEq, Value.toJsonFields_eq_map, List.map_eq_cons_iff] at h
      obtain ⟨⟨key, value⟩, rest, rfl, hfield, hrest⟩ := h
      obtain ⟨rfl, hvalue⟩ := Prod.mk.inj hfield
      obtain rfl : value = .text message := Value.toJson_eq_text_iff.mp hvalue
      obtain rfl : rest = [] := List.map_eq_nil_iff.mp hrest
      exact ⟨message, rfl⟩
  · rintro ⟨message, rfl⟩
    exact ⟨message, rfl⟩

namespace Check

/-- The script of the check ends with a record that is written like a failure. -/
def EndsWithErrorRecord (check : Check) (read : SourceReader) (registry : Registry) : Prop :=
  ∃ source value, check.HasSource read source
    ∧ runScript source registry check.inputValue = .ok value ∧ value.IsErrorRecord

theorem endsWithErrorRecord_iff :
    check.EndsWithErrorRecord read registry
      ↔ ∃ value, check.run read registry = .ok value ∧ value.IsErrorRecord := by
  simp only [run_eq_ok_iff]
  constructor
  · rintro ⟨source, value, hsource, hrun, hrecord⟩
    exact ⟨value, ⟨source, hsource, hrun⟩, hrecord⟩
  · rintro ⟨value, ⟨source, hsource, hrun⟩, hrecord⟩
    exact ⟨source, value, hsource, hrun, hrecord⟩

theorem failing_iff : check.Failing read registry ↔ ∃ e, check.run read registry = .error e := by
  simp only [Failing, fails_iff]
  constructor
  · rintro ⟨message, e, he, -⟩
    exact ⟨e, he⟩
  · rintro ⟨e, he⟩
    exact ⟨e.message, e, he, rfl⟩

theorem not_failing_of_endsWithErrorRecord (h : check.EndsWithErrorRecord read registry) :
    ¬check.Failing read registry := by
  obtain ⟨value, hrun, -⟩ := endsWithErrorRecord_iff.mp h
  rw [failing_iff]
  rintro ⟨e, he⟩
  rw [hrun] at he
  cases he

/-- **A check is reported as a failure iff it failed, or its script ends with a record that is
written like one.** -/
theorem isFailure_reportEntry_iff :
    (reportEntry (check.run read registry)).IsFailure
      ↔ check.Failing read registry ∨ check.EndsWithErrorRecord read registry := by
  rw [failing_iff, endsWithErrorRecord_iff]
  cases check.run read registry with
  | ok value => simp [reportEntry, Value.isFailure_toJson_iff]
  | error e => simp [reportEntry, Json.IsFailure]

end Check

/-! ## Printed reports -/

/-- The value that is written as the entry of a check. -/
def entryValue : Except CheckError Value → Value
  | .ok value => value
  | .error e => .record [("error", .text e.message)]

theorem toJson_entryValue (result : Except CheckError Value) :
    (entryValue result).toJson = reportEntry result := by
  cases result <;> rfl

/-- Members that are written by values are the fields of a record. -/
theorem exists_toJsonFields {members : List (String × Json)}
    (h : ∀ member ∈ members, ∃ v : Value, v.toJson = member.2) :
    ∃ fields, Value.toJsonFields fields = members := by
  induction members with
  | nil => exact ⟨[], rfl⟩
  | cons member members ih =>
    obtain ⟨⟨v, hv⟩, hrest⟩ := List.forall_mem_cons.mp h
    obtain ⟨fields, hfields⟩ := ih hrest
    exact ⟨(member.1, v) :: fields, by rw [Value.toJsonFields, hv, hfields]⟩

/-- The entry of a report is that of one of the checks. -/
theorem Suite.exists_of_mem_entries_run {member : String × Json}
    (h : member ∈ (suite.run read registry).results.entries) :
    ∃ check ∈ suite.checks,
      member = (check.name, reportEntry (check.run read registry)) := by
  have hget : (suite.run read registry).results.get? member.1 = some member.2 :=
    Dict.get?_eq_some_iff_mem.mpr h
  rw [Suite.run_results, Dict.get?_ofList_eq_some_iff] at hget
  obtain ⟨check, hcheck, heq⟩ := List.mem_map.mp hget.mem
  exact ⟨check, hcheck, heq.symm⟩

/-- A report is written like a value. -/
theorem Suite.exists_toJson_eq (suite : Suite) (read : SourceReader) (registry : Registry) :
    ∃ v : Value, v.toJson = (suite.run read registry).toJson := by
  have hentries : ∀ member ∈ (suite.run read registry).results.entries,
      ∃ v : Value, v.toJson = member.2 := by
    intro member hmember
    obtain ⟨check, -, rfl⟩ := exists_of_mem_entries_run hmember
    exact ⟨_, toJson_entryValue _⟩
  obtain ⟨fields, hfields⟩ := exists_toJsonFields hentries
  exact ⟨.record fields, by rw [Report.toJson, Value.toJson, hfields]⟩

/-- **Reports that are printed alike are the same.** -/
theorem Suite.toJson_eq_of_printed {other : Suite} {read' : SourceReader} {registry' : Registry}
    (h : (suite.run read registry).toJson.compact = (other.run read' registry').toJson.compact
      ∨ (suite.run read registry).toJson.pretty = (other.run read' registry').toJson.pretty) :
    (suite.run read registry).toJson = (other.run read' registry').toJson := by
  obtain ⟨v, hv⟩ := suite.exists_toJson_eq read registry
  obtain ⟨v', hv'⟩ := other.exists_toJson_eq read' registry'
  rw [← hv, ← hv'] at h ⊢
  rcases h with hcompact | hpretty
  · have hwrites := Json.writes_compact v
    rw [hcompact] at hwrites
    exact Json.toJson_eq_of_writes hwrites (Json.writes_compact v')
  · have hwrites : Json.Writes v v.toJson.pretty := Json.writes_prettyAt v 0
    rw [hpretty] at hwrites
    exact Json.toJson_eq_of_writes hwrites (Json.writes_prettyAt v' 0)

/-! ## What the entries tell -/

/-- **The entries of a report tell which checks failed, but for records that are written like a
failure.** The entry of every check that failed is an object with nothing but a text under `error`;
the only other checks with such an entry are those whose script ends with a record of just that
form. How many checks failed is counted apart. What is printed are the entries, and they can be told
from the printed text, compact or on lines of its own. -/
theorem failures_told_by_entries (suite : Suite) (read : SourceReader) (registry : Registry) :
    (∀ check ∈ suite.checks, ∃ entry,
      (∀ other, (check.name, other) ∈ (suite.run read registry).results.entries ↔ other = entry)
      ∧ (entry.IsFailure
        ↔ check.Failing read registry ∨ check.EndsWithErrorRecord read registry)
      ∧ (check.EndsWithErrorRecord read registry → ¬check.Failing read registry))
    ∧ (suite.run read registry).failed
        = suite.checks.countP (fun check => check.Failing read registry)
    ∧ (suite.run read registry).toJson = .object (suite.run read registry).results.entries
    ∧ ∀ (other : Suite) (read' : SourceReader) (registry' : Registry),
      (suite.run read registry).toJson.compact = (other.run read' registry').toJson.compact
        ∨ (suite.run read registry).toJson.pretty = (other.run read' registry').toJson.pretty →
      (suite.run read registry).toJson = (other.run read' registry').toJson := by
  refine ⟨fun check hcheck => ?_, Suite.run_failed, rfl, fun _ _ _ => Suite.toJson_eq_of_printed⟩
  obtain ⟨entry, hentry, hget, -⟩ := (suite.covers_run read registry).entry check hcheck
  refine ⟨entry, fun other => ?_, ?_, Check.not_failing_of_endsWithErrorRecord⟩
  · rw [← Dict.get?_eq_some_iff_mem, hget, Option.some.injEq, eq_comm]
  · rw [Check.hasEntry_iff.mp hentry]
    exact Check.isFailure_reportEntry_iff

/-- A text that lists a check with a result, one without a script to run, and one whose script ends
by saving a text under `error`. -/
def mixedText : String :=
  "[[check]]\nname = \"fine\"\nscript = \"echo hi\"\n"
    ++ "[[check]]\nname = \"gone\"\nfile = \"x\"\n"
    ++ "[[check]]\nname = \"odd\"\nscript = \"echo hi\\nsave error\"\n"

/-- The check with a result. -/
def fineCheck : Check := ⟨"fine", some "echo hi", none, none⟩

/-- The check without a script to run. -/
def goneCheck : Check := ⟨"gone", none, some "x", none⟩

/-- The check whose script ends by saving a text under `error`. -/
def oddCheck : Check := ⟨"odd", some "echo hi\nsave error", none, none⟩

/-- The suite that the text lists. -/
def mixedSuite : Suite := ⟨[fineCheck, goneCheck, oddCheck], by decide⟩

/-- The suite with its checks in the opposite order. -/
def turnedSuite : Suite := ⟨mixedSuite.checks.reverse, by decide⟩

theorem ofText_mixedText : Suite.ofText mixedText = .ok mixedSuite := by
  have hread : Suite.readChecks mixedText = .ok mixedSuite.checks := by cbv
  rw [Suite.ofText_of_readChecks hread, Suite.ofChecks_eq_ok_iff]

theorem run_fineCheck : fineCheck.run noFiles .builtin = .ok (.text "hi") :=
  eq_ok_of_toOption (by decide +kernel)

theorem run_oddCheck :
    oddCheck.run noFiles .builtin = .ok (.record [("error", .text "hi")]) :=
  eq_ok_of_toOption (by decide +kernel)

theorem failures_told_by_entries_mixedSuite :
    (∃ entry, (mixedSuite.run noFiles .builtin).results.get? "fine" = some entry
      ∧ ¬entry.IsFailure)
    ∧ (∃ entry, (mixedSuite.run noFiles .builtin).results.get? "gone" = some entry
      ∧ entry.IsFailure)
    ∧ (mixedSuite.run noFiles .builtin).failed = 1
    ∧ (turnedSuite.run noFiles .builtin).toJson = (mixedSuite.run noFiles .builtin).toJson := by
  obtain ⟨htold, hfailed, -, hprinted⟩ := failures_told_by_entries mixedSuite noFiles .builtin
  have hgone : goneCheck.run noFiles .builtin = .error (.unreadable "x" .notFound) := rfl
  refine ⟨?_, ?_, ?_, ?_⟩
  · obtain ⟨entry, hentry, htells, -⟩ := htold fineCheck (by simp [mixedSuite])
    refine ⟨entry, Dict.get?_eq_some_iff_mem.mpr ((hentry entry).mpr rfl), ?_⟩
    rw [htells, Check.failing_iff, Check.endsWithErrorRecord_iff, run_fineCheck]
    simp [Value.IsErrorRecord]
  · obtain ⟨entry, hentry, htells, -⟩ := htold goneCheck (by simp [mixedSuite])
    refine ⟨entry, Dict.get?_eq_some_iff_mem.mpr ((hentry entry).mpr rfl), ?_⟩
    rw [htells, Check.failing_iff, hgone]
    exact .inl ⟨_, rfl⟩
  · rw [hfailed]
    decide +kernel
  · have hrun : turnedSuite.run noFiles .builtin = mixedSuite.run noFiles .builtin :=
      Suite.run_perm (List.reverse_perm mixedSuite.checks)
    exact (hprinted turnedSuite noFiles .builtin (.inl (by rw [hrun]))).symm

/-- **An entry may have the form of a failure although its check has a result.** -/
theorem failures_not_told_by_entries :
    ¬∀ (text : String) (suite : Suite), Suite.ofText text = .ok suite →
      ∀ (read : SourceReader) (check : Check), check ∈ suite.checks →
      ∀ entry, (suite.run read .builtin).results.get? check.name = some entry →
        (check.Failing read .builtin ↔ entry.IsFailure) := by
  intro h
  obtain ⟨entry, hentry, hget, -⟩ :=
    (mixedSuite.covers_run noFiles .builtin).entry oddCheck (by simp [mixedSuite])
  have hends : oddCheck.EndsWithErrorRecord noFiles .builtin :=
    Check.endsWithErrorRecord_iff.mpr ⟨_, run_oddCheck, "hi", rfl⟩
  have hform : entry.IsFailure := by
    rw [Check.hasEntry_iff.mp hentry]
    exact Check.isFailure_reportEntry_iff.mpr (.inr hends)
  have htold := h mixedText mixedSuite ofText_mixedText noFiles oddCheck (by simp [mixedSuite])
    entry hget
  exact Check.not_failing_of_endsWithErrorRecord hends (htold.mpr hform)

end CheckScript
