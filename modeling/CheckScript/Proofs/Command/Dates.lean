import CheckScript.Command.ParseDate
import CheckScript.Proofs.Calendar.MailDates
import CheckScript.Proofs.Calendar.Stamps

/-!
# Dates in one form

What `parseDate` without a format answers. A text is of some time (`Denotes`) if it is a time stamp
or the date of a mail with the parts of a time that there is; it is of one time only, since no text
is both. The answer is that time as a stamp, which is of the same time and is answered by itself.

## Main statements

* `stampText?_eq_some_iff`: what is answered to which texts.
* `parseDate_normalizes`: the answer to an answer is the same, and blanks around a text do not
  matter.
-/

namespace CheckScript.Command

open Calendar Text

/-! ## Texts of times -/

/-- The text is a time stamp or the date of a mail, and there is a time with its parts. -/
def Denotes (cs : List Char) (t : ZonedTime) : Prop :=
  ∃ p : Parts, (IsStamp cs p ∨ IsMailDate cs p) ∧ p.Valid ∧ t = p.time

variable {cs : List Char} {p q : Parts} {t u : ZonedTime}

theorem not_isMailDate_of_isStamp (h : IsStamp cs p) : ¬IsMailDate cs q := fun hdate => by
  obtain ⟨c, hc, hdigit⟩ := exists_not_digit_of_isMailDate hdate
  cases hdigit.symm.trans (isDigit_of_isStamp h c hc)

/-- **A text is of one time only.** -/
theorem Denotes.unique (ht : Denotes cs t) (hu : Denotes cs u) : t = u := by
  obtain ⟨p, hp, hpv, rfl⟩ := ht
  obtain ⟨q, hq, hqv, rfl⟩ := hu
  rcases hp with hp | hp <;> rcases hq with hq | hq
  · exact time_eq_of_isStamp hp hpv hq hqv
  · exact absurd hq (not_isMailDate_of_isStamp hp)
  · exact absurd hp (not_isMailDate_of_isStamp hq)
  · exact time_eq_of_isMailDate hp hpv hq hqv

theorem Denotes.iff_eq (ht : Denotes cs t) : Denotes cs u ↔ u = t :=
  ⟨fun hu => hu.unique ht, fun hu => hu ▸ ht⟩

theorem Denotes.nanosecond_lt (h : Denotes cs t) :
    t.localTime.time.nanosecond < 10 ^ 9 := by
  obtain ⟨p, hstamp | hdate, -, rfl⟩ := h
  · exact nanosecond_lt_of_isStamp hstamp
  · cases hdate
    exact Nat.pow_pos (by decide)

/-- **A time in the years up to 9999 is written as a stamp of it.** -/
theorem Denotes.isStamp_text (h : Denotes cs t) (hyear : t.localTime.date.year ≤ 9999) :
    IsStamp t.text t.parts ∧ Denotes t.text t := by
  have hnanosecond := h.nanosecond_lt
  obtain ⟨p, -, hvalid, rfl⟩ := h
  have hyear : p.year ≤ 9999 := Int.ofNat_le.mp hyear
  have hstamp := Calendar.isStamp_text hyear hvalid hnanosecond
  have htime := ZonedTime.time_parts (t := p.time) (Int.natCast_nonneg p.year)
  exact ⟨hstamp, _, .inl hstamp, hvalid.parts, htime.symm⟩

/-! ## Answers -/

/-- **Just the texts of times that can be handled are answered**, each with its time. -/
theorem stampText?_eq_some_iff {written : List Char} :
    stampText? cs = some written
      ↔ ∃ t, Denotes cs t ∧ t.utcDate?.isSome = true ∧ written = t.text := by
  rw [stampText?, Option.map_eq_some_iff]
  simp only [Option.or_eq_some_iff, stampTime?_eq_some_iff, mailTime?_eq_some_iff]
  constructor
  · rintro ⟨_, ⟨p, hp, hvalid, rfl, hutc⟩ | ⟨-, p, hp, hvalid, rfl, hutc⟩, rfl⟩
    · exact ⟨p.time, ⟨p, .inl hp, hvalid, rfl⟩, hutc, rfl⟩
    · exact ⟨p.time, ⟨p, .inr hp, hvalid, rfl⟩, hutc, rfl⟩
  · rintro ⟨_, ⟨p, hp | hp, hvalid, rfl⟩, hutc, rfl⟩
    · exact ⟨p.time, .inl ⟨p, hp, hvalid, rfl, hutc⟩, rfl⟩
    · refine ⟨p.time, .inr ⟨?_, p, hp, hvalid, rfl, hutc⟩, rfl⟩
      refine Option.eq_none_iff_forall_ne_some.mpr fun t ht => ?_
      obtain ⟨q, hq, -⟩ := stampTime?_eq_some_iff.mp ht
      exact not_isMailDate_of_isStamp hq hp

/-- The answer to a text, or what is said about one that is not answered. -/
def stampAnswer (cs : List Char) : Except RuntimeError Value :=
  match stampText? cs with
  | some written => .ok (.text (String.ofList written))
  | none => .error (.failed "parseDate" ("cannot parse '" ++ String.ofList cs ++ "' as a date"))

theorem stampAnswer_eq_ok_iff {output : Value} :
    stampAnswer cs = .ok output
      ↔ ∃ t, Denotes cs t ∧ t.utcDate?.isSome = true ∧ output = .text (String.ofList t.text) := by
  rw [stampAnswer]
  cases hwritten : stampText? cs with
  | none =>
    refine ⟨nofun, fun ⟨t, ht, hutc, _⟩ => ?_⟩
    cases hwritten.symm.trans (stampText?_eq_some_iff.mpr ⟨t, ht, hutc, rfl⟩)
  | some written =>
    obtain ⟨t, ht, hutc, rfl⟩ := stampText?_eq_some_iff.mp hwritten
    constructor
    · intro h
      exact ⟨t, ht, hutc, (Except.ok.inj h).symm⟩
    · rintro ⟨u, hu, -, rfl⟩
      rw [ht.unique hu]

theorem exists_parseDate :
    ∃ step, parseDate none = .ok step ∧ ∀ (context : Context) (input : String),
      step.run context (.text input) = ⟨stampAnswer (trim input.toList), context⟩ := by
  refine ⟨_, rfl, fun context input => ?_⟩
  have htext : (trimText input).toList = trim input.toList := String.toList_ofList
  rw [Step.attempt, Step.run, stampAnswer]
  simp only [expectText, bind, Except.bind, dateText?, htext]
  cases stampText? (trim input.toList) <;> rfl

/-- **Dates are answered in one form.** Blanks around a text do not matter to its answer, nor to the
error if there is none. A text that is answered is of one time, which is to the nanosecond and may
have a leap second; if its year has no more than four digits, the answer is of the same time with
the same offset and is of no other, and is answered by itself. -/
theorem parseDate_normalizes :
    ∃ step, parseDate none = .ok step
      ∧ (∀ (context : Context) (lead input tail : List Char), AllBlank lead → AllBlank tail →
          step.run context (.text (String.ofList (lead ++ input ++ tail)))
            = step.run context (.text (String.ofList input)))
      ∧ ∀ (context : Context) (input : String) (output : Value),
          (step.run context (.text input)).result = .ok output →
          ∃ (t : ZonedTime) (written : String), output = .text written
            ∧ (∀ u, Denotes (trim input.toList) u ↔ u = t)
            ∧ (t.localTime.date.year ≤ 9999 →
                (∀ u, Denotes written.toList u ↔ u = t)
                ∧ ∀ context,
                  step.run context (.text written) = ⟨.ok (.text written), context⟩) := by
  obtain ⟨step, hstep, hrun⟩ := exists_parseDate
  refine ⟨step, hstep, fun context lead input tail hlead htail => ?_,
    fun context input output houtput => ?_⟩
  · rw [hrun, hrun, String.toList_ofList, String.toList_ofList, trim_append_blanks hlead htail]
  · rw [hrun] at houtput
    obtain ⟨t, ht, hutc, rfl⟩ := stampAnswer_eq_ok_iff.mp houtput
    refine ⟨t, _, rfl, fun u => ht.iff_eq, fun hyear => ?_⟩
    obtain ⟨hstamp, hwritten⟩ := ht.isStamp_text hyear
    rw [String.toList_ofList]
    refine ⟨fun u => hwritten.iff_eq, fun context => ?_⟩
    rw [hrun, String.toList_ofList, trim_of_isStamp hstamp,
      stampAnswer_eq_ok_iff.mpr ⟨t, hwritten, hutc, rfl⟩]

/-- A leap second with ten digits behind it, in a text with blanks around it. -/
theorem parseDate_normalizes_leap_second :
    ∃ step, parseDate none = .ok step
      ∧ (step.run Context.fresh (.text "\t2016-12-31t23:59:60.1234567899Z\n")).result
          = .ok (.text "2016-12-31T23:59:60.123456789+00:00")
      ∧ Denotes "2016-12-31T23:59:60.123456789+00:00".toList
          ⟨⟨⟨2016, 12, 31⟩, ⟨23, 59, 60, 123456789⟩⟩, 0⟩
      ∧ (step.run Context.fresh (.text "2016-12-31T23:59:60.123456789+00:00")).result
          = .ok (.text "2016-12-31T23:59:60.123456789+00:00") := by
  have hread : (readStamp? "2016-12-31t23:59:60.1234567899Z".toList).bind Fields.zonedTime?
      = some ⟨⟨⟨2016, 12, 31⟩, ⟨23, 59, 60, 123456789⟩⟩, 0⟩ := by decide +kernel
  obtain ⟨p, hstamp, hvalid, htime, hutc⟩ := stampTime?_eq_some_iff.mp hread
  have hdenotes : Denotes (trim "\t2016-12-31t23:59:60.1234567899Z\n".toList)
      ⟨⟨⟨2016, 12, 31⟩, ⟨23, 59, 60, 123456789⟩⟩, 0⟩ := ⟨p, .inl hstamp, hvalid, htime⟩
  obtain ⟨step, hstep, -, hanswers⟩ := parseDate_normalizes
  obtain ⟨step', hstep', hrun⟩ := exists_parseDate
  cases hstep.symm.trans hstep'
  have hfirst : (step.run Context.fresh (.text "\t2016-12-31t23:59:60.1234567899Z\n")).result
      = .ok (.text "2016-12-31T23:59:60.123456789+00:00") := by
    have htext : String.ofList (ZonedTime.text ⟨⟨⟨2016, 12, 31⟩, ⟨23, 59, 60, 123456789⟩⟩, 0⟩)
        = "2016-12-31T23:59:60.123456789+00:00" := by decide +kernel
    rw [hrun, stampAnswer_eq_ok_iff.mpr ⟨_, hdenotes, hutc, rfl⟩, htext]
  obtain ⟨t, written, heq, ht, hform⟩ := hanswers _ _ _ hfirst
  cases heq
  cases (ht _).mp hdenotes
  obtain ⟨hwritten, hagain⟩ := hform (by decide)
  exact ⟨step, hstep, hfirst, (hwritten _).mpr rfl, by rw [hagain]⟩

end CheckScript.Command
