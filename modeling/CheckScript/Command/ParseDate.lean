import CheckScript.Calendar.Format
import CheckScript.Calendar.Internet
import CheckScript.Command.Arguments
import CheckScript.Text.Blank

/-!
# Dates in one form

`parseDate [format]` reads a date in its input and answers with it in one form:
`2026-10-19T08:30:00+02:00` if the offset is known, else `2026-10-19T08:30:00` if the time of day is
known, else `2026-10-19`. Without a format it reads a time stamp or the date of a mail.
-/

namespace CheckScript.Command

open Calendar Text

/-- The date and time without a format. -/
def stampText? (text : List Char) : Option (List Char) :=
  ((readStamp? text).bind Fields.zonedTime?).or ((readMailDate? text).bind Fields.zonedTime?)
    |>.map ZonedTime.text

/-- The form of what the fields give, as much of it as there is. -/
def fieldsText? (fields : Fields) : Option (List Char) :=
  match fields.zonedTime? with
  | some t => some t.text
  | none =>
    match fields.localTime? 0 with
    | some t => some t.text
    | none => fields.date.toOption.map Date.text

/-- The date that a text writes, in one form. -/
def dateText? (format : Option String) (text : List Char) : Option (List Char) :=
  match format with
  | none => stampText? text
  | some format => do
    let items ← Format.ofText? format.toList
    fieldsText? (← Format.read? Fields.none text items)

/-- `parseDate [format]`. -/
def parseDate : Factory := fun argument =>
  .ok (.attempt fun input => do
    let text := trimText (← expectText "parseDate" input)
    match dateText? argument text.toList with
    | some written => return .text (String.ofList written)
    | none =>
      .error (.failed "parseDate" ("cannot parse '" ++ text ++ "' as a date")))

end CheckScript.Command
