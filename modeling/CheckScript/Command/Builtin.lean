import CheckScript.Command.Data
import CheckScript.Command.Extract
import CheckScript.Command.ParseDate
import CheckScript.Command.Text

/-!
# The commands of every script

The registry that scripts are compiled with unless a host program brings its own.
-/

namespace CheckScript

/-- The registry of the commands that come with the library. -/
def Registry.builtin : Registry :=
  Registry.empty
    |>.register "echo" .escaped Command.echo
    |>.register "extract" .raw Command.extract
    |>.register "parseDate" .escaped Command.parseDate
    |>.register "split" .escaped Command.split
    |>.register "join" .escaped Command.join
    |>.register "trim" .escaped Command.trim
    |>.register "template" .escaped Command.template
    |>.register "save" .escaped Command.save
    |>.register "load" .escaped Command.load

end CheckScript
