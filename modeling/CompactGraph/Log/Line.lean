/-
# Log lines

An event is written into the log on a line of its own, either as plain text or as a JSON object.
-/
import CompactGraph.Json.Printer
import CompactGraph.Log.Event

namespace CompactGraph

/-- The form of the log. -/
inductive LogFormat where
  | text
  | json
  deriving DecidableEq, Repr, Inhabited

/-- The form that a word asks for.  Every word but one asks for plain text. -/
def LogFormat.ofText (word : String) : LogFormat := if word = "json" then json else text

/-- The form of a program's log when one is asked for or none. -/
def LogFormat.choose (asked : Option String) : LogFormat := (asked.map ofText).getD text

/-- The members of a JSON line. -/
def LogEvent.members (event : LogEvent) : List (String × String) :=
  [("level", event.level.name), ("target", event.origin.path), ("message", event.message)]

/-- An event as it is written. -/
def LogEvent.line (event : LogEvent) : LogFormat → String
  | .text => s!"{event.level.name} {event.origin.path}: {event.message}"
  | .json =>
    let members := event.members.map fun (key, value) =>
      JsonText.printed key ++ ":" ++ JsonText.printed value
    "\x7b" ++ ",".intercalate members ++ "\x7d"

end CompactGraph
