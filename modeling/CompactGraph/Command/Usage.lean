/-
# Usage

What a program says when its command line is not understood, or when it is asked about itself instead
of for a command.
-/
import CompactGraph.Command.CommandOption

namespace CompactGraph

/-- The name and the version of the program. -/
def programVersion : String := "graphload 0.4.0"

/-- How an option is called in messages. -/
def CommandOption.shown (o : CommandOption) : String := "--" ++ o.long

/-- How the program is used, in short. -/
def usageText : String :=
  "Usage: graphload [-v] [-q] [--json-mode] [-D <database>] " ++
    "[init | import | status | load | degree | neighbors | help] [options]"

namespace UsageProblem

/-- The wording of a problem. -/
def message : UsageProblem → String
  | unknownArgument argument => s!"unexpected argument '{argument}' found"
  | unknownCommand word => s!"unrecognized command '{word}'"
  | missingOption missing => s!"the option '{missing.shown}' is required"
  | missingValue o => s!"a value is required for '{o.shown}' but none was supplied"
  | badValue o value => s!"invalid value '{value}' for '{o.shown}'"
  | repeated twice => s!"the option '{twice.shown}' cannot be used twice"
  | valueForSwitch switch => s!"the option '{switch.shown}' takes no value"
  | helpRequested => usageText
  | versionRequested => programVersion

/-- Whether nothing is wrong, because the program was only asked about itself. -/
def isRequest : UsageProblem → Bool
  | helpRequested | versionRequested => true
  | _ => false

/-- The exit code of a program. -/
def exitCode (problem : UsageProblem) : Nat := if problem.isRequest then 0 else 2

/-- What a program prints as its result. -/
def printed (problem : UsageProblem) : String :=
  if problem.isRequest then problem.message ++ "\n" else ""

/-- What a program prints as a complaint. -/
def complaint (problem : UsageProblem) : String :=
  if problem.isRequest then "" else s!"error: {problem.message}\n\n{usageText}\n"

end UsageProblem

end CompactGraph
