/-
# Log filters

A filter says which events are written.  It is a list of directives; of several that concern an event
the most specific one counts.  An event is also written if a directive asks for it that concerns the work
during which it happens.
-/
import CompactGraph.Log.Directive

namespace CompactGraph

/-- Directives about different subjects. -/
structure LogFilter where
  directives : List LogDirective
  deriving BEq, Repr, Inhabited

namespace LogFilter

/-- The directive that decides on an event by itself. -/
def deciding? (filter : LogFilter) (event : LogEvent) : Option LogDirective :=
  (filter.directives.filter fun directive => directive.subject.concerns event).foldl
    (fun best directive =>
      if best.any fun best => best.subject.outweighs directive.subject then best else some directive)
    none

/-- Whether an event is written for the work during which it happens. -/
def passesBySpan (filter : LogFilter) (event : LogEvent) : Bool :=
  event.span.any fun span =>
    filter.directives.any fun directive =>
      directive.subject.opens span && event.level.rank ≤ directive.rank

/-- Whether an event is written. -/
def passes (filter : LogFilter) (event : LogEvent) : Bool :=
  filter.passesBySpan event ||
    (filter.deciding? event).any fun directive => event.level.rank ≤ directive.rank

/-- The filter that lets events of the whole program through up to a level. -/
def upTo (level : LogLevel) : LogFilter :=
  ⟨[{ subject := { path := some "graphload" }, rank := level.rank },
    { subject := { path := some "graphload_core" }, rank := level.rank }]⟩

/-- The filter for a program that was asked to be quiet, to be verbose, or neither. -/
def standard (quiet verbose : Bool) : LogFilter :=
  upTo (if quiet then .warn else if verbose then .debug else .info)

/-! ## Reading filters -/

/-- Directives in order of writing without those about whose subject a later one says something else. -/
def latest : List LogDirective → List LogDirective
  | [] => []
  | directive :: rest =>
    if rest.any fun later => later.subject == directive.subject then latest rest
    else directive :: latest rest

/-- Cut a text at commas. -/
def pieces (text : String) : List (List Char) :=
  (text.toList.splitOnP (· = ',')).filter fun piece => !piece.isEmpty

/-- The filter that a text stands for: directives with commas between them.  Without any, no event is
written. -/
def ofText (text : String) : Except LogDirectiveError LogFilter := do
  return ⟨latest (← (pieces text).mapM LogDirective.ofText)⟩

/-- The filter of a program: the one that is asked for, if it can be read, or the standard one.  There is
none, and the program has to stop, if a directive is torn. -/
def choose? (asked : Option String) (quiet verbose : Bool) : Option LogFilter :=
  match asked.map ofText with
  | none | some (.error .unreadable) => some (standard quiet verbose)
  | some (.error .torn) => none
  | some (.ok filter) => some filter

/-- The exit code of a program that has to stop for want of a filter. -/
def tornExitCode : Nat := 101

end LogFilter

end CompactGraph
