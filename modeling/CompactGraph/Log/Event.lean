/-
# Log events

What a load or a command has to say about itself, apart from its result.  Every event has a level, the
place it comes from, and a message; it may happen during a stretch of work that has a name.
-/

namespace CompactGraph

/-- How much an event matters. -/
inductive LogLevel where
  | error
  | warn
  | info
  | debug
  | trace
  deriving DecidableEq, Repr, Inhabited

namespace LogLevel

/-- The position among the levels, the most important first. -/
def rank : LogLevel → Nat
  | error => 1
  | warn => 2
  | info => 3
  | debug => 4
  | trace => 5

/-- How a level is written in the log. -/
def name : LogLevel → String
  | error => "ERROR"
  | warn => "WARN"
  | info => "INFO"
  | debug => "DEBUG"
  | trace => "TRACE"

end LogLevel

/-- The part of the program that an event comes from. -/
inductive LogOrigin where
  | program
  | commands
  | loads
  | scans
  | store
  deriving DecidableEq, Repr, Inhabited

/-- The path by which filters and the log name a part of the program. -/
def LogOrigin.path : LogOrigin → String
  | program => "graphload"
  | commands => "graphload::cli::commands"
  | loads => "graphload_core::loader"
  | scans => "graphload_core::visitor"
  | store => "graphload_core::source::redb_store"

/-- What is told about a stretch of work under one name. -/
inductive LogValue where
  | flag (value : Bool)
  | number (value : Nat)
  | text (value : String)
  deriving DecidableEq, Repr, Inhabited

/-- A stretch of work in which events happen. -/
inductive LogSpan where
  | load (direction : String) (undirected : Bool) (workers : Nat)
  | partition (index nodes : Nat)
  deriving DecidableEq, Repr, Inhabited

namespace LogSpan

/-- The name by which filters know a stretch of work. -/
def name : LogSpan → String
  | load .. => "load"
  | partition .. => "partition"

/-- The part of the program that does the work. -/
def origin : LogSpan → LogOrigin
  | load .. => .loads
  | partition .. => .loads

/-- What is told about the work. -/
def fields : LogSpan → List (String × LogValue)
  | load direction undirected workers =>
    [("direction", .text direction), ("undirected", .flag undirected), ("concurrency", .number workers)]
  | partition index nodes => [("index", .number index), ("nodes", .number nodes)]

end LogSpan

/-- An event. -/
structure LogEvent where
  level : LogLevel
  origin : LogOrigin
  message : String
  /-- The names of what is told beside the message. -/
  details : List String := []
  /-- The work during which the event happened. -/
  span : Option LogSpan := none
  deriving DecidableEq, Repr, Inhabited

/-- The names of everything that is told about an event. -/
def LogEvent.fields (event : LogEvent) : List String := "message" :: event.details

end CompactGraph
