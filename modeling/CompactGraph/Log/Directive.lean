/-
# Log directives

A directive sets the level up to which events of a part of the program are written; the part is given by
the beginning of its path.  A directive may also ask for a field or for a stretch of work, and then
concerns events that tell it and what happens during such work.
-/
import CompactGraph.Log.Condition
import CompactGraph.Text.ByteSlice

namespace CompactGraph

/-- A field that a directive asks for. -/
structure LogField where
  name : String
  /-- The condition on its value, if there is one. -/
  condition : Option LogCondition := none
  deriving BEq, Repr, Inhabited

/-- What a directive is about. -/
structure LogSubject where
  /-- The beginning of the path; without one the directive concerns everything. -/
  path : Option String := none
  /-- The name of a stretch of work. -/
  span : Option String := none
  field : Option LogField := none
  deriving BEq, Repr, Inhabited

/-- Up to which level the events of a part of the program are written. -/
structure LogDirective where
  subject : LogSubject
  /-- The rank of the least important level that is written; zero for none. -/
  rank : Nat
  deriving BEq, Repr, Inhabited

/-! ## What a directive concerns -/

namespace LogSubject

/-- Whether the path of a subject leads to a part of the program. -/
def reaches (subject : LogSubject) (origin : LogOrigin) : Bool :=
  subject.path.all fun path => path.toList.isPrefixOf origin.path.toList

/-- Whether an event is told that a subject asks for.  The values of its fields are not looked at, and
a condition on one is never met. -/
def concerns (subject : LogSubject) (event : LogEvent) : Bool :=
  subject.span.isNone && subject.reaches event.origin &&
    subject.field.all fun field => field.condition.isNone && event.fields.contains field.name

/-- Whether something is told as a field asks for it. -/
def finds (field : LogField) (told : List (String × LogValue)) : Bool :=
  match told.lookup field.name with
  | none => false
  | some value => field.condition.all fun condition => condition.holds value

/-- Whether a subject is a stretch of work. -/
def opens (subject : LogSubject) (span : LogSpan) : Bool :=
  (subject.span.isSome || subject.field.isSome) && subject.reaches span.origin &&
    (subject.span.all fun name => name = span.name) &&
    subject.field.all fun field => finds field span.fields

/-- Whether one name comes after another. -/
def comesAfter (name other : String) : Bool :=
  List.lex other.toList name.toList fun c d => c.toNat < d.toNat

/-- How specific a subject is: the length of its path counts first, then whether it asks for a field. -/
def weight (subject : LogSubject) : Nat :=
  2 * (subject.path.map fun path => path.utf8ByteSize + 1).getD 0 +
    if subject.field.isSome then 1 else 0

/-- Whether a subject is more specific than another.  Of two fields the one whose name comes later is. -/
def outweighs (subject other : LogSubject) : Bool :=
  other.weight < subject.weight ||
    other.weight = subject.weight &&
      match subject.field, other.field with
      | some field, some other => comesAfter field.name other.name
      | _, _ => false

end LogSubject

/-! ## Reading directives -/

/-- Why a text is no directive. -/
inductive LogDirectiveError where
  | unreadable
  /-- It has to be cut within a character. -/
  | torn
  deriving DecidableEq, Repr, Inhabited

namespace LogDirective

/-- The rank of a level's word, or of its number. -/
def rank? (word : String) : Option Nat :=
  match Decimal.natural? word with
  | some rank => if rank ≤ LogLevel.trace.rank then some rank else none
  | none =>
    match String.ofList (word.toList.map asciiLower) with
    | "off" => some 0
    | "error" => some LogLevel.error.rank
    | "warn" => some LogLevel.warn.rank
    | "info" => some LogLevel.info.rank
    | "debug" => some LogLevel.debug.rank
    | "trace" => some LogLevel.trace.rank
    | _ => none

/-- Whether a directive may begin with a character. -/
def mayBegin (c : Char) : Bool :=
  c = '[' || c = '-' || c = ':' || c = '_' || isLetterOrNumber c

/-- Fail if there is no answer. -/
def readable {α : Type} (answer : Option α) : Except LogDirectiveError α :=
  match answer with
  | some answer => .ok answer
  | none => .error .unreadable

/-- The bytes of a text from one place up to another. -/
def slice (text : List Char) (start stop : Nat) : Except LogDirectiveError String :=
  match byteSlice? text start stop with
  | some slice => .ok (String.ofList slice)
  | none => .error .torn

/-- The rank that a text gives from some place on, which is that of everything if nothing is there. -/
def rankFrom (text : List Char) (start : Nat) : Except LogDirectiveError Nat := do
  let word ← slice text start (byteCount text)
  if word.isEmpty then return LogLevel.trace.rank else readable (rank? word)

/-- The directive that a text without brackets or equals signs stands for: a level, or a path, of which
everything is written. -/
def ofWord (word : String) : LogDirective :=
  match rank? word with
  | some rank => { subject := {}, rank }
  | none => { subject := { path := some word }, rank := LogLevel.trace.rank }

/-- The field that a text asks for.  What follows a second equals sign is passed over. -/
def field? (text : String) : Option LogField :=
  let name := String.ofList (text.toList.takeWhile (· ≠ '='))
  match text.toList.dropWhile (· ≠ '=') with
  | [] => if text.isEmpty then none else some { name }
  | _ :: rest => do
    return { name, condition := ← LogCondition.ofText? (String.ofList (rest.takeWhile (· ≠ '='))) }

/-- What a text asks for between a brace at some place and the one that closes it, given what follows the
first.  The answer ends with the place after the brackets, and with what follows there. -/
def fieldFrom (text : List Char) (start : Nat) (rest : List Char) :
    Except LogDirectiveError (LogField × Nat × List Char) := do
  let stop := start + byteCount (rest.takeWhile (· ≠ '\x7d'))
  match rest.dropWhile (· ≠ '\x7d') with
  | _ :: rest =>
    let field ← readable (field? (← slice text start stop))
    match rest with
    | ']' :: rest => return (field, stop + 2, rest)
    | _ => .error .unreadable
  | [] => .error .unreadable

/-- The stretch of work and the field that a text asks for in brackets that open before some place, given
what follows there.  No name before a brace means any. -/
def spanFrom (text : List Char) (start : Nat) (rest : List Char) :
    Except LogDirectiveError (LogSubject × Nat × List Char) := do
  let isEnd := fun c => c = ']' || c = '\x7b'
  let stop := start + byteCount (rest.takeWhile fun c => !isEnd c)
  match rest.dropWhile fun c => !isEnd c with
  | ']' :: rest => return ({ span := some (← slice text start stop) }, stop + 1, rest)
  | _ :: rest =>
    let name ← slice text start stop
    let (field, place, rest) ← fieldFrom text (stop + 1) rest
    return ({ span := if name.isEmpty then none else some name, field := some field }, place, rest)
  | [] => .error .unreadable

/-- The rank that a text gives after its brackets, at some place, given what follows there. -/
def rankAfter (text : List Char) (place : Nat) : List Char → Except LogDirectiveError Nat
  | [] => return LogLevel.trace.rank
  | '=' :: _ => rankFrom text (place + 1)
  | _ => .error .unreadable

/-- The directive that a text stands for: a level, a path, or both with an equals sign between; a path
may be followed by a stretch of work.  The parts are found after blanks at both ends have been cut off, and
taken from the same places of the whole text. -/
def ofText (text : List Char) : Except LogDirectiveError LogDirective := do
  let isEnd := fun c => c = '=' || c = '['
  let trimmed := trim text
  if !trimmed.head?.any mayBegin then .error .unreadable
  let stop := byteCount (trimmed.takeWhile fun c => !isEnd c)
  match trimmed.dropWhile fun c => !isEnd c with
  | [] => return ofWord (String.ofList text)
  | '=' :: _ =>
    let path ← slice text 0 stop
    return { subject := { path := some path }, rank := ← rankFrom text (stop + 1) }
  | _ :: rest =>
    let path ← if stop = 0 then pure none else some <$> slice text 0 stop
    let (subject, place, rest) ← spanFrom text (stop + 1) rest
    return { subject := { subject with path }, rank := ← rankAfter text place rest }

end LogDirective

end CompactGraph
