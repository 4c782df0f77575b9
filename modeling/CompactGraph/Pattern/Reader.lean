/-
# Reading patterns

A pattern is written as a row of signs: atoms stand for themselves, the signs of repetition follow what
they repeat, bars stand between choices, and parentheses put together what belongs together.
-/
import CompactGraph.Pattern.Bracket
import CompactGraph.Text.Letters

namespace CompactGraph

/-- A sign of a pattern. -/
inductive PatternSign where
  /-- The start of a group, which may have a name and flags of its own. -/
  | opened (flags : PatternFlags) (name : Option (List Char))
  /-- Flags for the rest of a group. -/
  | flagged (flags : PatternFlags)
  | closed
  | divided
  | repeated (times : Repetition) (eager : Bool)
  /-- A pattern, and how deep it is nested. -/
  | part (pattern : Pattern) (depth : Nat)
  deriving DecidableEq, Repr, Inhabited

namespace PatternSign

/-! ## Reading signs -/

/-- Whether a character may stand in the name of a group. -/
def isNameChar (c : Char) : Bool := c = '_' || c = '.' || c = '[' || c = ']' || isLetterOrNumber c

/-- Whether the name of a group may begin with a character. -/
def isNameStart (c : Char) : Bool := c = '_' || isLetter c

/-- The start of a group whose name a text begins with. -/
def named? (flags : PatternFlags) (text : List Char) : Option (PatternSign × List Char) :=
  let name := text.takeWhile (· ≠ '>')
  match name, text.dropWhile (· ≠ '>') with
  | c :: others, _ :: rest =>
    if isNameStart c && others.all isNameChar then some (opened flags (some name), rest) else none
  | _, _ => none

/-- What a text after a question mark at the start of a group begins with: flags for the group, or for
the rest of the group around. -/
def flags? (flags : PatternFlags) (text : List Char) : Option (PatternSign × List Char) := do
  let isEnd := fun c => c = ':' || c = ')'
  let word := text.takeWhile fun c => !isEnd c
  let flags ← flags.changed? word
  match text.dropWhile fun c => !isEnd c with
  | ':' :: rest => return (opened flags none, rest)
  | _ :: rest => if word.isEmpty then none else return (flagged flags, rest)
  | [] => none

/-- What a text after an opening parenthesis begins with. -/
def group? (flags : PatternFlags) : List Char → Option (PatternSign × List Char)
  | '?' :: 'P' :: '<' :: rest => named? flags rest
  | '?' :: '<' :: rest => named? flags rest
  | '?' :: rest => flags? flags rest
  | rest => some (opened flags none, rest)

/-- A sign of repetition, which a question mark makes reluctant, or eager where the others are
reluctant. -/
def repetition (flags : PatternFlags) (times : Repetition) :
    List Char → PatternSign × List Char
  | '?' :: rest => (repeated times (flags.has .reluctant), rest)
  | rest => (repeated times (!flags.has .reluctant), rest)

/-- A pattern for what an atom stands for. -/
def atom? (flags : PatternFlags) : PatternAtom → Option PatternSign
  | .char c => do return part (.char (← flags.char? c)) 0
  | .chars chars => some (part (.char chars) 0)
  | .boundary boundary => some (part (.boundary boundary) 0)

/-- The sign that begins with a character, and the text after it.  Counts of repetitions are not
known. -/
def read? (flags : PatternFlags) (c : Char) (rest : List Char) :
    Option (PatternSign × List Char) :=
  match c with
  | '(' => group? flags (flags.skipBlanks rest)
  | ')' => some (closed, rest)
  | '|' => some (divided, rest)
  | '?' => some (repetition flags .optional rest)
  | '*' => some (repetition flags .anyTimes rest)
  | '+' => some (repetition flags .someTimes rest)
  | '\x7b' => none
  | '[' => do
    let (member, rest) ← Bracket.class? flags rest
    return (part (.char member.chars) member.depth, rest)
  | '.' => do return (part (.char (← flags.point?)) 0, rest)
  | '^' => some (part (.boundary flags.start) 0, rest)
  | '$' => some (part (.boundary flags.finish) 0, rest)
  | '\\' => do
    let (atom, rest) ← PatternAtom.escape? flags rest
    return (← atom? flags atom, rest)
  | c => do return (← atom? flags (.char c), rest)

end PatternSign

/-! ## Groups -/

/-- A part of a group, and how deep it is nested.  Flags are parts, too, which cannot be repeated. -/
structure PatternPart where
  pattern : Pattern
  depth : Nat
  isRepeatable : Bool := true
  deriving DecidableEq, Repr, Inhabited

/-- What has been read of a group. -/
structure PatternGroup where
  flags : PatternFlags := {}
  /-- The choices before the last bar, the last one in front. -/
  choices : List PatternPart := []
  /-- The parts after the last bar, the last one in front. -/
  parts : List PatternPart := []
  deriving DecidableEq, Repr, Inhabited

namespace PatternGroup

/-- A group with one more part. -/
def add (group : PatternGroup) (part : PatternPart) : PatternGroup :=
  { group with parts := part :: group.parts }

/-- The choice after the last bar. -/
def choice (group : PatternGroup) : PatternPart where
  pattern := group.parts.foldl (fun rest part => .sequence part.pattern rest) .empty
  depth := Bracket.depthOf (group.parts.map PatternPart.depth)

/-- A group after a bar. -/
def divide (group : PatternGroup) : PatternGroup :=
  { group with choices := group.choice :: group.choices, parts := [] }

/-- All that has been read of a group. -/
def whole (group : PatternGroup) : PatternPart where
  pattern := group.choices.foldl (fun rest choice => .choice choice.pattern rest) group.choice.pattern
  depth := Bracket.depthOf ((group.choice :: group.choices).map PatternPart.depth)

/-- A group whose last part is repeated, if it can be. -/
def repeat? (group : PatternGroup) (times : Repetition) (eager : Bool) : Option PatternGroup :=
  match group.parts with
  | part :: parts =>
    if part.isRepeatable then
      some { group with parts := ⟨.repeated part.pattern times eager, part.depth + 1, true⟩ :: parts }
    else none
  | [] => none

end PatternGroup

/-- What has been read of a pattern. -/
structure PatternDraft where
  /-- The innermost group that is open. -/
  group : PatternGroup := {}
  /-- The groups around it, the innermost in front. -/
  outer : List PatternGroup := []
  /-- The names of groups, which have to differ. -/
  names : List (List Char) := []
  deriving DecidableEq, Repr, Inhabited

namespace PatternDraft

/-- A draft with one more sign. -/
def take? (draft : PatternDraft) : PatternSign → Option PatternDraft
  | .opened flags name =>
    if name.any draft.names.contains then none
    else some {
      group := { flags }, outer := draft.group :: draft.outer, names := name.toList ++ draft.names }
  | .flagged flags => some { draft with group := { draft.group.add ⟨.empty, 0, false⟩ with flags } }
  | .closed =>
    match draft.outer with
    | [] => none
    | group :: outer =>
      let inner := draft.group.whole
      some { draft with group := group.add { inner with depth := inner.depth + 1 }, outer }
  | .divided => some { draft with group := draft.group.divide }
  | .repeated times eager => do return { draft with group := ← draft.group.repeat? times eager }
  | .part pattern depth => some { draft with group := draft.group.add { pattern, depth } }

/-- A draft after all signs of a text. -/
def read? : Nat → PatternDraft → List Char → Option PatternDraft
  | 0, _, _ => none
  | fuel + 1, draft, text =>
    match draft.group.flags.skipBlanks text with
    | [] => some draft
    | c :: rest => do
      let (sign, rest) ← PatternSign.read? draft.group.flags c rest
      read? fuel (← draft.take? sign) rest

/-- How deep patterns may be nested. -/
def depthLimit : Nat := 250

end PatternDraft

/-- The pattern that a text stands for. -/
def Pattern.ofText? (text : List Char) : Option Pattern := do
  let draft ← PatternDraft.read? (text.length + 1) {} text
  let whole := draft.group.whole
  if draft.outer.isEmpty && whole.depth ≤ PatternDraft.depthLimit then some whole.pattern else none

end CompactGraph
