/-
# Brackets

A class of characters is written between brackets: characters, ranges, named classes and further
brackets, all of which are put together, and operations between what is put together on both sides.
-/
import CompactGraph.Pattern.Escape

namespace CompactGraph

/-- An operation between two classes. -/
inductive ClassOperation where
  | inter
  | diff
  | symmDiff
  deriving DecidableEq, Repr, Inhabited

/-- The result of an operation. -/
def ClassOperation.apply (left right : CharClass) : ClassOperation → CharClass
  | inter => .inter left right
  | diff => .diff left right
  | symmDiff => .symmDiff left right

/-- A class, and how deep brackets and operations are nested in what it was written with. -/
structure NestedClass where
  chars : CharClass
  depth : Nat := 0
  deriving DecidableEq, Repr, Inhabited

/-- What has been read after an opening bracket. -/
structure Bracket where
  isNegated : Bool
  /-- Whether nothing but hyphens has been read, which then stand for themselves. -/
  isFresh : Bool := true
  /-- The left side of an operation. -/
  left : Option (NestedClass × ClassOperation) := none
  /-- What has been read since. -/
  members : List NestedClass := []
  deriving DecidableEq, Repr, Inhabited

namespace Bracket

/-- A bracket with one more member. -/
def add (bracket : Bracket) (member : NestedClass) : Bracket :=
  { bracket with members := bracket.members ++ [member] }

/-- The depth of what is put together: parts add to the deepest of them if there are several. -/
def depthOf (depths : List Nat) : Nat :=
  depths.foldl max 0 + if depths.length < 2 then 0 else 1

/-- The class of all members since the last operation. -/
def side (bracket : Bracket) : NestedClass :=
  ⟨.unions (bracket.members.map NestedClass.chars),
    depthOf (bracket.members.map NestedClass.depth)⟩

/-- The class of all that has been read. -/
def whole (bracket : Bracket) : NestedClass :=
  match bracket.left with
  | none => bracket.side
  | some (left, operation) =>
    ⟨operation.apply left.chars bracket.side.chars, max left.depth bracket.side.depth + 1⟩

/-- A bracket after the sign of an operation. -/
def operate (bracket : Bracket) (operation : ClassOperation) : Bracket :=
  { bracket with left := some (bracket.whole, operation), members := [] }

/-- The class of a bracket that is closed. -/
def closed? (flags : PatternFlags) (bracket : Bracket) : Option NestedClass := do
  let chars ←
    if bracket.isNegated then flags.compl? bracket.whole.chars else some bracket.whole.chars
  return ⟨chars, bracket.whole.depth + 1⟩

/-! ## Reading members -/

/-- A bracket that has just been opened, and the text after a sign that negates it. -/
def opened (flags : PatternFlags) (text : List Char) : Bracket × List Char :=
  match flags.skipBlanks text with
  | '^' :: rest => ({ isNegated := true }, rest)
  | rest => ({ isNegated := false }, rest)

/-- The ranges of a named class and whether it is negated, if a text after a bracket is the name of
one, and the text after it. -/
def named? : List Char → Option (List (Char × Char) × Bool × List Char)
  | ':' :: text => do
    let (isNegated, text) :=
      match text with
      | '^' :: rest => (true, rest)
      | text => (false, text)
    match text.dropWhile (· ≠ ':') with
    | _ :: ']' :: rest =>
      return (← rangesNamed? (String.ofList (text.takeWhile (· ≠ ':'))), isNegated, rest)
    | _ => none
  | _ => none

/-- The class of some ranges or of everything else. -/
def namedClass? (flags : PatternFlags) (ranges : List (Char × Char)) (isNegated : Bool) :
    Option CharClass := do
  let chars ← flags.ranges? ranges
  if isNegated then flags.compl? chars else some chars

/-- What a character in a bracket stands for, and the text after it. -/
def atom? (flags : PatternFlags) (c : Char) (rest : List Char) :
    Option (PatternAtom × List Char) :=
  if c = '\\' then PatternAtom.escape? flags rest else some (.char c, rest)

/-- The class of a single member. -/
def single? (flags : PatternFlags) : PatternAtom → Option CharClass
  | .char c => flags.range? c c
  | .chars chars => some chars
  | .boundary _ => none

/-- The class of a range. -/
def range? (flags : PatternFlags) : PatternAtom → PatternAtom → Option CharClass
  | .char first, .char last => if first.toNat ≤ last.toNat then flags.range? first last else none
  | _, _ => none

/-- Whether a text after a hyphen lets the hyphen make a range. -/
def makesRange (flags : PatternFlags) (text : List Char) : Bool :=
  (flags.peek? text).all fun c => c ≠ ']' && c ≠ '-'

/-- The class of a member or range that begins with a character, and the text after it. -/
def member? (flags : PatternFlags) (c : Char) (rest : List Char) :
    Option (CharClass × List Char) := do
  let (first, rest) ← atom? flags c rest
  match flags.skipBlanks rest with
  | '-' :: text =>
    if makesRange flags text then
      match flags.skipBlanks text with
      | [] => none
      | c :: text =>
        let (last, text) ← atom? flags c text
        return (← range? flags first last, text)
    else return (← single? flags first, '-' :: text)
  | text => return (← single? flags first, text)

/-- Whether a character stands for itself at the start of a bracket. -/
def takesPlainly (bracket : Bracket) (c : Char) : Bool :=
  bracket.isFresh && (c = '-' || c = ']' && bracket.members.isEmpty)

/-- Read a bracket inside of others, the innermost first, up to the end of the outermost. -/
def read? (flags : PatternFlags) :
    Nat → Bracket → List Bracket → List Char → Option (NestedClass × List Char)
  | 0, _, _, _ => none
  | fuel + 1, bracket, outer, text =>
    match flags.skipBlanks text with
    | [] => none
    | c :: rest =>
      if bracket.takesPlainly c then do
        let member := { chars := ← flags.range? c c }
        read? flags fuel { bracket.add member with isFresh := c = '-' } outer rest
      else
        let bracket := { bracket with isFresh := false }
        match c, rest, named? rest with
        | '[', _, some (ranges, isNegated, rest) => do
          let member := { chars := ← namedClass? flags ranges isNegated }
          read? flags fuel (bracket.add member) outer rest
        | '[', _, none =>
          let (inner, rest) := opened flags rest
          read? flags fuel inner (bracket :: outer) rest
        | ']', _, _ => do
          let member ← bracket.closed? flags
          match outer with
          | [] => return (member, rest)
          | bracket :: outer => read? flags fuel (bracket.add member) outer rest
        | '&', '&' :: rest, _ => read? flags fuel (bracket.operate .inter) outer rest
        | '-', '-' :: rest, _ => read? flags fuel (bracket.operate .diff) outer rest
        | '~', '~' :: rest, _ => read? flags fuel (bracket.operate .symmDiff) outer rest
        | _, _, _ => do
          let (chars, rest) ← member? flags c rest
          read? flags fuel (bracket.add { chars }) outer rest

/-- The class that a text after an opening bracket begins with, and the text after it. -/
def class? (flags : PatternFlags) (text : List Char) : Option (NestedClass × List Char) :=
  let (bracket, rest) := opened flags text
  read? flags (text.length + 1) bracket [] rest

end Bracket

end CompactGraph
