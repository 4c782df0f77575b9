/-
# Classes of characters

A pattern reads characters by their classes.  A class is built from ranges by the operations of sets.
-/

namespace CompactGraph

/-- A class of characters. -/
inductive CharClass where
  /-- The class of no character. -/
  | nothing
  /-- The characters from one to another, both included. -/
  | range (first last : Char)
  | union (left right : CharClass)
  | inter (left right : CharClass)
  /-- Every character that is not in a class. -/
  | compl (chars : CharClass)
  /-- Every character that is in a class when ASCII letters are taken in either case. -/
  | anyCase (chars : CharClass)
  deriving DecidableEq, Repr, Inhabited

namespace CharClass

/-- Whether a character is in a class. -/
def contains : CharClass → Char → Bool
  | nothing, _ => false
  | range first last, c => first.toNat ≤ c.toNat && c.toNat ≤ last.toNat
  | union left right, c => left.contains c || right.contains c
  | inter left right, c => left.contains c && right.contains c
  | compl chars, c => !chars.contains c
  | anyCase chars, c => chars.contains c || chars.contains c.toLower || chars.contains c.toUpper

/-- The class of one character. -/
def single (c : Char) : CharClass := range c c

/-- The class of all characters. -/
def all : CharClass := compl nothing

/-- What is in the first class and not in the second. -/
def diff (left right : CharClass) : CharClass := inter left (compl right)

/-- What is in one of two classes and not in the other. -/
def symmDiff (left right : CharClass) : CharClass := union (diff left right) (diff right left)

/-- What is in one of several classes. -/
def unions (classes : List CharClass) : CharClass := classes.foldl union nothing

/-- A class of one character holds that character only. -/
@[simp]
theorem contains_single {c d : Char} : (single c).contains d = true ↔ c.toNat = d.toNat := by
  simp only [single, contains, Bool.and_eq_true, decide_eq_true_eq]
  exact ⟨fun ⟨h, h'⟩ => Nat.le_antisymm h h', fun h => ⟨Nat.le_of_eq h, Nat.le_of_eq h.symm⟩⟩

/-- Every character is in the class of all. -/
@[simp]
theorem contains_all (c : Char) : all.contains c = true := rfl

/-- A symmetric difference holds what just one of the classes holds. -/
theorem contains_symmDiff (left right : CharClass) (c : Char) :
    (symmDiff left right).contains c = (left.contains c ^^ right.contains c) := by
  simp only [symmDiff, diff, contains]
  cases left.contains c <;> cases right.contains c <;> rfl

end CharClass

end CompactGraph
