/-
# Blank characters

The characters that count as white space are those with the Unicode property `White_Space`.  A text
is *blank* when it holds nothing else, and trimming cuts such characters off both ends.
-/

namespace CompactGraph

/-- The code points with the property `White_Space`. -/
def blankCodePoints : List Nat :=
  [0x09, 0x0A, 0x0B, 0x0C, 0x0D, 0x20, 0x85, 0xA0, 0x1680, 0x2000, 0x2001, 0x2002, 0x2003, 0x2004,
    0x2005, 0x2006, 0x2007, 0x2008, 0x2009, 0x200A, 0x2028, 0x2029, 0x202F, 0x205F, 0x3000]

/-- Whether a character is white space. -/
def isBlank (c : Char) : Bool := blankCodePoints.contains c.toNat

/-- Cut white space off the front. -/
def trimFront (s : List Char) : List Char := s.dropWhile isBlank

/-- Cut white space off both ends. -/
def trim (s : List Char) : List Char := (trimFront (trimFront s).reverse).reverse

/-- Whether a text holds white space only; the empty text does. -/
def isBlankText (s : String) : Bool := s.toList.all isBlank

/-- The lower case of an ASCII letter; every other character stays as it is. -/
def asciiLower (c : Char) : Char :=
  if 'A' ≤ c ∧ c ≤ 'Z' then Char.ofNat (c.toNat + 32) else c

/-- The form in which an option's word is compared: trimmed, ASCII letters in lower case. -/
def normalizeWord (s : String) : String := String.ofList ((trim s.toList).map asciiLower)

/-- Everything core calls white space is blank. -/
theorem isBlank_of_isWhitespace {c : Char} (h : c.isWhitespace = true) : isBlank c = true := by
  simp only [Char.isWhitespace, Bool.or_eq_true, decide_eq_true_eq] at h
  rcases h with ((rfl | rfl) | rfl) | rfl <;> decide

end CompactGraph
