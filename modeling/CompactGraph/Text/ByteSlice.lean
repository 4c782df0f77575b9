/-
# Slices counted in bytes

Places in a text may be counted in the bytes of its UTF-8 form.  A text can be cut where a character
begins or where the text ends, but not within a character.
-/
import CompactGraph.Totals

namespace CompactGraph

/-- How many bytes a text takes. -/
def byteCount (text : List Char) : Nat := total (text.map Char.utf8Size)

/-- The first bytes of a text and all after them. -/
def splitAtByte? : Nat → List Char → Option (List Char × List Char)
  | 0, text => some ([], text)
  | _ + 1, [] => none
  | place + 1, c :: rest =>
    if c.utf8Size ≤ place + 1 then
      (splitAtByte? (place + 1 - c.utf8Size) rest).map fun (front, rest) => (c :: front, rest)
    else none

/-- The bytes of a text from one place up to another. -/
def byteSlice? (text : List Char) (start stop : Nat) : Option (List Char) := do
  let (_, rest) ← splitAtByte? start text
  let (slice, _) ← splitAtByte? (stop - start) rest
  return slice

/-- Cutting a text loses nothing. -/
theorem append_of_splitAtByte? {place : Nat} {text front rest : List Char}
    (h : splitAtByte? place text = some (front, rest)) : front ++ rest = text := by
  fun_induction splitAtByte? place text generalizing front rest with
  | case1 text =>
    obtain ⟨rfl, rfl⟩ := Prod.mk.inj (Option.some.inj h)
    rfl
  | case2 => exact absurd h (by simp)
  | case3 place c others _ ih =>
    obtain ⟨⟨front', rest'⟩, hsplit, heq⟩ := Option.map_eq_some_iff.1 h
    obtain ⟨rfl, rfl⟩ := Prod.mk.inj heq
    rw [List.cons_append, ih hsplit]
  | case4 => exact absurd h (by simp)

/-- A text can be cut between any two of its characters. -/
theorem splitAtByte?_append (front rest : List Char) :
    splitAtByte? (byteCount front) (front ++ rest) = some (front, rest) := by
  induction front with
  | nil => cases rest <;> rfl
  | cons c front ih =>
    have hpos := c.utf8Size_pos
    have hcount : byteCount (c :: front) = c.utf8Size + byteCount front := total_cons _ _
    obtain ⟨place, hplace⟩ := Nat.exists_eq_add_of_lt (hcount ▸ Nat.add_pos_left hpos _)
    rw [Nat.zero_add] at hplace
    have hle : c.utf8Size ≤ place + 1 := by omega
    have hrest : place + 1 - c.utf8Size = byteCount front := by omega
    rw [hplace, List.cons_append, splitAtByte?, if_pos hle, hrest, ih, Option.map_some]

end CompactGraph
