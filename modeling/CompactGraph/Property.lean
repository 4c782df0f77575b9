/-
# Property values

Relationships carry named scalar values.  A numeric one can serve as the weight of its relationship.
-/

namespace CompactGraph

/-- A value stored under a property name. -/
inductive PropertyValue where
  | integer (value : Int64)
  | float (value : Float)
  | text (value : String)
  | boolean (value : Bool)
  deriving Repr, Inhabited

namespace PropertyValue

/-- The weight a value stands for.  Only finite numbers stand for one. -/
def asWeight : PropertyValue → Option Float
  | integer value => some value.toFloat
  | float value => if value.isFinite then some value else none
  | text _ | boolean _ => none

end PropertyValue

/-- The properties of one relationship: at most one value per name, names in ascending order. -/
structure Properties where
  entries : List (String × PropertyValue) := []
  deriving Repr, Inhabited

namespace Properties

/-- No property at all. -/
def empty : Properties := {}

/-- Put a value under a name into an ordered list, in place of the value that was there. -/
def put {α : Type} (name : String) (value : α) : List (String × α) → List (String × α)
  | [] => [(name, value)]
  | (other, old) :: rest =>
    if name < other then (name, value) :: (other, old) :: rest
    else if name = other then (name, value) :: rest
    else (other, old) :: put name value rest

/-- Set a property, replacing its former value. -/
def insert (properties : Properties) (name : String) (value : PropertyValue) : Properties :=
  ⟨put name value properties.entries⟩

/-- The value under a name. -/
def find? (properties : Properties) (name : String) : Option PropertyValue :=
  properties.entries.lookup name

/-- Set properties one after another. -/
def ofList (entries : List (String × PropertyValue)) : Properties :=
  entries.foldl (fun properties (name, value) => properties.insert name value) empty

theorem lookup_put_self {α : Type} (name : String) (value : α) (entries : List (String × α)) :
    (put name value entries).lookup name = some value := by
  induction entries with
  | nil => simp [put]
  | cons entry rest ih =>
    obtain ⟨other, old⟩ := entry
    unfold put
    split
    · simp
    · split
      · simp
      · next hne => simpa [List.lookup_cons, beq_eq_false_iff_ne.mpr hne] using ih

/-- What was set last is found. -/
theorem find?_insert_self (properties : Properties) (name : String) (value : PropertyValue) :
    (properties.insert name value).find? name = some value :=
  lookup_put_self name value properties.entries

end Properties

end CompactGraph
