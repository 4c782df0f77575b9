/-
# Deadlines

A load may have a limit on the time it takes.  The limit is looked at now and then: by the scan of the
nodes, once after it, and by each partition while it works on its nodes.  Every look may find that more
time has passed, so a load may run out of time in the middle.
-/
import CompactGraph.Error

namespace CompactGraph

/-- A place in a load where its limit may be looked at. -/
inductive Look where
  /-- The scan has delivered so many nodes. -/
  | delivered (count : Nat)
  /-- All nodes are numbered. -/
  | numbered
  /-- The degrees of a node are to be asked for. -/
  | counting (node : Nat)
  /-- The relationships of a node are to be read. -/
  | reading (node : Nat)
  deriving DecidableEq, Repr, Inhabited

/-- The time that has passed at each look. -/
abbrev Clock := Look → Duration

/-- The clock of a load that is over in no time: every look comes one nanosecond after the start. -/
def Clock.swift : Clock := fun _ => ⟨1⟩

/-- A limit, and the clock that it is held against. -/
structure Deadline where
  limit : Option Duration
  elapsed : Clock := .swift
  deriving Inhabited

/-- How many nodes are worked on between two looks at the limit. -/
def deadlineInterval : Nat := 1024

namespace Deadline

/-- Fail once the time has come. -/
def check (deadline : Deadline) (look : Look) : Except LoadError Unit :=
  match deadline.limit with
  | some limit =>
    if limit.nanoseconds ≤ (deadline.elapsed look).nanoseconds then .error (.timeout limit) else .ok ()
  | none => .ok ()

/-- Look at the limit at every `deadlineInterval`-th node. -/
def checkAt (deadline : Deadline) (look : Look) (count : Nat) : Except LoadError Unit :=
  if count % deadlineInterval = 0 then deadline.check look else .ok ()

end Deadline

end CompactGraph
