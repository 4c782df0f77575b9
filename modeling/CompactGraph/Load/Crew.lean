/-
# Crews

The partitions of a load are worked on at the same time.  Each worker opens its cursor and then takes
one step per node.  Before a step it looks at a flag that all workers share and gives up when it is
raised; a worker that fails raises the flag.

A crew takes turns: a schedule lists, turn after turn, the partition whose worker goes on.  Whatever
the schedule leaves undone is done afterwards in order of partitions, so every schedule leads to an
end, and every way in which the workers' steps can be interleaved is the effect of some schedule.
-/
import CompactGraph.Error

namespace CompactGraph

/-- What one worker has to do: the state in which it starts, unless opening its cursor fails, and a
step for each node of its partition. -/
structure PartitionWork (σ : Type) where
  start : Except LoadError σ
  steps : List (EStateM LoadError σ Unit)

/-- Where a worker stands. -/
inductive Worker (σ : Type) where
  /-- It has not begun. -/
  | ready (work : PartitionWork σ)
  /-- It has reached a state and has steps left. -/
  | active (state : σ) (steps : List (EStateM LoadError σ Unit))
  /-- It has failed and not raised the flag yet. -/
  | failing (reached : Option σ) (error : LoadError)
  /-- It has failed and raised the flag. -/
  | failed (reached : Option σ) (error : LoadError)
  /-- It has done everything. -/
  | done (state : σ)

namespace Worker

/-- One turn of a worker, and the flag after it. -/
def turn {σ : Type} (flag : Bool) : Worker σ → Worker σ × Bool
  | ready work =>
    match work.start with
    | .ok state => (active state work.steps, flag)
    | .error error => (failing none error, flag)
  | active state [] => (done state, flag)
  | active state (step :: steps) =>
    if flag then (failing (some state) .aborted, flag)
    else
      match step state with
      | .ok () state => (active state steps, flag)
      | .error error state => (failing (some state) error, flag)
  | failing reached error => (failed reached error, true)
  | failed reached error => (failed reached error, flag)
  | done state => (done state, flag)

/-- The outcome of a worker that has come to its end. -/
def outcome {σ : Type} : Worker σ → Except LoadError σ
  | done state => .ok state
  | failing _ error | failed _ error => .error error
  | ready _ | active _ _ => .error .aborted

/-- The state that a worker got to. -/
def reached {σ : Type} : Worker σ → Option σ
  | ready _ => none
  | active state _ | done state => some state
  | failing state _ | failed state _ => state

end Worker

/-- The workers of a phase and the flag they share. -/
structure Crew (σ : Type) where
  workers : List (Worker σ)
  flag : Bool

namespace Crew

/-- Let the worker with the given number have a turn; a number that no worker has changes nothing. -/
def turnAt {σ : Type} (flag : Bool) : Nat → List (Worker σ) → List (Worker σ) × Bool
  | _, [] => ([], flag)
  | 0, worker :: rest =>
    let (worker, flag) := worker.turn flag
    (worker :: rest, flag)
  | number + 1, worker :: rest =>
    let (rest, flag) := turnAt flag number rest
    (worker :: rest, flag)

/-- One turn. -/
def advance {σ : Type} (crew : Crew σ) (number : Nat) : Crew σ :=
  let (workers, flag) := turnAt crew.flag number crew.workers
  ⟨workers, flag⟩

/-- A crew that has not begun. -/
def start {σ : Type} (flag : Bool) (works : List (PartitionWork σ)) : Crew σ :=
  ⟨works.map .ready, flag⟩

/-- Enough turns for each worker to come to its end, in order of partitions: one to begin, one for
each step, and one to end. -/
def inOrder {σ : Type} (works : List (PartitionWork σ)) : List Nat :=
  works.zipIdx.flatMap fun (work, number) => List.replicate (work.steps.length + 2) number

/-- Work through a schedule, then through whatever it has left undone. -/
def run {σ : Type} (schedule : List Nat) (flag : Bool) (works : List (PartitionWork σ)) : Crew σ :=
  (schedule ++ inOrder works).foldl advance (start flag works)

/-- The outcomes, in order of partitions. -/
def outcomes {σ : Type} (crew : Crew σ) : List (Except LoadError σ) :=
  crew.workers.map Worker.outcome

end Crew

/-- The failure to report, given the one found so far: the first that does more than point at
another failure, or else the first of all. -/
def worseFailure (found : Option (Nat × LoadError)) (number : Nat) (error : LoadError) :
    Option (Nat × LoadError) :=
  match found with
  | none => some (number, error)
  | some (_, .aborted) => if error.isAborted then found else some (number, error)
  | some _ => found

/-- The failure to report among outcomes numbered from `number` on. -/
def firstFailure {α : Type} (found : Option (Nat × LoadError)) (number : Nat) :
    List (Except LoadError α) → Option (Nat × LoadError)
  | [] => found
  | .ok _ :: rest => firstFailure found (number + 1) rest
  | .error error :: rest => firstFailure (worseFailure found number error) (number + 1) rest

/-- The values of outcomes that are all successful. -/
def successes {α : Type} (outcomes : List (Except LoadError α)) : List α :=
  outcomes.filterMap Except.toOption

/-- All values, or the failure to report with the partition it comes from. -/
def gather {α : Type} (outcomes : List (Except LoadError α)) : Except LoadError (List α) :=
  match firstFailure none 0 outcomes with
  | none => .ok (successes outcomes)
  | some (partition, cause) => .error (.partitionFailed partition cause)

end CompactGraph
