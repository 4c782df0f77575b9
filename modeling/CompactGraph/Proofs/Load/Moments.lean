/-
# Every moment of a phase

A partition gets to the states that its steps lead to one after another, and to the one in which a step
leaves it that fails.  Whatever turns the workers of a phase take, none of them is ever anywhere else
(`Crew.attains_of_turns`).  So what holds of the states of each partition alone holds at every moment of
a phase.
-/
import CompactGraph.Proofs.Load.Blame

namespace CompactGraph

open PartitionWork

variable {σ : Type}

/-! ## The states of a partition -/

/-- A state that a partition gets to: after some of its steps, or in the middle of one that fails. -/
inductive PartitionWork.Attains (work : PartitionWork σ) : σ → Prop where
  | after {start state : σ} {before rest : List (EStateM LoadError σ Unit)}
      (hstart : work.start = .ok start) (hsteps : work.steps = before ++ rest)
      (hbefore : finish start before = .ok state) : work.Attains state
  | failing {start state after : σ} {before rest : List (EStateM LoadError σ Unit)}
      {step : EStateM LoadError σ Unit} {error : LoadError} (hstart : work.start = .ok start)
      (hsteps : work.steps = before ++ step :: rest) (hbefore : finish start before = .ok state)
      (hfails : step state = .error error after) : work.Attains after

/-- A partition that succeeds gets to its outcome. -/
theorem PartitionWork.attains_of_solo {work : PartitionWork σ} {state : σ}
    (h : work.solo = .ok state) : work.Attains state := by
  obtain ⟨_, hstart, hfinish⟩ := bind_eq_ok_iff.mp h
  exact .after hstart (List.append_nil _).symm hfinish

/-- A worker that is where its partition gets to alone. -/
def Worker.OnTrack (work : PartitionWork σ) : Worker σ → Prop
  | .ready own => own = work
  | .active state steps => ∃ start before, work.start = .ok start ∧ work.steps = before ++ steps ∧
      finish start before = .ok state
  | .failing reached _ | .failed reached _ => ∀ state, reached = some state → work.Attains state
  | .done state => work.Attains state

variable {work : PartitionWork σ} {worker : Worker σ}

/-- **A turn** leaves a worker where its partition gets to alone. -/
theorem Worker.OnTrack.turn (h : worker.OnTrack work) (flag : Bool) :
    (worker.turn flag).1.OnTrack work := by
  cases worker with
  | ready own =>
    obtain rfl : own = work := h
    rw [Worker.turn]
    cases hstart : own.start with
    | error error =>
      intro _ hnone
      cases hnone
    | ok state => exact ⟨state, [], hstart, rfl, rfl⟩
  | active state steps =>
    obtain ⟨start, before, hstart, hsteps, hbefore⟩ := h
    cases steps with
    | nil => exact .after hstart hsteps hbefore
    | cons step steps =>
      rw [Worker.turn]
      split
      · -- the worker has been stopped between two steps
        rintro _ ⟨⟩
        exact .after hstart hsteps hbefore
      · cases hstep : step state with
        | error error after =>
          rintro _ ⟨⟩
          exact .failing hstart hsteps hbefore hstep
        | ok _ next =>
          refine ⟨start, before ++ [step], hstart, by rw [hsteps, List.append_assoc]; rfl, ?_⟩
          rw [finish, List.foldlM_append]
          exact bind_eq_ok_iff.mpr ⟨state, hbefore, finish_cons_of_ok hstep []⟩
  | failing reached error => exact h
  | failed reached error => exact h
  | done state => exact h

theorem Worker.OnTrack.attains (h : worker.OnTrack work) {state : σ}
    (hreached : worker.reached = some state) : work.Attains state := by
  cases worker with
  | ready own => cases hreached
  | active own steps =>
    cases hreached
    obtain ⟨start, before, hstart, hsteps, hbefore⟩ := h
    exact .after hstart hsteps hbefore
  | failing reached error => exact h state hreached
  | failed reached error => exact h state hreached
  | done own =>
    cases hreached
    exact h

/-! ## The states of a crew -/

namespace Crew

/-- A crew whose workers are where their partitions get to alone. -/
def OnTrack (works : List (PartitionWork σ)) (crew : Crew σ) : Prop :=
  ∀ (number : Nat) work worker, works[number]? = some work → crew.workers[number]? = some worker →
    worker.OnTrack work

variable {works : List (PartitionWork σ)} {crew : Crew σ}

theorem onTrack_start (flag : Bool) (works : List (PartitionWork σ)) :
    OnTrack works (start flag works) := by
  intro number work worker hwork hworker
  rw [start, List.getElem?_map, hwork] at hworker
  cases hworker
  rfl

theorem OnTrack.advance (h : OnTrack works crew) (number : Nat) :
    OnTrack works (crew.advance number) := by
  rw [advance_eq]
  cases hturn : crew.workers[number]? with
  | none => exact h
  | some worker =>
    intro other work worker' hwork hworker'
    simp only [List.getElem?_set] at hworker'
    by_cases hsame : number = other
    · subst hsame
      rw [if_pos rfl, if_pos (List.getElem?_eq_some_iff.mp hturn).1] at hworker'
      cases hworker'
      exact (h number work worker hwork hturn).turn crew.flag
    · rw [if_neg hsame] at hworker'
      exact h other work worker' hwork hworker'

/-- **At every moment of a phase** a worker is in a state that its partition gets to alone, whatever
turns have been taken. -/
theorem attains_of_turns (flag : Bool) (turns : List Nat) {number : Nat} {state : σ}
    (hwork : works[number]? = some work)
    (hworker : (turns.foldl Crew.advance (start flag works)).workers[number]? = some worker)
    (hreached : worker.reached = some state) : work.Attains state := by
  have hturns : ∀ crew : Crew σ, OnTrack works crew →
      OnTrack works (turns.foldl Crew.advance crew) := by
    clear hworker
    induction turns with
    | nil => exact fun _ h => h
    | cons number turns ih => exact fun crew h => ih _ (h.advance number)
  exact (hturns _ (onTrack_start flag works) number work worker hwork hworker).attains hreached

end Crew

end CompactGraph
