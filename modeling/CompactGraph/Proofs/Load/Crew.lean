/-
# Crews under every schedule

What a crew comes to does not depend on its schedule as long as no worker fails.  Each worker keeps a
record of what its partition comes to when it is worked on alone (`PartitionWork.solo`): whatever turns
it has had, its remaining steps lead to that result, or it has failed with that error, or it has given
up because the flag is raised, and the flag is raised only if some partition fails on its own
(`Crew.Faithful`).

Since every schedule leads to an end, a phase succeeds exactly if every partition does so alone, and
then its values are those of the partitions.
-/
import CompactGraph.Proofs.Outcomes
import CompactGraph.Load.Crew

namespace CompactGraph

/-! ## A partition alone -/

namespace PartitionWork

/-- What steps come to when nobody interferes. -/
def finish {σ : Type} (state : σ) (steps : List (EStateM LoadError σ Unit)) : Except LoadError σ :=
  steps.foldlM (fun state step => endState step state) state

/-- What a partition comes to when nobody interferes. -/
def solo {σ : Type} (work : PartitionWork σ) : Except LoadError σ :=
  work.start >>= fun state => finish state work.steps

end PartitionWork

open PartitionWork

variable {σ : Type}

theorem finish_cons_of_ok {step : EStateM LoadError σ Unit} {state next : σ}
    (h : step state = .ok () next) (steps : List (EStateM LoadError σ Unit)) :
    finish state (step :: steps) = finish next steps := by
  unfold finish
  rw [List.foldlM_cons, endState, h]
  rfl

theorem finish_cons_of_error {step : EStateM LoadError σ Unit} {state next : σ} {error : LoadError}
    (h : step state = .error error next) (steps : List (EStateM LoadError σ Unit)) :
    finish state (step :: steps) = .error error := by
  unfold finish
  rw [List.foldlM_cons, endState, h]
  rfl

/-! ## What a turn preserves -/

/-- A worker is on the way to what its partition comes to alone, unless the flag made it give up. -/
def Worker.Faithful (flag : Bool) (work : PartitionWork σ) : Worker σ → Prop
  | .ready own => own = work
  | .active state steps => finish state steps = work.solo
  | .failing _ error => work.solo = .error error ∨ (error = .aborted ∧ flag = true)
  | .failed _ error => flag = true ∧ (work.solo = .error error ∨ error = .aborted)
  | .done state => work.solo = .ok state

/-- A partition that fails when it is worked on alone. -/
def PartitionWork.Fails (work : PartitionWork σ) : Prop := ∃ error, work.solo = .error error

/-- A worker stays on its way when the flag is raised. -/
theorem Worker.Faithful.raise {flag flag' : Bool} {work : PartitionWork σ} {worker : Worker σ}
    (hflag : flag = true → flag' = true) (h : worker.Faithful flag work) :
    worker.Faithful flag' work := by
  cases worker with
  | ready own => exact h
  | active state steps => exact h
  | failing reached error => exact h.imp_right fun ⟨haborted, hraised⟩ => ⟨haborted, hflag hraised⟩
  | failed reached error => exact ⟨hflag h.1, h.2⟩
  | done state => exact h

/-- **A turn of a worker** keeps it on its way, does not lower the flag, and raises it only if the
partition fails. -/
theorem Worker.Faithful.turn {flag : Bool} {work : PartitionWork σ} {worker : Worker σ}
    (h : worker.Faithful flag work) :
    (worker.turn flag).1.Faithful (worker.turn flag).2 work ∧
      (flag = true → (worker.turn flag).2 = true) ∧
      ((worker.turn flag).2 = true → flag = true ∨ work.Fails) := by
  cases worker with
  | ready own =>
    obtain rfl : own = work := h
    rw [Worker.turn]
    cases hstart : own.start with
    | ok state =>
      refine ⟨?_, id, Or.inl⟩
      show finish state own.steps = own.solo
      unfold PartitionWork.solo
      rw [hstart]
      rfl
    | error error =>
      refine ⟨Or.inl ?_, id, Or.inl⟩
      unfold PartitionWork.solo
      rw [hstart]
      rfl
  | active state steps =>
    cases steps with
    | nil =>
      refine ⟨?_, id, Or.inl⟩
      show work.solo = .ok state
      rw [← show finish state [] = work.solo from h]
      rfl
    | cons step steps =>
      rw [Worker.turn]
      by_cases hflag : flag = true
      · rw [if_pos hflag]
        exact ⟨Or.inr ⟨rfl, hflag⟩, id, Or.inl⟩
      · rw [if_neg hflag]
        have hsolo : finish state (step :: steps) = work.solo := h
        cases hstep : step state with
        | ok value next =>
          refine ⟨?_, id, Or.inl⟩
          show finish next steps = work.solo
          rw [← hsolo, finish_cons_of_ok hstep]
        | error error next =>
          refine ⟨Or.inl ?_, id, Or.inl⟩
          rw [← hsolo, finish_cons_of_error hstep]
  | failing reached error =>
    refine ⟨⟨rfl, h.imp_right And.left⟩, fun _ => rfl, fun _ => ?_⟩
    rcases h with hsolo | ⟨_, hraised⟩
    · exact Or.inr ⟨error, hsolo⟩
    · exact Or.inl hraised
  | failed reached error => exact ⟨h, id, Or.inl⟩
  | done state => exact ⟨h, id, Or.inl⟩

namespace Crew

/-- Each worker is on its way, and the flag is raised only if some partition fails. -/
structure Faithful (works : List (PartitionWork σ)) (crew : Crew σ) : Prop where
  workers : List.Forall₂ (fun work worker => Worker.Faithful crew.flag work worker) works crew.workers
  flag : crew.flag = true → ∃ work ∈ works, work.Fails

theorem faithful_start (works : List (PartitionWork σ)) : Faithful works (start false works) where
  workers := by
    unfold start
    rw [List.forall₂_map_right_iff, List.forall₂_same]
    exact fun _ _ => rfl
  flag := fun h => by simp [start] at h

/-- A turn of one worker among several. -/
theorem turnAt_faithful {flag : Bool} :
    ∀ (number : Nat) {works : List (PartitionWork σ)} {workers : List (Worker σ)},
      List.Forall₂ (fun work worker => Worker.Faithful flag work worker) works workers →
      List.Forall₂ (fun work worker => Worker.Faithful (turnAt flag number workers).2 work worker)
          works (turnAt flag number workers).1 ∧
        (flag = true → (turnAt flag number workers).2 = true) ∧
        ((turnAt flag number workers).2 = true → flag = true ∨ ∃ work ∈ works, work.Fails) := by
  intro number works workers h
  induction h generalizing number with
  | nil =>
    rw [turnAt]
    exact ⟨List.Forall₂.nil, id, Or.inl⟩
  | @cons work worker works workers hworker hworkers ih =>
    cases number with
    | zero =>
      obtain ⟨hturn, hup, hdown⟩ := hworker.turn
      -- the others have not moved, but the flag may have been raised
      refine ⟨List.Forall₂.cons hturn (hworkers.imp fun _ _ => Worker.Faithful.raise hup), hup, ?_⟩
      intro hraised
      exact (hdown hraised).imp_right fun hfails => ⟨work, List.mem_cons_self, hfails⟩
    | succ number =>
      obtain ⟨hrest, hup, hdown⟩ := ih number
      refine ⟨List.Forall₂.cons (hworker.raise hup) hrest, hup, ?_⟩
      intro hraised
      refine (hdown hraised).imp_right ?_
      rintro ⟨other, hother, hfails⟩
      exact ⟨other, List.mem_cons_of_mem _ hother, hfails⟩

theorem Faithful.advance {works : List (PartitionWork σ)} {crew : Crew σ}
    (h : Faithful works crew) (number : Nat) : Faithful works (crew.advance number) := by
  obtain ⟨hworkers, _, hraised⟩ := turnAt_faithful number h.workers
  exact ⟨hworkers, fun hflag => (hraised hflag).elim h.flag id⟩

/-- **Every schedule** keeps all workers on their way. -/
theorem faithful_run (schedule : List Nat) (works : List (PartitionWork σ)) :
    Faithful works (run schedule false works) := by
  unfold run
  generalize schedule ++ inOrder works = turns
  -- the invariant is carried through the turns, whoever has them
  have hrun : ∀ crew : Crew σ, Faithful works crew →
      Faithful works (turns.foldl Crew.advance crew) := by
    induction turns with
    | nil => exact fun _ h => h
    | cons number turns ih => exact fun crew h => ih _ (h.advance number)
  exact hrun _ (faithful_start works)

end Crew

/-! ## Every schedule comes to an end -/

/-- How many turns a worker may still need. -/
def Worker.turnsLeft : Worker σ → Nat
  | .ready work => work.steps.length + 2
  | .active _ steps => steps.length + 1
  | .failing _ _ => 1
  | .failed _ _ | .done _ => 0

/-- A turn is one turn less to go. -/
theorem Worker.turnsLeft_turn (flag : Bool) (worker : Worker σ) :
    (worker.turn flag).1.turnsLeft ≤ worker.turnsLeft - 1 := by
  cases worker with
  | ready work =>
    rw [Worker.turn]
    split <;> simp [Worker.turnsLeft]
  | active state steps =>
    cases steps with
    | nil => exact Nat.le_refl _
    | cons step steps =>
      rw [Worker.turn]
      by_cases hflag : flag = true
      · rw [if_pos hflag]
        simp [Worker.turnsLeft]
      · rw [if_neg hflag]
        cases step state <;> simp [Worker.turnsLeft]
  | failing reached error => exact Nat.le_refl _
  | failed reached error => exact Nat.le_refl _
  | done state => exact Nat.le_refl _

/-- A worker without turns left is done or has failed, and its outcome is what its partition comes to
alone unless it has given up. -/
theorem Worker.Faithful.outcome {flag : Bool} {work : PartitionWork σ} {worker : Worker σ}
    (h : worker.Faithful flag work) (hend : worker.turnsLeft = 0) :
    worker.outcome = work.solo ∨ (worker.outcome = .error .aborted ∧ flag = true) := by
  cases worker with
  | ready own => simp [Worker.turnsLeft] at hend
  | active state steps => simp [Worker.turnsLeft] at hend
  | failing reached error => simp [Worker.turnsLeft] at hend
  | failed reached error =>
    obtain ⟨hflag, hsolo | haborted⟩ := h
    · exact Or.inl hsolo.symm
    · exact Or.inr ⟨congrArg Except.error haborted, hflag⟩
  | done state => exact Or.inl (Eq.symm h)

namespace Crew

/-- How many turns the worker with a number may still need. -/
def turnsLeft (crew : Crew σ) (number : Nat) : Nat :=
  (crew.workers[number]?.map Worker.turnsLeft).getD 0

/-- A turn of one worker is one turn less to go for that worker, and changes no other. -/
theorem turnsLeft_turnAt {flag : Bool} :
    ∀ (number other : Nat) (workers : List (Worker σ)),
      ((turnAt flag number workers).1[other]?.map Worker.turnsLeft).getD 0
        ≤ (workers[other]?.map Worker.turnsLeft).getD 0 - if number = other then 1 else 0 := by
  intro number other workers
  induction workers generalizing number other with
  | nil => simp [turnAt]
  | cons worker workers ih =>
    cases number with
    | zero =>
      cases other with
      | zero => exact Worker.turnsLeft_turn flag worker
      | succ other => simp [turnAt]
    | succ number =>
      cases other with
      | zero => simp [turnAt]
      | succ other => simpa [turnAt] using ih number other

theorem turnsLeft_foldl (turns : List Nat) (crew : Crew σ) (number : Nat) :
    (turns.foldl Crew.advance crew).turnsLeft number
      ≤ crew.turnsLeft number - turns.count number := by
  induction turns generalizing crew with
  | nil => exact Nat.le_refl _
  | cons turn turns ih =>
    have hstep : (crew.advance turn).turnsLeft number
        ≤ crew.turnsLeft number - if turn = number then 1 else 0 :=
      turnsLeft_turnAt turn number crew.workers
    have hrest := ih (crew.advance turn)
    rw [List.foldl_cons, List.count_cons]
    simp only [beq_iff_eq]
    omega

/-- The turns taken in order of partitions are enough for every worker. -/
theorem turnsLeft_start_le (works : List (PartitionWork σ)) (number : Nat) :
    (start false works).turnsLeft number ≤ (inOrder works).count number := by
  rw [turnsLeft, start, List.getElem?_map]
  cases hwork : works[number]? with
  | none => simp
  | some work =>
    have hmem : (work, number) ∈ works.zipIdx := by
      rw [List.mem_zipIdx_iff_getElem?]
      exact hwork
    have hsublist : (List.replicate (work.steps.length + 2) number).Sublist (inOrder works) := by
      unfold inOrder
      rw [List.flatMap]
      exact List.sublist_flatten_of_mem (List.mem_map.mpr ⟨_, hmem, rfl⟩)
    have hcount := hsublist.count_le number
    rw [List.count_replicate_self] at hcount
    exact hcount

/-- **Every schedule comes to an end.** -/
theorem turnsLeft_run (schedule : List Nat) (works : List (PartitionWork σ)) (number : Nat) :
    (run schedule false works).turnsLeft number = 0 := by
  have hrun := turnsLeft_foldl (schedule ++ inOrder works) (start false works) number
  have hstart := turnsLeft_start_le works number
  rw [List.count_append] at hrun
  unfold run
  omega

/-- The outcome of each partition is what it comes to alone, unless a failure elsewhere has stopped
it. -/
theorem outcomes_run (schedule : List Nat) (works : List (PartitionWork σ)) :
    List.Forall₂ (fun work outcome => outcome = work.solo ∨
        (outcome = .error .aborted ∧ ∃ other ∈ works, other.Fails))
      works (run schedule false works).outcomes := by
  have hfaithful := faithful_run schedule works
  unfold outcomes
  rw [List.forall₂_map_right_iff, List.forall₂_iff_get]
  refine ⟨hfaithful.workers.length_eq, ?_⟩
  intro i hwork hworker
  have hend := turnsLeft_run schedule works i
  rw [turnsLeft, List.getElem?_eq_getElem hworker] at hend
  have houtcome := (hfaithful.workers.get hwork hworker).outcome hend
  exact houtcome.imp_right fun ⟨haborted, hflag⟩ => ⟨haborted, hfaithful.flag hflag⟩

end Crew

/-! ## Gathering outcomes -/

theorem isSome_worseFailure (found : Option (Nat × LoadError)) (number : Nat) (error : LoadError) :
    (worseFailure found number error).isSome = true := by
  rcases found with _ | ⟨earlier, cause⟩
  · rfl
  · cases cause with
    | aborted =>
      rw [worseFailure]
      split <;> rfl
    | _ => rfl

/-- A failure that was found stays found. -/
theorem isSome_firstFailure {α : Type} {found : Option (Nat × LoadError)} (number : Nat)
    (outcomes : List (Except LoadError α)) (h : found.isSome = true) :
    (firstFailure found number outcomes).isSome = true := by
  induction outcomes generalizing found number with
  | nil => exact h
  | cons outcome outcomes ih =>
    cases outcome with
    | ok value => exact ih _ h
    | error error => exact ih _ (isSome_worseFailure ..)

/-- No failure is found exactly if all outcomes are values. -/
theorem firstFailure_eq_none_iff {α : Type} {number : Nat} {outcomes : List (Except LoadError α)} :
    firstFailure none number outcomes = none ↔ outcomes = (successes outcomes).map .ok := by
  induction outcomes generalizing number with
  | nil => simp [firstFailure, successes]
  | cons outcome outcomes ih =>
    cases outcome with
    | ok value =>
      rw [firstFailure, ih]
      simp [successes, Except.toOption]
    | error error =>
      have hsome := isSome_firstFailure (number + 1) outcomes
        (isSome_worseFailure none number error)
      rw [firstFailure]
      constructor
      · intro hnone
        rw [hnone] at hsome
        cases hsome
      · intro hall
        have hmem : Except.error error ∈ (successes (.error error :: outcomes)).map .ok :=
          hall ▸ List.mem_cons_self
        obtain ⟨_, _, himpossible⟩ := List.mem_map.mp hmem
        cases himpossible

theorem successes_map_ok {α : Type} (values : List α) :
    successes (values.map (.ok : α → Except LoadError α)) = values := by
  induction values with
  | nil => rfl
  | cons value values ih =>
    show value :: successes (values.map .ok) = value :: values
    rw [ih]

/-- **Gathering succeeds** exactly if there are only values to gather. -/
theorem gather_eq_ok_iff {α : Type} {outcomes : List (Except LoadError α)} {values : List α} :
    gather outcomes = .ok values ↔ outcomes = values.map .ok := by
  unfold gather
  constructor
  · intro h
    split at h
    · next hnone =>
      cases h
      exact firstFailure_eq_none_iff.mp hnone
    · cases h
  · rintro rfl
    have hnone : firstFailure none 0 (values.map (.ok : α → Except LoadError α)) = none := by
      rw [firstFailure_eq_none_iff, successes_map_ok]
    rw [hnone]
    simp only [successes_map_ok]

/-- **A phase succeeds under a schedule** exactly if every partition does so alone, and then its values
are theirs. -/
theorem gather_run_eq_ok_iff {schedule : List Nat} {works : List (PartitionWork σ)}
    {values : List σ} :
    gather (Crew.run schedule false works).outcomes = .ok values ↔
      works.map PartitionWork.solo = values.map .ok := by
  have houtcomes := Crew.outcomes_run schedule works
  rw [gather_eq_ok_iff]
  constructor
  · intro hall
    rw [hall, List.forall₂_map_right_iff] at houtcomes
    have heq : List.Forall₂ (fun work value => work.solo = .ok value) works values := by
      refine houtcomes.imp fun work value h => ?_
      rcases h with hsolo | ⟨haborted, _⟩
      · exact hsolo.symm
      · cases haborted
    rw [← List.forall₂_eq_eq_eq, List.forall₂_map_left_iff, List.forall₂_map_right_iff]
    exact heq
  · intro hsolo
    -- no partition fails, so none is aborted
    have hnone : ¬ ∃ other ∈ works, other.Fails := by
      rintro ⟨other, hother, error, herror⟩
      have hmem : other.solo ∈ values.map .ok := hsolo ▸ List.mem_map_of_mem hother
      obtain ⟨_, _, hok⟩ := List.mem_map.mp hmem
      rw [herror] at hok
      cases hok
    rw [← hsolo, eq_comm, ← List.forall₂_eq_eq_eq, List.forall₂_map_left_iff]
    refine houtcomes.imp fun work outcome h => ?_
    rcases h with hown | ⟨_, hfails⟩
    · exact hown.symm
    · exact absurd hfails hnone

/-- When a phase succeeds, so does each of its partitions alone. -/
theorem solos_of_gather {α : Type} {items : List α} {workOf : α × Nat → PartitionWork σ}
    {schedule : List Nat} {values : List σ}
    (h : gather (Crew.run schedule false (items.zipIdx.map workOf)).outcomes = .ok values) :
    List.Forall₂ (fun item value => item ∈ items ∧ ∃ number, (workOf (item, number)).solo = .ok value)
      items values := by
  rw [gather_run_eq_ok_iff, List.map_map, map_eq_map_ok_iff] at h
  conv => arg 2; rw [← List.zipIdx_map_fst 0 items]
  rw [List.forall₂_map_left_iff]
  exact forall₂_imp_of_mem h fun (_, number) hmem _ hsolo =>
    ⟨List.fst_mem_of_mem_zipIdx hmem, number, hsolo⟩

/-- The flag stays lowered in a phase that succeeds. -/
theorem flag_run_of_ok {schedule : List Nat} {works : List (PartitionWork σ)} {values : List σ}
    (h : works.map PartitionWork.solo = values.map .ok) :
    (Crew.run schedule false works).flag = false := by
  by_contra hflag
  obtain ⟨work, hwork, error, herror⟩ :=
    (Crew.faithful_run schedule works).flag (by simpa using hflag)
  have hmem : work.solo ∈ values.map .ok := h ▸ List.mem_map_of_mem hwork
  obtain ⟨_, _, hok⟩ := List.mem_map.mp hmem
  rw [herror] at hok
  cases hok

end CompactGraph
