/-
# The failure that a phase reports

A phase that fails names a partition and the error that this partition raised itself.  The flag is what
makes this hard: under some schedules a partition is stopped before it comes to its own failure, and what
it reports then, `aborted`, only points at another partition.  But the first worker to raise the flag has
found it lowered, so it has failed on its own, and it stays in its failure (`Crew.Owned`).  Hence among the
outcomes of a phase that fails there is an error that was not handed on, and the lowest of these is the one
that `gather` reports (`Blames`).
-/
import CompactGraph.Proofs.Load.Crew

namespace CompactGraph

open PartitionWork

variable {σ : Type}

/-! ## First errors -/

/-- The first error that a partition raises when nobody interferes: its cursor cannot be opened, or one of
its steps fails after those before it have succeeded. -/
inductive PartitionWork.FirstError (work : PartitionWork σ) (error : LoadError) : Prop where
  | opening (h : work.start = .error error)
  | step {state reached after : σ} {before rest : List (EStateM LoadError σ Unit)}
      {step : EStateM LoadError σ Unit} (hstart : work.start = .ok state)
      (hsteps : work.steps = before ++ step :: rest) (hbefore : finish state before = .ok reached)
      (hfails : step reached = .error error after)

/-- Steps fail with an error if one of them does so after those before it. -/
theorem finish_eq_error_iff {steps : List (EStateM LoadError σ Unit)} {state : σ} {error : LoadError} :
    finish state steps = .error error ↔
      ∃ before step rest reached after, steps = before ++ step :: rest ∧
        finish state before = .ok reached ∧ step reached = .error error after := by
  induction steps generalizing state with
  | nil =>
    constructor
    · intro h
      cases h
    · rintro ⟨before, step, rest, _, _, hsteps, _⟩
      simp at hsteps
  | cons step steps ih =>
    cases hstep : step state with
    | ok value next =>
      rw [finish_cons_of_ok hstep, ih]
      constructor
      · rintro ⟨before, failing, rest, reached, after, rfl, hbefore, hfails⟩
        exact ⟨step :: before, failing, rest, reached, after, rfl,
          by rw [finish_cons_of_ok hstep, hbefore], hfails⟩
      · rintro ⟨before, failing, rest, reached, after, hsteps, hbefore, hfails⟩
        cases before with
        | nil =>
          -- the first step has succeeded, so it is not the one that fails
          obtain ⟨rfl, rfl⟩ := List.cons.inj hsteps
          cases hbefore
          rw [hstep] at hfails
          cases hfails
        | cons first before =>
          obtain ⟨rfl, rfl⟩ := List.cons.inj hsteps
          rw [finish_cons_of_ok hstep] at hbefore
          exact ⟨before, failing, rest, reached, after, rfl, hbefore, hfails⟩
    | error own next =>
      rw [finish_cons_of_error hstep]
      constructor
      · intro h
        cases h
        exact ⟨[], step, steps, state, next, rfl, rfl, hstep⟩
      · rintro ⟨before, failing, rest, reached, after, hsteps, hbefore, hfails⟩
        cases before with
        | nil =>
          obtain ⟨rfl, rfl⟩ := List.cons.inj hsteps
          cases hbefore
          rw [hstep] at hfails
          cases hfails
          rfl
        | cons first before =>
          obtain ⟨rfl, rfl⟩ := List.cons.inj hsteps
          rw [finish_cons_of_error hstep] at hbefore
          cases hbefore

/-- **A partition fails alone with its first error.** -/
theorem PartitionWork.firstError_iff {work : PartitionWork σ} {error : LoadError} :
    work.FirstError error ↔ work.solo = .error error := by
  cases hstart : work.start with
  | error own =>
    have hsolo : work.solo = .error own := by
      rw [PartitionWork.solo, hstart]
      rfl
    rw [hsolo, ← hstart]
    constructor
    · rintro (h | ⟨hok, _⟩)
      · exact hstart ▸ h
      · rw [hstart] at hok
        cases hok
    · exact .opening
  | ok state =>
    have hsolo : work.solo = finish state work.steps := by
      rw [PartitionWork.solo, hstart]
      rfl
    rw [hsolo, finish_eq_error_iff]
    constructor
    · rintro (h | ⟨hok, hsteps, hbefore, hfails⟩)
      · rw [hstart] at h
        cases h
      · rw [hstart] at hok
        cases hok
        exact ⟨_, _, _, _, _, hsteps, hbefore, hfails⟩
    · rintro ⟨before, step, rest, reached, after, hsteps, hbefore, hfails⟩
      exact .step hstart hsteps hbefore hfails

/-! ## Who raised the flag -/

/-- Only a worker that has failed raises the flag. -/
theorem Worker.exists_failing_of_turn {worker : Worker σ}
    (h : (worker.turn false).2 = true) : ∃ reached error, worker = .failing reached error := by
  cases worker with
  | ready work =>
    rw [turn] at h
    split at h <;> cases h
  | active state steps =>
    cases steps with
    | nil => cases h
    | cons step steps =>
      rw [turn, if_neg Bool.false_ne_true] at h
      split at h <;> cases h
  | failing reached error => exact ⟨reached, error, rfl⟩
  | failed reached error => cases h
  | done state => cases h

namespace Crew

/-- A turn changes one worker, and the flag as that worker does. -/
theorem turnAt_eq (flag : Bool) : ∀ (number : Nat) (workers : List (Worker σ)),
    turnAt flag number workers = match workers[number]? with
      | none => (workers, flag)
      | some worker => (workers.set number (worker.turn flag).1, (worker.turn flag).2) := by
  intro number workers
  induction workers generalizing number with
  | nil => cases number <;> rfl
  | cons worker workers ih =>
    cases number with
    | zero => rfl
    | succ number =>
      rw [turnAt, ih number, List.getElem?_cons_succ]
      cases workers[number]? <;> rfl

/-- One turn is that of one worker. -/
theorem advance_eq (crew : Crew σ) (number : Nat) :
    crew.advance number = match crew.workers[number]? with
      | none => crew
      | some worker => ⟨crew.workers.set number (worker.turn crew.flag).1, (worker.turn crew.flag).2⟩ := by
  have hadvance : crew.advance number = ⟨(turnAt crew.flag number crew.workers).1,
      (turnAt crew.flag number crew.workers).2⟩ := rfl
  rw [hadvance, turnAt_eq]
  cases crew.workers[number]? <;> rfl

/-- A crew that has come to its end stays as it is. -/
theorem advance_of_ended {crew : Crew σ} (h : ∀ number, crew.turnsLeft number = 0) (number : Nat) :
    crew.advance number = crew := by
  rw [advance_eq]
  cases hworker : crew.workers[number]? with
  | none => rfl
  | some worker =>
    have hend : worker.turnsLeft = 0 := by
      have hown := h number
      rwa [turnsLeft, hworker] at hown
    have hsame : worker.turn crew.flag = (worker, crew.flag) := by
      cases worker with
      | ready work => simp [Worker.turnsLeft] at hend
      | active state steps => simp [Worker.turnsLeft] at hend
      | failing reached error => simp [Worker.turnsLeft] at hend
      | failed reached error => rfl
      | done state => rfl
    simp only [hsame]
    obtain ⟨hnumber, rfl⟩ := List.getElem?_eq_some_iff.mp hworker
    rw [List.set_getElem_self]

/-- **Every interleaving** that brings all workers to their ends is the effect of its own schedule. -/
theorem run_eq_of_ended {turns : List Nat} {works : List (PartitionWork σ)}
    (h : ∀ number, (turns.foldl Crew.advance (start false works)).turnsLeft number = 0) :
    run turns false works = turns.foldl Crew.advance (start false works) := by
  rw [run, List.foldl_append]
  generalize turns.foldl Crew.advance (start false works) = crew at h
  induction inOrder works with
  | nil => rfl
  | cons number numbers ih => rw [List.foldl_cons, advance_of_ended h, ih]

/-- If the flag is raised, some worker has raised it and has failed on its own. -/
def Owned (works : List (PartitionWork σ)) (crew : Crew σ) : Prop :=
  crew.flag = true → ∃ (number : Nat) (work : PartitionWork σ) (reached : Option σ) (error : LoadError),
    works[number]? = some work ∧ crew.workers[number]? = some (.failed reached error) ∧
      work.solo = .error error

/-- **A turn** that raises the flag is one of a worker that has failed on its own. -/
theorem Owned.advance {works : List (PartitionWork σ)} {crew : Crew σ} (hfaithful : Faithful works crew)
    (h : Owned works crew) (number : Nat) : Owned works (crew.advance number) := by
  rw [advance_eq]
  cases hworker : crew.workers[number]? with
  | none => exact h
  | some worker =>
    intro hraised
    have hlength : number < crew.workers.length := (List.getElem?_eq_some_iff.mp hworker).1
    by_cases hflag : crew.flag = true
    · -- whoever raised the flag before stays in its failure
      obtain ⟨other, work, reached, error, hwork, hfailed, hsolo⟩ := h hflag
      refine ⟨other, work, reached, error, hwork, ?_, hsolo⟩
      by_cases hsame : number = other
      · subst hsame
        rw [hworker] at hfailed
        cases hfailed
        exact List.getElem?_set_self hlength
      · exact (List.getElem?_set_ne hsame).trans hfailed
    · -- the worker has found the flag lowered, so its error is its own
      rw [Bool.not_eq_true] at hflag
      rw [hflag] at hraised
      obtain ⟨reached, error, rfl⟩ := Worker.exists_failing_of_turn hraised
      have hwork : number < works.length := by
        rw [hfaithful.workers.length_eq]
        exact hlength
      have hown : Worker.Faithful crew.flag works[number] (.failing reached error) := by
        have hget := hfaithful.workers.get hwork hlength
        rw [List.get_eq_getElem, List.get_eq_getElem,
          (List.getElem?_eq_some_iff.mp hworker).2] at hget
        exact hget
      rcases hown with hsolo | ⟨_, hup⟩
      · exact ⟨number, works[number], reached, error, List.getElem?_eq_getElem hwork,
          List.getElem?_set_self hlength, hsolo⟩
      · rw [hflag] at hup
        cases hup

/-- **Under every schedule** the flag is raised by a worker that has failed on its own. -/
theorem owned_run (schedule : List Nat) (works : List (PartitionWork σ)) :
    Owned works (run schedule false works) := by
  unfold run
  generalize schedule ++ inOrder works = turns
  have hrun : ∀ crew : Crew σ, Faithful works crew → Owned works crew →
      Owned works (turns.foldl Crew.advance crew) := by
    induction turns with
    | nil => exact fun _ _ h => h
    | cons number turns ih =>
      exact fun crew hfaithful h => ih _ (hfaithful.advance number) (h.advance hfaithful number)
  exact hrun _ (faithful_start works) fun h => by cases h

/-- **If a partition fails, some partition ends with its own error**, whatever the schedule. -/
theorem exists_own_error {works : List (PartitionWork σ)} (schedule : List Nat)
    (h : ∃ work ∈ works, work.Fails) :
    ∃ (number : Nat) (work : PartitionWork σ) (error : LoadError), works[number]? = some work ∧
      work.solo = .error error ∧ (run schedule false works).outcomes[number]? = some (.error error) := by
  have houtcome : ∀ (number : Nat) (worker : Worker σ),
      (run schedule false works).workers[number]? = some worker →
      (run schedule false works).outcomes[number]? = some worker.outcome := by
    intro number worker hworker
    rw [outcomes, List.getElem?_map, hworker]
    rfl
  by_cases hflag : (run schedule false works).flag = true
  · obtain ⟨number, work, reached, error, hwork, hfailed, hsolo⟩ := owned_run schedule works hflag
    exact ⟨number, work, error, hwork, hsolo, houtcome number _ hfailed⟩
  · -- nobody has been stopped, so the partition that fails ends with its error
    obtain ⟨work, hmem, error, hsolo⟩ := h
    obtain ⟨number, hnumber, rfl⟩ := List.mem_iff_getElem.mp hmem
    have hfaithful := faithful_run schedule works
    have hworker : number < (run schedule false works).workers.length := by
      rw [← hfaithful.workers.length_eq]
      exact hnumber
    have hend := turnsLeft_run schedule works number
    rw [turnsLeft, List.getElem?_eq_getElem hworker] at hend
    have hown := (hfaithful.workers.get hnumber hworker).outcome hend
    rw [List.get_eq_getElem, List.get_eq_getElem] at hown
    rcases hown with hown | ⟨_, hraised⟩
    · refine ⟨number, works[number], error, List.getElem?_eq_getElem hnumber, hsolo, ?_⟩
      rw [houtcome number _ (List.getElem?_eq_getElem hworker), hown, hsolo]
    · exact absurd hraised hflag

/-- The outcome of a partition is what it comes to alone, or it has been stopped. -/
theorem outcome_eq_solo_or_aborted (schedule : List Nat) {works : List (PartitionWork σ)} {number : Nat}
    {outcome : Except LoadError σ}
    (h : (run schedule false works).outcomes[number]? = some outcome) :
    ∃ work, works[number]? = some work ∧ (outcome = work.solo ∨ outcome = .error .aborted) := by
  have houtcomes := outcomes_run schedule works
  obtain ⟨hnumber, rfl⟩ := List.getElem?_eq_some_iff.mp h
  have hwork : number < works.length := by
    rw [houtcomes.length_eq]
    exact hnumber
  exact ⟨works[number], List.getElem?_eq_getElem hwork, (houtcomes.get hwork hnumber).imp_right And.left⟩

end Crew

/-! ## The failure that is reported -/

/-- The outcome to report is the first error that does more than point at another failure. -/
structure Blames {α : Type} (outcomes : List (Except LoadError α)) (number : Nat) (cause : LoadError) :
    Prop where
  outcome : outcomes[number]? = some (.error cause)
  not_aborted : cause ≠ .aborted
  lowest : ∀ lower, lower < number → ∀ error, outcomes[lower]? = some (.error error) → error = .aborted

/-- Of the errors that were raised there is a first one. -/
theorem exists_blames {α : Type} {outcomes : List (Except LoadError α)} {number : Nat} {error : LoadError}
    (h : outcomes[number]? = some (.error error)) (herror : error ≠ .aborted) :
    ∃ number cause, Blames outcomes number cause := by
  classical
  have hexists : ∃ (number : Nat) (cause : LoadError),
      outcomes[number]? = some (.error cause) ∧ cause ≠ .aborted :=
    ⟨number, error, h, herror⟩
  obtain ⟨cause, houtcome, hcause⟩ := Nat.find_spec hexists
  refine ⟨Nat.find hexists, cause, houtcome, hcause, fun lower hlower other hother => ?_⟩
  by_contra hne
  exact Nat.find_min hexists hlower ⟨other, hother, hne⟩

/-- A failure that was found and raised is not replaced. -/
theorem firstFailure_of_found {α : Type} {first number : Nat} {cause : LoadError}
    (hcause : cause ≠ .aborted) (outcomes : List (Except LoadError α)) :
    firstFailure (some (first, cause)) number outcomes = some (first, cause) := by
  have hkeep : ∀ number error, worseFailure (some (first, cause)) number error
      = some (first, cause) := by
    intro number error
    cases cause with
    | aborted => exact absurd rfl hcause
    | _ => rfl
  induction outcomes generalizing number with
  | nil => rfl
  | cons outcome outcomes ih =>
    cases outcome with
    | ok value => exact ih
    | error error =>
      rw [firstFailure, hkeep]
      exact ih

/-- What was handed on so far gives way to the first error that was raised. -/
theorem firstFailure_of_blames {α : Type} {cause : LoadError} (outcomes : List (Except LoadError α)) :
    ∀ {found : Option (Nat × LoadError)} {first number : Nat},
      (∀ earlier error, found = some (earlier, error) → error = .aborted) →
      Blames outcomes number cause →
      firstFailure found first outcomes = some (first + number, cause) := by
  induction outcomes with
  | nil =>
    intro found first number _ h
    have houtcome := h.outcome
    simp at houtcome
  | cons outcome outcomes ih =>
    intro found first number hfound h
    cases number with
    | zero =>
      obtain rfl : outcome = .error cause := by simpa using h.outcome
      have hreplace : worseFailure found first cause = some (first, cause) := by
        rcases found with _ | ⟨earlier, error⟩
        · rfl
        · obtain rfl := hfound earlier error rfl
          cases cause with
          | aborted => exact absurd rfl h.not_aborted
          | _ => rfl
      rw [firstFailure, hreplace]
      exact firstFailure_of_found h.not_aborted outcomes
    | succ number =>
      have hrest : Blames outcomes number cause :=
        ⟨h.outcome, h.not_aborted, fun lower hlower error herror =>
          h.lowest (lower + 1) (by omega) error herror⟩
      have hsum : first + (number + 1) = first + 1 + number := by omega
      rw [hsum]
      cases outcome with
      | ok value => exact ih hfound hrest
      | error error =>
        obtain rfl := h.lowest 0 (by omega) error rfl
        refine ih ?_ hrest
        intro earlier error herror
        rcases found with _ | ⟨earlier', error'⟩
        · cases herror
          rfl
        · obtain rfl := hfound earlier' error' rfl
          cases herror
          rfl

/-- **Gathering reports the first error that was raised.** -/
theorem gather_of_blames {α : Type} {outcomes : List (Except LoadError α)} {number : Nat}
    {cause : LoadError} (h : Blames outcomes number cause) :
    gather outcomes = .error (.partitionFailed number cause) := by
  have hfirst : firstFailure none 0 outcomes = some (0 + number, cause) :=
    firstFailure_of_blames outcomes (fun _ _ hnone => by cases hnone) h
  rw [Nat.zero_add] at hfirst
  rw [gather, hfirst]

/-- A failure that is found is the one found so far, or one of the outcomes with its number. -/
theorem eq_or_exists_of_firstFailure {α : Type} {number : Nat} {cause : LoadError}
    {outcomes : List (Except LoadError α)} :
    ∀ {found : Option (Nat × LoadError)} {first : Nat},
      firstFailure found first outcomes = some (number, cause) →
      found = some (number, cause) ∨
        ∃ position, number = first + position ∧ outcomes[position]? = some (.error cause) := by
  induction outcomes with
  | nil => exact Or.inl
  | cons outcome outcomes ih =>
    intro found first h
    -- what comes after the first outcome is numbered from the next number on
    have hlater : (∃ position, number = first + 1 + position ∧
        outcomes[position]? = some (.error cause)) →
        ∃ position, number = first + position ∧
          (outcome :: outcomes)[position]? = some (.error cause) := by
      rintro ⟨position, rfl, hposition⟩
      exact ⟨position + 1, by omega, hposition⟩
    cases outcome with
    | ok value => exact (ih h).imp_right hlater
    | error error =>
      rcases ih h with hfound | hsome
      · have hworse : worseFailure found first error = found ∨
            worseFailure found first error = some (first, error) := by
          unfold worseFailure
          split
          · exact Or.inr rfl
          · split
            · exact Or.inl rfl
            · exact Or.inr rfl
          · exact Or.inl rfl
        rcases hworse with hsame | hown
        · exact Or.inl (hsame ▸ hfound)
        · rw [hown] at hfound
          cases hfound
          exact Or.inr ⟨0, rfl, rfl⟩
      · exact Or.inr (hlater hsome)

/-- **A failure that is gathered** names a partition with its outcome. -/
theorem exists_of_gather_eq_error {α : Type} {outcomes : List (Except LoadError α)} {error : LoadError}
    (h : gather outcomes = .error error) :
    ∃ number cause, error = .partitionFailed number cause ∧ outcomes[number]? = some (.error cause) := by
  unfold gather at h
  split at h
  · cases h
  · next number cause hfirst =>
    cases h
    rcases eq_or_exists_of_firstFailure hfirst with hnone | ⟨position, rfl, houtcome⟩
    · cases hnone
    · rw [Nat.zero_add]
      exact ⟨position, cause, rfl, houtcome⟩

/-! ## Reports of a crew -/

/-- What the end of a crew says of the partitions that it has worked on. -/
structure Crew.Reports (works : List (PartitionWork σ)) (crew : Crew σ) : Prop where
  /-- Everybody has come to an end. -/
  ended : ∀ number, crew.turnsLeft number = 0
  /-- The phase succeeds exactly if no partition has an error of its own. -/
  succeeds : (∃ values, gather crew.outcomes = .ok values) ↔
    ∀ work ∈ works, ∀ error, ¬ work.FirstError error
  /-- A failure names a partition with its own first error, which is not `aborted`, and all partitions
  before it that have failed were stopped. -/
  fails : ∀ error, gather crew.outcomes = .error error → ∃ number cause work,
    error = .partitionFailed number cause ∧ Blames crew.outcomes number cause ∧
      works[number]? = some work ∧ work.FirstError cause
  /-- The only partition with an error of its own is named with it. -/
  single : ∀ number work error, works[number]? = some work → work.FirstError error →
    (∀ other work', other ≠ number → works[other]? = some work' →
      ∀ error', ¬ work'.FirstError error') →
    gather crew.outcomes = .error (.partitionFailed number error)

/-- If a phase fails, not all partitions succeed alone. -/
theorem Crew.exists_fails_of_gather {schedule : List Nat} {works : List (PartitionWork σ)}
    {error : LoadError} (h : gather (run schedule false works).outcomes = .error error) :
    ∃ work ∈ works, work.Fails := by
  by_contra hnone
  have hall : ∀ work ∈ works, ∃ value, work.solo = .ok value := by
    intro work hwork
    cases hsolo : work.solo with
    | ok value => exact ⟨value, rfl⟩
    | error own => exact absurd ⟨work, hwork, own, hsolo⟩ hnone
  obtain ⟨values, hvalues⟩ := exists_mapM_of_forall hall
  rw [gather_run_eq_ok_iff.mpr (mapM_eq_ok_iff.mp hvalues)] at h
  cases h

section Reporting

variable (schedule : List Nat) {works : List (PartitionWork σ)}
  (hown : ∀ work ∈ works, work.solo ≠ .error .aborted)

include hown

/-- A run that fails names a partition with its own first error. -/
theorem Crew.fails_run {error : LoadError}
    (hgather : gather (run schedule false works).outcomes = .error error) :
    ∃ number cause work, error = .partitionFailed number cause ∧
      Blames (run schedule false works).outcomes number cause ∧
      works[number]? = some work ∧ work.FirstError cause := by
  have hsome := Crew.exists_fails_of_gather hgather
  obtain ⟨own, work, ownError, hwork, hsolo, houtcome⟩ := exists_own_error schedule hsome
  have hraised : ownError ≠ .aborted := by
    rintro rfl
    exact hown work (List.mem_of_getElem? hwork) hsolo
  obtain ⟨number, cause, hblames⟩ := exists_blames houtcome hraised
  obtain ⟨blamed, hblamed, hsame | hstopped⟩ := outcome_eq_solo_or_aborted schedule hblames.outcome
  · rw [gather_of_blames hblames] at hgather
    cases hgather
    exact ⟨number, cause, blamed, rfl, hblames, hblamed, firstError_iff.mpr hsame.symm⟩
  · exact absurd (Except.error.inj hstopped) hblames.not_aborted

/-- A run succeeds exactly if no partition has an error of its own. -/
theorem Crew.succeeds_run_iff : (∃ values, gather (run schedule false works).outcomes = .ok values) ↔
    ∀ work ∈ works, ∀ error, ¬ work.FirstError error := by
  constructor
  · rintro ⟨values, hvalues⟩ work hwork error herror
    rw [gather_run_eq_ok_iff] at hvalues
    have hmem : work.solo ∈ values.map .ok := hvalues ▸ List.mem_map_of_mem hwork
    obtain ⟨_, _, hok⟩ := List.mem_map.mp hmem
    rw [firstError_iff.mp herror] at hok
    cases hok
  · intro hnone
    cases hgather : gather (run schedule false works).outcomes with
    | ok values => exact ⟨values, rfl⟩
    | error error =>
      obtain ⟨_, cause, work, _, _, hwork, herror⟩ := Crew.fails_run schedule hown hgather
      exact absurd herror (hnone work (List.mem_of_getElem? hwork) cause)

/-- **Failures are reported under every schedule**, if no partition raises `aborted` itself. -/
theorem Crew.reports_run : (run schedule false works).Reports works := by
  refine ⟨turnsLeft_run schedule works, Crew.succeeds_run_iff schedule hown,
    fun _ => Crew.fails_run schedule hown, ?_⟩
  intro number work error hwork herror honly
  cases hgather : gather (run schedule false works).outcomes with
  | ok values =>
    exact absurd herror ((Crew.succeeds_run_iff schedule hown).mp ⟨values, hgather⟩ work
      (List.mem_of_getElem? hwork) error)
  | error reported =>
    obtain ⟨named, cause, work', rfl, _, hwork', hcause⟩ := Crew.fails_run schedule hown hgather
    -- the partition that is named has an error of its own, and there is only one such partition
    have hnamed : named = number := by
      by_contra hne
      exact honly named work' hne hwork' cause hcause
    subst hnamed
    rw [hwork] at hwork'
    cases hwork'
    rw [firstError_iff] at herror hcause
    rw [herror] at hcause
    cases hcause
    rfl

end Reporting

end CompactGraph
