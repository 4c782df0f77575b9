/-
# How failures are reported

Each phase of a run reports its failures as crews do, under every schedule (`LoadRun.ReportsFailures`): the
phase that fills reserved regions begins with the flag of the phase that has asked for degrees, but it only
begins when no partition has failed, and then the flag is lowered.  What a loader has done before, and how
that has ended, makes no difference, because each of its loads begins with the flag lowered.
-/
import CompactGraph.Proofs.Load.Errors
import CompactGraph.Load.Load

namespace CompactGraph

namespace LoadRun

/-! ## The work of the phases -/

/-- What the partitions do that ask for degrees. -/
def degreeWorks (run : LoadRun) : List (PartitionWork (Array NodeBounds)) :=
  run.ranges.zipIdx.map fun (range, number) => run.degreeWork (run.firstCursor + number) range

/-- What the partitions do whose lists grow. -/
def growingWorks (run : LoadRun) : List (PartitionWork PartitionOutput) :=
  run.ranges.zipIdx.map fun (range, number) =>
    run.fillWork (run.firstCursor + number) range run.growingPlans 0

/-- What the partitions do that fill reserved regions. -/
def regionWorks (run : LoadRun) (bounds : List (Array NodeBounds)) (offsets : List (Array Nat)) :
    List (PartitionWork PartitionOutput) :=
  (run.ranges.zip bounds).zipIdx.map fun ((range, bounds), number) =>
    run.fillWork (run.firstCursor + run.ranges.length + number) range
      (run.exactPlans offsets range bounds) (run.weightCapacity bounds)

/-- A phase of a run has failed. -/
inductive PhaseFails (run : LoadRun) (error : LoadError) : Prop where
  | degrees (hsizing : run.sizing = .exact) (h : gather run.degreeCrew.outcomes = .error error)
  | regions {bounds : List (Array NodeBounds)} {offsets : List (Array Nat)}
      (hsizing : run.sizing = .exact) (hbounds : gather run.degreeCrew.outcomes = .ok bounds)
      (hoffsets : run.reservations bounds = .ok offsets)
      (h : gather (run.exactFillCrew run.degreeCrew.flag bounds offsets).outcomes = .error error)
  | growing (hsizing : run.sizing = .growable) (h : gather run.growableFillCrew.outcomes = .error error)

/-- The reports of a run on its phases. -/
structure ReportsFailures (run : LoadRun) : Prop where
  degrees : run.degreeCrew.Reports run.degreeWorks
  regions : ∀ bounds offsets, gather run.degreeCrew.outcomes = .ok bounds →
    (run.exactFillCrew run.degreeCrew.flag bounds offsets).Reports (run.regionWorks bounds offsets)
  growing : run.growableFillCrew.Reports run.growingWorks
  /-- The run ends with the failure of its phase. -/
  load : run.config.validate = .ok () → ∀ error, run.PhaseFails error → run.load = .error error

variable {run : LoadRun}

/-- A crew of nobody does not fail. -/
theorem gather_run_nil {σ : Type} (schedule : List Nat) :
    gather (Crew.run schedule false ([] : List (PartitionWork σ))).outcomes = .ok [] :=
  gather_run_eq_ok_iff.mpr rfl

/-- After a phase that has succeeded the flag is lowered. -/
theorem flag_degreeCrew {bounds : List (Array NodeBounds)}
    (h : gather run.degreeCrew.outcomes = .ok bounds) : run.degreeCrew.flag = false :=
  flag_run_of_ok (gather_run_eq_ok_iff.mp h)

/-- A phase of which a run without partitions consists does not fail. -/
theorem ranges_ne_nil_of_phaseFails {error : LoadError} (h : run.PhaseFails error) :
    run.ranges ≠ [] := by
  intro hnone
  have hdegrees : gather run.degreeCrew.outcomes = .ok [] := by
    unfold degreeCrew
    rw [hnone]
    exact gather_run_nil _
  cases h with
  | degrees _ h =>
    rw [hdegrees] at h
    cases h
  | @regions bounds offsets _ hbounds _ h =>
    have hnobody : run.exactFillCrew false bounds offsets = Crew.run (run.schedule .fill) false [] := by
      unfold exactFillCrew
      rw [hnone]
      rfl
    rw [flag_degreeCrew hbounds, hnobody, gather_run_nil] at h
    cases h
  | growing _ h =>
    unfold growableFillCrew at h
    rw [hnone, List.zipIdx_nil, List.map_nil, gather_run_nil] at h
    cases h

/-- **A run ends with the failure of its phase.** -/
theorem load_of_phaseFails (hvalid : run.config.validate = .ok ()) {error : LoadError}
    (h : run.PhaseFails error) : run.load = .error error := by
  have hranges : run.ranges.isEmpty = false := by
    rw [List.isEmpty_eq_false_iff]
    exact ranges_ne_nil_of_phaseFails h
  have hassembled : run.assembled = .error error := by
    unfold assembled
    rw [hranges, if_neg Bool.false_ne_true]
    cases h with
    | degrees hsizing h =>
      simp only [hsizing, exact, h]
      rfl
    | regions hsizing hbounds hoffsets h =>
      simp only [hsizing, exact, hbounds, bind, Except.bind, hoffsets, h]
    | growing hsizing h =>
      simp only [hsizing, growable, h]
      rfl
  unfold load
  rw [hvalid, hassembled]
  rfl

/-- **Every run reports its failures**, if its store does not answer that somebody else has failed. -/
theorem reportsFailures (hnever : run.snapshot.NeverAborts) : run.ReportsFailures where
  degrees := by
    refine Crew.reports_run _ fun work hwork hsolo => ?_
    obtain ⟨⟨range, number⟩, _, rfl⟩ := List.mem_map.mp hwork
    exact (ownError_of_degreeWork (PartitionWork.firstError_iff.mpr hsolo)).ne_aborted hnever rfl
  regions := by
    intro bounds offsets hbounds
    rw [flag_degreeCrew hbounds]
    refine Crew.reports_run _ fun work hwork hsolo => ?_
    obtain ⟨⟨⟨range, own⟩, number⟩, _, rfl⟩ := List.mem_map.mp hwork
    exact (ownError_of_fillWork (PartitionWork.firstError_iff.mpr hsolo)).ne_aborted hnever rfl
  growing := by
    refine Crew.reports_run _ fun work hwork hsolo => ?_
    obtain ⟨⟨range, number⟩, _, rfl⟩ := List.mem_map.mp hwork
    exact (ownError_of_fillWork (PartitionWork.firstError_iff.mpr hsolo)).ne_aborted hnever rfl
  load := fun hvalid _ h => load_of_phaseFails hvalid h

end LoadRun

/-! ## One load after another -/

namespace Loader

/-- The loader after it has loaded the nodes of some id maps, each under its own schedule and clock. -/
def afterLoads (loader : Loader) : List (IdMap × (Phase → List Nat) × Clock) → Loader
  | [] => loader
  | (idMap, schedule, clock) :: rest =>
    afterLoads ({ loader with schedule, clock }.load idMap).2 rest

/-- A loader keeps its snapshot and its configuration. -/
theorem same_afterLoads (loader : Loader) (earlier : List (IdMap × (Phase → List Nat) × Clock)) :
    (loader.afterLoads earlier).snapshot = loader.snapshot ∧
      (loader.afterLoads earlier).config = loader.config := by
  induction earlier generalizing loader with
  | nil => exact ⟨rfl, rfl⟩
  | cons first rest ih => exact ih _

/-- **Failures are reported under every schedule and clock**, in the first load from a snapshot and in every
further load of one loader, whatever its earlier loads have come to. -/
theorem reports_failures (loader : Loader) (hnever : loader.snapshot.NeverAborts)
    (earlier : List (IdMap × (Phase → List Nat) × Clock))
    (idMap : IdMap) (schedule : Phase → List Nat) (clock : Clock) :
    (runOver loader.snapshot loader.config loader.machine idMap schedule clock).ReportsFailures ∧
      ({ loader.afterLoads earlier with schedule, clock }.nextRun idMap).ReportsFailures ∧
      ({ loader.afterLoads earlier with schedule, clock }.load idMap).1
        = ({ loader.afterLoads earlier with schedule, clock }.nextRun idMap).load := by
  have hnext : ({ loader.afterLoads earlier with schedule, clock }.nextRun idMap).snapshot.NeverAborts := by
    rw [← (loader.same_afterLoads earlier).1] at hnever
    exact hnever
  exact ⟨LoadRun.reportsFailures hnever, LoadRun.reportsFailures hnext, rfl⟩

end Loader

/-- A store whose second node cannot be read. -/
def unreadable : Snapshot where
  scanNodes := fun _ => { ids := [⟨1⟩, ⟨2⟩, ⟨3⟩] }
  degree := fun id _ _ =>
    if id = ⟨2⟩ then .error (.sourceUnavailable (.reported "node 2 unreadable")) else .ok 0
  relationships := fun id _ _ =>
    if id = ⟨2⟩ then .error (.sourceUnavailable (.reported "node 2 unreadable")) else .ok []
  property := fun _ _ => .ok none

/-- The nodes of that store. -/
def unreadableNodes : IdMap := ⟨#[⟨1⟩, ⟨2⟩, ⟨3⟩], .hashed {}, ⟨3⟩, 3⟩

/-- A load that has failed is followed by another one, which three workers share. -/
theorem Loader.reports_failures_of_unreadable : unreadable.NeverAborts ∧
    (runOver unreadable { concurrency := some 3 } 1 unreadableNodes fun _ => [1, 0, 1]).ReportsFailures ∧
    (Loader.nextRun { Loader.afterLoads { snapshot := unreadable, config := { concurrency := some 3 } }
        [(unreadableNodes, fun _ => [], .swift)] with schedule := fun _ => [1, 0, 1] }
      unreadableNodes).ReportsFailures := by
  have hnever : unreadable.NeverAborts := by
    constructor
    · exact fun _ h => nomatch h
    · intro id direction type h
      simp only [unreadable] at h
      split at h <;> cases h
    · intro id direction type h
      simp only [unreadable] at h
      split at h <;> cases h
    · exact fun _ _ h => nomatch h
  obtain ⟨hfirst, hnext, _⟩ := Loader.reports_failures
    { snapshot := unreadable, config := { concurrency := some 3 } } hnever
    [(unreadableNodes, fun _ => [], .swift)] unreadableNodes (fun _ => [1, 0, 1]) .swift
  exact ⟨hnever, hfirst, hnext⟩

example : (runOver unreadable { concurrency := some 3 } 1 unreadableNodes fun _ => [1, 0, 1]).PhaseFails
    (.partitionFailed 1 (.sourceUnavailable (.reported "node 2 unreadable"))) :=
  .degrees rfl rfl

end CompactGraph
