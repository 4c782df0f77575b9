/-
# Loads from faulty stores

What a load comes to if its store may answer with an error at any call.  A load is given what the store
shows at each inquiry (`loadSnapshotThrough`), so that a question may fail through one cursor and be
answered through another, or fail when it is asked again.  Where the store shows the same at all inquiries,
this is the load of that store.

A load that succeeds comes to what the sound store holds, whatever turns its workers take.  One that fails
hands on the error that it was answered, and after the node scan it names the partition that has asked
(`HandsOnFaults`).
-/
import CompactGraph.Proofs.Load.Failures
import CompactGraph.Proofs.Load.Faults
import CompactGraph.Proofs.Load.Schedules

namespace CompactGraph

open PartitionWork

/-! ## Crews -/

section Crews

variable {σ : Type} {works : List (PartitionWork σ)}

/-- An error that blames a partition with what it is excused for.  A partition that has been stopped is
blamed only if one of the partitions is excused for having stopped itself. -/
def Blamed (excused : Nat → LoadError → Prop) (error : LoadError) : Prop :=
  ∃ number cause, error = .partitionFailed number cause ∧
    (excused number cause ∨ cause = .aborted ∧ ∃ other, excused other .aborted)

/-- What partitions come to alone, side by side. -/
theorem getElem?_solo_of_gather {schedule : List Nat} {values : List σ}
    (h : gather (Crew.run schedule false works).outcomes = .ok values) {number : Nat}
    {work : PartitionWork σ} (hwork : works[number]? = some work) :
    ∃ value, values[number]? = some value ∧ work.solo = .ok value := by
  have hget := congrArg (fun outcomes => outcomes[number]?) (gather_run_eq_ok_iff.mp h)
  simp only [List.getElem?_map, hwork, Option.map_some] at hget
  obtain ⟨value, hvalue, hok⟩ := Option.map_eq_some_iff.mp hget.symm
  exact ⟨value, hvalue, hok.symm⟩

/-- **Phases agree** if each partition does, under all schedules. -/
theorem gather_agrees {α : Type} {items : List α} {workOf workOf' : α × Nat → PartitionWork σ}
    {excused : Nat → LoadError → Prop}
    (h : ∀ number item, items[number]? = some item →
      AgreesUnless (excused number) (workOf (item, number)).solo (workOf' (item, number)).solo)
    (schedule schedule' : List Nat) :
    AgreesUnless (Blamed excused)
      (gather (Crew.run schedule false (items.zipIdx.map workOf)).outcomes)
      (gather (Crew.run schedule' false (items.zipIdx.map workOf')).outcomes) where
  ok values hvalues := by
    rw [gather_run_eq_ok_iff, ← gather_run_eq_ok_iff.mp hvalues, List.map_map, List.map_map]
    refine List.map_congr_left fun (item, number) hmem => ?_
    have hitem : items[number]? = some item := List.mk_mem_zipIdx_iff_getElem?.mp hmem
    have hwork := getElem?_map_zipIdx items workOf number
    rw [hitem, Option.map_some] at hwork
    obtain ⟨value, _, hvalue⟩ := getElem?_solo_of_gather hvalues hwork
    exact ((h number item hitem).ok value hvalue).trans hvalue.symm
  error values error hvalues herror := by
    -- a partition that fails alone fails in an excused way
    have hexcused : ∀ number work cause, (items.zipIdx.map workOf)[number]? = some work →
        work.solo = .error cause → excused number cause := by
      intro number work cause hwork hcause
      rw [getElem?_map_zipIdx] at hwork
      obtain ⟨item, hitem, rfl⟩ := Option.map_eq_some_iff.mp hwork
      have hwork' := getElem?_map_zipIdx items workOf' number
      rw [hitem, Option.map_some] at hwork'
      obtain ⟨value, _, hvalue⟩ := getElem?_solo_of_gather hvalues hwork'
      exact (h number item hitem).error value cause hvalue hcause
    obtain ⟨number, cause, rfl, houtcome⟩ := exists_of_gather_eq_error herror
    refine ⟨number, cause, rfl, ?_⟩
    obtain ⟨work, hwork, hsolo | hstopped⟩ := Crew.outcome_eq_solo_or_aborted schedule houtcome
    · exact .inl (hexcused number work cause hwork hsolo.symm)
    · obtain rfl : cause = .aborted := Except.error.inj hstopped
      obtain ⟨other, work', own, hwork', hown, houtcome'⟩ :=
        Crew.exists_own_error schedule (Crew.exists_fails_of_gather herror)
      by_cases haborted : own = .aborted
      · exact .inr ⟨rfl, other, haborted ▸ hexcused other work' own hwork' hown⟩
      · -- an error that was raised would have been reported
        obtain ⟨first, raised, hblames⟩ := exists_blames houtcome' haborted
        rw [gather_of_blames hblames] at herror
        cases herror
        exact absurd rfl hblames.not_aborted

/-- No partition but one fails: each of the others succeeds alone, and none has been stopped if the error
of the one is what a partition that has been stopped reports. -/
structure NoOtherFails (works : List (PartitionWork σ)) (outcomes : List (Except LoadError σ))
    (number : Nat) (error : LoadError) : Prop where
  solo : ∀ other work, other ≠ number → works[other]? = some work → ∃ state, work.solo = .ok state
  outcome : error = .aborted → ∀ other outcome, other ≠ number → outcomes[other]? = some outcome →
    ∃ state, outcome = .ok state

/-- **The one partition that fails** is reported. -/
theorem gather_of_noOtherFails {schedule : List Nat} {number : Nat} {work : PartitionWork σ}
    {error : LoadError} (hwork : works[number]? = some work) (hfirst : work.FirstError error)
    (hothers : NoOtherFails works (Crew.run schedule false works).outcomes number error) :
    gather (Crew.run schedule false works).outcomes = .error (.partitionFailed number error) := by
  have hsolo := firstError_iff.mp hfirst
  obtain ⟨named, work', own, hwork', hown, houtcome⟩ := Crew.exists_own_error schedule
    ⟨work, List.mem_of_getElem? hwork, error, hsolo⟩
  -- whoever ends with its own error is that partition
  have hnamed : named = number := by
    by_contra hne
    obtain ⟨state, hstate⟩ := hothers.solo named work' hne hwork'
    rw [hstate] at hown
    cases hown
  subst hnamed
  rw [hwork] at hwork'
  cases hwork'
  rw [hsolo] at hown
  cases hown
  by_cases haborted : error = .aborted
  · -- nobody else has an error to report
    cases hgather : gather (Crew.run schedule false works).outcomes with
    | ok values =>
      obtain ⟨state, _, hstate⟩ := getElem?_solo_of_gather hgather hwork
      rw [hsolo] at hstate
      cases hstate
    | error reported =>
      obtain ⟨blamed, cause, rfl, hblamed⟩ := exists_of_gather_eq_error hgather
      by_cases hsame : blamed = named
      · subst hsame
        rw [houtcome] at hblamed
        cases hblamed
        rfl
      · obtain ⟨state, hstate⟩ := hothers.outcome haborted blamed _ hsame hblamed
        cases hstate
  · refine gather_of_blames ⟨houtcome, haborted, fun lower hlower other hother => ?_⟩
    obtain ⟨work', hwork', hsame | hstopped⟩ := Crew.outcome_eq_solo_or_aborted schedule hother
    · obtain ⟨state, hstate⟩ := hothers.solo lower work' (by omega) hwork'
      rw [hstate] at hsame
      cases hsame
    · exact Except.error.inj hstopped

/-- A phase in which a partition raises an error fails, and it reports this partition with its error if no
other one fails. -/
theorem reported_of_firstError {schedule : List Nat} {number : Nat} {work : PartitionWork σ}
    {error : LoadError} (hwork : works[number]? = some work) (hfirst : work.FirstError error) :
    (∃ reported, gather (Crew.run schedule false works).outcomes = .error reported) ∧
      (NoOtherFails works (Crew.run schedule false works).outcomes number error →
        gather (Crew.run schedule false works).outcomes = .error (.partitionFailed number error)) := by
  refine ⟨?_, gather_of_noOtherFails hwork hfirst⟩
  cases hgather : gather (Crew.run schedule false works).outcomes with
  | ok values =>
    obtain ⟨value, _, hvalue⟩ := getElem?_solo_of_gather hgather hwork
    rw [firstError_iff.mp hfirst] at hvalue
    cases hvalue
  | error reported => exact ⟨reported, rfl⟩

end Crews

/-! ## Runs by inquiry -/

namespace LoadRun

section Through

variable (run : LoadRun) (views : Inquiry → Snapshot)

/-- What the partitions do that ask for degrees, each through its own cursor. -/
def degreeWorksThrough : List (PartitionWork (Array NodeBounds)) :=
  run.ranges.zipIdx.map fun (range, number) =>
    run.degreeWorkThrough views (run.firstCursor + number) range

/-- What the partitions do that fill reserved regions, each through its own cursor. -/
def regionWorksThrough (bounds : List (Array NodeBounds)) (offsets : List (Array Nat)) :
    List (PartitionWork PartitionOutput) :=
  let first := run.firstCursor + run.ranges.length
  (run.ranges.zip bounds).zipIdx.map fun ((range, bounds), number) =>
    run.fillWorkThrough views (first + number) range (run.exactPlans offsets range bounds)
      (run.weightCapacity bounds)

/-- What the partitions do whose lists grow, each through its own cursor. -/
def growingWorksThrough : List (PartitionWork PartitionOutput) :=
  run.ranges.zipIdx.map fun (range, number) =>
    run.fillWorkThrough views (run.firstCursor + number) range run.growingPlans 0

/-- The crew after all degrees have been asked for. -/
def degreeCrewThrough : Crew (Array NodeBounds) :=
  Crew.run (run.schedule .degrees) false (run.degreeWorksThrough views)

/-- The crew after all reserved regions have been filled. -/
def regionCrewThrough (flag : Bool) (bounds : List (Array NodeBounds)) (offsets : List (Array Nat)) :
    Crew PartitionOutput :=
  Crew.run (run.schedule .fill) flag (run.regionWorksThrough views bounds offsets)

/-- The crew after all lists have grown to their ends. -/
def growingCrewThrough : Crew PartitionOutput :=
  Crew.run (run.schedule .fill) false (run.growingWorksThrough views)

/-- Load with degrees counted first, or with growing lists. -/
def assembledThrough : Except LoadError Assembled :=
  if run.ranges.isEmpty then
    .ok {
      lists := run.kinds.map fun _ => .isolated run.idMap.nodeCount
      weights := run.blankWeights 0 false
      counts := {} }
  else
    match run.sizing with
    | .exact => do
      let bounds ← gather (run.degreeCrewThrough views).outcomes
      let offsets ← run.reservations bounds
      let outputs ←
        gather (run.regionCrewThrough views (run.degreeCrewThrough views).flag bounds offsets).outcomes
      let lists ← offsets.zipIdx.mapM fun (offsets, list) => run.exactList offsets list outputs
      run.merge lists outputs
    | .growable => do
      let outputs ← gather (run.growingCrewThrough views).outcomes
      let lists ← (List.range run.kinds.length).mapM fun list => growableList list outputs
      run.merge lists outputs

/-- Load the relationships of all nodes. -/
def loadThrough : Except LoadError (Graph × RunReport) := do
  run.config.validate
  let parts ← run.assembledThrough views
  let graph ← run.graphOf parts
  return (graph, ⟨run.ranges.length, run.sizing, parts.counts⟩)

end Through

variable {run : LoadRun}

/-- The crews of a run that is shown the same store at every inquiry. -/
theorem degreeCrewThrough_same (snapshot : Snapshot) :
    run.degreeCrewThrough (fun _ => snapshot) = (run.asking snapshot).degreeCrew := by
  unfold degreeCrewThrough degreeWorksThrough
  rw [degreeWorkThrough_same]
  rfl

theorem regionCrewThrough_same (snapshot : Snapshot) :
    run.regionCrewThrough (fun _ => snapshot) = (run.asking snapshot).exactFillCrew := by
  funext flag bounds offsets
  unfold regionCrewThrough regionWorksThrough
  rw [fillWorkThrough_same]
  rfl

theorem growingCrewThrough_same (snapshot : Snapshot) :
    run.growingCrewThrough (fun _ => snapshot) = (run.asking snapshot).growableFillCrew := by
  unfold growingCrewThrough growingWorksThrough
  rw [fillWorkThrough_same]
  rfl

/-- **Where the store shows the same at every inquiry**, this is the load of a run that asks it.  Of its own
store a run uses no more than what it costs to ask for degrees. -/
theorem loadThrough_same {snapshot : Snapshot}
    (hcounts : run.snapshot.countsDegrees = snapshot.countsDegrees) :
    run.loadThrough (fun _ => snapshot) = (run.asking snapshot).load := by
  have hsizing : (run.asking snapshot).sizing = run.sizing := by
    unfold sizing
    rw [hcounts]
    rfl
  have hassembled : run.assembledThrough (fun _ => snapshot) = (run.asking snapshot).assembled := by
    unfold assembledThrough assembled
    simp only [degreeCrewThrough_same, regionCrewThrough_same, growingCrewThrough_same, hsizing]
    rfl
  unfold loadThrough load
  rw [hassembled, hsizing]
  rfl

/-! ## Faults of a run -/

/-- A partition that comes to ask in vain through its cursor, in one of the phases of a run. -/
inductive PartitionAsksInVain (run : LoadRun) (views : Inquiry → Snapshot) (number : Nat)
    (error : LoadError) : Prop where
  | degrees {range : NodeRange} (hsizing : run.sizing = .exact) (hrange : run.ranges[number]? = some range)
      (h : run.CountingInVain views (run.firstCursor + number) range error)
  | regions {range : NodeRange} {bounds : List (Array NodeBounds)} {own : Array NodeBounds}
      {offsets : List (Array Nat)} (hsizing : run.sizing = .exact)
      (hbounds : gather (run.degreeCrewThrough views).outcomes = .ok bounds)
      (hoffsets : run.reservations bounds = .ok offsets) (hrange : run.ranges[number]? = some range)
      (hown : bounds[number]? = some own)
      (h : run.FillingInVain views (run.firstCursor + run.ranges.length + number) range
        (run.exactPlans offsets range own) (run.weightCapacity own) error)
  | growing {range : NodeRange} (hsizing : run.sizing = .growable)
      (hrange : run.ranges[number]? = some range)
      (h : run.FillingInVain views (run.firstCursor + number) range run.growingPlans 0 error)

/-- In no phase of a run does another partition fail. -/
structure FailsOnlyIn (run : LoadRun) (views : Inquiry → Snapshot) (number : Nat) (error : LoadError) :
    Prop where
  degrees : run.sizing = .exact →
    NoOtherFails (run.degreeWorksThrough views) (run.degreeCrewThrough views).outcomes number error
  regions : ∀ bounds offsets, run.sizing = .exact →
    gather (run.degreeCrewThrough views).outcomes = .ok bounds → run.reservations bounds = .ok offsets →
    NoOtherFails (run.regionWorksThrough views bounds offsets)
      (run.regionCrewThrough views (run.degreeCrewThrough views).flag bounds offsets).outcomes number error
  growing : run.sizing = .growable →
    NoOtherFails (run.growingWorksThrough views) (run.growingCrewThrough views).outcomes number error

/-- After a phase that has succeeded the flag is lowered. -/
theorem flag_degreeCrewThrough {views : Inquiry → Snapshot} {bounds : List (Array NodeBounds)}
    (h : gather (run.degreeCrewThrough views).outcomes = .ok bounds) :
    (run.degreeCrewThrough views).flag = false :=
  flag_run_of_ok (gather_run_eq_ok_iff.mp h)

/-! ## Faults are reported -/

/-- A phase of a run has failed. -/
inductive PhaseFailsThrough (run : LoadRun) (views : Inquiry → Snapshot) (error : LoadError) : Prop where
  | degrees (hsizing : run.sizing = .exact)
      (h : gather (run.degreeCrewThrough views).outcomes = .error error)
  | regions {bounds : List (Array NodeBounds)} {offsets : List (Array Nat)}
      (hsizing : run.sizing = .exact) (hbounds : gather (run.degreeCrewThrough views).outcomes = .ok bounds)
      (hoffsets : run.reservations bounds = .ok offsets)
      (h : gather (run.regionCrewThrough views (run.degreeCrewThrough views).flag bounds offsets).outcomes
        = .error error)
  | growing (hsizing : run.sizing = .growable)
      (h : gather (run.growingCrewThrough views).outcomes = .error error)

section Reported

variable {views : Inquiry → Snapshot} {number : Nat} {error : LoadError}

/-- A run ends with the failure of its phase. -/
theorem loadThrough_of_phaseFails (hvalid : run.config.validate = .ok ())
    (hranges : run.ranges.isEmpty = false) (h : run.PhaseFailsThrough views error) :
    run.loadThrough views = .error error := by
  have hassembled : run.assembledThrough views = .error error := by
    unfold assembledThrough
    rw [hranges, if_neg Bool.false_ne_true]
    cases h with
    | degrees hsizing h =>
      simp only [hsizing, h]
      rfl
    | regions hsizing hbounds hoffsets h =>
      simp only [hsizing, hbounds, bind, Except.bind, hoffsets, h]
    | growing hsizing h =>
      simp only [hsizing, h]
      rfl
  unfold loadThrough
  rw [hvalid, hassembled]
  rfl

/-- A partition that asks in vain is there. -/
theorem PartitionAsksInVain.ranges_isEmpty (h : run.PartitionAsksInVain views number error) :
    run.ranges.isEmpty = false := by
  have hrange : ∃ range, run.ranges[number]? = some range := by
    cases h with
    | degrees _ hrange _ => exact ⟨_, hrange⟩
    | regions _ _ _ hrange _ _ => exact ⟨_, hrange⟩
    | growing _ hrange _ => exact ⟨_, hrange⟩
  obtain ⟨range, hrange⟩ := hrange
  rw [List.isEmpty_eq_false_iff]
  exact List.ne_nil_of_mem (List.mem_of_getElem? hrange)

variable (hlimit : run.deadline.limit = none)

include hlimit

/-- A phase in which a partition asks in vain fails, and if no other partition fails it reports that
partition and the error. -/
theorem PartitionAsksInVain.phaseFails (h : run.PartitionAsksInVain views number error) :
    (∃ reported, run.PhaseFailsThrough views reported) ∧
      (run.FailsOnlyIn views number error →
        run.PhaseFailsThrough views (.partitionFailed number error)) := by
  cases h with
  | @degrees range hsizing hrange h =>
    have hwork : (run.degreeWorksThrough views)[number]? = _ := getElem?_map_zipIdx run.ranges _ number
    rw [hrange, Option.map_some] at hwork
    obtain ⟨⟨reported, hreported⟩, hnamed⟩ := reported_of_firstError hwork (h.firstError hlimit)
    exact ⟨⟨reported, .degrees hsizing hreported⟩,
      fun honly => .degrees hsizing (hnamed (honly.degrees hsizing))⟩
  | @regions range bounds own offsets hsizing hbounds hoffsets hrange hown h =>
    have hwork : (run.regionWorksThrough views bounds offsets)[number]? = _ :=
      getElem?_map_zipIdx (run.ranges.zip bounds) _ number
    have hboth : (run.ranges.zip bounds)[number]? = some (range, own) :=
      List.getElem?_zip_eq_some.mpr ⟨hrange, hown⟩
    rw [hboth, Option.map_some] at hwork
    -- the regions are filled with the flag lowered
    have hcrew : run.regionCrewThrough views (run.degreeCrewThrough views).flag bounds offsets
        = Crew.run (run.schedule .fill) false (run.regionWorksThrough views bounds offsets) := by
      rw [flag_degreeCrewThrough hbounds]
      rfl
    obtain ⟨⟨reported, hreported⟩, hnamed⟩ := reported_of_firstError hwork (h.firstError hlimit)
    rw [← hcrew] at hreported hnamed
    exact ⟨⟨reported, .regions hsizing hbounds hoffsets hreported⟩, fun honly =>
      .regions hsizing hbounds hoffsets (hnamed (honly.regions bounds offsets hsizing hbounds hoffsets))⟩
  | @growing range hsizing hrange h =>
    have hwork : (run.growingWorksThrough views)[number]? = _ := getElem?_map_zipIdx run.ranges _ number
    rw [hrange, Option.map_some] at hwork
    obtain ⟨⟨reported, hreported⟩, hnamed⟩ := reported_of_firstError hwork (h.firstError hlimit)
    exact ⟨⟨reported, .growing hsizing hreported⟩,
      fun honly => .growing hsizing (hnamed (honly.growing hsizing))⟩

end Reported

/-! ## Runs agree -/

/-- Two runs that differ in the store that is shown to them and in the deadline they are held to, and whose
partitions come to the same alone in each phase unless they are excused. -/
structure PartitionsAgree (run : LoadRun) (deadline : Deadline) (views views' : Inquiry → Snapshot)
    (excused : Nat → LoadError → Prop) : Prop where
  degrees : run.sizing = .exact → ∀ number range, run.ranges[number]? = some range →
    AgreesUnless (excused number) (run.degreeWorkThrough views (run.firstCursor + number) range).solo
      ((run.heldTo deadline).degreeWorkThrough views' (run.firstCursor + number) range).solo
  regions : run.sizing = .exact → ∀ bounds offsets,
    gather (run.degreeCrewThrough views).outcomes = .ok bounds → run.reservations bounds = .ok offsets →
    ∀ number range own, run.ranges[number]? = some range → bounds[number]? = some own →
      AgreesUnless (excused number)
        (run.fillWorkThrough views (run.firstCursor + run.ranges.length + number) range
          (run.exactPlans offsets range own) (run.weightCapacity own)).solo
        ((run.heldTo deadline).fillWorkThrough views' (run.firstCursor + run.ranges.length + number) range
          (run.exactPlans offsets range own) (run.weightCapacity own)).solo
  growing : run.sizing = .growable → ∀ number range, run.ranges[number]? = some range →
    AgreesUnless (excused number)
      (run.fillWorkThrough views (run.firstCursor + number) range run.growingPlans 0).solo
      ((run.heldTo deadline).fillWorkThrough views' (run.firstCursor + number) range run.growingPlans 0).solo

namespace PartitionsAgree

variable {deadline : Deadline} {views views' : Inquiry → Snapshot} {excused : Nat → LoadError → Prop}
  (h : run.PartitionsAgree deadline views views' excused)

include h

/-- The degrees that are asked for in the first phase. -/
theorem gather_degrees (hsizing : run.sizing = .exact) :
    AgreesUnless (Blamed excused) (gather (run.degreeCrewThrough views).outcomes)
      (gather ((run.heldTo deadline).degreeCrewThrough views').outcomes) :=
  gather_agrees (h.degrees hsizing) _ _

/-- The regions that are filled in the second phase. -/
theorem gather_regions (hsizing : run.sizing = .exact) {bounds : List (Array NodeBounds)}
    {offsets : List (Array Nat)} (hbounds : gather (run.degreeCrewThrough views).outcomes = .ok bounds)
    (hoffsets : run.reservations bounds = .ok offsets) :
    AgreesUnless (Blamed excused) (gather (run.regionCrewThrough views false bounds offsets).outcomes)
      (gather ((run.heldTo deadline).regionCrewThrough views' false bounds offsets).outcomes) := by
  refine gather_agrees (fun number both hboth => ?_) _ _
  obtain ⟨hrange, hown⟩ := List.getElem?_zip_eq_some.mp hboth
  exact h.regions hsizing bounds offsets hbounds hoffsets number both.1 both.2 hrange hown

/-- The lists that grow. -/
theorem gather_growing (hsizing : run.sizing = .growable) :
    AgreesUnless (Blamed excused) (gather (run.growingCrewThrough views).outcomes)
      (gather ((run.heldTo deadline).growingCrewThrough views').outcomes) :=
  gather_agrees (h.growing hsizing) _ _

theorem assembled : AgreesUnless (Blamed excused) (run.assembledThrough views)
    ((run.heldTo deadline).assembledThrough views') := by
  have hranges : (run.heldTo deadline).ranges = run.ranges := rfl
  have hsame : (run.heldTo deadline).sizing = run.sizing := rfl
  unfold assembledThrough
  rw [hranges, hsame]
  split
  · exact AgreesUnless.refl _ _
  · cases hsizing : run.sizing with
    | exact =>
      refine (h.gather_degrees hsizing).bind fun bounds hbounds => ?_
      have hflag := flag_degreeCrewThrough hbounds
      have hflag' := flag_degreeCrewThrough ((h.gather_degrees hsizing).ok bounds hbounds)
      rw [hflag, hflag']
      refine AgreesUnless.bind (AgreesUnless.refl _ _) fun offsets hoffsets => ?_
      exact (h.gather_regions hsizing hbounds hoffsets).bind fun _ _ => AgreesUnless.refl _ _
    | growable => exact (h.gather_growing hsizing).bind fun _ _ => AgreesUnless.refl _ _

/-- **Runs agree** if their partitions do, or blame a partition that is excused. -/
theorem load : AgreesUnless (Blamed excused) (run.loadThrough views)
    ((run.heldTo deadline).loadThrough views') := by
  unfold loadThrough
  refine AgreesUnless.bind (AgreesUnless.refl _ _) fun _ _ => ?_
  exact h.assembled.bind fun _ _ => AgreesUnless.refl _ _

end PartitionsAgree

/-- The partitions of a run over a store that falters come to what they come to over the sound one, unless
they ask in vain. -/
theorem partitionsAgree_of_falters {views : Inquiry → Snapshot} {sound : Snapshot}
    (h : ∀ inquiry, (views inquiry).Falters sound) :
    run.PartitionsAgree run.deadline views (fun _ => sound) (run.PartitionAsksInVain views) where
  degrees hsizing _ range hrange :=
    (degreeWorkThrough_agrees h _ range).imp fun _ => .degrees hsizing hrange
  regions hsizing _ _ hbounds hoffsets _ range _ hrange hown :=
    (fillWorkThrough_agrees h _ range _ _).imp fun _ =>
      .regions hsizing hbounds hoffsets hrange hown
  growing hsizing _ range hrange :=
    (fillWorkThrough_agrees h _ range _ _).imp fun _ => .growing hsizing hrange

/-- **A run over a store that falters** comes to what it comes to over the sound one, or blames a partition
that has asked in vain. -/
theorem loadThrough_agrees {views : Inquiry → Snapshot} {sound : Snapshot}
    (h : ∀ inquiry, (views inquiry).Falters sound) :
    AgreesUnless (Blamed (run.PartitionAsksInVain views)) (run.loadThrough views)
      (run.loadThrough fun _ => sound) :=
  (partitionsAgree_of_falters h).load

end LoadRun

/-! ## Node scans -/

/-- A visitor that takes all nodes takes the first of them. -/
theorem visitEach_of_append {σ : Type} {visit : ExternalId → EStateM LoadError σ Unit}
    {ids rest : List ExternalId} {state : σ} {last : σ}
    (h : NodeScan.visitEach visit (ids ++ rest) state = .ok () last) :
    ∃ reached, NodeScan.visitEach visit ids state = .ok () reached := by
  induction ids generalizing state with
  | nil => exact ⟨state, rfl⟩
  | cons id ids ih =>
    simp only [List.cons_append, NodeScan.visitEach, bind, EStateM.bind] at h ⊢
    split at h
    · next next hvisit => exact ih h
    · cases h

/-- A scan that fails hands on its error, unless the visitor refuses a node. -/
theorem forEach_of_failure {σ : Type} {scan : NodeScan} {error : LoadError}
    (hfailure : scan.failure = some error) (visit : ExternalId → EStateM LoadError σ Unit) (state : σ) :
    scan.forEach visit state = match NodeScan.visitEach visit scan.ids state with
      | .ok _ last => .error error last
      | .error refused last => .error refused last := by
  unfold NodeScan.forEach
  simp only [bind, EStateM.bind, hfailure]
  cases NodeScan.visitEach visit scan.ids state <;> rfl

/-- An id map is built from the nodes of the other store, or the scan has failed. -/
theorem collectNodes_agrees {faulty sound : Snapshot} (h : faulty.Falters sound) (label : Option String)
    (deadline : Deadline) :
    AgreesUnless (fun error => faulty.openCursor 0 = .error error ∨
        (faulty.scanNodes label).failure = some error)
      (collectNodes faulty label deadline) (collectNodes sound label deadline) := by
  unfold collectNodes
  refine ((AgreesUnless.of_answer (h.openCursor 0) fun _ herror => herror).imp fun _ => .inl).bind
    fun _ _ => ?_
  rcases h.scanNodes label with hsame | ⟨⟨rest, hprefix⟩, own, hfailure⟩
  · rw [hsame]
    exact AgreesUnless.refl _ _
  · rw [forEach_of_failure hfailure]
    refine ⟨fun map hok => ?_, fun map error hok herror => ?_⟩
    · -- a scan that fails does not come to an id map
      cases hvisit : NodeScan.visitEach (collectNode deadline) (faulty.scanNodes label).ids (0, .empty) <;>
        rw [hvisit] at hok <;> cases hok
    · -- the nodes of the other scan are all taken, so those that come first are
      have htaken : ∃ last, NodeScan.visitEach (collectNode deadline) (sound.scanNodes label).ids
          (0, .empty) = .ok () last := by
        cases hvisit : NodeScan.visitEach (collectNode deadline) (sound.scanNodes label).ids (0, .empty) with
        | ok _ last => exact ⟨last, rfl⟩
        | error refused last =>
          simp only [NodeScan.forEach, bind, EStateM.bind, hvisit] at hok
          cases hok
      obtain ⟨last, hlast⟩ := htaken
      rw [← hprefix] at hlast
      obtain ⟨reached, hreached⟩ := visitEach_of_append hlast
      rw [hreached] at herror
      cases herror
      exact .inr hfailure

/-- **A scan that fails** is the end of a load, unless it has delivered too many nodes before. -/
theorem collectNodes_of_failure {snapshot : Snapshot} {label : Option String} {deadline : Deadline}
    (hlimit : deadline.limit = none) (hopen : snapshot.openCursor 0 = .ok ()) {error : LoadError}
    (hfailure : (snapshot.scanNodes label).failure = some error) :
    collectNodes snapshot label deadline = .error
      (if (snapshot.scanNodes label).ids.eraseDups.length ≤ maxNodeCount then error
      else .capacityExceeded .tooManyNodes) := by
  unfold collectNodes
  rw [hopen, forEach_of_failure hfailure]
  rcases visitEach_collectNode hlimit (snapshot.scanNodes label).ids 0 IdMap.Builder.sound_empty with
    ⟨hfew, count, builder, hvisit, _⟩ | ⟨hmany, state, hvisit⟩
  · have hfew' : (snapshot.scanNodes label).ids.eraseDups.length ≤ maxNodeCount := hfew
    rw [hvisit, if_pos hfew']
    rfl
  · have hmany' : ¬ (snapshot.scanNodes label).ids.eraseDups.length ≤ maxNodeCount := Nat.not_le.mpr hmany
    rw [hvisit, if_neg hmany']
    rfl

/-! ## Loads -/

/-- Load a graph from a store that shows a view of itself at each inquiry. -/
def loadSnapshotThrough (views : Inquiry → Snapshot) (config : LoadConfig) (machine : Nat := 1)
    (schedule : Phase → List Nat := fun _ => []) : Except LoadError (Graph × LoadSummary) := do
  config.validate
  let deadline : Deadline := { limit := config.timeout }
  let idMap ← collectNodes (views .nodes) config.nodeLabel deadline
  deadline.check .numbered
  let (graph, report) ← (runOver (views .nodes) config machine idMap schedule).loadThrough views
  return (graph, summaryOf config machine graph report)

/-- Where the store shows the same at every inquiry, this is the load of a snapshot. -/
theorem loadSnapshotThrough_same (snapshot : Snapshot) (config : LoadConfig) (machine : Nat)
    (schedule : Phase → List Nat) :
    loadSnapshotThrough (fun _ => snapshot) config machine schedule
      = loadSnapshot snapshot config machine schedule := by
  have hrun : ∀ idMap, (runOver snapshot config machine idMap schedule).loadThrough (fun _ => snapshot)
      = (runOver snapshot config machine idMap schedule).load := fun idMap =>
    @LoadRun.loadThrough_same (runOver snapshot config machine idMap schedule) snapshot rfl
  unfold loadSnapshotThrough loadSnapshot
  simp only [hrun]

/-- How the loads from a store end that answers with errors where a sound one gives answers. -/
structure HandsOnFaults (views : Inquiry → Snapshot) (sound : Snapshot) (config : LoadConfig)
    (machine : Nat) (schedule : Phase → List Nat) : Prop where
  /-- A load that succeeds comes to the same graph and the same summary as that of the sound store. -/
  whole : ∀ loaded, loadSnapshotThrough views config machine schedule = .ok loaded →
    ∀ schedule', loadSnapshot sound config machine schedule' = .ok loaded
  /-- Without a cursor for the nodes, the load ends with the error of the cursor. -/
  cursor : ∀ error, (views .nodes).openCursor 0 = .error error →
    loadSnapshotThrough views config machine schedule = .error error
  /-- A load whose node scan fails ends with the error of the scan, unless it has run out of numbers. -/
  scan : ∀ error, (views .nodes).openCursor 0 = .ok () →
    ((views .nodes).scanNodes config.nodeLabel).failure = some error →
    loadSnapshotThrough views config machine schedule = .error
      (if ((views .nodes).scanNodes config.nodeLabel).ids.eraseDups.length ≤ maxNodeCount then error
      else .capacityExceeded .tooManyNodes)
  /-- A load in which a partition asks in vain fails, and names the partition and the error if no other
  partition fails. -/
  partition : ∀ idMap number error,
    collectNodes (views .nodes) config.nodeLabel { limit := config.timeout } = .ok idMap →
    (runOver (views .nodes) config machine idMap schedule).PartitionAsksInVain views number error →
    (∃ reported, loadSnapshotThrough views config machine schedule = .error reported) ∧
      ((runOver (views .nodes) config machine idMap schedule).FailsOnlyIn views number error →
        loadSnapshotThrough views config machine schedule = .error (.partitionFailed number error))
  /-- If the sound store can be loaded, nothing else makes a load fail. -/
  source : ∀ loaded schedule' error, loadSnapshot sound config machine schedule' = .ok loaded →
    loadSnapshotThrough views config machine schedule = .error error →
    (views .nodes).openCursor 0 = .error error ∨
      ((views .nodes).scanNodes config.nodeLabel).failure = some error ∨
      ∃ idMap, collectNodes (views .nodes) config.nodeLabel { limit := config.timeout } = .ok idMap ∧
        Blamed ((runOver (views .nodes) config machine idMap schedule).PartitionAsksInVain views) error

section Loads

variable {views : Inquiry → Snapshot} {sound : Snapshot} {config : LoadConfig}
  (hvalid : config.validate = .ok ()) (htimeout : config.timeout = none)

include hvalid htimeout

/-- A load consists of a node scan and a run. -/
theorem loadSnapshotThrough_eq (machine : Nat) (schedule : Phase → List Nat) :
    loadSnapshotThrough views config machine schedule
      = collectNodes (views .nodes) config.nodeLabel { limit := config.timeout } >>= fun idMap =>
        (runOver (views .nodes) config machine idMap schedule).loadThrough views >>= fun (graph, report) =>
          .ok (graph, summaryOf config machine graph report) := by
  unfold loadSnapshotThrough
  rw [hvalid, htimeout]
  rfl

variable (hfalters : ∀ inquiry, (views inquiry).Falters sound)

include hfalters

/-- A load agrees with that of the sound store, whatever turns the workers of the latter take. -/
theorem loadSnapshotThrough_agrees (machine : Nat) (schedule : Phase → List Nat) :
    AgreesUnless (fun error => (views .nodes).openCursor 0 = .error error ∨
        ((views .nodes).scanNodes config.nodeLabel).failure = some error ∨
        ∃ idMap, collectNodes (views .nodes) config.nodeLabel { limit := config.timeout } = .ok idMap ∧
          Blamed ((runOver (views .nodes) config machine idMap schedule).PartitionAsksInVain views) error)
      (loadSnapshotThrough views config machine schedule)
      (loadSnapshot sound config machine schedule) := by
  rw [← loadSnapshotThrough_same, loadSnapshotThrough_eq hvalid htimeout,
    loadSnapshotThrough_eq hvalid htimeout]
  refine ((collectNodes_agrees (hfalters .nodes) _ _).imp fun error => ?_).bind fun idMap hidMap => ?_
  · exact Or.imp_right .inl
  · refine AgreesUnless.bind ?_ fun _ _ => AgreesUnless.refl _ _
    have hagrees := @LoadRun.loadThrough_agrees (runOver (views .nodes) config machine idMap schedule) views
      sound hfalters
    -- both runs come to the load of the sound store
    rw [LoadRun.loadThrough_same (hfalters .nodes).countsDegrees] at hagrees
    have hsound := @LoadRun.loadThrough_same (runOver sound config machine idMap schedule) sound rfl
    rw [hsound]
    exact hagrees.imp fun error hblamed => .inr (.inr ⟨idMap, hidMap, hblamed⟩)

/-- **No error is swallowed, and no partial graph is produced.** -/
theorem loads_hand_on_faults (machine : Nat) (schedule : Phase → List Nat) :
    HandsOnFaults views sound config machine schedule ∧
      ∀ snapshot, loadSnapshotThrough (fun _ => snapshot) config machine schedule
        = loadSnapshot snapshot config machine schedule := by
  have hagrees := loadSnapshotThrough_agrees hvalid htimeout hfalters machine schedule
  refine ⟨⟨?_, ?_, ?_, ?_, ?_⟩, fun snapshot => loadSnapshotThrough_same snapshot config machine schedule⟩
  · exact fun loaded hloaded => loadSnapshot_rescheduled (hagrees.ok loaded hloaded)
  · intro error hopen
    rw [loadSnapshotThrough_eq hvalid htimeout, collectNodes, hopen]
    rfl
  · intro error hopen hfailure
    rw [loadSnapshotThrough_eq hvalid htimeout, collectNodes_of_failure htimeout hopen hfailure]
    rfl
  · intro idMap number error hidMap hstops
    have hends : ∀ reported, (runOver (views .nodes) config machine idMap schedule).PhaseFailsThrough views
        reported → loadSnapshotThrough views config machine schedule = .error reported := by
      intro reported hreported
      rw [loadSnapshotThrough_eq hvalid htimeout, hidMap]
      show LoadRun.loadThrough _ views >>= _ = _
      rw [LoadRun.loadThrough_of_phaseFails hvalid hstops.ranges_isEmpty hreported]
      rfl
    obtain ⟨⟨reported, hreported⟩, hnamed⟩ := hstops.phaseFails htimeout
    exact ⟨⟨reported, hends reported hreported⟩, fun honly => hends _ (hnamed honly)⟩
  · exact fun loaded schedule' error hloaded herror =>
      hagrees.error loaded error (loadSnapshot_rescheduled hloaded schedule) herror

end Loads

/-- A store with three nodes and no relationships. -/
def isolatedNodes : Snapshot where
  scanNodes := fun _ => { ids := [⟨1⟩, ⟨2⟩, ⟨3⟩] }
  degree := fun _ _ _ => .ok 0
  relationships := fun _ _ _ => .ok []
  property := fun _ _ => .ok none

/-- What that store shows if it loses a connection: the second of three partitions gets no answer when it
asks for the degree of its node. -/
def lostConnection (inquiry : Inquiry) : Snapshot :=
  if inquiry.node = 1 then
    { isolatedNodes with degree := fun _ _ _ => .error (.sourceUnavailable (.reported "lost")) }
  else isolatedNodes

theorem falters_lostConnection (inquiry : Inquiry) : (lostConnection inquiry).Falters isolatedNodes := by
  unfold lostConnection
  split
  · exact ⟨rfl, fun _ => .inl rfl, fun _ => .inl rfl, fun _ _ _ => .inr ⟨_, rfl⟩,
      fun _ _ _ => .inl rfl, fun _ _ => .inl rfl⟩
  · exact ⟨rfl, fun _ => .inl rfl, fun _ => .inl rfl, fun _ _ _ => .inl rfl,
      fun _ _ _ => .inl rfl, fun _ _ => .inl rfl⟩

/-- The loss is reported with the partition that has met it, though others have their turns first. -/
theorem lostConnection_handed_on : (∀ inquiry, (lostConnection inquiry).Falters isolatedNodes) ∧
    loadSnapshotThrough lostConnection { concurrency := some 3 } 1 (fun _ => [2, 2, 1])
      = .error (.partitionFailed 1 (.sourceUnavailable (.reported "lost"))) := by
  refine ⟨falters_lostConnection, ?_⟩
  obtain ⟨hands, _⟩ := @loads_hand_on_faults lostConnection isolatedNodes { concurrency := some 3 } rfl rfl
    falters_lostConnection 1 fun _ => [2, 2, 1]
  -- the nodes are numbered as they are delivered
  obtain ⟨idMap, hidMap⟩ : ∃ idMap, collectNodes (lostConnection .nodes) none { limit := none }
      = .ok idMap := exists_collectNodes rfl rfl rfl (by decide)
  obtain ⟨_, hexternals⟩ := sound_of_collectNodes rfl hidMap
  obtain ⟨⟨externals⟩, forward, highest, capacity⟩ := idMap
  obtain rfl : externals = [⟨1⟩, ⟨2⟩, ⟨3⟩] := hexternals
  let run := runOver (lostConnection .nodes) { concurrency := some 3 } 1
    ⟨⟨[⟨1⟩, ⟨2⟩, ⟨3⟩]⟩, forward, highest, capacity⟩ fun _ => [2, 2, 1]
  have hranges : run.ranges = [⟨0, 1⟩, ⟨1, 2⟩, ⟨2, 3⟩] := by
    show partition 3 3 1 = _
    rfl
  have hworks : ∀ number, (run.degreeWorksThrough lostConnection)[number]?
      = ([⟨0, 1⟩, ⟨1, 2⟩, ⟨2, 3⟩] : List NodeRange)[number]?.map fun range =>
        run.degreeWorkThrough lostConnection (1 + number) range := by
    intro number
    rw [← hranges]
    exact getElem?_map_zipIdx run.ranges _ number
  have hfails : run.PartitionAsksInVain lostConnection 1 (.sourceUnavailable (.reported "lost")) := by
    have hrange : run.ranges[1]? = some ⟨1, 2⟩ := by
      rw [hranges]
      rfl
    refine .degrees rfl hrange (@PartitionWork.AsksInVain.node _ _ _ _ _ _ _ _ _ [] _ _ rfl rfl rfl ?_)
    exact ⟨⟨2⟩, [], _, 0, [], rfl, rfl, List.forall_mem_nil _, rfl⟩
  refine (hands.partition _ 1 _ hidMap hfails).2 ⟨fun _ => ⟨fun other work hother hwork => ?_, ?_⟩, ?_, ?_⟩
  · -- the first and the third partition get their answers
    rw [hworks] at hwork
    match other with
    | 0 =>
      cases hwork
      exact ⟨_, rfl⟩
    | 1 => exact absurd rfl hother
    | 2 =>
      cases hwork
      exact ⟨_, rfl⟩
    | _ + 3 => cases hwork
  · intro haborted
    cases haborted
  · intro bounds offsets _ hbounds
    obtain ⟨value, _, hvalue⟩ := getElem?_solo_of_gather hbounds (hworks 1)
    have hlost : (run.degreeWorkThrough lostConnection 2 ⟨1, 2⟩).solo
        = .error (.sourceUnavailable (.reported "lost")) := rfl
    rw [hlost] at hvalue
    cases hvalue
  · intro hsizing
    cases hsizing

end CompactGraph
