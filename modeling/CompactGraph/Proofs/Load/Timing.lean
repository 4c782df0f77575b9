/-
# Loads that run out of time

A limit on the time of a load only ever stops it.  Whatever the clock tells at each look, a load that succeeds
comes to what it comes to without a limit, and one that fails where it would have succeeded without has
looked at its limit too late, in the node scan, after it, or in one of its partitions
(`loadSnapshot_agrees_unhurried`).  A load that is in time is a load without a limit
(`loadSnapshot_of_inTime`), and where there is none the clock makes no difference
(`loadSnapshot_of_no_timeout`).
-/
import CompactGraph.Proofs.Load.FaultyLoads

namespace CompactGraph

open PartitionWork

/-! ## Node scans -/

/-- Steps that follow each other end as the second one does, in the state to which the first has led. -/
theorem endState_bind {σ : Type} (first second : EStateM LoadError σ Unit) (state : σ) :
    endState (first >>= fun _ => second) state = endState first state >>= endState second := by
  unfold endState
  simp only [bind, EStateM.bind]
  cases first state <;> rfl

/-- Visits of the same nodes agree if the visits of each node do. -/
theorem NodeScan.visitEach_agrees {σ : Type} {visit visit' : ExternalId → EStateM LoadError σ Unit}
    {excused : LoadError → Prop}
    (h : ∀ id state, AgreesUnless excused (endState (visit id) state) (endState (visit' id) state))
    (ids : List ExternalId) : ∀ state, AgreesUnless excused (endState (NodeScan.visitEach visit ids) state)
      (endState (NodeScan.visitEach visit' ids) state) := by
  induction ids with
  | nil => exact fun _ => AgreesUnless.refl _ _
  | cons id ids ih =>
    intro state
    rw [NodeScan.visitEach, NodeScan.visitEach, endState_bind, endState_bind]
    exact (h id state).bind fun next _ => ih next

/-- A node scan comes to the nodes that have been collected in the end. -/
theorem collectNodes_eq (snapshot : Snapshot) (label : Option String) (deadline : Deadline) :
    collectNodes snapshot label deadline = snapshot.openCursor 0 >>= fun _ =>
      endState ((snapshot.scanNodes label).forEach (collectNode deadline)) (0, .empty) >>= fun last =>
        .ok last.2.build := by
  unfold collectNodes endState
  cases snapshot.openCursor 0 with
  | error error => rfl
  | ok _ =>
    simp only [bind, Except.bind]
    cases (snapshot.scanNodes label).forEach (collectNode deadline) (0, .empty) <;> rfl

/-- A node is numbered as it is without a limit, unless the look at the limit comes too late. -/
theorem collectNode_agrees (deadline : Deadline) (id : ExternalId) (state : Nat × IdMap.Builder) :
    AgreesUnless deadline.Expires (endState (collectNode deadline id) state)
      (endState (collectNode .unlimited id) state) := by
  have hsplit : endState (collectNode deadline id) state
      = deadline.checkAt (.delivered (state.1 + 1)) (state.1 + 1) >>= fun _ =>
        endState (collectNode .unlimited id) state := by
    unfold endState
    cases hcheck : deadline.checkAt (.delivered (state.1 + 1)) (state.1 + 1) with
    | error error =>
      simp only [collectNode, hcheck]
      rfl
    | ok _ =>
      simp only [collectNode, hcheck, Deadline.checkAt_of_no_limit (rfl : Deadline.unlimited.limit = none)]
      rfl
  rw [hsplit]
  exact (deadline.checkAt_agrees _ _).bind fun _ _ => AgreesUnless.refl _ _

/-- **A node scan** comes to what it comes to without a limit, unless a look comes too late. -/
theorem collectNodes_agrees_unlimited (snapshot : Snapshot) (label : Option String) (deadline : Deadline) :
    AgreesUnless deadline.Expires (collectNodes snapshot label deadline)
      (collectNodes snapshot label .unlimited) := by
  rw [collectNodes_eq, collectNodes_eq]
  refine (AgreesUnless.refl _ _).bind fun _ _ => AgreesUnless.bind ?_ fun _ _ => AgreesUnless.refl _ _
  unfold NodeScan.forEach
  rw [endState_bind, endState_bind]
  exact (NodeScan.visitEach_agrees (collectNode_agrees deadline) _ _).bind fun _ _ => AgreesUnless.refl _ _

/-- A node scan that is in time is one without a limit. -/
theorem collectNodes_of_inTime {deadline : Deadline} (h : deadline.InTime) (snapshot : Snapshot)
    (label : Option String) :
    collectNodes snapshot label deadline = collectNodes snapshot label .unlimited := by
  have hstep : collectNode deadline = collectNode .unlimited := by
    funext id state
    rw [collectNode, collectNode, h.checkAt, Deadline.checkAt_of_no_limit rfl]
  unfold collectNodes
  rw [hstep]

/-! ## Runs -/

namespace LoadRun

variable {run : LoadRun}

/-- The same run without a limit on its time. -/
def unhurried (run : LoadRun) : LoadRun := run.heldTo .unlimited

/-- The deadline makes no difference to how a node is read, once that has begun. -/
theorem fillListsThrough_unhurried (views : Nat → Nat → Snapshot) (position node : Nat) (id : ExternalId)
    (plans : List ListPlan) :
    ∀ list, run.unhurried.fillListsThrough views position node id list plans
      = run.fillListsThrough views position node id list plans := by
  induction plans with
  | nil => exact fun _ => rfl
  | cons plan plans ih =>
    intro list
    funext state
    unfold fillListsThrough
    rewrite [ih]
    rfl

/-- A node is read as it is without a limit, unless the look at the limit comes too late. -/
theorem fillNodeThrough_agrees_unhurried (views : Nat → Nat → Snapshot) (plans : List ListPlan)
    (position node : Nat) (output : PartitionOutput) :
    AgreesUnless run.deadline.Expires (endState (run.fillNodeThrough views plans position node) output)
      (endState (run.unhurried.fillNodeThrough views plans position node) output) := by
  simp only [endState_fillNodeThrough, fillListsThrough_unhurried]
  exact run.deadline.checkAt_bind_agrees _ _ (AgreesUnless.refl _ _)

/-- So are its degrees asked for. -/
theorem degreeStepThrough_agrees_unhurried (views : Inquiry → Snapshot) (cursor position node : Nat)
    (found : Array NodeBounds) :
    AgreesUnless run.deadline.Expires (endState (run.degreeStepThrough views cursor position node) found)
      (endState (run.unhurried.degreeStepThrough views cursor position node) found) := by
  rw [endState_degreeStepThrough, endState_degreeStepThrough]
  refine AgreesUnless.bind ?_ fun _ _ => AgreesUnless.refl _ _
  exact run.deadline.checkAt_bind_agrees _ _ (AgreesUnless.refl _ _)

/-- Partitions that begin alike agree if their steps do. -/
theorem solo_agrees_of_steps {σ : Type} {work work' : PartitionWork σ} {range : NodeRange}
    {step step' : Nat → Nat → EStateM LoadError σ Unit} {excused : LoadError → Prop}
    (hstart : work.start = work'.start) (hsteps : work.steps = stepsFor range step)
    (hsteps' : work'.steps = stepsFor range step')
    (h : ∀ position node state, AgreesUnless excused (endState (step position node) state)
      (endState (step' position node) state)) : AgreesUnless excused work.solo work'.solo := by
  unfold PartitionWork.solo
  rw [hstart, hsteps, hsteps']
  refine (AgreesUnless.refl _ _).bind fun start _ => (finish_agrees h range.toList 0 start).imp ?_
  rintro error ⟨_, _, _, _, _, _, hexcused⟩
  exact hexcused

/-- The partitions of a run come to what they come to without a limit, unless they look at it too late. -/
theorem partitionsAgree_unhurried (views : Inquiry → Snapshot) :
    run.PartitionsAgree .unlimited views views fun _ => run.deadline.Expires where
  degrees _ _ _ _ :=
    solo_agrees_of_steps rfl rfl rfl (degreeStepThrough_agrees_unhurried views _)
  regions _ _ _ _ _ _ _ _ _ _ :=
    solo_agrees_of_steps rfl rfl rfl fun _ _ => fillNodeThrough_agrees_unhurried _ _ _ _
  growing _ _ _ _ :=
    solo_agrees_of_steps rfl rfl rfl fun _ _ => fillNodeThrough_agrees_unhurried _ _ _ _

/-- **A run** comes to what it comes to without a limit, or blames a partition that has looked at it too
late. -/
theorem load_agrees_unhurried (run : LoadRun) :
    AgreesUnless (Blamed fun _ => run.deadline.Expires) run.load run.unhurried.load := by
  have hagrees := (run.partitionsAgree_unhurried fun _ => run.snapshot).load
  have hown : run.loadThrough (fun _ => run.snapshot) = run.load := loadThrough_same rfl
  have hunhurried : run.unhurried.loadThrough (fun _ => run.snapshot) = run.unhurried.load :=
    loadThrough_same rfl
  rwa [hown, show (run.heldTo .unlimited).loadThrough _ = _ from hunhurried] at hagrees

section InTime

variable (h : run.deadline.InTime)

include h

theorem degreeWork_unhurried : run.unhurried.degreeWork = run.degreeWork := by
  have hbounds : run.unhurried.boundsOf = run.boundsOf := by
    funext position node
    unfold boundsOf
    rw [h.checkAt, Deadline.checkAt_of_no_limit rfl]
    rfl
  unfold degreeWork
  rw [hbounds]
  rfl

theorem fillWork_unhurried : run.unhurried.fillWork = run.fillWork := by
  have hlists : run.unhurried.fillLists = run.fillLists := by
    funext position node id plans
    induction plans with
    | nil => rfl
    | cons plan plans ih =>
      funext state
      rw [fillLists, fillLists, ih]
      rfl
  have hnode : run.unhurried.fillNode = run.fillNode := by
    funext plans position node output
    rw [fillNode, fillNode, hlists, h.checkAt, Deadline.checkAt_of_no_limit rfl]
    rfl
  unfold fillWork
  rw [hnode]
  rfl

/-- **A run that is in time** comes to what it comes to without a limit. -/
theorem load_unhurried : run.unhurried.load = run.load := by
  have hdegrees : run.unhurried.degreeCrew = run.degreeCrew := by
    unfold degreeCrew
    rw [degreeWork_unhurried h]
    rfl
  have hregions : run.unhurried.exactFillCrew = run.exactFillCrew := by
    funext flag bounds offsets
    unfold exactFillCrew
    rw [fillWork_unhurried h]
    rfl
  have hgrowing : run.unhurried.growableFillCrew = run.growableFillCrew := by
    unfold growableFillCrew
    rw [fillWork_unhurried h]
    rfl
  have hassembled : run.unhurried.assembled = run.assembled := by
    unfold assembled exact growable
    rw [hdegrees, hregions, hgrowing]
    rfl
  unfold load
  rw [hassembled]
  rfl

end InTime

end LoadRun

/-! ## Loads -/

section Loads

variable {snapshot : Snapshot} {config : LoadConfig} {machine : Nat} {schedule : Phase → List Nat}

/-- A load without a limit on its time, whatever the configuration says of one. -/
def unhurriedLoad (snapshot : Snapshot) (config : LoadConfig) (machine : Nat)
    (schedule : Phase → List Nat) : Except LoadError (Graph × LoadSummary) := do
  config.validate
  let idMap ← collectNodes snapshot config.nodeLabel .unlimited
  let (graph, report) ← (runOver snapshot config machine idMap schedule).unhurried.load
  return (graph, summaryOf config machine graph report)

/-- **A load that is in time** is a load without a limit. -/
theorem loadSnapshot_of_inTime {clock : Clock}
    (h : Deadline.InTime { limit := config.timeout, elapsed := clock }) :
    loadSnapshot snapshot config machine schedule clock
      = unhurriedLoad snapshot config machine schedule := by
  have hrun : ∀ idMap, (runOver snapshot config machine idMap schedule clock).load
      = (runOver snapshot config machine idMap schedule).unhurried.load := fun idMap =>
    (@LoadRun.load_unhurried (runOver snapshot config machine idMap schedule clock) h).symm
  unfold loadSnapshot unhurriedLoad
  simp only [collectNodes_of_inTime h, h .numbered, hrun]
  rfl

/-- **Without a limit the clock makes no difference.** -/
theorem loadSnapshot_of_no_timeout (htimeout : config.timeout = none) (clock clock' : Clock) :
    loadSnapshot snapshot config machine schedule clock
      = loadSnapshot snapshot config machine schedule clock' := by
  rw [loadSnapshot_of_inTime (Deadline.inTime_of_no_limit htimeout),
    loadSnapshot_of_inTime (Deadline.inTime_of_no_limit htimeout)]

/-- The errors of a load that runs out of time, in one of its partitions or outside of them. -/
inductive LoadConfig.TimesOut (config : LoadConfig) : LoadError → Prop where
  | alone {limit : Duration} (h : config.timeout = some limit) : TimesOut config (.timeout limit)
  | inPartition {limit : Duration} (h : config.timeout = some limit) (number : Nat) :
      TimesOut config (.partitionFailed number (.timeout limit))

/-- A look that comes too late outside of the partitions is the end of a load. -/
theorem LoadConfig.timesOut_of_expires {clock : Clock} {error : LoadError}
    (h : Deadline.Expires { limit := config.timeout, elapsed := clock } error) : config.TimesOut error := by
  obtain ⟨limit, hlimit, rfl⟩ := h.timeout
  exact .alone hlimit

theorem LoadConfig.timesOut_of_blamed {clock : Clock} {error : LoadError}
    (h : Blamed (fun _ => Deadline.Expires { limit := config.timeout, elapsed := clock }) error) :
    config.TimesOut error := by
  obtain ⟨number, cause, rfl, hexpires | ⟨_, _, haborts⟩⟩ := h
  · obtain ⟨limit, hlimit, rfl⟩ := hexpires.timeout
    exact .inPartition hlimit number
  · -- no look is answered that somebody else has failed
    obtain ⟨limit, _, hown⟩ := haborts.timeout
    cases hown

/-- **A limit only ever stops a load.**  A load comes to what it comes to without a limit, or it fails
because it has run out of time. -/
theorem loadSnapshot_agrees_unhurried (clock : Clock) :
    AgreesUnless config.TimesOut (loadSnapshot snapshot config machine schedule clock)
      (unhurriedLoad snapshot config machine schedule) := by
  unfold loadSnapshot unhurriedLoad
  refine (AgreesUnless.refl _ _).bind fun _ _ => ?_
  refine ((collectNodes_agrees_unlimited _ _ _).imp fun _ => LoadConfig.timesOut_of_expires).bind
    fun idMap _ => ?_
  have hlook := Deadline.check_agrees { limit := config.timeout, elapsed := clock } .numbered
  have hrun := (runOver snapshot config machine idMap schedule clock).load_agrees_unhurried
  exact (hlook.imp fun _ => LoadConfig.timesOut_of_expires).bind fun _ _ =>
    (hrun.imp fun _ => LoadConfig.timesOut_of_blamed).bind fun _ _ => AgreesUnless.refl _ _

end Loads

/-- Time may run out in the last of three partitions, when the others have done their work. -/
example : (runOver isolatedNodes { concurrency := some 3, timeout := some ⟨5⟩ } 1 unreadableNodes
    (fun _ => []) fun look => if look = .counting 2 then ⟨5⟩ else ⟨1⟩).load
      = .error (.partitionFailed 2 (.timeout ⟨5⟩)) :=
  LoadRun.load_of_phaseFails rfl (.degrees rfl rfl)

end CompactGraph
