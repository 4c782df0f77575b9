/-
# What a scan makes of one node

`ListScan.reading` says what a scan makes of the relationships of a node: which sightings it counts,
which targets it keeps, and what the weights of equal targets are folded into.  It reads the list of
relationships as a whole and knows nothing of other nodes.

The scan itself goes relationship by relationship and carries a state from node to node.  The main
statement, `readNode_reaches`, is that nothing of that state but the counts matters to the next node:
visiting the relationships of a node and finishing it comes to its reading, whatever the scan has seen
before.
-/
import CompactGraph.Proofs.Adjacency.Targets
import CompactGraph.Proofs.Outcomes
import CompactGraph.Scan.ListScan

namespace CompactGraph

/-- What a scan makes of the relationships of one node. -/
structure NodeReading where
  counts : ScanCounts := {}
  targets : List NodeId := []
  /-- One weight for each target, if weights are read. -/
  folded : List (NodeId × Float) := []
  deriving Inhabited

namespace ScanCounts

theorem zero_add (counts : ScanCounts) : add {} counts = counts := by
  simp [add]

theorem add_zero (counts : ScanCounts) : add counts {} = counts := by
  simp [add]

theorem add_assoc (a b c : ScanCounts) : add (add a b) c = add a (add b c) := by
  simp [add, Nat.add_assoc]

/-- Counts that are added one by one add up to their total. -/
theorem foldl_add (counts : List ScanCounts) (start : ScanCounts) :
    counts.foldl add start = add start (total counts) := by
  induction counts generalizing start with
  | nil => exact (add_zero start).symm
  | cons first counts ih =>
    have htotal : total (first :: counts) = add first (total counts) := by
      rw [total, List.foldl_cons, ih, zero_add]
    rw [List.foldl_cons, ih, htotal, add_assoc]

@[simp] theorem total_nil : total [] = {} := rfl

@[simp] theorem total_cons (first : ScanCounts) (counts : List ScanCounts) :
    total (first :: counts) = add first (total counts) := by
  rw [total, List.foldl_cons, foldl_add, zero_add]

/-- The total of two stretches is the sum of both totals. -/
theorem total_append (first second : List ScanCounts) :
    total (first ++ second) = add (total first) (total second) := by
  induction first with
  | nil => exact (zero_add _).symm
  | cons counts first ih => rw [List.cons_append, total_cons, ih, total_cons, add_assoc]

theorem total_flatMap {α : Type} (items : List α) (counts : α → List ScanCounts) :
    total (items.flatMap counts) = total (items.map fun item => total (counts item)) := by
  induction items with
  | nil => rfl
  | cons item items ih => rw [List.flatMap_cons, total_append, ih, List.map_cons, total_cons]

end ScanCounts

namespace ListScan

/-! ## The reading of a node -/

/-- Whether a relationship is a self-loop for a scan that meets self-loops twice. -/
def meetsTwice (scan : ListScan) (node : NodeId) (relationship : RelationshipRef) : Bool :=
  scan.kind.isUndirected && scan.idMap.toMapped relationship.other == node

/-- The sightings that count, when the self-loops in `seen` have been met before. -/
def sightings (scan : ListScan) (node : NodeId) (seen : List RelationshipId) :
    List RelationshipRef → List RelationshipRef
  | [] => []
  | relationship :: rest =>
    if scan.meetsTwice node relationship then
      if seen.contains relationship.id then scan.sightings node seen rest
      else relationship :: scan.sightings node (relationship.id :: seen) rest
    else relationship :: scan.sightings node seen rest

/-- The loaded endpoints of sightings. -/
def arrivals (scan : ListScan) (sightings : List RelationshipRef) :
    List (NodeId × RelationshipId) :=
  (sightings.map fun relationship => (scan.idMap.toMapped relationship.other, relationship.id)).filter
    fun arrival => arrival.1.isMapped

/-- The arrivals that are kept after one at the node `previous`: all of them, or all but those at the
same node as the one before. -/
def keptAfter (skips : Bool) (previous : NodeId) :
    List (NodeId × RelationshipId) → List (NodeId × RelationshipId)
  | [] => []
  | arrival :: rest =>
    if skips && arrival.1 == previous then keptAfter skips previous rest
    else arrival :: keptAfter skips arrival.1 rest

/-- The arrivals of a node that are kept. -/
def kept (scan : ListScan) (sightings : List RelationshipRef) : List (NodeId × RelationshipId) :=
  keptAfter scan.skipsRepeats NodeId.unmapped (scan.arrivals sightings)

/-- The weight of an arrival, if it has one. -/
def weightAt (read : PropertyReader) (name : String) (arrival : NodeId × RelationshipId) :
    Except LoadError (NodeId × Option Float) :=
  (fun value => (arrival.1, value.bind PropertyValue.asWeight)) <$> read arrival.2 name

/-- The weights of arrivals, if weights are read. -/
def weightsOf (scan : ListScan) (read : PropertyReader) (kept : List (NodeId × RelationshipId)) :
    Except LoadError (List (NodeId × Option Float)) :=
  match scan.property with
  | none => .ok []
  | some name => kept.mapM (weightAt read name)

/-- The weight of an arrival that has none is the default one. -/
def withDefault (scan : ListScan) (weight : NodeId × Option Float) : NodeId × Float :=
  (weight.1, weight.2.getD scan.defaultWeight)

/-- What sightings and weights count for. -/
def countsOf (scan : ListScan) (sightings : List RelationshipRef)
    (weights : List (NodeId × Option Float)) : ScanCounts where
  scanned := sightings.length
  unmapped := sightings.countP fun relationship => !(scan.idMap.toMapped relationship.other).isMapped
  fallback := weights.countP fun weight => weight.2.isNone

/-- **The reading of a node**, given its relationships. -/
def reading (scan : ListScan) (read : PropertyReader) (node : NodeId)
    (found : List RelationshipRef) : Except LoadError NodeReading := do
  let sightings := scan.sightings node [] found
  let kept := scan.kept sightings
  let weights ← scan.weightsOf read kept
  let folded ← foldPending scan.policy (scan.conflict node) (sortPending (weights.map scan.withDefault))
  return {
    counts := scan.countsOf sightings weights
    targets := compact (sortTargets (kept.map Prod.fst))
    folded }

/-! ## One sighting after another -/

/-- A sighting of a loaded endpoint arrives before all later ones, and any other does not arrive. -/
theorem arrivals_cons (scan : ListScan) (relationship : RelationshipRef)
    (sightings : List RelationshipRef) :
    scan.arrivals (relationship :: sightings)
      = if (scan.idMap.toMapped relationship.other).isMapped
        then (scan.idMap.toMapped relationship.other, relationship.id) :: scan.arrivals sightings
        else scan.arrivals sightings := by
  rw [arrivals, List.map_cons, List.filter_cons]
  rfl

/-- What a stretch of sightings adds to the state of a scan. -/
structure Progress (scan : ListScan) (before after : ScanState)
    (kept : List (NodeId × RelationshipId)) (weights : List (NodeId × Option Float))
    (counts : ScanCounts) : Prop where
  source : after.buffer.source = before.buffer.source
  skips : after.buffer.skipsRepeats = before.buffer.skipsRepeats
  tracks : before.buffer.Tracks → after.buffer.Tracks
  targets : after.buffer.targets.toList = before.buffer.targets.toList ++ kept.map Prod.fst
  pending : after.pending.toList = before.pending.toList ++ weights.map scan.withDefault
  counts : after.counts = before.counts.add counts

theorem Progress.refl (scan : ListScan) (state : ScanState) : Progress scan state state [] [] {} where
  source := rfl
  skips := rfl
  tracks := id
  targets := by simp
  pending := by simp
  counts := (ScanCounts.add_zero _).symm

/-- Two stretches of sightings, one after the other, add up. -/
theorem Progress.trans {scan : ListScan} {first second third : ScanState}
    {kept kept' : List (NodeId × RelationshipId)} {weights weights' : List (NodeId × Option Float)}
    {counts counts' : ScanCounts} (h : Progress scan first second kept weights counts)
    (h' : Progress scan second third kept' weights' counts') :
    Progress scan first third (kept ++ kept') (weights ++ weights') (counts.add counts') where
  source := h'.source.trans h.source
  skips := h'.skips.trans h.skips
  tracks := fun htracks => h'.tracks (h.tracks htracks)
  targets := by rw [h'.targets, h.targets, List.map_append, List.append_assoc]
  pending := by rw [h'.pending, h.pending, List.map_append, List.append_assoc]
  counts := by rw [h'.counts, h.counts, ScanCounts.add_assoc]

/-- The state after a sighting that counts: a self-loop is remembered. -/
def noted (scan : ListScan) (relationship : RelationshipRef) (state : ScanState) : ScanState :=
  countScanned (if scan.meetsTwice state.buffer.source relationship
    then { state with selfLoops := relationship.id :: state.selfLoops } else state)

theorem noted_buffer (scan : ListScan) (relationship : RelationshipRef) (state : ScanState) :
    (scan.noted relationship state).buffer = state.buffer := by
  unfold noted
  rw [countScanned]
  split <;> rfl

theorem noted_pending (scan : ListScan) (relationship : RelationshipRef) (state : ScanState) :
    (scan.noted relationship state).pending = state.pending := by
  unfold noted
  rw [countScanned]
  split <;> rfl

/-- A sighting that counts is scanned. -/
theorem noted_counts (scan : ListScan) (relationship : RelationshipRef) (state : ScanState) :
    (scan.noted relationship state).counts = state.counts.add { scanned := 1 } := by
  unfold noted
  rw [countScanned]
  split <;> rfl

/-- The self-loops that are remembered after a sighting that counts. -/
theorem noted_selfLoops (scan : ListScan) (relationship : RelationshipRef) (state : ScanState) :
    (scan.noted relationship state).selfLoops
      = if scan.meetsTwice state.buffer.source relationship
        then relationship.id :: state.selfLoops else state.selfLoops := by
  unfold noted
  rw [countScanned]
  split <;> rfl

/-- What a sighting comes to: a self-loop that was met before is passed over, and any other sighting
counts and is kept if its endpoint is loaded and the buffer takes it. -/
theorem visit_eq (scan : ListScan) (read : PropertyReader) (relationship : RelationshipRef)
    (state : ScanState) :
    scan.visit read relationship state =
      if scan.meetsTwice state.buffer.source relationship
        && state.selfLoops.contains relationship.id then .ok false state
      else if !(scan.idMap.toMapped relationship.other).isMapped then
        .ok false (countUnmapped (scan.noted relationship state))
      else
        let (taken, buffer) :=
          (scan.noted relationship state).buffer.add (scan.idMap.toMapped relationship.other)
        if taken then
          (scan.readWeight read relationship.id (scan.idMap.toMapped relationship.other) *> pure true)
            { scan.noted relationship state with buffer }
        else .ok false { scan.noted relationship state with buffer } := rfl

/-- The node of the last of some arrivals, or the one before them. -/
def lastNode (previous : NodeId) (arrivals : List (NodeId × RelationshipId)) : NodeId :=
  (arrivals.getLast?.map Prod.fst).getD previous

theorem lastNode_cons (previous : NodeId) (arrival : NodeId × RelationshipId)
    (arrivals : List (NodeId × RelationshipId)) :
    lastNode previous (arrival :: arrivals) = lastNode arrival.1 arrivals := by
  rw [lastNode, lastNode, List.getLast?_cons]
  cases arrivals.getLast? <;> rfl

theorem keptAfter_append (skips : Bool) (previous : NodeId)
    (first second : List (NodeId × RelationshipId)) :
    keptAfter skips previous (first ++ second)
      = keptAfter skips previous first ++ keptAfter skips (lastNode previous first) second := by
  induction first generalizing previous with
  | nil => rfl
  | cons arrival first ih =>
    rw [List.cons_append, keptAfter, keptAfter, lastNode_cons]
    by_cases hskip : (skips && arrival.1 == previous) = true
    · rw [if_pos hskip, if_pos hskip, ih]
      have heq : arrival.1 = previous := by
        simp only [Bool.and_eq_true, beq_iff_eq] at hskip
        exact hskip.2
      rw [heq]
    · rw [if_neg hskip, if_neg hskip, ih, List.cons_append]

/-- The weight of an arrival is kept for later, and counted if it is the default one. -/
theorem readWeight_reaches (scan : ListScan) (read : PropertyReader) (id : RelationshipId)
    (target : NodeId) (state : ScanState) :
    Reaches (scan.weightsOf read [(target, id)]) (scan.readWeight read id target state)
      fun weights after => after.buffer = state.buffer ∧ after.selfLoops = state.selfLoops ∧
        after.pending.toList = state.pending.toList ++ weights.map scan.withDefault ∧
        after.counts
          = state.counts.add { fallback := weights.countP fun weight => weight.2.isNone } := by
  unfold weightsOf
  rw [readWeight]
  cases scan.property with
  | none => simp [Reaches, ScanCounts.add]
  | some name =>
    cases hread : read id name with
    | error error => simp [Reaches, weightAt, hread, bind, Except.bind]
    | ok value =>
      cases hweight : value.bind PropertyValue.asWeight with
      | none =>
        simp [Reaches, weightAt, hread, hweight, bind, Except.bind, pure, Except.pure, keep,
          countFallback, withDefault, ScanCounts.add]
      | some weight =>
        simp [Reaches, weightAt, hread, hweight, bind, Except.bind, pure, Except.pure, keep,
          withDefault, ScanCounts.add]

/-- What a sighting that counts does to the state of a scan, given the weight it brings. -/
structure Sighted (scan : ListScan) (relationship : RelationshipRef) (before after : ScanState)
    (weights : List (NodeId × Option Float)) : Prop where
  progress : Progress scan before after (keptAfter before.buffer.skipsRepeats before.buffer.previous
    (scan.arrivals [relationship])) weights (scan.countsOf [relationship] weights)
  selfLoops : after.selfLoops = (scan.noted relationship before).selfLoops
  previous : after.buffer.previous = lastNode before.buffer.previous (scan.arrivals [relationship])

theorem weightsOf_nil (scan : ListScan) (read : PropertyReader) : scan.weightsOf read [] = .ok [] := by
  unfold weightsOf
  cases scan.property <;> rfl

/-- A sighting of an endpoint that is not loaded is only counted. -/
theorem sighted_unmapped {scan : ListScan} {relationship : RelationshipRef} {state : ScanState}
    (hmapped : ¬ (scan.idMap.toMapped relationship.other).isMapped = true) :
    Sighted scan relationship state (countUnmapped (scan.noted relationship state)) [] := by
  have hkept : scan.arrivals [relationship] = [] := by
    rw [arrivals_cons, if_neg hmapped]
    rfl
  refine ⟨⟨?_, ?_, ?_, ?_, ?_, ?_⟩, rfl, ?_⟩
  · unfold countUnmapped
    rw [noted_buffer]
  · unfold countUnmapped
    rw [noted_buffer]
  · unfold countUnmapped
    rw [noted_buffer]
    exact id
  · unfold countUnmapped
    rw [noted_buffer, hkept]
    simp [keptAfter]
  · unfold countUnmapped
    rw [noted_pending]
    simp
  · simp [countUnmapped, noted_counts, countsOf, hmapped, ScanCounts.add]
  · unfold countUnmapped
    rw [noted_buffer, hkept]
    rfl

/-- A sighting that repeats the one before it and may be skipped is only counted. -/
theorem sighted_skipped {scan : ListScan} {relationship : RelationshipRef} {state : ScanState}
    (hmapped : (scan.idMap.toMapped relationship.other).isMapped = true)
    (hskip : (state.buffer.skipsRepeats
      && scan.idMap.toMapped relationship.other == state.buffer.previous) = true) :
    Sighted scan relationship state (scan.noted relationship state) [] := by
  have harrivals : scan.arrivals [relationship]
      = [(scan.idMap.toMapped relationship.other, relationship.id)] := by
    rw [arrivals_cons, if_pos hmapped]
    rfl
  have hkept : keptAfter state.buffer.skipsRepeats state.buffer.previous
      (scan.arrivals [relationship]) = [] := by
    rw [harrivals, keptAfter, if_pos hskip, keptAfter]
  refine ⟨⟨?_, ?_, ?_, ?_, ?_, ?_⟩, rfl, ?_⟩
  · rw [noted_buffer]
  · rw [noted_buffer]
  · rw [noted_buffer]
    exact id
  · rw [noted_buffer, hkept]
    simp
  · rw [noted_pending]
    simp
  · simp [noted_counts, countsOf, hmapped]
  · -- the endpoint is the one before it
    simp only [Bool.and_eq_true, beq_iff_eq] at hskip
    rw [noted_buffer, harrivals, ← hskip.2]
    rfl

/-- A sighting that is kept brings its weight. -/
theorem sighted_kept {scan : ListScan} {relationship : RelationshipRef} {state after : ScanState}
    {weights : List (NodeId × Option Float)}
    (hmapped : (scan.idMap.toMapped relationship.other).isMapped = true)
    (hskip : ¬ (state.buffer.skipsRepeats
      && scan.idMap.toMapped relationship.other == state.buffer.previous) = true)
    (hbuffer : after.buffer = (state.buffer.add (scan.idMap.toMapped relationship.other)).2)
    (hloops : after.selfLoops = (scan.noted relationship state).selfLoops)
    (hpending : after.pending.toList = state.pending.toList ++ weights.map scan.withDefault)
    (hcounts : after.counts = (scan.noted relationship state).counts.add
      { fallback := weights.countP fun weight => weight.2.isNone }) :
    Sighted scan relationship state after weights := by
  have harrivals : scan.arrivals [relationship]
      = [(scan.idMap.toMapped relationship.other, relationship.id)] := by
    rw [arrivals_cons, if_pos hmapped]
    rfl
  have hkept : keptAfter state.buffer.skipsRepeats state.buffer.previous
      (scan.arrivals [relationship])
      = [(scan.idMap.toMapped relationship.other, relationship.id)] := by
    rw [harrivals, keptAfter, if_neg hskip, keptAfter]
  have htracks : state.buffer.Tracks → after.buffer.Tracks := by
    intro htracks
    rw [hbuffer]
    exact htracks.add hmapped
  rw [TargetBuffer.add, if_neg hskip] at hbuffer
  refine ⟨⟨?_, ?_, htracks, ?_, hpending, ?_⟩, hloops, ?_⟩
  · rw [hbuffer]
  · rw [hbuffer]
  · rw [hbuffer, hkept]
    simp
  · rw [hcounts, noted_counts]
    simp [countsOf, hmapped, ScanCounts.add]
  · rw [hbuffer, harrivals]
    rfl

/-- **One sighting** that is not passed over. -/
theorem visit_reaches {scan : ListScan} (read : PropertyReader) {relationship : RelationshipRef}
    {state : ScanState} (hmet : ¬ (scan.meetsTwice state.buffer.source relationship
      && state.selfLoops.contains relationship.id) = true) :
    Reaches (scan.weightsOf read (keptAfter state.buffer.skipsRepeats state.buffer.previous
        (scan.arrivals [relationship])))
      (scan.visit read relationship state)
      fun weights after => Sighted scan relationship state after weights := by
  rw [visit_eq, if_neg hmet, arrivals_cons]
  by_cases hmapped : (scan.idMap.toMapped relationship.other).isMapped = true
  · rw [if_pos hmapped, if_neg (by simp [hmapped]), noted_buffer, keptAfter]
    by_cases hskip : (state.buffer.skipsRepeats
        && scan.idMap.toMapped relationship.other == state.buffer.previous) = true
    · -- the buffer skips the endpoint
      have hadd : state.buffer.add (scan.idMap.toMapped relationship.other)
          = (false, state.buffer) := by
        rw [TargetBuffer.add, if_pos hskip]
      rw [if_pos hskip, hadd]
      show Reaches (scan.weightsOf read []) _ _
      rw [weightsOf_nil]
      refine Reaches.ok_iff.mpr ⟨_, _, rfl, ?_⟩
      have hsame : { scan.noted relationship state with buffer := state.buffer }
          = scan.noted relationship state := by
        rw [← noted_buffer scan relationship state]
      show Sighted scan relationship state
        { scan.noted relationship state with buffer := state.buffer } []
      rw [hsame]
      exact sighted_skipped hmapped hskip
    · -- the buffer takes the endpoint, and its weight is read
      have hadd : (state.buffer.add (scan.idMap.toMapped relationship.other)).1 = true := by
        rw [TargetBuffer.add, if_neg hskip]
      rw [if_neg hskip]
      simp only [hadd, if_true]
      refine Reaches.answer ?_ true
      refine (readWeight_reaches scan read relationship.id _ _).imp ?_
      rintro weights after _ ⟨hbuffer, hloops, hpending, hcounts⟩
      refine sighted_kept hmapped hskip hbuffer hloops ?_ hcounts
      rw [hpending]
      exact congrArg (· ++ _) (congrArg Array.toList (noted_pending scan relationship state))
  · rw [if_neg hmapped, if_pos (by simp [hmapped])]
    show Reaches (scan.weightsOf read []) _ _
    rw [weightsOf_nil]
    exact Reaches.ok_iff.mpr ⟨_, _, rfl, sighted_unmapped hmapped⟩

/-! ## All sightings of a node -/

/-- The sightings after the first are visited only if it can be visited. -/
theorem visitAll_cons (scan : ListScan) (read : PropertyReader) (relationship : RelationshipRef)
    (rest : List RelationshipRef) (state : ScanState) :
    scan.visitAll read (relationship :: rest) state
      = match scan.visit read relationship state with
        | .ok _ state => scan.visitAll read rest state
        | .error error state => .error error state := by
  show EStateM.bind _ _ _ = _
  rw [EStateM.bind]
  cases scan.visit read relationship state <;> rfl

/-- The weights of later sightings are read after those of the earlier ones. -/
theorem weightsOf_append (scan : ListScan) (read : PropertyReader)
    (first second : List (NodeId × RelationshipId)) :
    scan.weightsOf read (first ++ second) = do
      let weights ← scan.weightsOf read first
      let rest ← scan.weightsOf read second
      return weights ++ rest := by
  simp only [weightsOf]
  cases scan.property with
  | none => rfl
  | some name => simp only [List.mapM_append]

theorem arrivals_append (scan : ListScan) (first second : List RelationshipRef) :
    scan.arrivals (first ++ second) = scan.arrivals first ++ scan.arrivals second := by
  simp [arrivals]

theorem countsOf_append (scan : ListScan) (first second : List RelationshipRef)
    (weights weights' : List (NodeId × Option Float)) :
    scan.countsOf (first ++ second) (weights ++ weights')
      = (scan.countsOf first weights).add (scan.countsOf second weights') := by
  simp [countsOf, ScanCounts.add]

/-- **All sightings**, from any state on. -/
theorem visitAll_reaches (scan : ListScan) (read : PropertyReader) (found : List RelationshipRef) :
    ∀ state : ScanState,
      Reaches (scan.weightsOf read (keptAfter state.buffer.skipsRepeats state.buffer.previous
          (scan.arrivals (scan.sightings state.buffer.source state.selfLoops found))))
        (scan.visitAll read found state)
        fun weights after => Progress scan state after
          (keptAfter state.buffer.skipsRepeats state.buffer.previous
            (scan.arrivals (scan.sightings state.buffer.source state.selfLoops found)))
          weights (scan.countsOf (scan.sightings state.buffer.source state.selfLoops found) weights) := by
  induction found with
  | nil =>
    intro state
    show Reaches (scan.weightsOf read []) _ _
    rw [weightsOf_nil]
    exact Reaches.ok_iff.mpr ⟨(), state, rfl, Progress.refl scan state⟩
  | cons relationship found ih =>
    intro state
    rw [visitAll_cons, sightings]
    by_cases hmet : (scan.meetsTwice state.buffer.source relationship
        && state.selfLoops.contains relationship.id) = true
    · -- a self-loop that was met before changes nothing
      rw [visit_eq, if_pos hmet]
      simp only [Bool.and_eq_true] at hmet
      rw [if_pos hmet.1, if_pos hmet.2]
      exact ih state
    · -- any other sighting counts, and the rest is visited from the state that it leads to
      have hnext : scan.sightings state.buffer.source state.selfLoops (relationship :: found)
          = relationship :: scan.sightings state.buffer.source
            (scan.noted relationship state).selfLoops found := by
        rw [sightings, noted_selfLoops]
        by_cases hloop : scan.meetsTwice state.buffer.source relationship = true
        · have hfresh : ¬ state.selfLoops.contains relationship.id = true := by
            intro hseen
            exact hmet (by rw [hloop, hseen]; rfl)
          rw [if_pos hloop, if_neg hfresh, if_pos hloop]
        · rw [if_neg hloop, if_neg hloop]
      rw [← sightings, hnext]
      set rest := scan.sightings state.buffer.source (scan.noted relationship state).selfLoops found
        with hrest
      have hsplit : relationship :: rest = [relationship] ++ rest := rfl
      rw [hsplit, arrivals_append, keptAfter_append, weightsOf_append]
      refine Reaches.bind (visit_reaches read hmet) ?_ ?_
      · intro error state' hvisit
        exact ⟨state', by rw [hvisit]⟩
      intro weights _ middle _ hvisit hsighted
      rw [hvisit]
      -- the state in the middle knows the node and the self-loops that the rest depends on
      have hstart : scan.sightings middle.buffer.source middle.selfLoops found = rest := by
        rw [hsighted.progress.source, hsighted.selfLoops]
      have hih := ih middle
      rw [hstart, hsighted.progress.skips, hsighted.previous] at hih
      refine Reaches.map (hih.imp ?_)
      intro rest' after _ hprogress
      rw [countsOf_append]
      exact hsighted.progress.trans hprogress

/-! ## Finishing a node -/

/-- Weights written into a table, if there is one. -/
def store (writes : List (PairKey × Float)) :
    Option WeightTable → Except LoadError (Option WeightTable)
  | none => .ok none
  | some table => some <$> endState (WeightTable.putAll writes) table

/-- What pending weights of a node are folded into, and the table that this has been written to. -/
def settled (scan : ListScan) (node : NodeId) (pending : List (NodeId × Float))
    (weights : Option WeightTable) : Except LoadError (List (NodeId × Float) × Option WeightTable) := do
  let folded ← foldPending scan.policy (scan.conflict node) (sortPending pending)
  let weights ← store (scan.writes node folded) weights
  return (folded, weights)

/-- Without weights there is nothing to fold. -/
theorem settled_nil (scan : ListScan) (node : NodeId) (weights : Option WeightTable) :
    scan.settled node [] weights = .ok ([], weights) := by
  rw [settled, sortPending, List.mergeSort_nil]
  cases weights <;> rfl

/-- The folded weights of a node go into the table, and its targets become its list. -/
theorem flushInto_reaches {scan : ListScan} {state : ScanState} {weights : Option WeightTable}
    (htracks : state.buffer.Tracks) (hunread : scan.property = none → state.pending.toList = [])
    (hweights : weights = none → scan.property = none) :
    Reaches (scan.settled state.buffer.source state.pending.toList weights)
      (scan.flushInto (state, weights))
      fun settled after => after.2 = settled.2 ∧ after.1.counts = state.counts ∧
        after.1.buffer.skipsRepeats = state.buffer.skipsRepeats ∧
        after.1.buffer.targets.toList = compact (sortTargets state.buffer.targets.toList) := by
  by_cases hproperty : scan.property = none
  · -- no weights are read, so there is nothing to settle
    rw [hunread hproperty, settled_nil]
    refine Reaches.ok_iff.mpr ⟨(flush state).buffer.targets, (flush state, weights), ?_, rfl, rfl, rfl,
      htracks.flush⟩
    cases weights with
    | none => rfl
    | some table => simp [flushInto, hproperty, targets]
  · obtain ⟨table, rfl⟩ := Option.ne_none_iff_exists'.mp fun hnone => hproperty (hweights hnone)
    have hread : scan.property.isNone = false := by
      rw [Option.isNone_eq_false_iff, Option.isSome_iff_ne_none]
      exact hproperty
    rw [settled]
    simp only [flushInto, hread, Bool.false_eq_true, if_false]
    cases hfolded : foldPending scan.policy (scan.conflict state.buffer.source)
        (sortPending state.pending.toList) with
    | error error =>
      have hsettle : scan.settle (flush state) = .error error
          { flush state with pending := (sortPending state.pending.toList).toArray } := by
        simp only [settle, flush, TargetBuffer.flush, hfolded]
      rw [hsettle]
      exact Reaches.error_iff.mpr ⟨_, rfl⟩
    | ok folded =>
      have hsettle : scan.settle (flush state) = .ok (scan.writes state.buffer.source folded)
          { flush state with pending := folded.toArray } := by
        simp only [settle, flush, TargetBuffer.flush, hfolded]
      simp only [hsettle, bind, Except.bind, store, endState]
      cases WeightTable.putAll (scan.writes state.buffer.source folded) table with
      | error error table => exact Reaches.error_iff.mpr ⟨_, rfl⟩
      | ok _ table => exact Reaches.ok_iff.mpr ⟨_, _, rfl, rfl, rfl, rfl, htracks.flush⟩

/-- What finishing a node answers are the targets that it leaves in the buffer. -/
theorem targets_of_flushInto {scan : ListScan} {state : ScanState} {weights weights' : Option WeightTable}
    {answer : Array NodeId} {after : ScanState}
    (h : scan.flushInto (state, weights) = .ok answer (after, weights')) :
    answer = after.buffer.targets := by
  simp only [flushInto] at h
  split at h
  · cases h
    rfl
  · split at h
    · cases h
      rfl
    · split at h
      · cases h
      · split at h
        · cases h
        · cases h
          rfl

/-- A scan that reads no weights keeps none. -/
theorem weightsOf_unread {scan : ListScan} (h : scan.property = none) (read : PropertyReader)
    (kept : List (NodeId × RelationshipId)) : scan.weightsOf read kept = .ok [] := by
  unfold weightsOf
  rw [h]

/-- What a node comes to, from any state of its scan: its reading, and the table that its folded weights
have been written to. -/
def readInto (scan : ListScan) (read : PropertyReader) (node : NodeId) (found : List RelationshipRef)
    (weights : Option WeightTable) : Except LoadError (NodeReading × Option WeightTable) := do
  let reading ← scan.reading read node found
  let weights ← store (scan.writes node reading.folded) weights
  return (reading, weights)

/-- **A whole node** comes to its reading, whatever the scan has seen before. -/
theorem readNode_reaches {scan : ListScan} (read : PropertyReader) (node : NodeId)
    (found : List RelationshipRef) {state : ScanState} {weights : Option WeightTable}
    (hskips : state.buffer.skipsRepeats = scan.skipsRepeats)
    (hweights : weights = none → scan.property = none) :
    Reaches (scan.readInto read node found weights)
      (match scan.visitAll read found (prepare node state) with
        | .error error state => .error error (state, weights)
        | .ok () state => scan.flushInto (state, weights))
      fun into after => after.2 = into.2 ∧ after.1.counts = state.counts.add into.1.counts ∧
        after.1.buffer.skipsRepeats = scan.skipsRepeats ∧
        after.1.buffer.targets.toList = into.1.targets := by
  have hvisit := visitAll_reaches scan read found (prepare node state)
  have hstart : (prepare node state).buffer.Tracks := state.buffer.tracks_prepare node
  have hkept : keptAfter (prepare node state).buffer.skipsRepeats (prepare node state).buffer.previous
      (scan.arrivals (scan.sightings (prepare node state).buffer.source (prepare node state).selfLoops
        found)) = scan.kept (scan.sightings node [] found) := by
    unfold kept
    rw [← hskips]
    rfl
  rw [hkept] at hvisit
  -- reading is visiting, and settling what it has left behind
  have hsplit : scan.readInto read node found weights
      = scan.weightsOf read (scan.kept (scan.sightings node [] found)) >>=
        fun weights' : List (NodeId × Option Float) => (do
          let settled ← scan.settled node (weights'.map scan.withDefault) weights
          return ({
            counts := scan.countsOf (scan.sightings node [] found) weights'
            targets := compact (sortTargets ((scan.kept (scan.sightings node [] found)).map Prod.fst))
            folded := settled.1 }, settled.2)) := by
    simp only [readInto, reading, settled, bind_assoc, pure_bind]
  rw [hsplit]
  refine Reaches.bind hvisit ?_ ?_
  · intro error after hresult
    exact ⟨(after, weights), by rw [hresult]⟩
  intro read' _ after hread hresult hprogress
  rw [hresult]
  have hsource : after.buffer.source = node := hprogress.source
  have hpending : after.pending.toList = read'.map scan.withDefault := hprogress.pending
  have hflush := flushInto_reaches (hprogress.tracks hstart) (by
    intro hproperty
    rw [weightsOf_unread hproperty] at hread
    cases hread
    rw [hpending, List.map_nil]) hweights
  rw [hsource, hpending] at hflush
  refine Reaches.map (hflush.imp ?_)
  rintro settled final _ ⟨htable, hcounts, hfinal, htargets⟩
  refine ⟨htable, ?_, ?_, ?_⟩
  · rw [hcounts, hprogress.counts]
    rfl
  · rw [hfinal, hprogress.skips]
    exact hskips
  · rw [htargets, hprogress.targets]
    rfl

end ListScan

end CompactGraph
