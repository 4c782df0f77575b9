/-
# Independence of the workers

How many workers share a load, how few nodes each of them gets and in which order they have their turns
makes no difference to what is loaded.  The rows of a run do not depend on it, and neither does what it
takes for the run to succeed or what it builds then.
-/
import CompactGraph.Proofs.Load.Graphs

namespace CompactGraph

/-! ## Runs that are shared out differently -/

namespace LoadRun

/-- The same run, shared out in another way. -/
def sharedOut (run : LoadRun) (workers : Nat) (concurrency : Option Nat) (minPartitionSize : Nat)
    (schedule : Phase → List Nat) : LoadRun :=
  { run with
    workers
    schedule
    config := { run.config with concurrency, minPartitionSize } }

section SharedOut

variable {run : LoadRun} {workers : Nat} {concurrency : Option Nat} {minPartitionSize : Nat}
  {schedule : Phase → List Nat}

/-- Whether a run succeeds does not depend on how it is shared out. -/
theorem complete_sharedOut_iff :
    (run.sharedOut workers concurrency minPartitionSize schedule).Complete ↔ run.Complete :=
  ⟨fun h => ⟨h.rows, h.reported, h.reserved, h.unrepeated⟩,
    fun h => ⟨h.rows, h.reported, h.reserved, h.unrepeated⟩⟩

/-- Nor does it depend on the machine. -/
theorem complete_runOver_iff (snapshot : Snapshot) (config : LoadConfig) (machine : Nat) (map : IdMap)
    (schedule : Phase → List Nat) : (runOver snapshot config machine map schedule).Complete
      ↔ (runOver snapshot config 1 map).Complete :=
  @complete_sharedOut_iff (runOver snapshot config 1 map) (config.workers machine) config.concurrency
    config.minPartitionSize schedule

/-- What it builds does not depend on that either. -/
theorem holds_sharedOut_iff {parts : Assembled} :
    (run.sharedOut workers concurrency minPartitionSize schedule).Holds parts ↔ run.Holds parts :=
  ⟨fun h => ⟨h.lists, h.answers, h.counts⟩, fun h => ⟨h.lists, h.answers, h.counts⟩⟩

end SharedOut

/-- Weights that answer for one run are stored under the same pairs, as often as they are built. -/
theorem entries_perm_of_answers {run : LoadRun} {first second : Option WeightTable}
    (h : run.Answers first) (h' : run.Answers second) :
    first.isSome = second.isSome ∧
      ((first.map WeightTable.entries).getD []).Perm ((second.map WeightTable.entries).getD []) ∧
      (first.map WeightTable.size).getD 0 = (second.map WeightTable.size).getD 0 := by
  cases first with
  | none =>
    cases second with
    | none => exact ⟨rfl, List.Perm.refl _, rfl⟩
    | some second =>
      have hunweighted : run.config.isWeighted = false := h
      rw [h'.1] at hunweighted
      cases hunweighted
  | some first =>
    cases second with
    | none =>
      have hunweighted : run.config.isWeighted = false := h'
      rw [h.1] at hunweighted
      cases hunweighted
    | some second =>
      obtain ⟨_, hsound, _, hfind⟩ := h
      obtain ⟨_, hsound', _, hfind'⟩ := h'
      -- both hold what the rows of the run say
      have hsame : ∀ key, second.find? key = first.find? key := by
        intro key
        obtain ⟨source, target, rfl⟩ := key.exists_ofPair
        rw [hfind, hfind']
      exact ⟨rfl, (hsound.entries_perm hsound' hsame).symm,
        (hsound.size_congr hsound' hsame).symm⟩

end LoadRun

/-! ## Loads -/

/-- Two loads that come to the same: equal id maps, equal lists of neighbours, the same stored weights,
and equal counts. -/
structure LoadedAlike (first second : Graph × LoadSummary) : Prop where
  idMap : first.1.idMap = second.1.idMap
  neighbors : ∀ node direction,
    first.1.neighbors node direction = second.1.neighbors node direction
  isWeighted : first.1.isWeighted = second.1.isWeighted
  storedEntries : first.1.storedEntries.Perm second.1.storedEntries
  relationshipCount : first.2.relationshipCount = second.2.relationshipCount
  storedWeights : first.2.storedWeights = second.2.storedWeights
  counts : first.2.counts = second.2.counts

/-- Outcomes of loads that both fail, or come to the same. -/
def OutcomesAlike : Except LoadError (Graph × LoadSummary) →
    Except LoadError (Graph × LoadSummary) → Prop
  | .ok first, .ok second => LoadedAlike first second
  | .error _, .error _ => True
  | _, _ => False

/-- The same options for other workers. -/
def LoadConfig.sharedBy (config : LoadConfig) (concurrency : Option Nat) (minPartitionSize : Nat) :
    LoadConfig := { config with concurrency, minPartitionSize }

/-- Graphs of one run come to the same, as often as they are built. -/
theorem loadedAlike_of_holds {run : LoadRun} {parts parts' : Assembled} (h : run.Holds parts)
    (h' : run.Holds parts') {first second : Graph × LoadSummary}
    (hgraph : first.1 = run.graphWith parts.weights) (hgraph' : second.1 = run.graphWith parts'.weights)
    (hrelationships : first.2.relationshipCount = first.1.relationshipCount)
    (hrelationships' : second.2.relationshipCount = second.1.relationshipCount)
    (hstored : first.2.storedWeights = first.1.storedWeights)
    (hstored' : second.2.storedWeights = second.1.storedWeights)
    (hcounts : first.2.counts = parts.counts) (hcounts' : second.2.counts = parts'.counts) :
    LoadedAlike first second := by
  obtain ⟨hsome, hperm, hsize⟩ := LoadRun.entries_perm_of_answers h.answers h'.answers
  refine ⟨?_, fun node direction => ?_, ?_, ?_, ?_, ?_, ?_⟩
  · rw [hgraph, hgraph']
    rfl
  · rw [hgraph, hgraph']
    rfl
  · rw [hgraph, hgraph']
    exact hsome
  · rw [hgraph, hgraph']
    exact hperm
  · rw [hrelationships, hrelationships', hgraph, hgraph']
    rfl
  · rw [hstored, hstored', hgraph, hgraph']
    exact hsize
  · rw [hcounts, hcounts', h.counts, h'.counts]

section Loads

variable {snapshot : Snapshot} {config : LoadConfig} (htimeout : config.timeout = none)

include htimeout

/-- What a load ends with, whatever its workers, is what one worker builds. -/
theorem graph_of_sharedBy (hopen : ∀ cursor, snapshot.openCursor cursor = .ok ())
    {concurrency : Option Nat} {size machine : Nat} {schedule : Phase → List Nat}
    {loaded : Graph × LoadSummary}
    (h : loadSnapshot snapshot (config.sharedBy concurrency size) machine schedule = .ok loaded) :
    ∃ map parts, collectNodes snapshot config.nodeLabel { limit := config.timeout } = .ok map ∧
      (runOver snapshot config 1 map).Complete ∧ (runOver snapshot config 1 map).Holds parts ∧
      loaded.1 = (runOver snapshot config 1 map).graphWith parts.weights ∧
      loaded.2.relationshipCount = loaded.1.relationshipCount ∧
      loaded.2.storedWeights = loaded.1.storedWeights ∧ loaded.2.counts = parts.counts := by
  have htimeout' : (config.sharedBy concurrency size).timeout = none := htimeout
  obtain ⟨map, parts, hmap, _, _, hcomplete, hholds, hgraph, hsummary⟩ :=
    graph_of_loadSnapshot hopen htimeout' h
  exact ⟨map, parts, hmap, LoadRun.complete_sharedOut_iff.mp hcomplete,
    LoadRun.holds_sharedOut_iff.mp hholds, hgraph, hsummary⟩

/-- Loads of one snapshot that succeed come to the same. -/
theorem loadedAlike_of_sharedBy (hopen : ∀ cursor, snapshot.openCursor cursor = .ok ())
    {concurrency concurrency' : Option Nat} {size size' machine machine' : Nat}
    {schedule schedule' : Phase → List Nat} {first second : Graph × LoadSummary}
    (h : loadSnapshot snapshot (config.sharedBy concurrency size) machine schedule = .ok first)
    (h' : loadSnapshot snapshot (config.sharedBy concurrency' size') machine' schedule'
      = .ok second) : LoadedAlike first second := by
  obtain ⟨map, parts, hmap, _, hholds, hgraph, hrelationships, hstored, hcounts⟩ :=
    graph_of_sharedBy htimeout hopen h
  obtain ⟨map', parts', hmap', _, hholds', hgraph', hrelationships', hstored', hcounts'⟩ :=
    graph_of_sharedBy htimeout hopen h'
  obtain rfl : map = map' := Except.ok.inj (hmap.symm.trans hmap')
  exact loadedAlike_of_holds hholds hholds' hgraph hgraph' hrelationships hrelationships' hstored
    hstored' hcounts hcounts'

/-- Where some workers succeed, all do. -/
theorem exists_sharedBy (hopen : ∀ cursor, snapshot.openCursor cursor = .ok ())
    {concurrency concurrency' : Option Nat} {size size' machine : Nat}
    {schedule : Phase → List Nat} {loaded : Graph × LoadSummary}
    (h : loadSnapshot snapshot (config.sharedBy concurrency size) machine schedule = .ok loaded)
    (hvalid : (config.sharedBy concurrency' size').validate = .ok ()) (machine' : Nat)
    (schedule' : Phase → List Nat) :
    ∃ loaded', loadSnapshot snapshot (config.sharedBy concurrency' size') machine' schedule'
      = .ok loaded' := by
  obtain ⟨map, _, hmap, hcomplete, _⟩ := graph_of_sharedBy htimeout hopen h
  have htimeout' : (config.sharedBy concurrency' size').timeout = none := htimeout
  exact exists_loadSnapshot hopen htimeout' hvalid hmap (LoadRun.complete_sharedOut_iff.mpr hcomplete)

omit htimeout in
/-- A load that succeeds has opened a cursor. -/
theorem openCursor_of_loadSnapshot {machine : Nat} {schedule : Phase → List Nat}
    {loaded : Graph × LoadSummary} (h : loadSnapshot snapshot config machine schedule = .ok loaded) :
    snapshot.openCursor 0 = .ok () := by
  obtain ⟨_, _, h⟩ := bind_eq_ok_iff.mp h
  obtain ⟨map, hmap, _⟩ := bind_eq_ok_iff.mp h
  obtain ⟨_, hopen, _⟩ := bind_eq_ok_iff.mp hmap
  exact hopen

/-- **Loads do not depend on their workers.**  For a store whose answers depend on the question alone,
two loads that differ in the number of workers, in the least size of a partition and in the order in
which workers have their turns either both fail or come to the same. -/
theorem loads_independent_of_workers
    (hopen : ∀ cursor, snapshot.openCursor cursor = snapshot.openCursor 0)
    {concurrency concurrency' : Option Nat} {size size' : Nat}
    (hvalid : (config.sharedBy concurrency size).validate = .ok ())
    (hvalid' : (config.sharedBy concurrency' size').validate = .ok ())
    (machine machine' : Nat) (schedule schedule' : Phase → List Nat) :
    OutcomesAlike (loadSnapshot snapshot (config.sharedBy concurrency size) machine schedule)
      (loadSnapshot snapshot (config.sharedBy concurrency' size') machine' schedule') := by
  have hall : snapshot.openCursor 0 = .ok () → ∀ cursor, snapshot.openCursor cursor = .ok () :=
    fun hzero cursor => (hopen cursor).trans hzero
  cases hfirst : loadSnapshot snapshot (config.sharedBy concurrency size) machine schedule with
  | ok first =>
    -- the first load has opened a cursor, so every load can
    have hcursors := hall (openCursor_of_loadSnapshot hfirst)
    obtain ⟨second, hsecond⟩ :=
      exists_sharedBy htimeout hcursors hfirst hvalid' machine' schedule'
    rw [hsecond]
    exact loadedAlike_of_sharedBy htimeout hcursors hfirst hsecond
  | error error =>
    cases hsecond : loadSnapshot snapshot (config.sharedBy concurrency' size') machine' schedule' with
    | error error' => exact trivial
    | ok second =>
      have hcursors := hall (openCursor_of_loadSnapshot hsecond)
      obtain ⟨first, hok⟩ := exists_sharedBy htimeout hcursors hsecond hvalid machine schedule
      rw [hfirst] at hok
      cases hok

end Loads

/-- A store whose answers contradict each other: relationships that start at a node end at none, and
one of them leads nowhere. -/
def contradictory : Snapshot where
  scanNodes := fun _ => { ids := [⟨7⟩, ⟨3⟩, ⟨7⟩] }
  degree := fun _ _ _ => .ok 3
  relationships := fun id direction _ =>
    match direction with
    | .outgoing => .ok [⟨⟨3⟩, 0⟩, ⟨⟨7⟩, 1⟩, ⟨⟨9⟩, 2⟩]
    | _ => if id = ⟨7⟩ then .ok [⟨⟨7⟩, 4⟩] else .ok []
  property := fun _ _ => .ok (some (.integer 1))

/-- One worker makes the same of its two nodes as two of three workers, who have a node each. -/
theorem contradictory_loads_independent_of_workers :
    partition 2 1 2 = [⟨0, 2⟩] ∧ partition 2 3 1 = [⟨0, 1⟩, ⟨1, 2⟩] ∧ OutcomesAlike
      (loadSnapshot contradictory
        (LoadConfig.sharedBy { direction := .both, weightProperty := some "cost", policy := .sum }
          (some 1) 2) 1 fun _ => [])
      (loadSnapshot contradictory
        (LoadConfig.sharedBy { direction := .both, weightProperty := some "cost", policy := .sum }
          (some 3) 1) 4 fun _ => [1, 0, 1]) :=
  ⟨rfl, rfl,
    loads_independent_of_workers rfl (fun _ => rfl) rfl rfl 1 4 (fun _ => []) (fun _ => [1, 0, 1])⟩

end CompactGraph
