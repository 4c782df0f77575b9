/-
# One scan for many nodes

A worker looks at all its nodes with one scan, whose buffers are used again for each of them.  What the
scan comes to at a node depends on this node alone (`ListScan.Settles`): its targets are the loaded
endpoints of its relationships, in strictly ascending order, and each target gets one weight, which all
relationships that lead there are folded into.  Nothing is left over from the nodes before, even where
their weights were refused, and dropping repetitions on arrival does not show.
-/
import CompactGraph.Proofs.Scan.Keys
import CompactGraph.Proofs.Scan.Loops

namespace CompactGraph

/-- A node that a scan looks at. -/
structure NodeVisit where
  node : NodeId
  /-- What the store delivers for the node. -/
  found : List RelationshipRef
  read : PropertyReader
  /-- The table that the weights go into, if there is one. -/
  table : Option WeightTable

/-- What the properties of relationships are read as. -/
def NodeVisit.valueOf (visit : NodeVisit) (id : RelationshipId) (name : String) :
    Option PropertyValue :=
  resultOf (visit.read id name)

/-- How a scan finishes with a node. -/
abbrev VisitResult := EStateM.Result LoadError (ScanState × Option WeightTable) (Array NodeId)

namespace VisitResult

/-- The scan after a node, which can go on whether or not the node was refused. -/
def scanAfter : VisitResult → ScanState
  | .ok _ after | .error _ after => after.1

/-- The targets that the buffer holds after a node. -/
def targetsLeft (result : VisitResult) : List NodeId := result.scanAfter.buffer.targets.toList

/-- All these writes have gone into a table, or those before the first that the table refuses. -/
def Writes (result : VisitResult) (table : WeightTable) (writes : List (PairKey × Float)) : Prop :=
  match WeightTable.putAll writes table with
  | .ok () stored => ∃ answer after, result = .ok answer (after, some stored)
  | .error error stored => ∃ after, result = .error error (after, some stored)

end VisitResult

open VisitResult (scanAfter)

namespace ListScan

/-! ## Going through nodes -/

/-- Turn to a node, look at its relationships, and finish it. -/
def visitNode (scan : ListScan) (visit : NodeVisit) (state : ScanState) : VisitResult :=
  match scan.visitAll visit.read visit.found (prepare visit.node state) with
  | .error error state => .error error (state, visit.table)
  | .ok () state => scan.flushInto (state, visit.table)

/-- How a scan finishes with each of several nodes, one after another. -/
def visitNodes (scan : ListScan) : List NodeVisit → ScanState → List VisitResult
  | [], _ => []
  | visit :: visits, state =>
    scan.visitNode visit state :: scan.visitNodes visits (scan.visitNode visit state).scanAfter

/-! ## What a node comes to by itself -/

section Visit

variable (scan : ListScan) (visit : NodeVisit)

/-- The relationships that lead from the node to a target, in order of arrival.  A scan in both
directions counts each self-loop once. -/
def idsToward (target : NodeId) : List RelationshipId :=
  let ids := (scan.leadingTo target visit.found).map RelationshipRef.id
  if scan.kind.isUndirected = true ∧ target = visit.node then ids.eraseDups else ids

/-- The fold of the weights of all relationships that lead to a target. -/
def foldToward (name : String) (target : NodeId) : Option Float :=
  foldWeights scan.policy ((scan.idsToward visit target).map (scan.weightIn visit.valueOf name))

/-- The writes that store a weight seen from a node towards a target. -/
def puts (kind : ScanKind) (node target : NodeId) (weight : Float) : List (PairKey × Float) :=
  match kind with
  | .incoming _ => [(.ofPair target node, weight)]
  | .symmetric =>
    if target = node then [(.ofPair node node, weight)]
    else [(.ofPair node target, weight), (.ofPair target node, weight)]
  | .outgoing _ | .undirected _ => [(.ofPair node target, weight)]

/-- How a scan finishes with a node, told by the node alone. -/
structure Settles (result : VisitResult) : Prop where
  ascending : Ascending result.targetsLeft
  mem_iff : ∀ target, target ∈ result.targetsLeft ↔ target.isMapped = true ∧
    ∃ relationship ∈ visit.found, scan.idMap.toMapped relationship.other = target
  /-- What is answered is what the buffer holds. -/
  answer : ∀ targets after, result = .ok targets after → targets.toList = result.targetsLeft
  unweighted : scan.property = none ∨ visit.table = none →
    ∃ targets after, result = .ok targets (after, visit.table)
  /-- Each target has one weight, unless weights may not meet. -/
  weighted : ∀ name, scan.property = some name → scan.policy ≠ .reject →
    ∀ target ∈ result.targetsLeft, ∃ weight, scan.foldToward visit name target = some weight
  writes : ∀ name table (weight : NodeId → Float), scan.property = some name → visit.table = some table →
    (∀ target ∈ result.targetsLeft, scan.foldToward visit name target = some (weight target)) →
    result.Writes table
      (result.targetsLeft.flatMap fun target => puts scan.kind visit.node target (weight target))
  /-- Where two weights meet that may not, nothing is written. -/
  refused : ∀ name, scan.property = some name → visit.table ≠ none →
    (∃ target ∈ result.targetsLeft, scan.foldToward visit name target = none) →
    ∃ error after, result = .error error (after, visit.table)

end Visit

/-! ## Which relationships lead to a target -/

section Targets

variable {scan : ListScan} {visit : NodeVisit} {node target : NodeId}

/-- The self-loops among the sightings are those that were not seen before, each of them once. -/
theorem map_id_leadingTo_sightings (hkind : scan.kind.isUndirected = true)
    (found : List RelationshipRef) : ∀ seen,
      (scan.leadingTo node (scan.sightings node seen found)).map RelationshipRef.id
        = (((scan.leadingTo node found).map RelationshipRef.id).filter fun id =>
            !seen.contains id).eraseDups := by
  induction found with
  | nil => exact fun _ => rfl
  | cons relationship found ih =>
    intro seen
    rw [sightings, meetsTwice, hkind, Bool.true_and]
    by_cases hloop : scan.idMap.toMapped relationship.other = node
    · rw [if_pos (beq_iff_eq.mpr hloop)]
      have hleads : scan.leadingTo node (relationship :: found)
          = relationship :: scan.leadingTo node found := by
        rw [leadingTo, List.filter_cons_of_pos (by simpa using hloop)]
        rfl
      by_cases hseen : seen.contains relationship.id = true
      · rw [if_pos hseen, ih, hleads, List.map_cons, List.filter_cons_of_neg (by simpa using hseen)]
      · rw [if_neg hseen]
        have hfirst : scan.leadingTo node
              (relationship :: scan.sightings node (relationship.id :: seen) found)
            = relationship :: scan.leadingTo node
              (scan.sightings node (relationship.id :: seen) found) := by
          rw [leadingTo, List.filter_cons_of_pos (by simpa using hloop)]
          rfl
        rw [hfirst, List.map_cons, ih, hleads, List.map_cons,
          List.filter_cons_of_pos (by simpa using hseen), List.eraseDups_cons, List.filter_filter]
        congr 3
        funext id
        rw [List.contains_cons, Bool.not_or]
    · have hleave : ∀ rest, scan.leadingTo node (relationship :: rest) = scan.leadingTo node rest :=
        fun rest => List.filter_cons_of_neg (by simpa using hloop)
      rw [if_neg (by simpa using hloop), hleave, hleave, ih]

/-- **The sightings of a target** are the relationships that lead there. -/
theorem idsToward_eq (target : NodeId) : scan.idsToward visit target
    = (scan.leadingTo target (scan.sightings visit.node [] visit.found)).map RelationshipRef.id := by
  rw [idsToward]
  by_cases hkind : scan.kind.isUndirected = true
  · by_cases htarget : target = visit.node
    · subst htarget
      rw [if_pos ⟨hkind, rfl⟩, map_id_leadingTo_sightings hkind, List.filter_eq_self.mpr]
      intro id _
      rfl
    · rw [if_neg fun h => htarget h.2, leadingTo_sightings_of_ne htarget]
  · rw [if_neg fun h => hkind h.1, sightings_of_directed (by simpa using hkind)]

/-- The targets that arrive are the loaded endpoints. -/
theorem mem_arrivals_sightings_iff (found : List RelationshipRef) :
    target ∈ (scan.arrivals (scan.sightings node [] found)).map Prod.fst ↔
      target.isMapped = true ∧
        ∃ relationship ∈ found, scan.idMap.toMapped relationship.other = target := by
  by_cases hmapped : target.isMapped = true
  · have hleads : scan.leadingTo target found ≠ [] ↔
        ∃ relationship ∈ found, scan.idMap.toMapped relationship.other = target := by
      rw [leadingTo, Ne, List.filter_eq_nil_iff]
      simp
    rw [mem_arrivals_iff hmapped, Ne, leadingTo_sightings_eq_nil_iff, ← Ne, hleads]
    exact ⟨fun h => ⟨hmapped, h⟩, fun h => h.2⟩
  · constructor
    · intro hmem
      obtain ⟨arrival, harrival, rfl⟩ := List.mem_map.mp hmem
      exact absurd (mem_arrivals.mp harrival).1 hmapped
    · exact fun h => absurd h.1 hmapped

end Targets

/-! ## Finishing a node -/

section Flush

variable {scan : ListScan} {state : ScanState}

/-- Finishing a node flushes its buffer, whatever becomes of its weights. -/
theorem buffer_flushInto (scan : ListScan) (state : ScanState) (table : Option WeightTable) :
    (scanAfter (scan.flushInto (state, table))).buffer = state.buffer.flush := by
  cases table with
  | none => rfl
  | some table =>
    simp only [flushInto]
    split
    · rfl
    · simp only [settle]
      cases foldPending scan.policy (scan.conflict (flush state).buffer.source)
          (sortPending (flush state).pending.toList) with
      | error error => rfl
      | ok folded =>
        simp only
        cases WeightTable.putAll (scan.writes (flush state).buffer.source folded) table with
        | error error stored => rfl
        | ok _ stored => rfl

/-- Without a table, or without weights, finishing a node cannot fail. -/
theorem flushInto_unweighted {table : Option WeightTable} (h : scan.property = none ∨ table = none) :
    ∃ targets after, scan.flushInto (state, table) = .ok targets (after, table) := by
  cases table with
  | none => exact ⟨_, _, rfl⟩
  | some table =>
    obtain hproperty : scan.property = none := h.resolve_right fun h => by cases h
    refine ⟨targets (flush state), flush state, ?_⟩
    simp only [flushInto, hproperty, Option.isNone_none, if_true]

variable {name : String} (hproperty : scan.property = some name) (table : WeightTable)

include hproperty

/-- Weights that may not meet are refused before the table is written to. -/
theorem flushInto_of_conflict {error : LoadError}
    (hfold : foldPending scan.policy (scan.conflict state.buffer.source)
      (sortPending state.pending.toList) = .error error) :
    ∃ after, scan.flushInto (state, some table) = .error error (after, some table) := by
  have hsettle : scan.settle (flush state) = .error error
      { flush state with pending := (sortPending state.pending.toList).toArray } := by
    simp only [settle, flush, TargetBuffer.flush, hfold]
  refine ⟨{ flush state with pending := (sortPending state.pending.toList).toArray }, ?_⟩
  simp only [flushInto, hproperty, Option.isNone_some, Bool.false_eq_true, if_false, hsettle]

/-- Folded weights go into the table. -/
theorem flushInto_of_folded {folded : List (NodeId × Float)}
    (hfold : foldPending scan.policy (scan.conflict state.buffer.source)
      (sortPending state.pending.toList) = .ok folded) :
    VisitResult.Writes (scan.flushInto (state, some table)) table
      (scan.writes state.buffer.source folded) := by
  have hsettle : scan.settle (flush state) = .ok (scan.writes state.buffer.source folded)
      { flush state with pending := folded.toArray } := by
    simp only [settle, flush, TargetBuffer.flush, hfold]
  simp only [VisitResult.Writes, flushInto, hproperty, Option.isNone_some, Bool.false_eq_true,
    if_false, hsettle]
  cases WeightTable.putAll (scan.writes state.buffer.source folded) table with
  | error error stored => exact ⟨_, rfl⟩
  | ok _ stored => exact ⟨_, _, rfl⟩

end Flush

/-- The writes of a scan, told by the kind of the scan. -/
theorem writes_eq_puts (scan : ListScan) (node : NodeId) (folded : List (NodeId × Float)) :
    scan.writes node folded
      = folded.flatMap fun weight => puts scan.kind node weight.1 weight.2 := by
  unfold writes
  congr 1
  funext weight
  cases hkind : scan.kind with
  | outgoing _ => rfl
  | incoming _ => rfl
  | undirected _ => rfl
  | symmetric =>
    by_cases hloop : weight.1 = node
    · simp [puts, ScanKind.keys, ScanKind.endpoints, ScanKind.isSymmetric, hloop]
    · simp [puts, ScanKind.keys, ScanKind.endpoints, ScanKind.isSymmetric, hloop]

/-- Weights of different targets, told by looking them up. -/
theorem eq_map_of_lookup {folded : List (NodeId × Float)} (h : Ascending (folded.map Prod.fst))
    {weight : NodeId → Float}
    (hweight : ∀ target ∈ folded.map Prod.fst, folded.lookup target = some (weight target)) :
    folded = (folded.map Prod.fst).map fun target => (target, weight target) := by
  rw [List.map_map]
  conv_lhs => rw [← List.map_id folded]
  apply List.map_congr_left
  rintro ⟨target, held⟩ hmem
  have hheld : held ∈ weightsTo target folded :=
    List.mem_map.mpr ⟨(target, held), List.mem_filter.mpr ⟨hmem, by simp⟩, rfl⟩
  rw [weightsTo_folded h, foldedAt, hweight target (List.mem_map.mpr ⟨_, hmem, rfl⟩)] at hheld
  obtain rfl : held = weight target := by simpa using hheld
  rfl

/-! ## One node -/

/-- Whether the property that a scan reads can be read of every relationship of a node. -/
def Readable (scan : ListScan) (visit : NodeVisit) : Prop :=
  ∀ name, scan.property = some name → ∀ relationship ∈ visit.found,
    ∃ value, visit.read relationship.id name = .ok value

section Node

variable {scan : ListScan} {visit : NodeVisit} {state : ScanState}

/-- The arrivals that a buffer takes up. -/
def keptBy (scan : ListScan) (skips : Bool) (visit : NodeVisit) : List (NodeId × RelationshipId) :=
  keptAfter skips NodeId.unmapped (scan.arrivals (scan.sightings visit.node [] visit.found))

theorem mem_map_keptBy (skips : Bool) (target : NodeId) :
    target ∈ (scan.keptBy skips visit).map Prod.fst ↔ target.isMapped = true ∧
      ∃ relationship ∈ visit.found, scan.idMap.toMapped relationship.other = target := by
  have harrives : target ∈ (scan.arrivals (scan.sightings visit.node [] visit.found)).map Prod.fst ↔ _ :=
    mem_arrivals_sightings_iff visit.found
  rw [← harrives]
  by_cases hmapped : target.isMapped = true
  · -- the first arrival at a target is kept
    have hhead := head?_keptAfter skips (scan.arrivals (scan.sightings visit.node [] visit.found))
      (Ne.symm (NodeId.isMapped_iff.mp hmapped))
    have hmem : ∀ arrivals : List (NodeId × RelationshipId), target ∈ arrivals.map Prod.fst ↔
        (arrivals.filter fun arrival => arrival.1 = target).head? ≠ none := by
      intro arrivals
      rw [Ne, List.head?_eq_none_iff, List.filter_eq_nil_iff]
      simp
    rw [hmem, hmem, keptBy, hhead]
  · have hnone : ∀ {arrivals : List (NodeId × RelationshipId)},
        arrivals.Sublist (scan.arrivals (scan.sightings visit.node [] visit.found)) →
        target ∉ arrivals.map Prod.fst := by
      intro arrivals hsub hmem
      obtain ⟨arrival, harrival, rfl⟩ := List.mem_map.mp hmem
      exact hmapped (mem_arrivals.mp (hsub.subset harrival)).1
    exact ⟨fun h => absurd h (hnone (keptAfter_sublist ..)),
      fun h => absurd h (hnone (List.Sublist.refl _))⟩

/-- The weights that wait for a target are folded as those of all relationships that lead there. -/
theorem foldWeights_pending {name : String} (hproperty : scan.property = some name) {skips : Bool}
    (hskips : skips = true → scan.skipsRepeats = true) {target : NodeId}
    (htarget : target.isMapped = true) :
    foldWeights scan.policy (weightsTo target (((scan.keptBy skips visit).map fun arrival =>
        (arrival.1, (visit.valueOf arrival.2 name).bind PropertyValue.asWeight)).map scan.withDefault))
      = scan.foldToward visit name target := by
  rw [weightsTo_pending, keptBy, foldWeights_keptAfter hproperty hskips htarget, arrivals_at htarget,
    foldToward, idsToward_eq, List.map_map, List.map_map]
  rfl

/-- A readable node delivers a weight for each arrival that is kept. -/
theorem exists_weightsOf (hread : scan.Readable visit) (skips : Bool) :
    ∃ weights, scan.weightsOf visit.read (scan.keptBy skips visit) = .ok weights ∧
      ∀ name, scan.property = some name → weights = (scan.keptBy skips visit).map fun arrival =>
        (arrival.1, (visit.valueOf arrival.2 name).bind PropertyValue.asWeight) := by
  cases hproperty : scan.property with
  | none => exact ⟨[], weightsOf_unread hproperty .., fun name h => by cases h⟩
  | some name =>
    refine ⟨(scan.keptBy skips visit).map fun arrival =>
        (arrival.1, (visit.valueOf arrival.2 name).bind PropertyValue.asWeight),
      weightsOf_of_answers hproperty fun arrival hkept => ?_, fun other h => by cases h; rfl⟩
    -- what is kept was delivered for the node
    obtain ⟨-, relationship, hmem, -, hid⟩ := mem_arrivals.mp ((keptAfter_sublist ..).subset hkept)
    obtain ⟨value, hvalue⟩ := hread name hproperty relationship ((sightings_sublist ..).subset hmem)
    rw [NodeVisit.valueOf, ← hid, resultOf_ok hvalue]
    exact hvalue

/-- Where a scan stands after it has looked at all relationships of a node. -/
structure Visited (scan : ListScan) (visit : NodeVisit) (after : ScanState) : Prop where
  tracks : after.buffer.Tracks
  source : after.buffer.source = visit.node
  mem_iff : ∀ target, target ∈ after.buffer.targets.toList ↔ target.isMapped = true ∧
    ∃ relationship ∈ visit.found, scan.idMap.toMapped relationship.other = target
  /-- Weights wait for all targets. -/
  waiting : ∀ name, scan.property = some name → ∀ target,
    target ∈ after.pending.toList.map Prod.fst ↔ target ∈ after.buffer.targets.toList
  folds : ∀ name, scan.property = some name → ∀ target ∈ after.buffer.targets.toList,
    foldWeights scan.policy (weightsTo target after.pending.toList) = scan.foldToward visit name target

/-- **All relationships of a node** can be looked at. -/
theorem exists_visited (hskips : state.buffer.skipsRepeats = true → scan.skipsRepeats = true)
    (hread : scan.Readable visit) :
    ∃ after, scan.visitAll visit.read visit.found (prepare visit.node state) = .ok () after ∧
      scan.Visited visit after ∧ after.buffer.skipsRepeats = state.buffer.skipsRepeats := by
  have hreaches := visitAll_reaches scan visit.read visit.found (prepare visit.node state)
  obtain ⟨weights, hanswer, hvalues⟩ := exists_weightsOf hread state.buffer.skipsRepeats
  obtain ⟨_, after, hvisit, hprogress⟩ := Reaches.ok_iff.mp (hanswer ▸ hreaches)
  have htargets : after.buffer.targets.toList
      = (scan.keptBy state.buffer.skipsRepeats visit).map Prod.fst := hprogress.targets
  have hpending : after.pending.toList = weights.map scan.withDefault := hprogress.pending
  have hmem : ∀ target, target ∈ after.buffer.targets.toList ↔ target.isMapped = true ∧
      ∃ relationship ∈ visit.found, scan.idMap.toMapped relationship.other = target := by
    intro target
    rw [htargets]
    exact mem_map_keptBy _ target
  refine ⟨after, hvisit, ⟨hprogress.tracks (state.buffer.tracks_prepare visit.node),
    hprogress.source, hmem, fun name hproperty target => ?_, fun name hproperty target htarget => ?_⟩,
    hprogress.skips⟩
  · rw [hpending, hvalues name hproperty, htargets, List.map_map, List.map_map]
    rfl
  · rw [hpending, hvalues name hproperty]
    exact foldWeights_pending hproperty hskips ((hmem target).mp htarget).1

end Node

namespace Visited

variable {scan : ListScan} {visit : NodeVisit} {after : ScanState} (h : scan.Visited visit after)
  (table : Option WeightTable)

include h

theorem targetsLeft_eq : VisitResult.targetsLeft (scan.flushInto (after, table))
    = compact (sortTargets after.buffer.targets.toList) := by
  rw [VisitResult.targetsLeft, buffer_flushInto, h.tracks.flush]

theorem mem_targetsLeft (target : NodeId) :
    target ∈ VisitResult.targetsLeft (scan.flushInto (after, table)) ↔
      target ∈ after.buffer.targets.toList := by
  rw [h.targetsLeft_eq, mem_compact_sortTargets]

theorem ascending_targetsLeft :
    Ascending (VisitResult.targetsLeft (scan.flushInto (after, table))) := by
  rw [h.targetsLeft_eq]
  exact ascending_compact_sortTargets _

variable {name : String} (hproperty : scan.property = some name)

include hproperty

/-- Only weights that may not meet leave a target without a folded weight. -/
theorem foldToward_eq_none {target : NodeId}
    (htarget : target ∈ VisitResult.targetsLeft (scan.flushInto (after, table)))
    (hnone : scan.foldToward visit name target = none) : scan.policy = .reject := by
  rw [h.mem_targetsLeft] at htarget
  rw [← h.folds name hproperty target htarget] at hnone
  rcases foldWeights_eq_none_iff.mp hnone with hnil | ⟨hreject, -⟩
  · exact absurd ((h.waiting name hproperty target).mpr htarget) (weightsTo_eq_nil_iff.mp hnil)
  · exact hreject

/-- What waiting weights are folded into: a weight for each target. -/
theorem folded {folded : List (NodeId × Float)}
    (hfolded : foldPending scan.policy (scan.conflict after.buffer.source)
      (sortPending after.pending.toList) = .ok folded) :
    folded.map Prod.fst = VisitResult.targetsLeft (scan.flushInto (after, table)) ∧
      ∀ target ∈ folded.map Prod.fst, folded.lookup target = scan.foldToward visit name target := by
  have hfolds := folds_of_foldPending hfolded
  have hall : folded.map Prod.fst = VisitResult.targetsLeft (scan.flushInto (after, table)) := by
    refine hfolds.ascending.eq_of_mem_iff (h.ascending_targetsLeft table) fun target => ?_
    rw [hfolds.mem_iff, h.waiting name hproperty, h.mem_targetsLeft]
  refine ⟨hall, fun target htarget => ?_⟩
  rw [hall, h.mem_targetsLeft] at htarget
  rw [hfolds.lookup, h.folds name hproperty target htarget]

/-- Waiting weights that cannot be folded meet at a target. -/
theorem exists_conflict {error : LoadError}
    (hfolded : foldPending scan.policy (scan.conflict after.buffer.source)
      (sortPending after.pending.toList) = .error error) :
    ∃ target ∈ VisitResult.targetsLeft (scan.flushInto (after, table)),
      scan.foldToward visit name target = none := by
  obtain ⟨target, -, hreject, hmany⟩ := conflict_of_foldPending hfolded
  have hwaits : target ∈ after.pending.toList.map Prod.fst := by
    by_contra hnone
    rw [weightsTo_eq_nil_iff.mpr hnone] at hmany
    exact absurd hmany (by decide)
  rw [h.waiting name hproperty] at hwaits
  refine ⟨target, (h.mem_targetsLeft table target).mpr hwaits, ?_⟩
  rw [← h.folds name hproperty target hwaits]
  exact foldWeights_eq_none_iff.mpr (Or.inr ⟨hreject, hmany⟩)

/-- **One weight for each target** goes into the table. -/
theorem writes (table : WeightTable) {weight : NodeId → Float}
    (hweight : ∀ target ∈ VisitResult.targetsLeft (scan.flushInto (after, some table)),
      scan.foldToward visit name target = some (weight target)) :
    VisitResult.Writes (scan.flushInto (after, some table)) table
      ((VisitResult.targetsLeft (scan.flushInto (after, some table))).flatMap fun target =>
        puts scan.kind visit.node target (weight target)) := by
  cases hfolded : foldPending scan.policy (scan.conflict after.buffer.source)
      (sortPending after.pending.toList) with
  | error error =>
    obtain ⟨target, htarget, hnone⟩ := h.exists_conflict (some table) hproperty hfolded
    rw [hweight target htarget] at hnone
    cases hnone
  | ok folded =>
    obtain ⟨hall, hlookup⟩ := h.folded (some table) hproperty hfolded
    have hmap : folded = (folded.map Prod.fst).map fun target => (target, weight target) := by
      refine eq_map_of_lookup (folds_of_foldPending hfolded).ascending fun target htarget => ?_
      rw [hlookup target htarget, hweight target (hall ▸ htarget)]
    have hwrites := flushInto_of_folded hproperty table hfolded
    rw [writes_eq_puts, h.source, hmap, hall, List.flatMap_map] at hwrites
    exact hwrites

/-- **Where two weights meet that may not**, the table is left as it was. -/
theorem refused (htable : table ≠ none)
    (hnone : ∃ target ∈ VisitResult.targetsLeft (scan.flushInto (after, table)),
      scan.foldToward visit name target = none) :
    ∃ error final, scan.flushInto (after, table) = .error error (final, table) := by
  obtain ⟨table, rfl⟩ := Option.ne_none_iff_exists'.mp htable
  obtain ⟨target, htarget, hnone⟩ := hnone
  cases hfolded : foldPending scan.policy (scan.conflict after.buffer.source)
      (sortPending after.pending.toList) with
  | error error =>
    obtain ⟨final, hfinal⟩ := flushInto_of_conflict hproperty table hfolded
    exact ⟨error, final, hfinal⟩
  | ok folded =>
    -- a folded target has a weight
    obtain ⟨hall, hlookup⟩ := h.folded (some table) hproperty hfolded
    rw [← hall] at htarget
    obtain ⟨entry, hentry, rfl⟩ := List.mem_map.mp htarget
    have hmissing := (hlookup entry.1 htarget).trans hnone
    exact absurd (List.lookup_eq_none_iff.mp hmissing entry hentry) (by simp)

end Visited

/-- **What a scan comes to at a node** does not depend on what it has seen before. -/
theorem settles_visitNode {scan : ListScan} {visit : NodeVisit} {state : ScanState}
    (hskips : state.buffer.skipsRepeats = true → scan.skipsRepeats = true)
    (hread : scan.Readable visit) :
    scan.Settles visit (scan.visitNode visit state) ∧
      (scanAfter (scan.visitNode visit state)).buffer.skipsRepeats = state.buffer.skipsRepeats := by
  obtain ⟨after, hvisit, h, hkeeps⟩ := exists_visited hskips hread
  have hnode : scan.visitNode visit state = scan.flushInto (after, visit.table) := by
    rw [visitNode, hvisit]
  rw [hnode, buffer_flushInto]
  refine ⟨?_, hkeeps⟩
  constructor
  case ascending => exact h.ascending_targetsLeft visit.table
  case mem_iff => exact fun target => (h.mem_targetsLeft visit.table target).trans (h.mem_iff target)
  case answer =>
    intro targets final hresult
    rw [VisitResult.targetsLeft, hresult]
    exact congrArg Array.toList (targets_of_flushInto hresult)
  case unweighted => exact flushInto_unweighted
  case weighted =>
    intro name hproperty hpolicy target htarget
    exact Option.ne_none_iff_exists'.mp fun hnone =>
      hpolicy (h.foldToward_eq_none visit.table hproperty htarget hnone)
  case writes =>
    intro name table weight hproperty htable hweight
    rw [htable] at hweight ⊢
    exact h.writes hproperty table hweight
  case refused => exact fun name hproperty htable hnone => h.refused visit.table hproperty htable hnone

/-! ## Many nodes -/

/-- **A scan that goes through nodes** comes at each of them to what this node comes to alone, whether
or not repetitions are dropped on arrival. -/
theorem settles_each_node (scan : ListScan) (skips : Bool)
    (hskips : skips = true → scan.skipsRepeats = true) (visits : List NodeVisit)
    (hread : ∀ visit ∈ visits, scan.Readable visit) :
    List.Forall₂ scan.Settles visits (scan.visitNodes visits { buffer := .new skips }) := by
  -- the buffer drops repetitions as it did in the beginning
  have hall : ∀ (visits : List NodeVisit) (state : ScanState), state.buffer.skipsRepeats = skips →
      (∀ visit ∈ visits, scan.Readable visit) →
      List.Forall₂ scan.Settles visits (scan.visitNodes visits state) := by
    intro visits
    induction visits with
    | nil => exact fun _ _ _ => .nil
    | cons visit visits ih =>
      intro state hstate hread
      obtain ⟨hown, hkeeps⟩ := settles_visitNode (hstate ▸ hskips) (hread visit List.mem_cons_self)
      exact .cons hown (ih _ (hkeeps.trans hstate) fun other hother =>
        hread other (List.mem_cons_of_mem _ hother))
  exact hall visits _ rfl hread

/-- Two nodes: the first is sighted twice by its own self-loop, around a repeated target and one that is
not loaded. -/
theorem settles_each_of_two_nodes :
    let scan : ListScan := {
      kind := .undirected true
      idMap := ⟨#[⟨10⟩, ⟨20⟩], .hashed (Std.HashMap.ofList [(⟨10⟩, ⟨0⟩), (⟨20⟩, ⟨1⟩)]), ⟨20⟩, 2⟩
      weightProperty := some "cost", defaultWeight := 1, policy := .keepFirst }
    let read : PropertyReader := fun id _ => .ok (if id = 8 then none else some (.integer 3))
    let table := WeightTable.empty 1 .keepFirst
    let visits : List NodeVisit := [
      ⟨⟨0⟩, [⟨⟨20⟩, 8⟩, ⟨⟨10⟩, 5⟩, ⟨⟨20⟩, 9⟩, ⟨⟨30⟩, 4⟩, ⟨⟨10⟩, 5⟩], read, some table⟩,
      ⟨⟨1⟩, [⟨⟨10⟩, 8⟩, ⟨⟨10⟩, 9⟩], read, some table⟩]
    (true = true → scan.skipsRepeats = true) ∧ (∀ visit ∈ visits, scan.Readable visit) ∧
      List.Forall₂ scan.Settles visits (scan.visitNodes visits { buffer := .new true }) := by
  intro scan read table visits
  have hskips : true = true → scan.skipsRepeats = true := fun _ => rfl
  have hread : ∀ visit ∈ visits, scan.Readable visit := by
    intro visit hvisit name _ relationship _
    rcases List.mem_pair.mp hvisit with rfl | rfl <;> exact ⟨_, rfl⟩
  exact ⟨hskips, hread, settles_each_node scan true hskips visits hread⟩

end ListScan

end CompactGraph
