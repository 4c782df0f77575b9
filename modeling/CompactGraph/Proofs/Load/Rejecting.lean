/-
# Parallel relationships that are refused

Under the policy that refuses parallel relationships, a weighted load of a graph in memory fails exactly if
two relationships of the load connect one pair of loaded nodes, and then it names such a pair.  Whether
they meet while a node is read, within a partition or between two of them makes no difference, because what
a run can be refused for (`LoadRun.Refused`) is told by all its nodes together.
-/
import CompactGraph.Proofs.Load.PairWeights
import CompactGraph.Proofs.Load.Refusals

namespace CompactGraph

/-! ## Relationships that connect two nodes -/

/-- The elements that satisfy one of two conditions that exclude each other. -/
theorem length_filter_or {α : Type} {p q : α → Bool} (h : ∀ a, p a = true → q a = false)
    (items : List α) : (items.filter fun a => p a || q a).length
      = (items.filter p).length + (items.filter q).length := by
  induction items with
  | nil => rfl
  | cons a items ih =>
    have hown := h a
    by_cases hp : p a = true <;> by_cases hq : q a = true <;> simp_all <;> omega

namespace MemoryGraph

/-- The relationships of a load that connect two nodes: those from the first to the second, and those back
if the load looks in both directions. -/
def connecting (graph : MemoryGraph) (config : LoadConfig) (source target : ExternalId) :
    List RelationshipRecord :=
  graph.relationships.toList.filter fun record => hasType config.relationshipType record &&
    ((record.source = source && record.target = target) ||
      (config.direction = .both && (record.source = target && record.target = source)))

variable {graph : MemoryGraph} {config : LoadConfig}

theorem connecting_of_single (h : config.direction ≠ .both) (source target : ExternalId) :
    graph.connecting config source target = graph.between config.relationshipType source target := by
  unfold connecting
  simp only [h, decide_false, Bool.false_and, Bool.or_false]
  rfl

/-- In both directions, the relationships that connect two nodes are those that the first one sees. -/
theorem length_connecting_of_both (h : config.direction = .both) (own other : ExternalId) :
    (graph.connecting config own other).length
      = (graph.seenWeights config .both own other).length := by
  rw [connecting, seenWeights, weightsBetween, weightsBetween, between, between]
  simp only [h, decide_true, Bool.true_and]
  by_cases heq : own = other
  · subst heq
    simp only [Bool.or_self, if_pos, List.append_nil, List.length_map]
  · have hsplit : ∀ record : RelationshipRecord, (hasType config.relationshipType record &&
        ((record.source = own && record.target = other) || (record.source = other && record.target = own)))
        = ((hasType config.relationshipType record && (record.source = own && record.target = other)) ||
          (hasType config.relationshipType record && (record.source = other && record.target = own))) :=
      fun record => Bool.and_or_distrib_left ..
    simp only [hsplit]
    rw [if_neg heq, length_filter_or, List.length_append, List.length_map, List.length_map]
    -- no relationship leads both ways
    intro record hforth
    by_contra hback
    simp only [Bool.and_eq_true, decide_eq_true_eq, Bool.not_eq_false] at hforth hback
    exact heq (hforth.2.1.symm.trans hback.2.1)

end MemoryGraph

namespace ScanKind

/-- How much comes together under a pair, told by what each node contributes for each other. -/
def countFor {α : Type} [DecidableEq α] (kind : ScanKind) (count : α → α → Nat) (source target : α) :
    Nat :=
  match kind with
  | .incoming _ => count target source
  | .symmetric =>
    if source = target then count source target else count source target + count target source
  | _ => count source target

/-- More comes together where each node contributes more. -/
theorem countFor_le {α β : Type} [DecidableEq α] [DecidableEq β] {count : α → α → Nat}
    {count' : β → β → Nat} {source target : α} {own other : β} (kind : ScanKind)
    (hsame : source = target ↔ own = other) (hforth : count source target ≤ count' own other)
    (hback : count target source ≤ count' other own) :
    kind.countFor count source target ≤ kind.countFor count' own other := by
  cases kind with
  | outgoing weighted => exact hforth
  | incoming weighted => exact hback
  | undirected weighted => exact hforth
  | symmetric =>
    unfold countFor
    by_cases heq : source = target
    · simp only [if_pos heq, if_pos (hsame.mp heq)]
      exact hforth
    · simp only [if_neg heq, if_neg fun heq' => heq (hsame.mpr heq')]
      omega

/-- What a node contributes for another comes together under the pair that both make. -/
theorem endpoints_spec (α : Type) [DecidableEq α] (kind : ScanKind) (node other : NodeId) :
    (kind.endpoints node other = (node, other) ∧
      ∀ (count : α → α → Nat) own far, count own far ≤ kind.countFor count own far) ∨
    (kind.endpoints node other = (other, node) ∧
      ∀ (count : α → α → Nat) own far, count own far ≤ kind.countFor count far own) := by
  cases kind with
  | outgoing weighted => exact Or.inl ⟨rfl, fun _ _ _ => Nat.le_refl _⟩
  | incoming weighted => exact Or.inr ⟨rfl, fun _ _ _ => Nat.le_refl _⟩
  | undirected weighted => exact Or.inl ⟨rfl, fun _ _ _ => Nat.le_refl _⟩
  | symmetric =>
    refine Or.inl ⟨rfl, fun count own far => ?_⟩
    show _ ≤ if own = far then count own far else count own far + count far own
    split <;> omega

end ScanKind

/-- A conflict names the pair that the two nodes make. -/
theorem ListScan.conflict_eq {scan : ListScan} {node other source target : NodeId}
    (h : scan.kind.endpoints node other = (source, target)) :
    scan.conflict node other = .duplicateRelationship source target := by
  unfold ListScan.conflict
  rw [h]

namespace LoadRun

variable {run : LoadRun} {store : MemoryGraph}

/-! ## Counting weights -/

/-- How many weights are written under a pair. -/
theorem length_pairWeights (run : LoadRun) (source target : NodeId) :
    (run.pairWeights source target).length
      = run.mainKind.countFor (fun node other => (run.foldedFor node other).length) source target := by
  unfold pairWeights ScanKind.countFor
  cases run.mainKind with
  | outgoing weighted => rfl
  | incoming weighted => rfl
  | undirected weighted => rfl
  | symmetric =>
    dsimp only
    split
    · rfl
    · split
      · rw [List.length_append]
      · rw [List.length_append, Nat.add_comm]

/-- How many relationships connect two nodes, told by what each node sees of the other. -/
theorem length_connecting (hvalid : run.config.validate = .ok ())
    (hweighted : run.config.isWeighted = true) (own other : ExternalId) :
    (store.connecting run.config own other).length = run.mainKind.countFor
      (fun own other => (store.seenWeights run.config run.mainKind.direction own other).length)
      own other := by
  have hsingle : run.config.direction ≠ .both → (store.connecting run.config own other).length
      = (store.weightsBetween run.config own other).length := by
    intro hdirection
    rw [MemoryGraph.connecting_of_single hdirection, MemoryGraph.weightsBetween, List.length_map]
  have hboth := @MemoryGraph.length_connecting_of_both store run.config
  unfold mainKind
  rw [kinds, hweighted]
  cases hundirected : run.config.undirected with
  | true => exact hboth (direction_of_validate hvalid hundirected) own other
  | false =>
    cases hdirection : run.config.direction with
    | outgoing => exact hsingle (by rw [hdirection]; decide)
    | incoming => exact hsingle (by rw [hdirection]; decide)
    | both =>
      rw [hboth hdirection]
      show (_ ++ ite _ _ _ : List Float).length
        = if own = other then (store.weightsBetween run.config own other).length
          else (store.weightsBetween run.config own other).length
            + (store.weightsBetween run.config other own).length
      split
      · rw [List.append_nil]
      · rw [List.length_append]

section Weighted

variable (hstore : store.Sound) (hsnapshot : run.snapshot = store.answers) (hmap : run.idMap.Sound)
  {name : String} (hname : run.config.weightProperty = some name)

include hname

theorem isWeighted_of_name : run.config.isWeighted = true := by
  rw [LoadConfig.isWeighted, hname]
  rfl

theorem property_mainKind : (run.scanOf run.mainKind).property = some name :=
  (if_pos (run.isWeighted_mainKind.trans (isWeighted_of_name hname))).trans hname

include hstore hsnapshot hmap

section Pair

variable {node target : NodeId} {own other : ExternalId}
  (hnode : run.idMap.toExternal node = some own) (htarget : run.idMap.toExternal target = some other)

include hnode htarget

/-- A node folds one weight at most for another, and none for one that it does not see. -/
theorem length_foldedFor_le : (run.foldedFor node target).length
    ≤ (store.seenWeights run.config run.mainKind.direction own other).length := by
  by_cases hrow : run.nodeRow node.index = .ok (run.row node.index)
  · rw [foldedFor_of_toExternal hstore hsnapshot hmap hname
      (run.isWeighted_mainKind.trans (isWeighted_of_name hname)) hrow hnode htarget]
    cases hseen : store.seenWeights run.config run.mainKind.direction own other with
    | nil => exact Nat.le_refl _
    | cons weight weights =>
      have hone : (foldWeights run.config.policy (weight :: weights)).toList.length ≤ 1 := by
        cases foldWeights run.config.policy (weight :: weights) <;> simp
      rw [List.length_cons]
      omega
  · unfold foldedFor
    rw [ListScan.foldedAt, folded_eq_nil hrow]
    split <;> exact Nat.zero_le _

/-- Where weights may not meet, a node that can be read folds as many weights as it sees. -/
theorem length_foldedFor (hrow : run.nodeRow node.index = .ok (run.row node.index))
    (hreject : run.config.policy = .reject) : (run.foldedFor node target).length
      = (store.seenWeights run.config run.mainKind.direction own other).length := by
  obtain ⟨own', hown, hreading⟩ := reading_of_nodeRow hsnapshot hrow run.getElem?_kinds_zero
  rw [NodeId.ofIndex_index] at hown hreading
  obtain rfl : own = own' := Option.some.inj (hnode.symm.trans hown)
  have hmap' : (run.scanOf run.mainKind).idMap.Sound := hmap
  have hone := ListScan.length_leadingTo_le (fun _ _ => rfl) (property_mainKind hname) hreject hreading
    (hmap.isMapped_of_toExternal htarget)
  have hsighted := congrArg List.length
    (MemoryGraph.weights_sighted hstore hmap' htarget hnode hname rfl)
  rw [List.length_map] at hsighted
  rw [foldedFor_of_toExternal hstore hsnapshot hmap hname
    (run.isWeighted_mainKind.trans (isWeighted_of_name hname)) hrow hnode htarget]
  have hseen : (store.seenWeights run.config run.mainKind.direction own other).length ≤ 1 :=
    hsighted ▸ hone
  rcases hcases : store.seenWeights run.config run.mainKind.direction own other with
    _ | ⟨weight, _ | ⟨arriving, weights⟩⟩
  · rfl
  · rfl
  · rw [hcases, List.length_cons, List.length_cons] at hseen
    omega

end Pair

variable {source target : NodeId} {own other : ExternalId}
  (hsource : run.idMap.toExternal source = some own) (htarget : run.idMap.toExternal target = some other)
  (hvalid : run.config.validate = .ok ())

include hsource htarget

omit hstore hsnapshot hname in
theorem eq_iff_of_toExternal : source = target ↔ own = other := by
  constructor
  · rintro rfl
    exact Option.some.inj (hsource.symm.trans htarget)
  · rintro rfl
    rw [← (hmap.toMapped_eq_iff (hmap.isMapped_of_toExternal hsource)).mpr hsource,
      ← (hmap.toMapped_eq_iff (hmap.isMapped_of_toExternal htarget)).mpr htarget]

include hvalid

/-- No more weights are written under a pair than relationships connect it. -/
theorem length_pairWeights_le : (run.pairWeights source target).length
    ≤ (store.connecting run.config own other).length := by
  rw [length_pairWeights, length_connecting hvalid (isWeighted_of_name hname)]
  exact ScanKind.countFor_le _ (eq_iff_of_toExternal hmap hsource htarget)
    (length_foldedFor_le hstore hsnapshot hmap hname hsource htarget)
    (length_foldedFor_le hstore hsnapshot hmap hname htarget hsource)

/-- **A run that succeeds has found no parallel relationships** of loaded nodes. -/
theorem length_connecting_le (hreject : run.config.policy = .reject) (h : run.Complete) :
    (store.connecting run.config own other).length ≤ 1 := by
  have hfolded : ∀ {node target own other}, run.idMap.toExternal node = some own →
      run.idMap.toExternal target = some other → (run.foldedFor node target).length
        = (store.seenWeights run.config run.mainKind.direction own other).length :=
    fun hnode htarget => length_foldedFor hstore hsnapshot hmap hname hnode htarget
      (h.rows _ (IdMap.index_lt_of_toExternal hnode)) hreject
  have hone := h.unrepeated hreject (.ofPair source target)
  rw [weightsUnder_eq hmap.few, length_pairWeights] at hone
  rw [length_connecting hvalid (isWeighted_of_name hname)]
  refine (ScanKind.countFor_le _ (eq_iff_of_toExternal hmap hsource htarget).symm ?_ ?_).trans hone
  · exact (hfolded hsource htarget).ge
  · exact (hfolded htarget hsource).ge

end Weighted

/-! ## What a run is refused for -/

/-- A row of a graph in memory fails with the list that reads weights. -/
theorem failsFirst (hsnapshot : run.snapshot = store.answers) : run.FailsFirst := by
  intro node own found reading hown hfound hreading
  rw [hsnapshot] at hfound
  cases hfound
  refine exists_nodeRow_of_readings hsnapshot hown fun kind hkind => ?_
  rw [run.kinds_eq.1] at hkind
  rcases List.mem_cons.mp hkind with rfl | hrest
  · exact ⟨reading, hreading⟩
  · exact exists_reading_of_meets hsnapshot (Or.inl (property_of_mem_tail hrest)) _ _

section Refused

variable (hstore : store.Sound) (hsnapshot : run.snapshot = store.answers) (hmap : run.idMap.Sound)
  {name : String} (hname : run.config.weightProperty = some name)

include hsnapshot hmap

/-- The list that reads weights fails as the row does. -/
theorem error_of_nodeRow {node : Nat} (hnode : node < run.idMap.nodeCount) {cause : LoadError}
    (h : run.nodeRow node = .error cause) : ∃ own, run.idMap.toExternal (NodeId.ofIndex node) = some own ∧
      (run.scanOf run.mainKind).reading (fun id name => .ok (store.property id name))
        (NodeId.ofIndex node)
        (store.relationshipsOf own run.mainKind.direction run.config.relationshipType)
        = .error cause := by
  obtain ⟨own, hown, hexternal⟩ := exists_externalId hnode hmap.few
  refine ⟨own, hexternal, ?_⟩
  have hread : (run.scanOf run.mainKind).reading run.snapshot.property (NodeId.ofIndex node)
      (store.relationshipsOf own run.mainKind.direction run.config.relationshipType)
      = .error cause := by
    obtain ⟨bounds?, hbounds⟩ := exists_boundsOf hsnapshot own
    cases hreading : (run.scanOf run.mainKind).reading run.snapshot.property (NodeId.ofIndex node)
        (store.relationshipsOf own run.mainKind.direction run.config.relationshipType) with
    | ok reading =>
      have hfound : run.snapshot.relationships own run.mainKind.direction run.config.relationshipType
          = .ok (store.relationshipsOf own run.mainKind.direction run.config.relationshipType) := by
        rw [hsnapshot]
        rfl
      obtain ⟨row, hrow⟩ := failsFirst hsnapshot node own _ reading hown hfound hreading
      rw [h] at hrow
      cases hrow
    | error own' =>
      have hfirst : run.readingWithin run.mainKind
          (bounds?.map fun bounds => bounds[0]?.getD 0) node own = .error own' := by
        unfold readingWithin
        rw [boundedRelationships_eq hsnapshot hbounds run.getElem?_kinds_zero]
        exact hreading
      unfold nodeRow at h
      rw [hown] at h
      simp only [bind, Except.bind, hbounds] at h
      rw [run.kinds_eq.1, List.zipIdx_cons, List.mapM_cons] at h
      simp only [hfirst, bind, Except.bind] at h
      cases h
      rfl
  rw [hsnapshot] at hread
  exact hread

include hstore hname

/-- **A row that cannot be read** has met two weights of a pair. -/
theorem conflict_of_nodeRow {node : Nat} (hnode : node < run.idMap.nodeCount) {cause : LoadError}
    (h : run.nodeRow node = .error cause) : ∃ target own other,
      cause = (run.scanOf run.mainKind).conflict (NodeId.ofIndex node) target ∧
      run.idMap.toExternal (NodeId.ofIndex node) = some own ∧
      run.idMap.toExternal target = some other ∧
      2 ≤ (store.seenWeights run.config run.mainKind.direction own other).length := by
  obtain ⟨own, hown, hreading⟩ := error_of_nodeRow hsnapshot hmap hnode h
  obtain ⟨target, hmem, hcause, _, hmany⟩ :=
    ListScan.conflict_of_reading (fun _ _ => rfl) (property_mainKind hname) hreading
  obtain ⟨arrival, harrival, rfl⟩ := List.mem_map.mp hmem
  obtain ⟨hmapped, relationship, _, hother, _⟩ := ListScan.mem_arrivals.mp harrival
  have htarget : run.idMap.toExternal arrival.1 = some relationship.other :=
    (hmap.toMapped_eq_iff hmapped).mp hother
  have hmap' : (run.scanOf run.mainKind).idMap.Sound := hmap
  have hsighted := congrArg List.length (MemoryGraph.weights_sighted hstore hmap' htarget hown hname rfl)
  rw [List.length_map] at hsighted
  exact ⟨arrival.1, own, relationship.other, hcause, hown, htarget, hsighted ▸ hmany⟩

/-- **What a run is refused for** are two relationships that connect a pair of loaded nodes. -/
theorem connected_of_refused (hvalid : run.config.validate = .ok ()) {cause : LoadError}
    (h : run.Refused cause) : ∃ source target own other,
      cause = .duplicateRelationship source target ∧ run.idMap.toExternal source = some own ∧
      run.idMap.toExternal target = some other ∧
      2 ≤ (store.connecting run.config own other).length := by
  have hconnecting : ∀ own other, (store.connecting run.config own other).length = _ :=
    length_connecting hvalid (isWeighted_of_name hname)
  cases h with
  | row hnode hrow =>
    obtain ⟨target, own, other, rfl, hown, htarget, hmany⟩ :=
      conflict_of_nodeRow hstore hsnapshot hmap hname hnode hrow
    rcases ScanKind.endpoints_spec ExternalId run.mainKind (NodeId.ofIndex _) target with
      ⟨hends, hle⟩ | ⟨hends, hle⟩
    · refine ⟨_, target, own, other, ListScan.conflict_eq hends, hown, htarget, ?_⟩
      rw [hconnecting]
      exact hmany.trans (hle (fun own other => (store.seenWeights _ _ own other).length) own other)
    · refine ⟨target, _, other, own, ListScan.conflict_eq hends, htarget, hown, ?_⟩
      rw [hconnecting]
      exact hmany.trans (hle (fun own other => (store.seenWeights _ _ own other).length) own other)
  | @pair source target hcause _ hmany =>
    -- the nodes of a pair with weights are loaded
    have hloaded : ¬ (run.idMap.toExternal source = none ∨ run.idMap.toExternal target = none) := by
      intro hnone
      have hweights : ∀ {node other},
          run.idMap.toExternal node = none ∨ run.idMap.toExternal other = none →
            run.foldedFor node other = [] := foldedFor_eq_nil hsnapshot hmap hname
        (run.isWeighted_mainKind.trans (isWeighted_of_name hname))
      have hzero : (run.pairWeights source target).length = 0 := by
        rw [length_pairWeights]
        cases run.mainKind <;> simp [ScanKind.countFor, hweights hnone, hweights hnone.symm]
      omega
    rw [not_or] at hloaded
    obtain ⟨own, hown⟩ := Option.ne_none_iff_exists'.mp hloaded.1
    obtain ⟨other, hother⟩ := Option.ne_none_iff_exists'.mp hloaded.2
    exact ⟨source, target, own, other, hcause, hown, hother,
      hmany.trans (length_pairWeights_le hstore hsnapshot hmap hname hown hother hvalid)⟩

end Refused

end LoadRun

/-! ## Loads -/

/-- A configuration stays valid without a weight property. -/
theorem LoadConfig.validate_unweighted {config : LoadConfig} (h : config.validate = .ok ()) :
    ({ config with weightProperty := none } : LoadConfig).validate = .ok () := by
  have hall := h
  unfold LoadConfig.validate at hall
  obtain ⟨_, hall⟩ := passed_of_eq_ok hall
  obtain ⟨_, hall⟩ := passed_of_eq_ok hall
  obtain ⟨_, hall⟩ := passed_of_eq_ok hall
  obtain ⟨_, _, hall⟩ := bind_eq_ok_iff.mp hall
  obtain ⟨_, _, hall⟩ := bind_eq_ok_iff.mp hall
  obtain ⟨_, hname, _⟩ := bind_eq_ok_iff.mp hall
  have hnone : LoadConfig.checkName .weightProperty none = .ok () := rfl
  unfold LoadConfig.validate at h ⊢
  rw [hname] at h
  rw [hnone]
  exact h

/-- A graph in memory never answers that somebody else has failed. -/
theorem MemoryGraph.neverAborts_answers (store : MemoryGraph) : store.answers.NeverAborts where
  opening := fun _ h => nomatch h
  degree := fun _ _ _ h => nomatch h
  relationships := fun _ _ _ h => nomatch h
  property := fun _ _ h => nomatch h

section Loads

variable {store : MemoryGraph} {config : LoadConfig} {machine : Nat} {schedule : Phase → List Nat}
  (hstore : store.Sound) (htimeout : config.timeout = none) (hvalid : config.validate = .ok ())
  (hloadable : store.Loadable config.nodeLabel) {name : String}
  (hname : config.weightProperty = some name)

include hstore htimeout hvalid hname

/-- A load that succeeds although weights may not meet has found no parallel relationships. -/
theorem length_connecting_of_loadSource (hreject : config.policy = .reject)
    {loaded : Graph × LoadSummary} (h : loadSource store.snapshot config machine schedule = .ok loaded)
    {own other : ExternalId} (hown : own ∈ store.nodesWith config.nodeLabel)
    (hother : other ∈ store.nodesWith config.nodeLabel) :
    (store.connecting config own other).length ≤ 1 := by
  obtain ⟨map, _, hmap, hids, hcomplete, _⟩ := graph_of_loadSource hstore htimeout h
  rw [← hids] at hown hother
  have hsource : map.toExternal (map.toMapped own) = some own :=
    (hmap.toMapped_eq_iff (hmap.isMapped_toMapped_iff.mpr hown)).mp rfl
  have htarget : map.toExternal (map.toMapped other) = some other :=
    (hmap.toMapped_eq_iff (hmap.isMapped_toMapped_iff.mpr hother)).mp rfl
  exact LoadRun.length_connecting_le hstore rfl hmap hname hsource htarget hvalid hreject hcomplete

include hloadable

/-- A load that fails names two loaded nodes that are connected twice. -/
theorem connected_of_loadSource {error : LoadError}
    (h : loadSource store.snapshot config machine schedule = .error error) :
    ∃ source target own other, error.rootCause = .duplicateRelationship source target ∧
      (store.nodesWith config.nodeLabel)[source.index]? = some own ∧
      (store.nodesWith config.nodeLabel)[target.index]? = some other ∧
      2 ≤ (store.connecting config own other).length := by
  rw [loadSource_eq hstore] at h
  obtain ⟨map, hcollect⟩ := exists_collectNodes_of_loadable hstore htimeout hloadable
  obtain ⟨hmap, hids⟩ := sound_of_collectNodes htimeout hcollect
  rw [show (store.answers.scanNodes config.nodeLabel).ids.eraseDups = _ from loadedIds_answers hstore] at hids
  have hload := load_of_loadSnapshot htimeout hvalid hcollect h
  set run := runOver store.answers config machine map schedule with hrun
  have hsnapshot : run.snapshot = store.answers := rfl
  have hlists : ∀ list, list < run.kinds.length →
      total ((List.range run.idMap.nodeCount).map (run.degreeIn list)) ≤ maxTargets := fun list hlist =>
    (LoadRun.total_degreeIn_le hsnapshot hstore hmap hlist).trans hloadable.room
  have hbounds := LoadRun.nodeBounds_of_reported hmap.few fun _ own _ =>
    LoadRun.reported_of_memory hsnapshot own
  obtain ⟨cause, hroot, hrefused⟩ := LoadRun.refused_of_load (fun _ => rfl) htimeout hmap.few
    (MemoryGraph.neverAborts_answers store) (LoadRun.failsFirst hsnapshot) hvalid (fun _ => hbounds)
    (fun _ => hlists) hload
  obtain ⟨source, target, own, other, rfl, hsource, htarget, hmany⟩ :=
    LoadRun.connected_of_refused hstore hsnapshot hmap hname hvalid hrefused
  rw [← hids]
  exact ⟨source, target, own, other, hroot, (Array.getElem?_toList ..).trans hsource,
    (Array.getElem?_toList ..).trans htarget, hmany⟩

end Loads

/-- **Parallel relationships are refused** under the policy that says so.  A weighted load of a graph in
memory fails exactly if two relationships connect one pair of loaded nodes, in the order of the pair or, if
the load looks in both directions, in either order.  It names such a pair by the numbers of its nodes.
Without weights the same load succeeds. -/
theorem refuses_parallel_relationships (writes : List MemoryGraph.Write) (config : LoadConfig)
    (machine : Nat) (schedule : Phase → List Nat) (htimeout : config.timeout = none)
    (hvalid : config.validate = .ok ())
    (hloadable : (MemoryGraph.ofWrites writes).Loadable config.nodeLabel)
    (hweighted : config.isWeighted = true) (hreject : config.policy = .reject) :
    let graph := MemoryGraph.ofWrites writes
    let nodes := graph.nodesWith config.nodeLabel
    ((∃ error, loadSource graph.snapshot config machine schedule = .error error) ↔
      ∃ source ∈ nodes, ∃ target ∈ nodes, 2 ≤ (graph.connecting config source target).length) ∧
    (∀ error, loadSource graph.snapshot config machine schedule = .error error →
      ∃ source target own other, error.rootCause = .duplicateRelationship source target ∧
        nodes[source.index]? = some own ∧ nodes[target.index]? = some other ∧
        2 ≤ (graph.connecting config own other).length) ∧
    ∃ loaded, loadSource graph.snapshot { config with weightProperty := none } machine schedule
      = .ok loaded := by
  intro graph nodes
  have hstore : graph.Sound := MemoryGraph.sound_ofWrites writes
  obtain ⟨name, hname⟩ := Option.isSome_iff_exists.mp hweighted
  have hnames : ∀ error, loadSource graph.snapshot config machine schedule = .error error →
      ∃ source target own other, error.rootCause = .duplicateRelationship source target ∧
        nodes[source.index]? = some own ∧ nodes[target.index]? = some other ∧
        2 ≤ (graph.connecting config own other).length :=
    fun error h => connected_of_loadSource hstore htimeout hvalid hloadable hname h
  refine ⟨⟨?_, ?_⟩, hnames, ?_⟩
  · rintro ⟨error, herror⟩
    obtain ⟨_, _, own, other, _, hown, hother, hmany⟩ := hnames error herror
    exact ⟨own, List.mem_of_getElem? hown, other, List.mem_of_getElem? hother, hmany⟩
  · rintro ⟨source, hsource, target, htarget, hmany⟩
    cases hload : loadSource graph.snapshot config machine schedule with
    | error error => exact ⟨error, rfl⟩
    | ok loaded =>
      have hone := length_connecting_of_loadSource hstore htimeout hvalid hname hreject hload
        hsource htarget
      omega
  · have hloadable' : graph.Loadable ({ config with weightProperty := none } : LoadConfig).nodeLabel :=
      hloadable
    exact exists_loadSource hstore htimeout (LoadConfig.validate_unweighted hvalid) hloadable'
      (Or.inl rfl)

/-- Two roads lead from the first place to the second, so loads in that direction are refused. -/
theorem refuses_parallel_roads : ∃ error source target,
    loadSource (MemoryGraph.ofWrites roadWrites).snapshot
      { weightProperty := some "cost", policy := .reject } 1 (fun _ => []) = .error error ∧
    error.rootCause = .duplicateRelationship source target := by
  obtain ⟨hfails, hnames, _⟩ := refuses_parallel_relationships roadWrites
    { weightProperty := some "cost", policy := .reject } 1 (fun _ => []) rfl rfl loadable_roadWrites rfl rfl
  have hmany : 2 ≤ ((MemoryGraph.ofWrites roadWrites).connecting
      { weightProperty := some "cost", policy := .reject } ⟨1⟩ ⟨2⟩).length := by
    unfold MemoryGraph.connecting
    rw [relationships_roadWrites]
    decide
  have hnodes := nodesWith_roadWrites
  obtain ⟨error, herror⟩ := hfails.mpr
    ⟨⟨1⟩, by rw [hnodes]; decide, ⟨2⟩, by rw [hnodes]; decide, hmany⟩
  obtain ⟨source, target, _, _, hroot, _⟩ := hnames error herror
  exact ⟨error, source, target, herror, hroot⟩

end CompactGraph
