/-
# Folding the weights of a node

The weights of a node are sorted by target, and the weights of equal targets, which now stand side by
side, are folded into one.  Sorting is stable, so each target gets the fold of its weights in order of
arrival.  The folds come in strictly ascending order of targets.
-/
import CompactGraph.Proofs.Scan.Reading
import CompactGraph.Proofs.Weight.Folds

namespace CompactGraph

namespace ListScan

/-! ## The weights of one target -/

/-- The weights of a target, in order of arrival. -/
def weightsTo (target : NodeId) (pending : List (NodeId × Float)) : List Float :=
  (pending.filter fun weight => weight.1 = target).map Prod.snd

theorem weightsTo_cons_self (target : NodeId) (weight : Float) (pending : List (NodeId × Float)) :
    weightsTo target ((target, weight) :: pending) = weight :: weightsTo target pending := by
  simp [weightsTo]

theorem weightsTo_cons_of_ne {target other : NodeId} (h : other ≠ target) (weight : Float)
    (pending : List (NodeId × Float)) :
    weightsTo target ((other, weight) :: pending) = weightsTo target pending := by
  simp [weightsTo, h]

theorem weightsTo_eq_nil_iff {target : NodeId} {pending : List (NodeId × Float)} :
    weightsTo target pending = [] ↔ target ∉ pending.map Prod.fst := by
  unfold weightsTo
  rw [List.map_eq_nil_iff, List.filter_eq_nil_iff, List.mem_map]
  constructor
  · rintro h ⟨weight, hmem, rfl⟩
    simpa using h weight hmem
  · intro h weight hmem
    simpa using fun heq => h ⟨weight, hmem, heq⟩

/-! ## Sorting -/

theorem sortPending_perm (pending : List (NodeId × Float)) : (sortPending pending).Perm pending :=
  List.mergeSort_perm ..

/-- Weights in order of targets. -/
def Sorted (pending : List (NodeId × Float)) : Prop :=
  pending.Pairwise fun a b => a.1.le b.1 = true

theorem sorted_sortPending (pending : List (NodeId × Float)) : Sorted (sortPending pending) :=
  List.pairwise_mergeSort (fun a b c => NodeId.le_trans a.1 b.1 c.1)
    (fun a b => NodeId.le_total a.1 b.1) pending

/-- **Sorting is stable**: each target keeps its weights in order of arrival. -/
theorem weightsTo_sortPending (target : NodeId) (pending : List (NodeId × Float)) :
    weightsTo target (sortPending pending) = weightsTo target pending := by
  set own := pending.filter fun weight => weight.1 = target with hown
  have hequal : own.Pairwise fun a b => a.1.le b.1 = true := by
    rw [List.pairwise_iff_forall_sublist]
    intro a b hab
    have ha := List.of_mem_filter (hab.subset (by simp : a ∈ [a, b]))
    have hb := List.of_mem_filter (hab.subset (by simp : b ∈ [a, b]))
    rw [decide_eq_true_iff] at ha hb
    rw [ha, hb, NodeId.le_iff]
  have hsub : own.Sublist (sortPending pending) :=
    List.sublist_mergeSort (fun a b c => NodeId.le_trans a.1 b.1 c.1)
      (fun a b => NodeId.le_total a.1 b.1) hequal List.filter_sublist
  have hfilter := hsub.filter fun weight => decide (weight.1 = target)
  rw [hown, List.filter_filter] at hfilter
  simp only [Bool.and_self] at hfilter
  have hlength := ((sortPending_perm pending).filter fun weight => weight.1 = target).length_eq
  rw [weightsTo, weightsTo, hfilter.eq_of_length hlength.symm]

/-! ## Folding runs -/

/-- What folding a sorted list of weights comes to: the folds of the weights of each target, in strictly
ascending order of targets. -/
structure Folds (policy : DuplicatePolicy) (pending folded : List (NodeId × Float)) : Prop where
  ascending : Ascending (folded.map Prod.fst)
  mem_iff : ∀ target, target ∈ folded.map Prod.fst ↔ target ∈ pending.map Prod.fst
  lookup : ∀ target, folded.lookup target = foldWeights policy (weightsTo target pending)

/-- Weights that have been folded although they may not meet lead to different targets. -/
theorem Folds.length_le {pending folded : List (NodeId × Float)} (h : Folds .reject pending folded)
    (target : NodeId) : (weightsTo target pending).length ≤ 1 := by
  by_contra hmany
  have hnone : folded.lookup target = none := by
    rw [h.lookup, foldWeights_eq_none_iff]
    exact Or.inr ⟨rfl, by omega⟩
  have hmem : target ∈ pending.map Prod.fst := by
    by_contra hnot
    rw [weightsTo_eq_nil_iff.mpr hnot] at hmany
    exact hmany (Nat.zero_le 1)
  obtain ⟨entry, hentry, rfl⟩ := List.mem_map.mp ((h.mem_iff target).mpr hmem)
  rw [List.lookup_eq_none_iff] at hnone
  exact absurd (hnone entry hentry) (by simp)

/-- No target of a sorted list comes before the first. -/
theorem Sorted.index_le {target : NodeId} {weight : Float} {rest : List (NodeId × Float)}
    (h : Sorted ((target, weight) :: rest)) {node : NodeId}
    (hnode : node ∈ ((target, weight) :: rest).map Prod.fst) : target.index ≤ node.index := by
  rw [List.map_cons] at hnode
  rcases List.mem_cons.mp hnode with rfl | hrest
  · exact Nat.le_refl _
  · obtain ⟨entry, hentry, rfl⟩ := List.mem_map.mp hrest
    exact NodeId.le_iff.mp ((List.pairwise_cons.mp h).1 entry hentry)

theorem folds_singleton (policy : DuplicatePolicy) (target : NodeId) (weight : Float) :
    Folds policy [(target, weight)] [(target, weight)] := by
  refine ⟨List.pairwise_singleton .., fun _ => Iff.rfl, fun node => ?_⟩
  by_cases hnode : node = target
  · rw [hnode, weightsTo_cons_self]
    simp [weightsTo]
  · rw [weightsTo_cons_of_ne (Ne.symm hnode)]
    simp [weightsTo, List.lookup_cons, beq_eq_false_iff_ne.mpr hnode]

section Folds

variable {policy : DuplicatePolicy} {target : NodeId} {weight : Float}
  {rest folded : List (NodeId × Float)}

/-- Two weights of a target may be merged before the others are folded. -/
theorem Folds.of_merged {arriving merged : Float} (hmerge : policy.merge weight arriving = some merged)
    (h : Folds policy ((target, merged) :: rest) folded) :
    Folds policy ((target, weight) :: (target, arriving) :: rest) folded := by
  refine ⟨h.ascending, fun node => ?_, fun node => ?_⟩
  · rw [h.mem_iff node]
    simp
  · rw [h.lookup node]
    by_cases hnode : target = node
    · subst hnode
      rw [weightsTo_cons_self, weightsTo_cons_self, weightsTo_cons_self, foldWeights_cons_cons, hmerge]
      rfl
    · rw [weightsTo_cons_of_ne hnode, weightsTo_cons_of_ne hnode, weightsTo_cons_of_ne hnode]

/-- A target before all others keeps its one weight. -/
theorem Folds.cons (h : Folds policy rest folded)
    (hfirst : ∀ node ∈ rest.map Prod.fst, target.index < node.index) :
    Folds policy ((target, weight) :: rest) ((target, weight) :: folded) := by
  have hbeyond : ∀ node ∈ folded.map Prod.fst, target.index < node.index :=
    fun node hnode => hfirst node ((h.mem_iff node).mp hnode)
  refine ⟨List.pairwise_cons.mpr ⟨hbeyond, h.ascending⟩, fun node => ?_, fun node => ?_⟩
  · rw [List.map_cons, List.mem_cons, h.mem_iff node, List.map_cons]
    exact List.mem_cons.symm
  · by_cases hnode : target = node
    · subst hnode
      -- no other weight leads to the target
      have hnone : weightsTo target rest = [] :=
        weightsTo_eq_nil_iff.mpr fun hmem => Nat.lt_irrefl _ (hfirst target hmem)
      rw [weightsTo_cons_self, hnone]
      simp
    · rw [weightsTo_cons_of_ne hnode, ← h.lookup node, List.lookup_cons,
        beq_eq_false_iff_ne.mpr (Ne.symm hnode)]

end Folds

/-- **Folding runs** of a sorted list folds the weights of each target. -/
theorem foldRun_folds {policy : DuplicatePolicy} {conflict : NodeId → LoadError}
    {rest : List (NodeId × Float)} :
    ∀ {target : NodeId} {weight : Float} {folded : List (NodeId × Float)},
      Sorted ((target, weight) :: rest) → foldRun policy conflict target weight rest = .ok folded →
      Folds policy ((target, weight) :: rest) folded := by
  induction rest with
  | nil =>
    intro target weight folded _ h
    cases h
    exact folds_singleton policy target weight
  | cons entry rest ih =>
    obtain ⟨next, arriving⟩ := entry
    intro target weight folded hsorted h
    obtain ⟨hfirst, hrest⟩ := List.pairwise_cons.mp hsorted
    rw [foldRun] at h
    by_cases hnext : next = target
    · -- the run goes on, with both weights merged
      rw [if_pos hnext] at h
      subst hnext
      cases hmerge : policy.merge weight arriving with
      | none =>
        rw [hmerge] at h
        cases h
      | some merged =>
        rw [hmerge] at h
        have hsorted' : Sorted ((next, merged) :: rest) :=
          List.pairwise_cons.mpr ⟨fun b hb => hfirst b (List.mem_cons_of_mem _ hb),
            (List.pairwise_cons.mp hrest).2⟩
        exact (ih hsorted' h).of_merged hmerge
    · -- the run ends, and all other targets come later
      rw [if_neg hnext] at h
      cases hrun : foldRun policy conflict next arriving rest with
      | error error =>
        rw [hrun] at h
        cases h
      | ok folded' =>
        rw [hrun] at h
        cases h
        have hlt : target.index < next.index :=
          lt_of_le_of_ne (NodeId.le_iff.mp (hfirst _ List.mem_cons_self))
            fun heq => hnext (NodeId.ext_index heq).symm
        exact (ih hrest hrun).cons fun node hnode => lt_of_lt_of_le hlt (Sorted.index_le hrest hnode)

/-- Folding runs fails only for two weights that may not meet. -/
theorem exists_foldRun {policy : DuplicatePolicy} (conflict : NodeId → LoadError)
    {rest : List (NodeId × Float)} :
    ∀ {target : NodeId} (weight : Float),
      (policy = .reject → (target :: rest.map Prod.fst).Nodup) →
      ∃ folded, foldRun policy conflict target weight rest = .ok folded := by
  induction rest with
  | nil => exact fun weight _ => ⟨_, rfl⟩
  | cons entry rest ih =>
    obtain ⟨next, arriving⟩ := entry
    intro target weight hmeet
    rw [foldRun]
    by_cases hnext : next = target
    · -- two weights meet, so they may
      have hpolicy : policy ≠ .reject := by
        intro hreject
        have hnodup := hmeet hreject
        rw [List.map_cons, hnext] at hnodup
        exact (List.nodup_cons.mp hnodup).1 List.mem_cons_self
      obtain ⟨merged, hmerged⟩ := DuplicatePolicy.exists_merge hpolicy weight arriving
      rw [if_pos hnext, hmerged]
      exact ih merged fun hreject => absurd hreject hpolicy
    · obtain ⟨folded, hfolded⟩ := ih arriving fun hreject => (List.nodup_cons.mp (hmeet hreject)).2
      rw [if_neg hnext, hfolded]
      exact ⟨_, rfl⟩

/-- **The folded weights of a node.** -/
theorem folds_of_foldPending {policy : DuplicatePolicy} {conflict : NodeId → LoadError}
    {pending folded : List (NodeId × Float)}
    (h : foldPending policy conflict (sortPending pending) = .ok folded) :
    Folds policy pending folded := by
  have hsorted := sorted_sortPending pending
  have hfolds : Folds policy (sortPending pending) folded := by
    cases hcase : sortPending pending with
    | nil =>
      rw [hcase] at h
      cases h
      exact ⟨List.Pairwise.nil, fun _ => Iff.rfl, fun _ => rfl⟩
    | cons entry rest =>
      rw [hcase] at h hsorted
      exact foldRun_folds hsorted h
  refine ⟨hfolds.ascending, fun target => ?_, fun target => ?_⟩
  · rw [hfolds.mem_iff, ((sortPending_perm pending).map Prod.fst).mem_iff]
  · rw [hfolds.lookup, weightsTo_sortPending]

/-- **When the weights of a node can be folded.** -/
theorem exists_foldPending {policy : DuplicatePolicy} (conflict : NodeId → LoadError)
    {pending : List (NodeId × Float)}
    (hmeet : policy = .reject → (pending.map Prod.fst).Nodup) :
    ∃ folded, foldPending policy conflict (sortPending pending) = .ok folded := by
  have hmeet' : policy = .reject → ((sortPending pending).map Prod.fst).Nodup := fun hreject =>
    ((sortPending_perm pending).map Prod.fst).nodup_iff.mpr (hmeet hreject)
  cases hcase : sortPending pending with
  | nil => exact ⟨[], rfl⟩
  | cons entry rest =>
    rw [hcase] at hmeet'
    exact exists_foldRun conflict entry.2 hmeet'

/-- **Folding runs fails** for a target that two weights lead to, where two weights may not meet. -/
theorem conflict_of_foldRun {policy : DuplicatePolicy} {conflict : NodeId → LoadError} {error : LoadError}
    {rest : List (NodeId × Float)} :
    ∀ {target : NodeId} {weight : Float}, foldRun policy conflict target weight rest = .error error →
      ∃ other, error = conflict other ∧ policy = .reject ∧
        2 ≤ (weightsTo other ((target, weight) :: rest)).length := by
  induction rest with
  | nil =>
    intro target weight h
    cases h
  | cons entry rest ih =>
    obtain ⟨next, arriving⟩ := entry
    intro target weight h
    rw [foldRun] at h
    by_cases hnext : next = target
    · subst hnext
      rw [if_pos rfl] at h
      cases hmerge : policy.merge weight arriving with
      | none =>
        rw [hmerge] at h
        cases h
        refine ⟨next, rfl, DuplicatePolicy.merge_eq_none_iff.mp hmerge, ?_⟩
        rw [weightsTo_cons_self, weightsTo_cons_self, List.length_cons, List.length_cons]
        omega
      | some merged =>
        rw [hmerge] at h
        obtain ⟨_, _, hreject, _⟩ := ih h
        -- a policy that has merged two weights does not refuse any
        rw [DuplicatePolicy.merge_eq_none_iff.mpr hreject] at hmerge
        cases hmerge
    · rw [if_neg hnext] at h
      cases hrun : foldRun policy conflict next arriving rest with
      | ok folded =>
        rw [hrun] at h
        cases h
      | error own =>
        rw [hrun] at h
        cases h
        obtain ⟨other, hown, hreject, hmany⟩ := ih hrun
        refine ⟨other, hown, hreject, ?_⟩
        have hsub : (weightsTo other ((next, arriving) :: rest)).Sublist
            (weightsTo other ((target, weight) :: (next, arriving) :: rest)) :=
          ((List.sublist_cons_self _ _).filter _).map _
        exact hmany.trans hsub.length_le

/-- **The weights of a node cannot be folded** if two of them lead to one target and may not meet. -/
theorem conflict_of_foldPending {policy : DuplicatePolicy} {conflict : NodeId → LoadError}
    {error : LoadError} {pending : List (NodeId × Float)}
    (h : foldPending policy conflict (sortPending pending) = .error error) :
    ∃ other, error = conflict other ∧ policy = .reject ∧ 2 ≤ (weightsTo other pending).length := by
  cases hsorted : sortPending pending with
  | nil =>
    rw [hsorted] at h
    cases h
  | cons entry rest =>
    rw [hsorted] at h
    obtain ⟨other, hown, hreject, hmany⟩ := conflict_of_foldRun h
    rw [← hsorted, weightsTo_sortPending] at hmany
    exact ⟨other, hown, hreject, hmany⟩

/-! ## What is kept -/

/-- Dropping repetitions keeps the first arrival at each node. -/
theorem head?_keptAfter (skips : Bool) {node : NodeId} (arrivals : List (NodeId × RelationshipId)) :
    ∀ {previous : NodeId}, previous ≠ node →
      ((keptAfter skips previous arrivals).filter fun arrival => arrival.1 = node).head?
        = (arrivals.filter fun arrival => arrival.1 = node).head? := by
  induction arrivals with
  | nil => exact fun _ => rfl
  | cons arrival arrivals ih =>
    intro previous hprevious
    rw [keptAfter]
    by_cases hskip : (skips && arrival.1 == previous) = true
    · have heq : arrival.1 = previous := by
        simp only [Bool.and_eq_true, beq_iff_eq] at hskip
        exact hskip.2
      rw [if_pos hskip, ih hprevious, List.filter_cons_of_neg (by simpa [heq] using hprevious)]
    · rw [if_neg hskip]
      by_cases hnode : arrival.1 = node
      · rw [List.filter_cons_of_pos (by simpa using hnode),
          List.filter_cons_of_pos (by simpa using hnode), List.head?_cons, List.head?_cons]
      · rw [List.filter_cons_of_neg (by simpa using hnode),
          List.filter_cons_of_neg (by simpa using hnode), ih hnode]

theorem keptAfter_false (previous : NodeId) (arrivals : List (NodeId × RelationshipId)) :
    keptAfter false previous arrivals = arrivals := by
  induction arrivals generalizing previous with
  | nil => rfl
  | cons arrival arrivals ih => rw [keptAfter, Bool.false_and, if_neg Bool.false_ne_true, ih]

theorem cons_keptAfter_true (arrival : NodeId × RelationshipId)
    (arrivals : List (NodeId × RelationshipId)) :
    arrival :: keptAfter true arrival.1 arrivals
      = arrivals.destutter' (fun before next => before.1 ≠ next.1) arrival := by
  induction arrivals generalizing arrival with
  | nil => rfl
  | cons next arrivals ih =>
    rw [keptAfter, Bool.true_and, List.destutter'_cons, ← ih, ← ih]
    by_cases hsame : next.1 = arrival.1
    · rw [if_pos (beq_iff_eq.mpr hsame), if_neg (not_not.mpr hsame.symm)]
    · rw [if_neg (by simpa using hsame), if_pos (Ne.symm hsame)]

/-- Of arrivals at the same node in a row the first is kept. -/
theorem keptAfter_true {previous : NodeId} {arrivals : List (NodeId × RelationshipId)}
    (h : ∀ arrival ∈ arrivals, arrival.1 ≠ previous) :
    keptAfter true previous arrivals
      = arrivals.destutter fun before next => before.1 ≠ next.1 := by
  cases arrivals with
  | nil => rfl
  | cons arrival arrivals =>
    rw [keptAfter, Bool.true_and, if_neg (by simpa using h arrival List.mem_cons_self),
      cons_keptAfter_true, List.destutter_cons']

theorem keptAfter_sublist (skips : Bool) (previous : NodeId)
    (arrivals : List (NodeId × RelationshipId)) :
    (keptAfter skips previous arrivals).Sublist arrivals := by
  induction arrivals generalizing previous with
  | nil => exact List.Sublist.slnil
  | cons arrival arrivals ih =>
    rw [keptAfter]
    split
    · exact (ih previous).cons arrival
    · exact (ih arrival.1).cons_cons arrival

theorem sightings_sublist (scan : ListScan) (node : NodeId) (seen : List RelationshipId)
    (found : List RelationshipRef) : (scan.sightings node seen found).Sublist found := by
  induction found generalizing seen with
  | nil => exact List.Sublist.slnil
  | cons relationship found ih =>
    rw [sightings]
    split
    · split
      · exact (ih seen).cons relationship
      · exact (ih _).cons_cons relationship
    · exact (ih seen).cons_cons relationship

theorem mem_arrivals {scan : ListScan} {sightings : List RelationshipRef}
    {arrival : NodeId × RelationshipId} :
    arrival ∈ scan.arrivals sightings ↔ arrival.1.isMapped = true ∧
      ∃ relationship ∈ sightings, scan.idMap.toMapped relationship.other = arrival.1 ∧
        relationship.id = arrival.2 := by
  unfold arrivals
  rw [List.mem_filter, List.mem_map, and_comm]
  simp only [Prod.ext_iff]

/-- Each node at which a relationship arrives is kept once at least. -/
theorem mem_kept {scan : ListScan} {sightings : List RelationshipRef} {node : NodeId} :
    node ∈ (scan.kept sightings).map Prod.fst ↔ node ∈ (scan.arrivals sightings).map Prod.fst := by
  constructor
  · exact fun hmem => ((keptAfter_sublist ..).map Prod.fst).subset hmem
  · intro hmem
    obtain ⟨arrival, harrival, rfl⟩ := List.mem_map.mp hmem
    have hmapped := (mem_arrivals.mp harrival).1
    have hhead := head?_keptAfter scan.skipsRepeats (scan.arrivals sightings)
      (Ne.symm (NodeId.isMapped_iff.mp hmapped))
    have hown : arrival ∈ (scan.arrivals sightings).filter fun a => a.1 = arrival.1 :=
      List.mem_filter.mpr ⟨harrival, by simp⟩
    -- the first arrival at a node is never dropped
    cases hlist : (scan.arrivals sightings).filter fun a => a.1 = arrival.1 with
    | nil =>
      rw [hlist] at hown
      cases hown
    | cons first rest =>
      rw [hlist, List.head?_cons] at hhead
      obtain ⟨hfirst, heq⟩ := List.mem_filter.mp (List.mem_of_mem_head? hhead)
      exact List.mem_map.mpr ⟨first, hfirst, by simpa using heq⟩

/-! ## Facts about readings -/

/-- What a reading consists of. -/
theorem reading_eq_ok {scan : ListScan} {read : PropertyReader} {node : NodeId}
    {found : List RelationshipRef} {reading : NodeReading}
    (h : scan.reading read node found = .ok reading) :
    ∃ weights, scan.weightsOf read (scan.kept (scan.sightings node [] found)) = .ok weights ∧
      Folds scan.policy (weights.map scan.withDefault) reading.folded ∧
      reading.targets = compact (sortTargets ((scan.kept (scan.sightings node [] found)).map Prod.fst)) ∧
      reading.counts = scan.countsOf (scan.sightings node [] found) weights := by
  obtain ⟨weights, hweights, hrest⟩ := bind_eq_ok_iff.mp h
  obtain ⟨folded, hfolded, heq⟩ := bind_eq_ok_iff.mp hrest
  cases heq
  exact ⟨weights, hweights, folds_of_foldPending hfolded, rfl, rfl⟩

/-- The targets of a reading are the loaded endpoints of its sightings, in strictly ascending order. -/
theorem targets_of_reading {scan : ListScan} {read : PropertyReader} {node : NodeId}
    {found : List RelationshipRef} {reading : NodeReading}
    (h : scan.reading read node found = .ok reading) :
    Ascending reading.targets ∧ reading.targets.length ≤ found.length ∧
      ∀ target, target ∈ reading.targets ↔
        target ∈ (scan.arrivals (scan.sightings node [] found)).map Prod.fst := by
  obtain ⟨_, _, _, htargets, _⟩ := reading_eq_ok h
  rw [htargets]
  refine ⟨ascending_compact_sortTargets _, ?_, fun target => ?_⟩
  · have hkept : (scan.kept (scan.sightings node [] found)).length ≤ found.length := by
      refine (keptAfter_sublist ..).length_le.trans ?_
      unfold arrivals
      refine (List.length_filter_le ..).trans ?_
      rw [List.length_map]
      exact (sightings_sublist ..).length_le
    refine (length_compact_sortTargets_le _).trans ?_
    rwa [List.length_map]
  · rw [mem_compact_sortTargets, mem_kept]

end ListScan

end CompactGraph
