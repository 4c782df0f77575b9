/-
# Relationships and weights by target

Where a store answers every question about properties, a node folds for each target the weights of all
relationships that lead there, in order of sighting.  A scan in both directions sights each self-loop
twice and counts it once.
-/
import CompactGraph.Proofs.Scan.Folding

namespace CompactGraph

namespace ListScan

variable {scan : ListScan} {node target : NodeId}

/-! ## Sightings -/

/-- A scan in one direction counts every sighting. -/
theorem sightings_of_directed (h : scan.kind.isUndirected = false) (seen : List RelationshipId)
    (found : List RelationshipRef) : scan.sightings node seen found = found := by
  induction found with
  | nil => rfl
  | cons relationship found ih =>
    rw [sightings, meetsTwice, h, Bool.false_and, if_neg Bool.false_ne_true, ih]

/-- The relationships that lead to a target. -/
def leadingTo (scan : ListScan) (target : NodeId) (relationships : List RelationshipRef) :
    List RelationshipRef :=
  relationships.filter fun relationship => scan.idMap.toMapped relationship.other = target

theorem leadingTo_append (first second : List RelationshipRef) :
    scan.leadingTo target (first ++ second)
      = scan.leadingTo target first ++ scan.leadingTo target second := List.filter_append ..

/-- Only self-loops are passed over. -/
theorem leadingTo_sightings_of_ne (h : target ≠ node) (found : List RelationshipRef) :
    ∀ seen, scan.leadingTo target (scan.sightings node seen found) = scan.leadingTo target found := by
  induction found with
  | nil => exact fun _ => rfl
  | cons relationship found ih =>
    intro seen
    rw [sightings]
    by_cases htarget : scan.idMap.toMapped relationship.other = target
    · -- what leads elsewhere is no self-loop, so it is not passed over
      have honce : ¬ scan.meetsTwice node relationship = true := by
        unfold meetsTwice
        rw [htarget, Bool.and_eq_true, beq_iff_eq]
        exact fun hboth => h hboth.2
      rw [if_neg honce, leadingTo, List.filter_cons_of_pos (by simpa using htarget), leadingTo,
        List.filter_cons_of_pos (by simpa using htarget)]
      congr 1
      exact ih seen
    · have hrest : scan.leadingTo target (relationship :: found) = scan.leadingTo target found :=
        List.filter_cons_of_neg (by simpa using htarget)
      have hskip : ∀ seen', scan.leadingTo target (relationship :: scan.sightings node seen' found)
          = scan.leadingTo target (scan.sightings node seen' found) :=
        fun seen' => List.filter_cons_of_neg (by simpa using htarget)
      rw [hrest]
      split
      · split
        · exact ih seen
        · rw [hskip, ih]
      · rw [hskip, ih]

/-- Self-loops that were met before are passed over. -/
theorem sightings_again {seen : List RelationshipId} {found : List RelationshipRef}
    (h : ∀ relationship ∈ found, scan.meetsTwice node relationship = true → relationship.id ∈ seen) :
    scan.sightings node seen found = found.filter fun relationship => !scan.meetsTwice node relationship := by
  induction found with
  | nil => rfl
  | cons relationship found ih =>
    have hrest := ih fun other hother => h other (List.mem_cons_of_mem _ hother)
    rw [sightings]
    by_cases hmeets : scan.meetsTwice node relationship = true
    · have hseen := h relationship List.mem_cons_self hmeets
      rw [if_pos hmeets, if_pos (List.contains_iff_mem.mpr hseen), hrest,
        List.filter_cons_of_neg (by simpa using hmeets)]
    · rw [if_neg hmeets, hrest, List.filter_cons_of_pos (by simpa using hmeets)]

/-- Relationships that are met for the first time all count. -/
theorem sightings_append {first : List RelationshipRef} (second : List RelationshipRef) :
    ∀ {seen : List RelationshipId}, (first.map RelationshipRef.id).Nodup →
      (∀ relationship ∈ first, relationship.id ∉ seen) →
      ∃ seen', (∀ id ∈ seen, id ∈ seen') ∧
        (∀ relationship ∈ first, scan.meetsTwice node relationship = true → relationship.id ∈ seen') ∧
        scan.sightings node seen (first ++ second) = first ++ scan.sightings node seen' second := by
  induction first with
  | nil => exact fun {seen} _ _ => ⟨seen, fun _ hid => hid, List.forall_mem_nil _, rfl⟩
  | cons relationship first ih =>
    intro seen hnodup hfresh
    obtain ⟨hown, hnodup⟩ := List.nodup_cons.mp hnodup
    have hfresh' : ∀ other ∈ first, other.id ∉ seen :=
      fun other hother => hfresh other (List.mem_cons_of_mem _ hother)
    rw [List.cons_append, sightings]
    by_cases hmeets : scan.meetsTwice node relationship = true
    · -- a self-loop is noted, and no other relationship has its number
      have hrest : ∀ other ∈ first, other.id ∉ relationship.id :: seen := by
        intro other hother hmem
        rcases List.mem_cons.mp hmem with heq | hmem
        · exact hown (List.mem_map.mpr ⟨other, hother, heq⟩)
        · exact hfresh' other hother hmem
      have hnew : ¬ seen.contains relationship.id = true := by
        rw [List.contains_iff_mem]
        exact hfresh relationship List.mem_cons_self
      obtain ⟨seen', hseen, hfirst, heq⟩ := ih hnodup hrest
      refine ⟨seen', fun id hid => hseen id (List.mem_cons_of_mem _ hid), ?_, ?_⟩
      · intro other hother hloop
        rcases List.mem_cons.mp hother with rfl | hother
        · exact hseen _ List.mem_cons_self
        · exact hfirst other hother hloop
      · rw [if_pos hmeets, if_neg hnew, heq, List.cons_append]
    · obtain ⟨seen', hseen, hfirst, heq⟩ := ih hnodup hfresh'
      refine ⟨seen', hseen, ?_, ?_⟩
      · intro other hother hloop
        rcases List.mem_cons.mp hother with rfl | hother
        · exact absurd hloop hmeets
        · exact hfirst other hother hloop
      · rw [if_neg hmeets, heq, List.cons_append]

/-- **What is met twice counts once.** -/
theorem sightings_twice {first second : List RelationshipRef}
    (hnodup : (first.map RelationshipRef.id).Nodup)
    (h : ∀ relationship ∈ second, scan.meetsTwice node relationship = true → relationship ∈ first) :
    scan.sightings node [] (first ++ second)
      = first ++ second.filter fun relationship => !scan.meetsTwice node relationship := by
  obtain ⟨seen, _, hseen, heq⟩ :=
    @sightings_append scan node first second [] hnodup fun _ _ => List.not_mem_nil
  rw [heq, sightings_again fun relationship hmem hmeets =>
    hseen relationship (h relationship hmem hmeets) hmeets]

/-- Each target that is sighted at all is sighted once at least. -/
theorem leadingTo_sightings_eq_nil_iff (found : List RelationshipRef) :
    scan.leadingTo target (scan.sightings node [] found) = [] ↔ scan.leadingTo target found = [] := by
  by_cases htarget : target = node
  · subst htarget
    induction found with
    | nil => exact Iff.rfl
    | cons relationship found ih =>
      have hcons : ∀ rest, scan.leadingTo target (relationship :: rest) = [] ↔
          scan.idMap.toMapped relationship.other ≠ target ∧ scan.leadingTo target rest = [] := by
        intro rest
        unfold leadingTo
        rw [List.filter_eq_nil_iff, List.filter_eq_nil_iff, List.forall_mem_cons, decide_eq_true_eq]
      rw [sightings]
      by_cases hmeets : scan.meetsTwice target relationship = true
      · -- the first self-loop counts
        have hloop : scan.idMap.toMapped relationship.other = target := by
          unfold meetsTwice at hmeets
          rw [Bool.and_eq_true, beq_iff_eq] at hmeets
          exact hmeets.2
        rw [if_pos hmeets, if_neg (by simp), hcons, hcons]
        exact iff_of_false (fun h => h.1 hloop) fun h => h.1 hloop
      · rw [if_neg hmeets, hcons, hcons, ih]
  · rw [leadingTo_sightings_of_ne htarget]

/-! ## Arrivals -/

/-- The arrivals at a loaded target. -/
theorem arrivals_at (h : target.isMapped = true) (sightings : List RelationshipRef) :
    (scan.arrivals sightings).filter (fun arrival => arrival.1 = target)
      = (scan.leadingTo target sightings).map fun relationship => (target, relationship.id) := by
  induction sightings with
  | nil => rfl
  | cons relationship sightings ih =>
    rw [arrivals_cons]
    by_cases htarget : scan.idMap.toMapped relationship.other = target
    · have hcons : scan.leadingTo target (relationship :: sightings)
          = relationship :: scan.leadingTo target sightings :=
        List.filter_cons_of_pos (by simpa using htarget)
      rw [htarget, if_pos h, List.filter_cons_of_pos (by simp), ih, hcons, List.map_cons]
    · have hcons : scan.leadingTo target (relationship :: sightings)
          = scan.leadingTo target sightings :=
        List.filter_cons_of_neg (by simpa using htarget)
      rw [hcons, ← ih]
      split
      · exact List.filter_cons_of_neg (by simpa using htarget)
      · rfl

/-- A loaded target is reached if some relationship leads to it. -/
theorem mem_arrivals_iff (h : target.isMapped = true) (sightings : List RelationshipRef) :
    target ∈ (scan.arrivals sightings).map Prod.fst ↔ scan.leadingTo target sightings ≠ [] := by
  rw [ne_eq, ← List.map_eq_nil_iff (f := fun relationship : RelationshipRef =>
    (target, relationship.id)), ← arrivals_at h, List.filter_eq_nil_iff, List.mem_map]
  constructor
  · rintro ⟨arrival, harrival, heq⟩ hnone
    exact hnone arrival harrival (by simpa using heq)
  · intro hsome
    by_contra hnone
    apply hsome
    intro arrival harrival heq
    exact hnone ⟨arrival, harrival, by simpa using heq⟩

/-- **Dropping repetitions on arrival does not show** in the folded weights, where they are dropped at
all. -/
theorem foldWeights_keptAfter {name : String} (hproperty : scan.property = some name) {skips : Bool}
    (hskips : skips = true → scan.skipsRepeats = true) (htarget : target.isMapped = true)
    (weightOf : RelationshipId → Float) (arrivals : List (NodeId × RelationshipId)) :
    foldWeights scan.policy
        (((keptAfter skips NodeId.unmapped arrivals).filter fun arrival => arrival.1 = target).map
          fun arrival => weightOf arrival.2)
      = foldWeights scan.policy ((arrivals.filter fun arrival => arrival.1 = target).map
        fun arrival => weightOf arrival.2) := by
  by_cases hfirst : scan.policy = .keepFirst
  · -- only the first weight counts, and dropping repetitions keeps it
    rw [hfirst, foldWeights_keepFirst, foldWeights_keepFirst, List.head?_map, List.head?_map,
      head?_keptAfter _ _ (Ne.symm (NodeId.isMapped_iff.mp htarget))]
  · -- later weights count as well, so nothing is dropped
    have hskips' : scan.skipsRepeats = false := by
      unfold skipsRepeats
      rw [hproperty, DuplicatePolicy.needsLater]
      simp [hfirst]
    have hkeeps : skips = false := by
      by_contra h
      rw [hskips (by simpa using h)] at hskips'
      cases hskips'
    rw [hkeeps, keptAfter_false]

/-! ## Reading properties -/

section Pure

variable {read : PropertyReader} {valueOf : RelationshipId → String → Option PropertyValue}
  (hread : ∀ id name, read id name = .ok (valueOf id name))

/-- The weight of a relationship for a scan that reads this property. -/
def weightIn (scan : ListScan) (valueOf : RelationshipId → String → Option PropertyValue)
    (name : String) (id : RelationshipId) : Float :=
  ((valueOf id name).bind PropertyValue.asWeight).getD scan.defaultWeight

omit hread in
/-- A store that answers for all arrivals delivers a weight for each of them. -/
theorem weightsOf_of_answers {name : String} (hproperty : scan.property = some name)
    {kept : List (NodeId × RelationshipId)}
    (hanswers : ∀ arrival ∈ kept, read arrival.2 name = .ok (valueOf arrival.2 name)) :
    scan.weightsOf read kept = .ok (kept.map fun arrival =>
      (arrival.1, (valueOf arrival.2 name).bind PropertyValue.asWeight)) := by
  unfold weightsOf
  rw [hproperty]
  show kept.mapM (weightAt read name) = _
  rw [mapM_eq_ok_iff, List.map_map]
  apply List.map_congr_left
  intro arrival harrival
  unfold weightAt
  rw [hanswers arrival harrival]
  rfl

include hread

/-- A store that answers delivers a weight for each arrival. -/
theorem weightsOf_eq {name : String} (hproperty : scan.property = some name)
    (kept : List (NodeId × RelationshipId)) :
    scan.weightsOf read kept = .ok (kept.map fun arrival =>
      (arrival.1, (valueOf arrival.2 name).bind PropertyValue.asWeight)) :=
  weightsOf_of_answers hproperty fun arrival _ => hread arrival.2 name

/-- Only loaded targets have folded weights. -/
theorem mem_arrivals_of_lookup {name : String} (hproperty : scan.property = some name)
    {found : List RelationshipRef} {reading : NodeReading}
    (h : scan.reading read node found = .ok reading) (hsome : reading.folded.lookup target ≠ none) :
    target ∈ (scan.arrivals (scan.sightings node [] found)).map Prod.fst := by
  obtain ⟨weights, hweights, hfolds, _⟩ := reading_eq_ok h
  rw [weightsOf_eq hread hproperty] at hweights
  cases hweights
  by_contra hmem
  apply hsome
  rw [hfolds.lookup, weightsTo_eq_nil_iff.mpr, foldWeights_nil]
  rw [List.map_map, List.map_map]
  exact fun hkept => hmem (mem_kept.mp hkept)

/-- **Readings succeed** where the store answers, unless two weights meet that may not. -/
theorem exists_reading (hmeet : scan.property = none ∨ scan.policy ≠ .reject)
    (found : List RelationshipRef) : ∃ reading, scan.reading read node found = .ok reading := by
  have hweights : ∃ weights, scan.weightsOf read (scan.kept (scan.sightings node [] found))
      = .ok weights ∧ (scan.property = none → weights = []) := by
    cases hproperty : scan.property with
    | none => exact ⟨[], weightsOf_unread hproperty .., fun _ => rfl⟩
    | some name => exact ⟨_, weightsOf_eq hread hproperty _, fun hnone => by cases hnone⟩
  obtain ⟨weights, hweights, hnone⟩ := hweights
  -- weights that may not meet are not read
  have hnodup : scan.policy = .reject → ((weights.map scan.withDefault).map Prod.fst).Nodup := by
    intro hreject
    rw [hnone (hmeet.resolve_right fun hne => hne hreject)]
    exact List.nodup_nil
  obtain ⟨folded, hfolded⟩ := exists_foldPending (scan.conflict node) hnodup
  exact ⟨_, bind_eq_ok_iff.mpr ⟨weights, hweights, bind_eq_ok_iff.mpr ⟨folded, hfolded, rfl⟩⟩⟩

omit hread in
/-- The weights of a target are those of the arrivals there. -/
theorem weightsTo_pending (name : String) (target : NodeId) (kept : List (NodeId × RelationshipId)) :
    weightsTo target ((kept.map fun arrival =>
        (arrival.1, (valueOf arrival.2 name).bind PropertyValue.asWeight)).map scan.withDefault)
      = (kept.filter fun arrival => arrival.1 = target).map
        fun arrival => scan.weightIn valueOf name arrival.2 := by
  unfold weightsTo
  rw [List.map_map, List.filter_map, List.map_map]
  rfl

/-- **A node cannot be read** if two relationships lead to one target and their weights may not meet. -/
theorem conflict_of_reading {name : String} (hproperty : scan.property = some name)
    {found : List RelationshipRef} {error : LoadError}
    (h : scan.reading read node found = .error error) :
    ∃ target, target ∈ (scan.arrivals (scan.sightings node [] found)).map Prod.fst ∧
      error = scan.conflict node target ∧ scan.policy = .reject ∧
      2 ≤ (scan.leadingTo target (scan.sightings node [] found)).length := by
  have hweights := weightsOf_eq hread hproperty (scan.kept (scan.sightings node [] found))
  simp only [reading, hweights, bind, Except.bind] at h
  split at h
  · next hfold =>
    cases h
    obtain ⟨target, hown, hreject, hmany⟩ := conflict_of_foldPending hfold
    rw [weightsTo_pending, List.length_map] at hmany
    -- what is kept there has arrived there
    have hsub : ((scan.kept (scan.sightings node [] found)).filter fun a => a.1 = target).Sublist
        ((scan.arrivals (scan.sightings node [] found)).filter fun a => a.1 = target) :=
      (keptAfter_sublist ..).filter _
    have harrived := hmany.trans hsub.length_le
    have hmem : target ∈ (scan.arrivals (scan.sightings node [] found)).map Prod.fst := by
      obtain ⟨arrival, hown⟩ := List.exists_mem_of_length_pos (Nat.lt_of_lt_of_le Nat.zero_lt_two harrived)
      obtain ⟨harrival, heq⟩ := List.mem_filter.mp hown
      exact List.mem_map.mpr ⟨arrival, harrival, by simpa using heq⟩
    obtain ⟨arrival, harrival, rfl⟩ := List.mem_map.mp hmem
    rw [arrivals_at (mem_arrivals.mp harrival).1, List.length_map] at harrived
    exact ⟨arrival.1, hmem, hown, hreject, harrived⟩
  · cases h

/-- A node that can be read although weights may not meet has one relationship to each target. -/
theorem length_leadingTo_le {name : String} (hproperty : scan.property = some name)
    (hreject : scan.policy = .reject) {found : List RelationshipRef} {reading : NodeReading}
    (h : scan.reading read node found = .ok reading) (htarget : target.isMapped = true) :
    (scan.leadingTo target (scan.sightings node [] found)).length ≤ 1 := by
  obtain ⟨weights, hweights, hfolds, _⟩ := reading_eq_ok h
  rw [weightsOf_eq hread hproperty] at hweights
  cases hweights
  rw [hreject] at hfolds
  have hone := hfolds.length_le target
  have hskips : scan.skipsRepeats = false := by
    unfold skipsRepeats
    rw [hproperty, hreject]
    rfl
  unfold kept at hone
  rwa [weightsTo_pending, hskips, keptAfter_false, arrivals_at htarget, List.length_map,
    List.length_map] at hone

/-- **The folded weight of a target** is the fold of the weights of all relationships that lead there,
in order of sighting. -/
theorem lookup_folded {name : String} (hproperty : scan.property = some name)
    {found : List RelationshipRef} {reading : NodeReading}
    (h : scan.reading read node found = .ok reading) (htarget : target.isMapped = true) :
    reading.folded.lookup target
      = foldWeights scan.policy ((scan.leadingTo target (scan.sightings node [] found)).map
        fun relationship => scan.weightIn valueOf name relationship.id) := by
  obtain ⟨weights, hweights, hfolds, _⟩ := reading_eq_ok h
  rw [weightsOf_eq hread hproperty] at hweights
  cases hweights
  have harrivals : (scan.leadingTo target (scan.sightings node [] found)).map
        (fun relationship => scan.weightIn valueOf name relationship.id)
      = ((scan.arrivals (scan.sightings node [] found)).filter fun arrival => arrival.1 = target).map
        fun arrival => scan.weightIn valueOf name arrival.2 := by
    rw [arrivals_at htarget, List.map_map]
    rfl
  rw [hfolds.lookup, weightsTo_pending, harrivals]
  exact foldWeights_keptAfter hproperty id htarget _ _

end Pure

end ListScan

end CompactGraph
