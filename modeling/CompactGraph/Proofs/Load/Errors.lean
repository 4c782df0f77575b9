/-
# The errors of a partition

Where an error of a partition can come from (`LoadRun.OwnError`): a store that does not answer, two facts
that contradict each other, two weights that may not meet, or a deadline.  Each function that a worker goes
through has a lemma that says which errors it hands on and which it raises.  No worker raises `aborted`
unless the store answers so, which is what tells the failures of a crew apart.
-/
import CompactGraph.Proofs.Load.Blame
import CompactGraph.Proofs.Load.Rows

namespace CompactGraph

/-! ## Weights that may not meet -/

namespace WeightTable

variable {table after : WeightTable} {error : LoadError}

/-- A refused write is refused for its own pair. -/
theorem duplicate_of_put {key : PairKey} {weight : Float}
    (h : put key weight table = .error error after) :
    error = .duplicateRelationship key.source key.target := by
  simp only [put] at h
  repeat' split at h
  all_goals cases h
  all_goals rfl

theorem duplicate_of_putAll {writes : List (PairKey × Float)}
    (h : putAll writes table = .error error after) :
    ∃ source target, error = .duplicateRelationship source target := by
  induction writes generalizing table with
  | nil => cases h
  | cons write writes ih =>
    rw [putAll_cons] at h
    split at h
    · exact ih h
    · next hput =>
      cases h
      exact ⟨_, _, duplicate_of_put hput⟩

end WeightTable

/-! ## Visits -/

namespace ListScan

variable {scan : ListScan} {read : PropertyReader} {state after : ScanState} {error : LoadError}

/-- A weight cannot be read if its property cannot. -/
theorem unreadable_of_readWeight {id : RelationshipId} {target : NodeId}
    (h : scan.readWeight read id target state = .error error after) :
    ∃ name, read id name = .error error := by
  rw [readWeight] at h
  split at h
  · cases h
  · next name _ =>
    split at h
    · next hread =>
      cases h
      exact ⟨name, hread⟩
    · split at h <;> cases h

theorem unreadable_of_visit {relationship : RelationshipRef}
    (h : scan.visit read relationship state = .error error after) :
    ∃ name, read relationship.id name = .error error := by
  unfold visit at h
  dsimp only at h
  split at h
  · cases h
  · generalize countScanned _ = seen at h
    split at h
    · cases h
    · split at h
      · -- the visit fails only with the weight
        simp only [SeqRight.seqRight, EStateM.seqRight] at h
        split at h
        · cases h
        · next hweight =>
          cases h
          exact unreadable_of_readWeight hweight
      · cases h

theorem unreadable_of_visitAll {found : List RelationshipRef}
    (h : scan.visitAll read found state = .error error after) :
    ∃ relationship ∈ found, ∃ name, read relationship.id name = .error error := by
  induction found generalizing state with
  | nil => cases h
  | cons relationship found ih =>
    simp only [visitAll, bind, EStateM.bind] at h
    split at h
    · obtain ⟨other, hother, hread⟩ := ih h
      exact ⟨other, List.mem_cons_of_mem _ hother, hread⟩
    · next hvisit =>
      cases h
      exact ⟨relationship, List.mem_cons_self, unreadable_of_visit hvisit⟩

theorem duplicate_of_flushInto {weights : Option WeightTable}
    {after : ScanState × Option WeightTable}
    (h : scan.flushInto (state, weights) = .error error after) :
    ∃ source target, error = .duplicateRelationship source target := by
  simp only [flushInto] at h
  split at h
  · cases h
  · split at h
    · cases h
    · split at h
      · next hsettle =>
        cases h
        simp only [settle] at hsettle
        split at hsettle
        · cases hsettle
        · next hfold =>
          cases hsettle
          obtain ⟨other, rfl, _⟩ := conflict_of_foldPending hfold
          exact ⟨_, _, rfl⟩
      · split at h
        · next hput =>
          cases h
          exact WeightTable.duplicate_of_putAll hput
        · cases h

end ListScan

/-! ## Steps -/

namespace LoadRun

/-- The errors that a partition may raise itself. -/
inductive OwnError (run : LoadRun) : LoadError → Prop where
  | opening {cursor : Nat} {error : LoadError} (h : run.snapshot.openCursor cursor = .error error) :
      OwnError run error
  | degree {id : ExternalId} {direction : Direction} {type : Option String} {error : LoadError}
      (h : run.snapshot.degree id direction type = .error error) : OwnError run error
  | relationships {id : ExternalId} {direction : Direction} {type : Option String} {error : LoadError}
      (h : run.snapshot.relationships id direction type = .error error) : OwnError run error
  | property {id : RelationshipId} {name : String} {error : LoadError}
      (h : run.snapshot.property id name = .error error) : OwnError run error
  | inconsistent (finding : Inconsistency) : OwnError run (.sourceInconsistent finding)
  | duplicate (source target : NodeId) : OwnError run (.duplicateRelationship source target)
  | timeout (limit : Duration) (h : run.deadline.limit = some limit) : OwnError run (.timeout limit)

variable {run : LoadRun} {error : LoadError}

/-- A node is not read if its time has run out or if it has no external id. -/
theorem error_of_externalId {look : Look} {position node : Nat}
    (h : run.deadline.checkAt look position *> run.externalId node = .error error) :
    (∃ limit, run.deadline.limit = some limit ∧ error = .timeout limit) ∨
      error = .sourceInconsistent (.nodeNotMapped node) := by
  cases hcheck : run.deadline.checkAt look position with
  | error own =>
    rw [hcheck] at h
    cases h
    exact Or.inl (Deadline.expires_of_checkAt hcheck).timeout
  | ok _ =>
    rw [hcheck] at h
    have hid : run.externalId node = .error error := h
    unfold externalId at hid
    split at hid
    · cases hid
    · cases hid
      exact Or.inr rfl

theorem ownError_of_externalId {look : Look} {position node : Nat}
    (h : run.deadline.checkAt look position *> run.externalId node = .error error) :
    run.OwnError error := by
  rcases error_of_externalId h with ⟨limit, hlimit, rfl⟩ | rfl
  · exact .timeout limit hlimit
  · exact .inconsistent _

/-- Relationships are not read if the store does not deliver them or delivers too many. -/
theorem error_of_relationshipsOf {plan : ListPlan} {position : Nat} {id : ExternalId}
    (h : run.relationshipsOf plan position id = .error error) :
    run.snapshot.relationships id plan.scan.kind.direction run.config.relationshipType = .error error ∨
      ∃ count bound, error
        = .sourceInconsistent (.degreeExceeded id count plan.scan.kind.direction bound) := by
  simp only [relationshipsOf] at h
  cases hfound : run.snapshot.relationships id plan.scan.kind.direction run.config.relationshipType with
  | error own =>
    rw [hfound] at h
    cases h
    exact Or.inl rfl
  | ok found =>
    rw [hfound] at h
    simp only [bind, Except.bind] at h
    split at h
    · split at h
      · cases h
        exact Or.inr ⟨_, _, rfl⟩
      · cases h
    · cases h

theorem ownError_of_relationshipsOf {plan : ListPlan} {position : Nat} {id : ExternalId}
    (h : run.relationshipsOf plan position id = .error error) : run.OwnError error := by
  rcases error_of_relationshipsOf h with hfound | ⟨count, bound, rfl⟩
  · exact .relationships hfound
  · exact .inconsistent _

theorem ownError_of_fillList {plan : ListPlan} {position node : Nat} {id : ExternalId}
    {output : ListOutput} {weights : Option WeightTable} {after : ListOutput × Option WeightTable}
    (h : run.fillList plan position node id (output, weights) = .error error after) :
    run.OwnError error := by
  simp only [fillList] at h
  split at h
  · next hfound =>
    cases h
    exact ownError_of_relationshipsOf hfound
  · split at h
    · next hvisit =>
      cases h
      obtain ⟨relationship, _, name, hread⟩ := ListScan.unreadable_of_visitAll hvisit
      exact .property hread
    · split at h
      · next hflush =>
        cases h
        obtain ⟨source, target, rfl⟩ := ListScan.duplicate_of_flushInto hflush
        exact .duplicate source target
      · split at h
        · cases h
        · cases h
          exact .inconsistent _

theorem ownError_of_fillLists {plans : List ListPlan} {position node : Nat} {id : ExternalId} :
    ∀ {outputs : List ListOutput} {weights : Option WeightTable}
      {after : List ListOutput × Option WeightTable},
      run.fillLists position node id plans (outputs, weights) = .error error after →
      run.OwnError error := by
  induction plans with
  | nil =>
    intro outputs weights after h
    cases h
  | cons plan plans ih =>
    intro outputs weights after h
    simp only [fillLists] at h
    split at h
    · cases h
    · split at h
      · next hlist =>
        cases h
        exact ownError_of_fillList hlist
      · split at h
        · next hrest =>
          cases h
          exact ih hrest
        · cases h

/-- **A step that reads a node** fails in the ways of a partition. -/
theorem ownError_of_fillNode {plans : List ListPlan} {position node : Nat}
    {output after : PartitionOutput} (h : run.fillNode plans position node output = .error error after) :
    run.OwnError error := by
  simp only [fillNode] at h
  split at h
  · next hid =>
    cases h
    exact ownError_of_externalId hid
  · split at h
    · next hlists =>
      cases h
      exact ownError_of_fillLists hlists
    · cases h

/-- The degrees of a node are not all reported if one of them is not. -/
theorem unreported_of_degrees {id : ExternalId}
    (h : (run.kinds.mapM fun kind => run.snapshot.degree id kind.direction run.config.relationshipType)
      = .error error) :
    ∃ kind, run.snapshot.degree id (ScanKind.direction kind) run.config.relationshipType
      = .error error := by
  obtain ⟨_, kind, _, _, _, hdegree⟩ := mapM_eq_error_iff.mp h
  exact ⟨kind, hdegree⟩

/-- Asking for the degrees of a node begins with a look at the deadline and its external id. -/
theorem error_of_boundsOf {position node : Nat} (h : run.boundsOf position node = .error error) :
    run.deadline.checkAt (.counting node) position *> run.externalId node = .error error ∨
      ∃ (id : ExternalId) (kind : ScanKind),
        run.snapshot.degree id kind.direction run.config.relationshipType = .error error := by
  have hsplit : run.boundsOf position node
      = (run.deadline.checkAt (.counting node) position *> run.externalId node) >>= fun id =>
        run.kinds.mapM fun kind =>
          run.snapshot.degree id kind.direction run.config.relationshipType := by
    unfold boundsOf
    cases run.deadline.checkAt (.counting node) position <;> rfl
  rw [hsplit] at h
  cases hid : run.deadline.checkAt (.counting node) position *> run.externalId node with
  | error own =>
    rw [hid] at h
    cases h
    exact Or.inl rfl
  | ok id =>
    rw [hid] at h
    exact Or.inr ⟨id, unreported_of_degrees h⟩

/-- **A question for the degrees of a node** fails in the ways of a partition. -/
theorem ownError_of_boundsOf {position node : Nat} (h : run.boundsOf position node = .error error) :
    run.OwnError error := by
  rcases error_of_boundsOf h with hid | ⟨id, kind, hdegree⟩
  · exact ownError_of_externalId hid
  · exact .degree hdegree

/-! ## Partitions -/

/-- A partition raises what its cursor or one of its steps raises. -/
theorem forall_of_firstError {σ : Type} {work : PartitionWork σ} {start : σ} {cursor : Nat}
    {range : NodeRange} {step : Nat → Nat → EStateM LoadError σ Unit} {holds : LoadError → Prop}
    (hstart : work.start = (fun _ => start) <$> run.snapshot.openCursor cursor)
    (hsteps : work.steps = stepsFor range step)
    (hopening : ∀ error, run.snapshot.openCursor cursor = .error error → holds error)
    (hstep : ∀ position node state error after, step position node state = .error error after →
      holds error) (h : work.FirstError error) : holds error := by
  rcases h with hopen | ⟨_, hsplit, _, hfails⟩
  · rw [hstart, map_eq_error_iff] at hopen
    exact hopening _ hopen
  · have hmem : _ ∈ work.steps := hsplit ▸ List.mem_append_right _ List.mem_cons_self
    rw [hsteps] at hmem
    obtain ⟨⟨node, position⟩, _, rfl⟩ := List.mem_map.mp hmem
    exact hstep position node _ _ _ hfails

/-- A step that notes degrees fails as asking for them does. -/
theorem error_of_noteDegrees {degrees : Except LoadError NodeBounds} {found after : Array NodeBounds}
    (h : noteDegrees degrees found = .error error after) : degrees = .error error := by
  cases degrees with
  | error own =>
    cases h
    rfl
  | ok bounds => cases h

/-- **A partition that asks for degrees** fails as one of its questions does. -/
theorem forall_of_degreeWork {cursor : Nat} {range : NodeRange} {holds : LoadError → Prop}
    (hopening : ∀ error, run.snapshot.openCursor cursor = .error error → holds error)
    (hstep : ∀ position node error, run.boundsOf position node = .error error → holds error)
    (h : (run.degreeWork cursor range).FirstError error) : holds error := by
  have hnoted : ∀ position node state error after,
      noteDegrees (run.boundsOf position node) state = .error error after → holds error :=
    fun position node _ _ _ hnote => hstep position node _ (error_of_noteDegrees hnote)
  exact forall_of_firstError rfl rfl hopening hnoted h

/-- **A partition that asks for degrees** fails in no other ways. -/
theorem ownError_of_degreeWork {cursor : Nat} {range : NodeRange}
    (h : (run.degreeWork cursor range).FirstError error) : run.OwnError error :=
  forall_of_degreeWork (fun _ hopen => .opening hopen) (fun _ _ _ hstep => ownError_of_boundsOf hstep) h

/-- **A partition that fills lists** fails in no other ways. -/
theorem ownError_of_fillWork {cursor capacity : Nat} {range : NodeRange} {plans : List ListPlan}
    (h : (run.fillWork cursor range plans capacity).FirstError error) : run.OwnError error := by
  have hown : ∀ position node state error after,
      run.fillNode plans position node state = .error error after → run.OwnError error :=
    fun _ _ _ _ _ hstep => ownError_of_fillNode hstep
  exact forall_of_firstError rfl rfl (fun _ hopen => .opening hopen) hown h

end LoadRun

/-- A store that never answers that somebody else has failed. -/
structure Snapshot.NeverAborts (snapshot : Snapshot) : Prop where
  opening : ∀ cursor, snapshot.openCursor cursor ≠ .error .aborted
  degree : ∀ id direction type, snapshot.degree id direction type ≠ .error .aborted
  relationships : ∀ id direction type, snapshot.relationships id direction type ≠ .error .aborted
  property : ∀ id name, snapshot.property id name ≠ .error .aborted

/-- **No partition raises `aborted` itself**, unless the store answers so. -/
theorem LoadRun.OwnError.ne_aborted {run : LoadRun} {error : LoadError}
    (hnever : run.snapshot.NeverAborts) (h : run.OwnError error) : error ≠ .aborted := by
  rintro rfl
  cases h with
  | opening h => exact hnever.opening _ h
  | degree h => exact hnever.degree _ _ _ h
  | relationships h => exact hnever.relationships _ _ _ h
  | property h => exact hnever.property _ _ h

end CompactGraph
