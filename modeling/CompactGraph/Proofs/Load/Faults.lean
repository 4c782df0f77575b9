/-
# Faults of a store

A store falters if it answers each question as another store does or with an error (`Snapshot.Falters`).
A question that was answered may fail when it is asked again, so what the store shows is told inquiry by
inquiry (`Inquiry`), and no question is asked twice at one of them.  A worker that asks such a store comes
to what it comes to over the other one, unless one of the inquiries that it gets to make is answered with
an error; then it fails with that error.  This is said of a visit, of a node in one list and in all lists,
and of a partition, and at each level a predicate says what is asked in vain: it follows the recursion of
what it is about, so that it names no question that is not asked.
-/
import CompactGraph.Proofs.Load.Blame
import CompactGraph.Proofs.Load.Rows

namespace CompactGraph

open PartitionWork

/-! ## Stores that falter -/

/-- A store that answers each question as another one does or with an error.  Its node scan is that of the
other store, or delivers some of the first nodes and then fails. -/
structure Snapshot.Falters (faulty sound : Snapshot) : Prop where
  countsDegrees : faulty.countsDegrees = sound.countsDegrees
  openCursor : ∀ cursor, faulty.openCursor cursor = sound.openCursor cursor ∨
    ∃ error, faulty.openCursor cursor = .error error
  scanNodes : ∀ label, faulty.scanNodes label = sound.scanNodes label ∨
    (faulty.scanNodes label).ids <+: (sound.scanNodes label).ids ∧
      ∃ error, (faulty.scanNodes label).failure = some error
  degree : ∀ id direction type, faulty.degree id direction type = sound.degree id direction type ∨
    ∃ error, faulty.degree id direction type = .error error
  relationships : ∀ id direction type,
    faulty.relationships id direction type = sound.relationships id direction type ∨
      ∃ error, faulty.relationships id direction type = .error error
  property : ∀ id name, faulty.property id name = sound.property id name ∨
    ∃ error, faulty.property id name = .error error

/-- When a load asks a store: through which cursor, about which node, for which list, and about which of the
relationships that were found there.  What is asked before is asked at the first place. -/
structure Inquiry where
  cursor : Nat
  node : Nat
  list : Nat
  place : Nat

/-- When a load opens a cursor. -/
def Inquiry.opening (cursor : Nat) : Inquiry := ⟨cursor, 0, 0, 0⟩

/-- When a load looks for nodes, which it does through its first cursor as soon as that is open. -/
def Inquiry.nodes : Inquiry := .opening 0

/-! ## Visits -/

/-- The state to which a step leads. -/
def stateOf {σ β : Type} : EStateM.Result LoadError σ β → Except LoadError σ
  | .ok _ state => .ok state
  | .error error _ => .error error

theorem endState_eq {σ : Type} (step : EStateM LoadError σ Unit) (state : σ) :
    endState step state = stateOf (step state) := by
  unfold endState
  cases step state <;> rfl

theorem eq_error_of_stateOf {σ β : Type} {result : EStateM.Result LoadError σ β} {error : LoadError}
    (h : stateOf result = .error error) : ∃ state, result = .error error state := by
  cases result with
  | ok answer state => cases h
  | error own state =>
    cases h
    exact ⟨state, rfl⟩

namespace ListScan

variable {scan : ListScan}

/-- Whether a visit keeps a relationship: it is not passed over, leads to a loaded node, and is no
repetition that the buffer skips. -/
def keeps (scan : ListScan) (relationship : RelationshipRef) (state : ScanState) : Bool :=
  !(scan.meetsTwice state.buffer.source relationship && state.selfLoops.contains relationship.id) &&
    (scan.idMap.toMapped relationship.other).isMapped &&
      ((scan.noted relationship state).buffer.add (scan.idMap.toMapped relationship.other)).1

/-- A relationship that is not kept is not asked for anything. -/
theorem visit_of_not_keeps {relationship : RelationshipRef} {state : ScanState}
    (h : scan.keeps relationship state = false) (read read' : PropertyReader) :
    scan.visit read relationship state = scan.visit read' relationship state := by
  rw [visit_eq, visit_eq]
  split
  · rfl
  · next hmet =>
    split
    · rfl
    · next hmapped =>
      dsimp only
      split
      · next hkept =>
        rw [Bool.not_eq_true] at hmet hmapped
        rw [Bool.not_eq_false'] at hmapped
        rw [keeps, hmet, hmapped, hkept] at h
        cases h
      · rfl

/-- A relationship that is kept is asked for its weight. -/
theorem visit_of_keeps {relationship : RelationshipRef} {state : ScanState}
    (h : scan.keeps relationship state = true) :
    ∃ noted : ScanState, ∀ read, stateOf (scan.visit read relationship state)
      = stateOf (scan.readWeight read relationship.id (scan.idMap.toMapped relationship.other) noted) := by
  simp only [keeps, Bool.and_eq_true, Bool.not_eq_true'] at h
  obtain ⟨⟨hmet, hmapped⟩, hkept⟩ := h
  refine ⟨{ scan.noted relationship state with
    buffer := ((scan.noted relationship state).buffer.add
      (scan.idMap.toMapped relationship.other)).2 }, fun read => ?_⟩
  rw [visit_eq, if_neg (by rw [hmet]; exact Bool.false_ne_true), if_neg (by simp [hmapped])]
  dsimp only
  rw [if_pos hkept]
  show stateOf (EStateM.seqRight _ _ _) = _
  rw [EStateM.seqRight]
  cases scan.readWeight read relationship.id (scan.idMap.toMapped relationship.other) _ <;> rfl

/-- The state of a scan that has read a value of the weight property. -/
def weigh (scan : ListScan) (target : NodeId) (state : ScanState) (value : Option PropertyValue) :
    ScanState :=
  match value.bind PropertyValue.asWeight with
  | some weight => keep target weight state
  | none => keep target scan.defaultWeight (countFallback state)

theorem stateOf_readWeight {name : String} (hname : scan.property = some name) (read : PropertyReader)
    (id : RelationshipId) (target : NodeId) (state : ScanState) :
    stateOf (scan.readWeight read id target state)
      = read id name >>= fun value => .ok (scan.weigh target state value) := by
  simp only [readWeight, hname]
  cases read id name with
  | error error => rfl
  | ok value =>
    simp only [bind, Except.bind, weigh]
    cases value.bind PropertyValue.asWeight <;> rfl

/-- Look at relationships one after another, each of which is asked in its own way. -/
def visitEach (scan : ListScan) : List (RelationshipRef × PropertyReader) → EStateM LoadError ScanState Unit
  | [] => pure ()
  | (relationship, read) :: rest => do
    let _ ← scan.visit read relationship
    scan.visitEach rest

/-- Where all of them are asked in the same way, this is a visit of the relationships. -/
theorem visitEach_same (read : PropertyReader) (found : List RelationshipRef) :
    scan.visitEach (found.map fun relationship => (relationship, read)) = scan.visitAll read found := by
  induction found with
  | nil => rfl
  | cons relationship found ih => rw [List.map_cons, visitEach, visitAll, ih]

/-- Visits of relationships that come to ask for a weight in vain. -/
inductive AsksInVain (scan : ListScan) :
    List (RelationshipRef × PropertyReader) → ScanState → LoadError → Prop where
  | weight {relationship : RelationshipRef} {read : PropertyReader}
      {rest : List (RelationshipRef × PropertyReader)} {state : ScanState} {name : String}
      {error : LoadError} (hkeeps : scan.keeps relationship state = true)
      (hname : scan.property = some name) (h : read relationship.id name = .error error) :
      AsksInVain scan ((relationship, read) :: rest) state error
  | later {relationship : RelationshipRef} {read : PropertyReader}
      {rest : List (RelationshipRef × PropertyReader)} {state after : ScanState} {error : LoadError}
      (hvisit : stateOf (scan.visit read relationship state) = .ok after)
      (h : AsksInVain scan rest after error) : AsksInVain scan ((relationship, read) :: rest) state error

theorem stateOf_visitEach_cons (relationship : RelationshipRef) (read : PropertyReader)
    (rest : List (RelationshipRef × PropertyReader)) (state : ScanState) :
    stateOf (scan.visitEach ((relationship, read) :: rest) state)
      = stateOf (scan.visit read relationship state) >>= fun after =>
        stateOf (scan.visitEach rest after) := by
  simp only [visitEach, bind, EStateM.bind]
  cases scan.visit read relationship state <;> rfl

/-- Visits that ask in vain fail. -/
theorem AsksInVain.fails {asked : List (RelationshipRef × PropertyReader)} {state : ScanState}
    {error : LoadError} (h : scan.AsksInVain asked state error) :
    stateOf (scan.visitEach asked state) = .error error := by
  induction h with
  | weight hkeeps hname h =>
    obtain ⟨noted, hvisit⟩ := visit_of_keeps hkeeps
    rw [stateOf_visitEach_cons, hvisit, stateOf_readWeight hname, h]
    rfl
  | later hvisit _ ih =>
    rw [stateOf_visitEach_cons, hvisit]
    exact ih

/-- **Visits of relationships** come to the same unless a weight is asked for in vain. -/
theorem visitEach_agrees {sound : PropertyReader} {asked : List (RelationshipRef × PropertyReader)}
    (h : ∀ both ∈ asked, ∀ id name,
      both.2 id name = sound id name ∨ ∃ error, both.2 id name = .error error) :
    ∀ state, AgreesUnless (scan.AsksInVain asked state) (stateOf (scan.visitEach asked state))
      (stateOf (scan.visitEach (asked.map fun both => (both.1, sound)) state)) := by
  induction asked with
  | nil => exact fun _ => AgreesUnless.refl _ _
  | cons first asked ih =>
    obtain ⟨relationship, read⟩ := first
    intro state
    have hrest := ih fun both hboth => h both (List.mem_cons_of_mem _ hboth)
    rw [List.map_cons, stateOf_visitEach_cons, stateOf_visitEach_cons]
    refine AgreesUnless.bind ?_ fun after hafter => (hrest after).imp fun error => .later hafter
    cases hkeeps : scan.keeps relationship state with
    | false =>
      rw [visit_of_not_keeps hkeeps read sound]
      exact AgreesUnless.refl _ _
    | true =>
      obtain ⟨noted, hvisit⟩ := visit_of_keeps hkeeps
      rw [hvisit, hvisit]
      cases hname : scan.property with
      | none =>
        simp only [readWeight, hname]
        exact AgreesUnless.refl _ _
      | some name =>
        rw [stateOf_readWeight hname, stateOf_readWeight hname]
        have hanswer := h _ List.mem_cons_self relationship.id name
        exact (AgreesUnless.of_answer hanswer fun error => .weight hkeeps hname).bind
          fun _ _ => AgreesUnless.refl _ _

end ListScan

/-! ## Nodes -/

namespace LoadRun

/-- The same run, asking another store. -/
def asking (run : LoadRun) (snapshot : Snapshot) : LoadRun := { run with snapshot }

/-- The same run, held to another deadline. -/
def heldTo (run : LoadRun) (deadline : Deadline) : LoadRun := { run with deadline }

variable {run : LoadRun}

/-! ### Inquiry by inquiry -/

/-- Relationships with what the store shows when each of them is asked for its weight. -/
def askedThrough (views : Nat → Snapshot) (found : List RelationshipRef) :
    List (RelationshipRef × PropertyReader) :=
  found.zipIdx.map fun (relationship, place) => (relationship, (views place).property)

/-- How a node ends in a list once its relationships have been visited. -/
def finishList (plan : ListPlan) (output : ListOutput) (weights : Option WeightTable) (state : ScanState) :
    EStateM.Result LoadError (ListOutput × Option WeightTable) Unit :=
  match plan.scan.flushInto (state, weights) with
  | .error error (state, weights) => .error error ({ output with state }, weights)
  | .ok targets (state, weights) =>
    let output := { output with state, degrees := output.degrees.push targets.size }
    if plan.fits (output.targets.size + targets.size) then
      .ok () ({ output with targets := output.targets ++ targets }, weights)
    else .error (.sourceInconsistent .regionOverrun) (output, weights)

/-- Read a node into one list, given what the store shows at each place. -/
def fillListThrough (run : LoadRun) (views : Nat → Snapshot) (plan : ListPlan) (position node : Nat)
    (id : ExternalId) : EStateM LoadError (ListOutput × Option WeightTable) Unit := fun (output, weights) =>
  match (run.asking (views 0)).relationshipsOf plan position id with
  | .error error => .error error (output, weights)
  | .ok found =>
    match plan.scan.visitEach (askedThrough views found)
      (ListScan.prepare (NodeId.ofIndex node) output.state) with
    | .error error state => .error error ({ output with state }, weights)
    | .ok () state => finishList plan output weights state

/-- Read a node into all lists from one on, given what the store shows for each list and place. -/
def fillListsThrough (run : LoadRun) (views : Nat → Nat → Snapshot) (position node : Nat)
    (id : ExternalId) : Nat → List ListPlan → EStateM LoadError (List ListOutput × Option WeightTable) Unit
  | _, [] => pure ()
  | list, plan :: plans => fun (outputs, weights) =>
    match outputs with
    | [] => .ok () ([], weights)
    | output :: outputs =>
      match run.fillListThrough (views list) plan position node id (output, weights) with
      | .error error (output, weights) => .error error (output :: outputs, weights)
      | .ok () (output, weights) =>
        match run.fillListsThrough views position node id (list + 1) plans (outputs, weights) with
        | .error error (outputs, weights) => .error error (output :: outputs, weights)
        | .ok () (outputs, weights) => .ok () (output :: outputs, weights)

/-- Read a node, given what the store shows for each list and place. -/
def fillNodeThrough (run : LoadRun) (views : Nat → Nat → Snapshot) (plans : List ListPlan)
    (position node : Nat) : EStateM LoadError PartitionOutput Unit := fun output =>
  match run.deadline.checkAt (.reading node) position *> run.externalId node with
  | .error error => .error error output
  | .ok id =>
    match run.fillListsThrough views position node id 0 plans (output.lists, output.weights) with
    | .error error (lists, weights) => .error error ⟨lists, weights⟩
    | .ok () (lists, weights) => .ok () ⟨lists, weights⟩

/-- The degrees of a node, given what the store shows for each list. -/
def degreesThrough (run : LoadRun) (views : Nat → Snapshot) (id : ExternalId) :
    Except LoadError NodeBounds :=
  run.kinds.zipIdx.mapM fun (kind, list) =>
    (views list).degree id kind.direction run.config.relationshipType

/-- The reported degrees of one node, given what the store shows for each list. -/
def boundsThrough (run : LoadRun) (views : Nat → Snapshot) (position node : Nat) :
    Except LoadError NodeBounds := do
  run.deadline.checkAt (.counting node) position
  let id ← run.externalId node
  run.degreesThrough views id

theorem askedThrough_same (snapshot : Snapshot) (found : List RelationshipRef) :
    askedThrough (fun _ => snapshot) found
      = found.map fun relationship => (relationship, snapshot.property) := by
  conv_rhs => rw [← List.zipIdx_map_fst 0 found, List.map_map]
  rfl

/-- **Where the store shows the same at every place**, this is how a run that asks that store reads a node
into a list. -/
theorem fillListThrough_same (snapshot : Snapshot) :
    run.fillListThrough (fun _ => snapshot) = (run.asking snapshot).fillList := by
  funext plan position node id state
  unfold fillListThrough fillList
  simp only [askedThrough_same, ListScan.visitEach_same]
  rfl

theorem fillListsThrough_same (snapshot : Snapshot) (position node : Nat) (id : ExternalId)
    (plans : List ListPlan) :
    ∀ list, run.fillListsThrough (fun _ _ => snapshot) position node id list plans
      = (run.asking snapshot).fillLists position node id plans := by
  induction plans with
  | nil => exact fun _ => rfl
  | cons plan plans ih =>
    intro list
    funext state
    unfold fillListsThrough fillLists
    rewrite [fillListThrough_same, ih]
    rfl

theorem fillNodeThrough_same (snapshot : Snapshot) :
    run.fillNodeThrough (fun _ _ => snapshot) = (run.asking snapshot).fillNode := by
  funext plans position node output
  unfold fillNodeThrough fillNode
  simp only [fillListsThrough_same]
  rfl

theorem boundsThrough_same (snapshot : Snapshot) :
    run.boundsThrough (fun _ => snapshot) = (run.asking snapshot).boundsOf := by
  have hdegrees : ∀ id, run.degreesThrough (fun _ => snapshot) id
      = run.kinds.mapM fun kind => snapshot.degree id kind.direction run.config.relationshipType :=
    fun id => mapM_zipIdx
      (fun kind : ScanKind => snapshot.degree id kind.direction run.config.relationshipType) run.kinds 0
  funext position node
  unfold boundsThrough boundsOf
  simp only [hdegrees]
  rfl

/-! ### In vain -/

/-- What a node comes to in a list depends on what is found and visited there. -/
theorem stateOf_fillListThrough (views : Nat → Snapshot) (plan : ListPlan) (position node : Nat)
    (id : ExternalId) (output : ListOutput) (weights : Option WeightTable) :
    stateOf (run.fillListThrough views plan position node id (output, weights))
      = (run.asking (views 0)).relationshipsOf plan position id >>= fun found =>
        stateOf (plan.scan.visitEach (askedThrough views found)
          (ListScan.prepare (NodeId.ofIndex node) output.state)) >>= fun state =>
            stateOf (finishList plan output weights state) := by
  simp only [fillListThrough]
  cases (run.asking (views 0)).relationshipsOf plan position id with
  | error error => rfl
  | ok found =>
    simp only [bind, Except.bind]
    cases plan.scan.visitEach (askedThrough views found)
      (ListScan.prepare (NodeId.ofIndex node) output.state) <;> rfl

/-- The store does not tell the relationships of a node in the direction of a list. -/
theorem relationshipsOf_of_error {plan : ListPlan} {id : ExternalId} {error : LoadError}
    (h : run.snapshot.relationships id plan.scan.kind.direction run.config.relationshipType
      = .error error) (position : Nat) : run.relationshipsOf plan position id = .error error := by
  simp only [relationshipsOf, h]
  rfl

/-- A node that comes to ask in vain, for its relationships in one of its lists or for one of their
weights, while it is read into lists. -/
inductive AsksInVain (run : LoadRun) (views : Nat → Nat → Snapshot) (position node : Nat)
    (id : ExternalId) :
    Nat → List ListPlan → List ListOutput → Option WeightTable → LoadError → Prop where
  | relationships {list : Nat} {plan : ListPlan} {plans : List ListPlan} {output : ListOutput}
      {outputs : List ListOutput} {weights : Option WeightTable} {error : LoadError}
      (h : (views list 0).relationships id plan.scan.kind.direction run.config.relationshipType
        = .error error) :
      AsksInVain run views position node id list (plan :: plans) (output :: outputs) weights error
  | weight {list : Nat} {plan : ListPlan} {plans : List ListPlan} {output : ListOutput}
      {outputs : List ListOutput} {weights : Option WeightTable} {error : LoadError}
      {found : List RelationshipRef}
      (hfound : (run.asking (views list 0)).relationshipsOf plan position id = .ok found)
      (h : plan.scan.AsksInVain (askedThrough (views list) found)
        (ListScan.prepare (NodeId.ofIndex node) output.state) error) :
      AsksInVain run views position node id list (plan :: plans) (output :: outputs) weights error
  | later {list : Nat} {plan : ListPlan} {plans : List ListPlan} {output : ListOutput}
      {outputs : List ListOutput} {weights : Option WeightTable} {error : LoadError}
      {after : ListOutput × Option WeightTable}
      (hlist : stateOf (run.fillListThrough (views list) plan position node id (output, weights))
        = .ok after)
      (h : AsksInVain run views position node id (list + 1) plans outputs after.2 error) :
      AsksInVain run views position node id list (plan :: plans) (output :: outputs) weights error

theorem stateOf_fillListsThrough_cons (views : Nat → Nat → Snapshot) (position node : Nat)
    (id : ExternalId) (list : Nat) (plan : ListPlan) (plans : List ListPlan) (output : ListOutput)
    (outputs : List ListOutput) (weights : Option WeightTable) :
    stateOf (run.fillListsThrough views position node id list (plan :: plans) (output :: outputs, weights))
      = stateOf (run.fillListThrough (views list) plan position node id (output, weights)) >>= fun after =>
        stateOf (run.fillListsThrough views position node id (list + 1) plans (outputs, after.2)) >>=
          fun rest => .ok (after.1 :: rest.1, rest.2) := by
  simp only [fillListsThrough]
  cases run.fillListThrough (views list) plan position node id (output, weights) with
  | error error _ => rfl
  | ok _ after =>
    simp only [stateOf, bind, Except.bind]
    cases run.fillListsThrough views position node id (list + 1) plans (outputs, after.2) <;> rfl

/-- A node that asks in vain fails. -/
theorem AsksInVain.fails {views : Nat → Nat → Snapshot} {position node list : Nat} {id : ExternalId}
    {plans : List ListPlan} {outputs : List ListOutput} {weights : Option WeightTable} {error : LoadError}
    (h : run.AsksInVain views position node id list plans outputs weights error) :
    stateOf (run.fillListsThrough views position node id list plans (outputs, weights))
      = .error error := by
  induction h with
  | relationships h =>
    rw [stateOf_fillListsThrough_cons, stateOf_fillListThrough, relationshipsOf_of_error h]
    rfl
  | weight hfound h =>
    rw [stateOf_fillListsThrough_cons, stateOf_fillListThrough, hfound]
    simp only [bind, Except.bind, h.fails]
  | later hlist _ ih =>
    rw [stateOf_fillListsThrough_cons, hlist]
    simp only [bind, Except.bind, ih]

theorem relationshipsOf_agrees {faulty sound : Snapshot} (h : faulty.Falters sound) (plan : ListPlan)
    (position : Nat) (id : ExternalId) :
    AgreesUnless (fun error => faulty.relationships id plan.scan.kind.direction
        run.config.relationshipType = .error error)
      ((run.asking faulty).relationshipsOf plan position id)
      ((run.asking sound).relationshipsOf plan position id) := by
  unfold relationshipsOf
  refine AgreesUnless.bind ?_ fun _ _ => AgreesUnless.refl _ _
  exact AgreesUnless.of_answer (h.relationships id plan.scan.kind.direction run.config.relationshipType)
    fun _ herror => herror

/-- **A node in all lists** comes to the same unless it asks in vain. -/
theorem fillListsThrough_agrees {views : Nat → Nat → Snapshot} {sound : Snapshot}
    (h : ∀ list place, (views list place).Falters sound) (position node : Nat) (id : ExternalId)
    (plans : List ListPlan) :
    ∀ list outputs weights,
      AgreesUnless (run.AsksInVain views position node id list plans outputs weights)
        (stateOf (run.fillListsThrough views position node id list plans (outputs, weights)))
        (stateOf (run.fillListsThrough (fun _ _ => sound) position node id list plans
          (outputs, weights))) := by
  induction plans with
  | nil => exact fun _ _ _ => AgreesUnless.refl _ _
  | cons plan plans ih =>
    intro list outputs weights
    cases outputs with
    | nil => exact AgreesUnless.refl _ _
    | cons output outputs =>
      rw [stateOf_fillListsThrough_cons, stateOf_fillListsThrough_cons]
      refine AgreesUnless.bind ?_ fun after hafter =>
        ((ih (list + 1) outputs after.2).imp fun error => .later hafter).bind
          fun _ _ => AgreesUnless.refl _ _
      -- the first list finds the same, visits the same, and is finished in the same way
      rw [stateOf_fillListThrough, stateOf_fillListThrough]
      refine ((relationshipsOf_agrees (h list 0) plan position id).imp fun error herror =>
        .relationships herror).bind fun found hfound => ?_
      have hasked : ∀ both ∈ askedThrough (views list) found, ∀ id name,
          both.2 id name = sound.property id name ∨ ∃ error, both.2 id name = .error error := by
        intro both hboth id name
        obtain ⟨⟨_, place⟩, _, rfl⟩ := List.mem_map.mp hboth
        exact (h list place).property id name
      have hsame : (askedThrough (views list) found).map (fun both => (both.1, sound.property))
          = askedThrough (fun _ => sound) found := List.map_map
      have hvisits := @ListScan.visitEach_agrees plan.scan _ _ hasked
      rw [hsame] at hvisits
      exact ((hvisits _).imp fun error => .weight hfound).bind fun _ _ => AgreesUnless.refl _ _

/-! ## Steps -/

/-- A node that comes to ask for a degree in vain. -/
def CountsInVain (run : LoadRun) (views : Nat → Snapshot) (node : Nat) (error : LoadError) : Prop :=
  ∃ id before kind list rest, run.externalId node = .ok id ∧
    run.kinds.zipIdx = before ++ (kind, list) :: rest ∧
    (∀ earlier ∈ before, ∃ degree, (views earlier.2).degree id earlier.1.direction
      run.config.relationshipType = .ok degree) ∧
    (views list).degree id kind.direction run.config.relationshipType = .error error

/-- A node that comes to ask in vain while a partition reads it. -/
def ReadsInVain (run : LoadRun) (views : Nat → Nat → Snapshot) (plans : List ListPlan)
    (position node : Nat) (output : PartitionOutput) (error : LoadError) : Prop :=
  ∃ id, run.externalId node = .ok id ∧
    run.AsksInVain views position node id 0 plans output.lists output.weights error

/-- A step that reads a node looks at the limit, asks for the id of the node, and fills the lists. -/
theorem endState_fillNodeThrough (views : Nat → Nat → Snapshot) (plans : List ListPlan)
    (position node : Nat) (output : PartitionOutput) :
    endState (run.fillNodeThrough views plans position node) output
      = run.deadline.checkAt (.reading node) position >>= fun _ => run.externalId node >>= fun id =>
        stateOf (run.fillListsThrough views position node id 0 plans (output.lists, output.weights)) >>=
          fun after => .ok ⟨after.1, after.2⟩ := by
  rw [endState_eq]
  simp only [fillNodeThrough]
  cases run.deadline.checkAt (.reading node) position with
  | error error => rfl
  | ok _ =>
    have hchecked : (Except.ok () *> run.externalId node) = run.externalId node := rfl
    simp only [hchecked]
    cases run.externalId node with
    | error error => rfl
    | ok id =>
      simp only [bind, Except.bind]
      cases run.fillListsThrough views position node id 0 plans (output.lists, output.weights) <;> rfl

section InVain

variable (hlimit : run.deadline.limit = none)

include hlimit

theorem CountsInVain.fails {views : Nat → Snapshot} {node : Nat} {error : LoadError}
    (h : run.CountsInVain views node error) (position : Nat) :
    run.boundsThrough views position node = .error error := by
  obtain ⟨id, before, kind, list, rest, hid, hkinds, hbefore, hkind⟩ := h
  unfold boundsThrough
  rw [Deadline.checkAt_of_no_limit hlimit, hid]
  exact mapM_eq_error_iff.mpr ⟨before, (kind, list), rest, hkinds, hbefore, hkind⟩

theorem ReadsInVain.fails {views : Nat → Nat → Snapshot} {plans : List ListPlan} {position node : Nat}
    {output : PartitionOutput} {error : LoadError}
    (h : run.ReadsInVain views plans position node output error) :
    endState (run.fillNodeThrough views plans position node) output = .error error := by
  obtain ⟨id, hid, hvain⟩ := h
  rw [endState_fillNodeThrough, Deadline.checkAt_of_no_limit hlimit, hid]
  simp only [bind, Except.bind, hvain.fails]

end InVain

section Agree

variable {sound : Snapshot}

/-- **The degrees of a node** are the same unless one of them is asked for in vain. -/
theorem boundsThrough_agrees {views : Nat → Snapshot} (h : ∀ list, (views list).Falters sound)
    (position node : Nat) :
    AgreesUnless (run.CountsInVain views node) (run.boundsThrough views position node)
      (run.boundsThrough (fun _ => sound) position node) := by
  unfold boundsThrough
  refine (AgreesUnless.refl _ _).bind fun _ _ => (AgreesUnless.refl _ _).bind fun id hown =>
    ⟨?_, fun _ error _ herror => ?_⟩
  · have hdegrees : AgreesUnless (fun _ => True) (run.degreesThrough views id)
        (run.degreesThrough (fun _ => sound) id) :=
      AgreesUnless.mapM fun both _ => AgreesUnless.of_answer
        ((h both.2).degree id both.1.direction run.config.relationshipType) fun _ _ => trivial
    exact hdegrees.ok
  · obtain ⟨before, ⟨kind, list⟩, rest, hkinds, hbefore, hkind⟩ := mapM_eq_error_iff.mp herror
    exact ⟨id, before, kind, list, rest, hown, hkinds, hbefore, hkind⟩

/-- **A step that reads a node** comes to the same unless it asks in vain. -/
theorem fillNodeThrough_agrees {views : Nat → Nat → Snapshot}
    (h : ∀ list place, (views list place).Falters sound) (plans : List ListPlan) (position node : Nat)
    (output : PartitionOutput) :
    AgreesUnless (run.ReadsInVain views plans position node output)
      (endState (run.fillNodeThrough views plans position node) output)
      (endState (run.fillNodeThrough (fun _ _ => sound) plans position node) output) := by
  rw [endState_fillNodeThrough, endState_fillNodeThrough]
  refine (AgreesUnless.refl _ _).bind fun _ _ => (AgreesUnless.refl _ _).bind fun id hown => ?_
  exact ((fillListsThrough_agrees h position node id plans 0 output.lists output.weights).imp
    fun _ hvain => ⟨id, hown, hvain⟩).bind fun _ _ => AgreesUnless.refl _ _

end Agree

end LoadRun

/-! ## Partitions -/

theorem finish_cons {σ : Type} (step : EStateM LoadError σ Unit) (steps : List (EStateM LoadError σ Unit))
    (state : σ) : finish state (step :: steps) = endState step state >>= fun after => finish after steps := by
  unfold finish
  rw [List.foldlM_cons]

/-- A partition that comes to ask its store in vain: for its cursor, or about a node of its range once the
steps for the nodes before have succeeded. -/
inductive PartitionWork.AsksInVain {σ : Type} (work : PartitionWork σ) (snapshot : Snapshot)
    (cursor : Nat) (range : NodeRange) (asks : Nat → Nat → σ → LoadError → Prop) (error : LoadError) :
    Prop where
  | opening (h : snapshot.openCursor cursor = .error error)
  | node {start reached : σ} {before rest : List Nat} {node : Nat} (hstart : work.start = .ok start)
      (hrange : range.toList = before ++ node :: rest)
      (hbefore : finish start (work.steps.take before.length) = .ok reached)
      (h : asks before.length node reached error)

section Steps

variable {σ : Type} {asks : Nat → Nat → σ → LoadError → Prop}
  {step step' : Nat → Nat → EStateM LoadError σ Unit}

/-- The steps for nodes after so many others. -/
def stepsAlong (step : Nat → Nat → EStateM LoadError σ Unit) (nodes : List Nat) (first : Nat) :
    List (EStateM LoadError σ Unit) :=
  (nodes.zipIdx first).map fun (node, position) => step position node

/-- Steps for nodes agree unless one of them asks in vain after those before it. -/
theorem finish_agrees
    (h : ∀ position node state, AgreesUnless (asks position node state)
      (endState (step position node) state) (endState (step' position node) state)) (nodes : List Nat) :
    ∀ first state, AgreesUnless
      (fun error => ∃ before node rest reached, nodes = before ++ node :: rest ∧
        finish state ((stepsAlong step nodes first).take before.length) = .ok reached ∧
        asks (first + before.length) node reached error)
      (finish state (stepsAlong step nodes first)) (finish state (stepsAlong step' nodes first)) := by
  induction nodes with
  | nil => exact fun _ _ => AgreesUnless.refl _ _
  | cons node nodes ih =>
    intro first state
    have hcons : ∀ step : Nat → Nat → EStateM LoadError σ Unit,
        stepsAlong step (node :: nodes) first = step first node :: stepsAlong step nodes (first + 1) :=
      fun _ => rfl
    rw [hcons, hcons, finish_cons, finish_cons]
    refine ((h first node state).imp fun error hasks => ?_).bind fun after hafter =>
      (ih (first + 1) after).imp fun error hasks => ?_
    · exact ⟨[], node, nodes, state, rfl, rfl, hasks⟩
    · obtain ⟨before, other, rest, reached, rfl, hbefore, hasks⟩ := hasks
      refine ⟨node :: before, other, rest, reached, rfl, ?_, ?_⟩
      · rw [List.length_cons, List.take_succ_cons, finish_cons, hafter]
        exact hbefore
      · have hposition : first + (before.length + 1) = first + 1 + before.length := by omega
        rw [List.length_cons, hposition]
        exact hasks

/-- The step for a node among others. -/
theorem stepsAlong_split (before rest : List Nat) (node first : Nat) :
    stepsAlong step (before ++ node :: rest) first
      = stepsAlong step before first
        ++ step (first + before.length) node :: stepsAlong step rest (first + before.length + 1) := by
  unfold stepsAlong
  rw [List.zipIdx_append, List.zipIdx_cons, List.map_append, List.map_cons]

theorem length_stepsAlong (nodes : List Nat) (first : Nat) :
    (stepsAlong step nodes first).length = nodes.length := by
  unfold stepsAlong
  rw [List.length_map, List.length_zipIdx]

/-- **A partition that asks in vain** fails with the error that it is answered. -/
theorem PartitionWork.AsksInVain.firstError {work : PartitionWork σ} {start : σ} {snapshot : Snapshot}
    {cursor : Nat} {range : NodeRange} (hstart : work.start = (fun _ => start) <$> snapshot.openCursor cursor)
    (hsteps : work.steps = LoadRun.stepsFor range step)
    (hfails : ∀ position node state error, asks position node state error →
      endState (step position node) state = .error error) {error : LoadError}
    (h : work.AsksInVain snapshot cursor range asks error) : work.FirstError error := by
  cases h with
  | opening h =>
    refine .opening ?_
    rw [hstart, h]
    rfl
  | @node own reached before rest node hown hrange hbefore h =>
    have hsplit : work.steps = stepsAlong step before 0
        ++ step before.length node :: stepsAlong step rest (before.length + 1) := by
      rw [hsteps]
      show stepsAlong step range.toList 0 = _
      rw [hrange, stepsAlong_split, Nat.zero_add]
    have htake : work.steps.take before.length = stepsAlong step before 0 := by
      rw [hsplit]
      exact List.take_left' (length_stepsAlong before 0)
    rw [htake] at hbefore
    obtain ⟨after, hafter⟩ := eq_error_of_stateOf ((endState_eq _ _).symm.trans (hfails _ _ _ _ h))
    exact .step hown hsplit hbefore hafter

/-- **A partition** comes to the same over two stores unless it asks the first one in vain. -/
theorem solo_agrees {work work' : PartitionWork σ} {start : σ} {faulty sound : Snapshot}
    {cursor : Nat} {range : NodeRange}
    (hopen : faulty.openCursor cursor = sound.openCursor cursor ∨
      ∃ error, faulty.openCursor cursor = .error error)
    (hstart : work.start = (fun _ => start) <$> faulty.openCursor cursor)
    (hstart' : work'.start = (fun _ => start) <$> sound.openCursor cursor)
    (hsteps : work.steps = LoadRun.stepsFor range step)
    (hsteps' : work'.steps = LoadRun.stepsFor range step')
    (h : ∀ position node state, AgreesUnless (asks position node state)
      (endState (step position node) state) (endState (step' position node) state)) :
    AgreesUnless (work.AsksInVain faulty cursor range asks) work.solo work'.solo := by
  have hsolo : ∀ (work : PartitionWork σ) (snapshot : Snapshot),
      work.start = (fun _ => start) <$> snapshot.openCursor cursor →
      work.solo = snapshot.openCursor cursor >>= fun _ => finish start work.steps := by
    intro work snapshot hstart
    unfold PartitionWork.solo
    rw [hstart]
    cases snapshot.openCursor cursor <;> rfl
  rw [hsolo work faulty hstart, hsolo work' sound hstart']
  refine (AgreesUnless.of_answer hopen fun error => .opening).bind fun _ hopened => ?_
  have hown : work.start = .ok start := by
    rw [hstart, hopened]
    rfl
  have hagrees := finish_agrees h range.toList 0 start
  have hsame : stepsAlong step range.toList 0 = work.steps := hsteps.symm
  have hsame' : stepsAlong step' range.toList 0 = work'.steps := hsteps'.symm
  rw [hsame, hsame'] at hagrees
  refine hagrees.imp ?_
  rintro error ⟨before, node, rest, reached, hrange, hbefore, hasks⟩
  rw [Nat.zero_add] at hasks
  exact .node hown hrange hbefore hasks

end Steps

namespace LoadRun

variable {run : LoadRun}

/-- The step that asks for the degrees of a node, given what the store shows at each inquiry. -/
def degreeStepThrough (run : LoadRun) (views : Inquiry → Snapshot) (cursor position node : Nat) :
    EStateM LoadError (Array NodeBounds) Unit :=
  noteDegrees (run.boundsThrough (fun list => views ⟨cursor, node, list, 0⟩) position node)

/-- The step that reads a node, given what the store shows at each inquiry. -/
def fillStepThrough (run : LoadRun) (views : Inquiry → Snapshot) (cursor : Nat) (plans : List ListPlan)
    (position node : Nat) : EStateM LoadError PartitionOutput Unit :=
  run.fillNodeThrough (fun list place => views ⟨cursor, node, list, place⟩) plans position node

/-- Ask for the degrees of the nodes of a partition, given what the store shows at each inquiry. -/
def degreeWorkThrough (run : LoadRun) (views : Inquiry → Snapshot) (cursor : Nat) (range : NodeRange) :
    PartitionWork (Array NodeBounds) where
  start := (fun _ => #[]) <$> (views (.opening cursor)).openCursor cursor
  steps := stepsFor range (run.degreeStepThrough views cursor)

/-- Read the nodes of a partition, given what the store shows at each inquiry. -/
def fillWorkThrough (run : LoadRun) (views : Inquiry → Snapshot) (cursor : Nat) (range : NodeRange)
    (plans : List ListPlan) (weightCapacity : Nat) : PartitionWork PartitionOutput where
  start := (fun _ => ⟨plans.map fun plan => { state := plan.scan.initial },
    run.blankWeights weightCapacity run.sharesPairs⟩) <$> (views (.opening cursor)).openCursor cursor
  steps := stepsFor range (run.fillStepThrough views cursor plans)

/-- Where the store shows the same at every inquiry, these are the works of a run that asks it. -/
theorem degreeWorkThrough_same (snapshot : Snapshot) :
    run.degreeWorkThrough (fun _ => snapshot) = (run.asking snapshot).degreeWork := by
  funext cursor range
  unfold degreeWorkThrough degreeStepThrough
  simp only [boundsThrough_same]
  rfl

theorem fillWorkThrough_same (snapshot : Snapshot) :
    run.fillWorkThrough (fun _ => snapshot) = (run.asking snapshot).fillWork := by
  funext cursor range plans capacity
  unfold fillWorkThrough fillStepThrough
  simp only [fillNodeThrough_same]
  rfl

/-- A partition that asks for degrees and comes to do so in vain. -/
def CountingInVain (run : LoadRun) (views : Inquiry → Snapshot) (cursor : Nat) (range : NodeRange) :
    LoadError → Prop :=
  (run.degreeWorkThrough views cursor range).AsksInVain (views (.opening cursor)) cursor range
    fun _ node _ => run.CountsInVain (fun list => views ⟨cursor, node, list, 0⟩) node

/-- A partition that fills lists and comes to ask in vain. -/
def FillingInVain (run : LoadRun) (views : Inquiry → Snapshot) (cursor : Nat) (range : NodeRange)
    (plans : List ListPlan) (capacity : Nat) : LoadError → Prop :=
  (run.fillWorkThrough views cursor range plans capacity).AsksInVain (views (.opening cursor)) cursor
    range fun position node =>
      run.ReadsInVain (fun list place => views ⟨cursor, node, list, place⟩) plans position node

section Partitions

variable {views : Inquiry → Snapshot}

/-- The step that asks for the degrees of a node ends with its answers. -/
theorem endState_degreeStepThrough (views : Inquiry → Snapshot) (cursor position node : Nat)
    (found : Array NodeBounds) :
    endState (run.degreeStepThrough views cursor position node) found
      = run.boundsThrough (fun list => views ⟨cursor, node, list, 0⟩) position node >>= fun bounds =>
        .ok (found.push bounds) := by
  unfold degreeStepThrough
  cases run.boundsThrough (fun list => views ⟨cursor, node, list, 0⟩) position node <;> rfl

section InVain

variable (hlimit : run.deadline.limit = none)

include hlimit

theorem CountingInVain.firstError {cursor : Nat} {range : NodeRange} {error : LoadError}
    (h : run.CountingInVain views cursor range error) :
    (run.degreeWorkThrough views cursor range).FirstError error := by
  refine PartitionWork.AsksInVain.firstError rfl rfl ?_ h
  intro position node state error hvain
  rw [endState_degreeStepThrough, hvain.fails hlimit]
  rfl

theorem FillingInVain.firstError {cursor capacity : Nat} {range : NodeRange} {plans : List ListPlan}
    {error : LoadError} (h : run.FillingInVain views cursor range plans capacity error) :
    (run.fillWorkThrough views cursor range plans capacity).FirstError error :=
  PartitionWork.AsksInVain.firstError rfl rfl (fun _ _ _ _ hvain => hvain.fails hlimit) h

end InVain

variable {sound : Snapshot} (h : ∀ inquiry, (views inquiry).Falters sound)

include h

theorem degreeWorkThrough_agrees (cursor : Nat) (range : NodeRange) :
    AgreesUnless (run.CountingInVain views cursor range) (run.degreeWorkThrough views cursor range).solo
      (run.degreeWorkThrough (fun _ => sound) cursor range).solo := by
  refine solo_agrees ((h _).openCursor cursor) rfl rfl rfl rfl fun position node state => ?_
  rw [endState_degreeStepThrough, endState_degreeStepThrough]
  exact (boundsThrough_agrees (fun _ => h _) position node).bind fun _ _ => AgreesUnless.refl _ _

theorem fillWorkThrough_agrees (cursor : Nat) (range : NodeRange) (plans : List ListPlan)
    (capacity : Nat) :
    AgreesUnless (run.FillingInVain views cursor range plans capacity)
      (run.fillWorkThrough views cursor range plans capacity).solo
      (run.fillWorkThrough (fun _ => sound) cursor range plans capacity).solo :=
  solo_agrees ((h _).openCursor cursor) rfl rfl rfl rfl fun position node =>
    fillNodeThrough_agrees (fun _ _ => h _) plans position node

end Partitions

end LoadRun

end CompactGraph
