/-
# Node scans

A scan numbers the nodes that it delivers in order of their first occurrence, and leaves a sound id map.
-/
import CompactGraph.Proofs.IdMap
import CompactGraph.Proofs.Load.Deadlines
import CompactGraph.Load.Load

namespace CompactGraph

open IdMap (Builder)

section Collecting

variable {deadline : Deadline} (hlimit : deadline.limit = none)

include hlimit

/-- The next node of a scan is numbered before the others, unless there is no number left. -/
theorem visitEach_collectNode_cons (id : ExternalId) (ids : List ExternalId) (delivered : Nat)
    (builder : Builder) :
    NodeScan.visitEach (collectNode deadline) (id :: ids) (delivered, builder)
      = match Builder.add id builder with
        | .ok _ builder' => NodeScan.visitEach (collectNode deadline) ids (delivered + 1, builder')
        | .error error builder' => .error error (delivered, builder') := by
  show EStateM.bind _ _ _ = _
  rw [EStateM.bind, collectNode, Deadline.checkAt_of_no_limit hlimit]
  cases Builder.add id builder <;> rfl

/-- **Numbering the nodes of a scan** succeeds if there are enough numbers. -/
theorem visitEach_collectNode (ids : List ExternalId) :
    ∀ {builder : Builder} (delivered : Nat), builder.Sound →
      ((builder.externals.toList ++ ids).eraseDups.length ≤ maxNodeCount ∧
        ∃ count builder', NodeScan.visitEach (collectNode deadline) ids (delivered, builder)
            = .ok () (count, builder') ∧ builder'.Sound ∧
          builder'.externals.toList = (builder.externals.toList ++ ids).eraseDups) ∨
      (maxNodeCount < (builder.externals.toList ++ ids).eraseDups.length ∧
        ∃ state, NodeScan.visitEach (collectNode deadline) ids (delivered, builder)
          = .error (.capacityExceeded .tooManyNodes) state) := by
  induction ids with
  | nil =>
    intro builder delivered h
    rw [List.append_nil, eraseDups_of_nodup h.nodup, Builder.length_externals]
    exact Or.inl ⟨h.few, delivered, builder, rfl, h, rfl⟩
  | cons id ids ih =>
    intro builder delivered h
    by_cases hmem : id ∈ builder.externals.toList
    · -- an id that came before changes nothing
      rw [eraseDups_append_cons_of_mem hmem, visitEach_collectNode_cons hlimit, h.add_of_mem hmem]
      exact ih _ h
    · rw [List.append_cons]
      by_cases hroom : builder.size < maxNodeCount
      · obtain ⟨builder', hadd, h', hids⟩ := h.add_of_new hmem hroom
        rw [visitEach_collectNode_cons hlimit, hadd, ← hids]
        exact ih _ h'
      · rw [visitEach_collectNode_cons hlimit, h.add_of_full hmem (by omega)]
        refine Or.inr ⟨?_, _, rfl⟩
        rw [List.eraseDups_append, eraseDups_of_nodup (nodup_concat h.nodup hmem), List.length_append,
          List.length_append, Builder.length_externals, List.length_singleton]
        omega

/-- **A node scan** that succeeds numbers the nodes that were delivered. -/
theorem sound_of_collectNodes {snapshot : Snapshot} {label : Option String} {map : IdMap}
    (h : collectNodes snapshot label deadline = .ok map) :
    map.Sound ∧ map.externals.toList = (snapshot.scanNodes label).ids.eraseDups := by
  obtain ⟨_, _, hscan⟩ := bind_eq_ok_iff.mp h
  unfold NodeScan.forEach at hscan
  rcases visitEach_collectNode hlimit (snapshot.scanNodes label).ids 0
      Builder.sound_empty with ⟨_, count, builder, hvisit, hsound, hids⟩ | ⟨_, state, hvisit⟩
  · simp only [bind, EStateM.bind, hvisit] at hscan
    cases hfailure : (snapshot.scanNodes label).failure with
    | none =>
      rw [hfailure] at hscan
      cases hscan
      exact ⟨hsound.build, hids⟩
    | some error =>
      rw [hfailure] at hscan
      cases hscan
  · simp only [bind, EStateM.bind, hvisit] at hscan
    cases hscan

/-- **A node scan succeeds** if the store delivers all nodes and there are enough numbers for them. -/
theorem exists_collectNodes {snapshot : Snapshot} {label : Option String}
    (hopen : snapshot.openCursor 0 = .ok ()) (hfailure : (snapshot.scanNodes label).failure = none)
    (hfew : (snapshot.scanNodes label).ids.eraseDups.length ≤ maxNodeCount) :
    ∃ map, collectNodes snapshot label deadline = .ok map := by
  rcases visitEach_collectNode hlimit (snapshot.scanNodes label).ids 0
      Builder.sound_empty with ⟨_, count, builder, hvisit, _⟩ | ⟨hmany, _⟩
  · refine ⟨builder.build, bind_eq_ok_iff.mpr ⟨(), hopen, ?_⟩⟩
    unfold NodeScan.forEach
    simp only [bind, EStateM.bind, hvisit, hfailure]
    rfl
  · exact absurd hfew (Nat.not_le.mpr hmany)

end Collecting

end CompactGraph
