/-
# Buffers that are flushed again

A target buffer is bound to a node, is given targets and is flushed, in any order (`BufferHistory`).  A flush
always leaves the targets of the node, and nothing else.  Whether they are strictly ascending then is another
matter: a flush sorts them only if a target has come since the last flush that is smaller than the one right
before it, and the one that came last before a flush need not be the largest.  So targets that are added
after a flush may end up behind larger ones.  The buffer is in order exactly if they do not
(`BufferHistory.InOrder`), and it always is if no targets are added after a flush, which is how loads use it.
-/
import CompactGraph.Proofs.Adjacency.Targets

namespace CompactGraph

/-! ## Dropping repetitions in place -/

/-- Read one value more.  It is kept, next to those that were kept before, unless it repeats the last of
them. -/
def compactStep (state : Nat × Array NodeId) (read : Nat) : Nat × Array NodeId :=
  match state.2[read]? with
  | none => state
  | some value =>
    if state.2[state.1 - 1]? = some value then state
    else (state.1 + 1, state.2.setIfInBounds state.1 value)

/-- Move the values that are kept to the front of the array, and count them. -/
def compactInPlace (values : Array NodeId) : Nat × Array NodeId :=
  if values.isEmpty then (0, values)
  else (List.range' 1 (values.size - 1)).foldl compactStep (1, values)

theorem getLast?_compact (targets : List NodeId) : (compact targets).getLast? = targets.getLast? := by
  induction targets using compact.induct with
  | case1 => rfl
  | case2 a => rfl
  | case3 b rest ih =>
    rw [compact, if_pos rfl, ih, List.getLast?_cons_cons]
  | case4 a b rest hne ih =>
    rw [compact, if_neg hne, List.getLast?_cons_cons, List.getLast?_cons, ih, List.getLast?_cons]
    rfl

/-- One target more is kept unless it repeats the last one. -/
theorem compact_concat (targets : List NodeId) (target : NodeId) : compact (targets ++ [target])
    = if targets.getLast? = some target then compact targets else compact targets ++ [target] := by
  induction targets using compact.induct with
  | case1 => rfl
  | case2 a =>
    show (if a = target then compact [target] else a :: compact [target]) = _
    by_cases hsame : a = target
    · subst hsame
      simp [compact]
    · simp [compact, hsame]
  | case3 b rest ih =>
    rw [List.getLast?_cons_cons, List.cons_append, List.cons_append, compact, if_pos rfl, compact,
      if_pos rfl, ← ih]
    rfl
  | case4 a b rest hne ih =>
    rw [List.getLast?_cons_cons, List.cons_append, List.cons_append, compact, if_neg hne, compact,
      if_neg hne, ← List.cons_append, ih]
    split <;> rfl

/-- Writing right behind the values that are kept moves one value over. -/
theorem set_length_kept (kept gap rest : List NodeId) (value : NodeId) :
    (kept ++ gap ++ value :: rest).set kept.length value
      = kept ++ [value] ++ (gap ++ [value]).tail ++ rest := by
  rw [List.append_assoc, List.set_append_right _ _ (Nat.le_refl _), Nat.sub_self]
  cases gap <;> simp

/-- **The loop over the values**: those that were kept so far are in front, those that are still to be read
are at the end, and what lies between them is no longer of use. -/
theorem foldl_compactStep (rest : List NodeId) :
    ∀ done gap : List NodeId, done ≠ [] → ∃ gap' : List NodeId,
      (List.range' ((compact done).length + gap.length) rest.length).foldl compactStep
          ((compact done).length, (compact done ++ gap ++ rest).toArray)
        = ((compact (done ++ rest)).length, (compact (done ++ rest) ++ gap').toArray) := by
  induction rest with
  | nil =>
    intro done gap _
    refine ⟨gap, ?_⟩
    rw [List.append_nil, List.append_nil]
    rfl
  | cons value rest ih =>
    intro done gap hdone
    have hkept : 0 < (compact done).length := by
      obtain ⟨node, hnode⟩ := List.exists_mem_of_ne_nil done hdone
      exact List.length_pos_of_mem ((mem_compact done).mpr hnode)
    have hread : (compact done ++ gap ++ value :: rest).toArray[(compact done).length + gap.length]?
        = some value := by
      simp
    have hlast : (compact done ++ gap ++ value :: rest).toArray[(compact done).length - 1]?
        = done.getLast? := by
      rw [List.getElem?_toArray, List.append_assoc, List.getElem?_append_left (by omega),
        ← List.getLast?_eq_getElem?, getLast?_compact]
    have hconcat := compact_concat done value
    rw [List.length_cons, List.range'_succ, List.foldl_cons, compactStep, hread]
    simp only [hlast]
    rw [← List.singleton_append, ← List.append_assoc done]
    by_cases hrepeats : done.getLast? = some value
    · rw [if_pos hrepeats] at hconcat ⊢
      obtain ⟨gap', hrest⟩ := ih (done ++ [value]) (gap ++ [value]) (by simp)
      refine ⟨gap', ?_⟩
      rw [← hrest, hconcat, List.length_append, List.length_singleton, Nat.add_assoc,
        List.append_assoc, List.append_assoc, List.append_assoc]
    · rw [if_neg hrepeats] at hconcat ⊢
      obtain ⟨gap', hrest⟩ := ih (done ++ [value]) (gap ++ [value]).tail (by simp)
      refine ⟨gap', ?_⟩
      have hlength : (compact done ++ [value]).length + (gap ++ [value]).tail.length
          = (compact done).length + gap.length + 1 := by
        simp only [List.length_append, List.length_singleton, List.length_tail]
        omega
      rw [← hrest, hconcat, hlength, List.setIfInBounds_toArray, List.singleton_append,
        set_length_kept, List.length_append, List.length_singleton]

/-- **Compacting in place** leaves in front what compacting leaves, and counts it. -/
theorem compactInPlace_spec (values : Array NodeId) :
    (compactInPlace values).1 = (compact values.toList).length ∧
      (compactInPlace values).2.toList.take (compactInPlace values).1 = compact values.toList := by
  obtain ⟨values⟩ := values
  rw [compactInPlace]
  cases values with
  | nil => exact ⟨rfl, rfl⟩
  | cons first rest =>
    obtain ⟨gap, hloop⟩ := foldl_compactStep rest [first] [] (by simp)
    have hspec : (List.range' 1 ((first :: rest).toArray.size - 1)).foldl compactStep
        (1, (first :: rest).toArray)
          = ((compact (first :: rest)).length, (compact (first :: rest) ++ gap).toArray) := hloop
    rw [if_neg (by simp), hspec]
    exact ⟨rfl, List.take_left⟩

namespace TargetBuffer

/-- Sort the targets if they are out of order, drop repetitions in place and forget what is left behind
them.  The number is the degree. -/
def flushInPlace (buffer : TargetBuffer) : Nat × TargetBuffer :=
  let ordered := if buffer.sorted then buffer.targets else (sortTargets buffer.targets.toList).toArray
  let compacted := compactInPlace ordered
  (compacted.1, { buffer with targets := compacted.2.take compacted.1, sorted := true })

/-- **The degree of a node** is the number of its targets after the flush. -/
theorem flushInPlace_eq (buffer : TargetBuffer) : buffer.flushInPlace = (buffer.flush.size, buffer.flush) := by
  have hordered : (if buffer.sorted then buffer.targets
      else (sortTargets buffer.targets.toList).toArray).toList
        = if buffer.sorted then buffer.targets.toList else sortTargets buffer.targets.toList := by
    split <;> rfl
  obtain ⟨hdegree, hfront⟩ := compactInPlace_spec (if buffer.sorted then buffer.targets
    else (sortTargets buffer.targets.toList).toArray)
  rw [hordered] at hdegree hfront
  have htargets : (compactInPlace (if buffer.sorted then buffer.targets
      else (sortTargets buffer.targets.toList).toArray)).2.take
        (compactInPlace (if buffer.sorted then buffer.targets
          else (sortTargets buffer.targets.toList).toArray)).1 = buffer.flush.targets := by
    apply Array.toList_inj.mp
    rw [Array.take_eq_extract, Array.toList_extract, List.extract_eq_take_drop, List.drop_zero,
      Nat.sub_zero, hfront]
    rfl
  rw [flushInPlace, htargets, hdegree]
  exact Prod.ext rfl rfl

end TargetBuffer

/-! ## Histories -/

/-- How a buffer came about: it was made, and then bound to nodes, given targets and flushed. -/
inductive BufferHistory where
  | new (skipsRepeats : Bool)
  | prepare (before : BufferHistory) (source : NodeId)
  | add (before : BufferHistory) (target : NodeId)
  | flush (before : BufferHistory)

namespace BufferHistory

/-- The buffer that came about. -/
def buffer : BufferHistory → TargetBuffer
  | .new skipsRepeats => .new skipsRepeats
  | .prepare before source => before.buffer.prepare source
  | .add before target => (before.buffer.add target).2
  | .flush before => before.buffer.flush

/-- Whether the buffer was made to skip repetitions. -/
def skipsRepeats : BufferHistory → Bool
  | .new skipsRepeats => skipsRepeats
  | .prepare before _ => before.skipsRepeats
  | .add before _ => before.skipsRepeats
  | .flush before => before.skipsRepeats

/-- The targets of the node that the buffer is bound to, in order of arrival, whether or not there was a
flush between them. -/
def added : BufferHistory → List NodeId
  | .new _ => []
  | .prepare _ _ => []
  | .add before target => before.added ++ [target]
  | .flush before => before.added

/-- Since the last flush, a target has come that is smaller than the one right before it, which may have
come before that flush. -/
def Descends : BufferHistory → Prop
  | .new _ => False
  | .prepare _ _ => False
  | .add before target => before.Descends ∨ ∃ last, before.added.getLast? = some last ∧
      target.index < last.index
  | .flush _ => False

/-- The targets that are held are in order: each of them came after those that are no larger, unless it was
skipped or a later flush has found a descent. -/
def InOrder : BufferHistory → Prop
  | .new _ => True
  | .prepare _ _ => True
  | .add before target => before.InOrder ∧
      ((before.skipsRepeats = true ∧ before.added.getLast? = some target) ∨
        ∀ earlier ∈ before.added, earlier.index ≤ target.index)
  | .flush before => before.Descends ∨ before.InOrder

/-- The buffer has not been flushed since it was bound to its node. -/
def Unflushed : BufferHistory → Prop
  | .new _ => True
  | .prepare _ _ => True
  | .add before _ => before.Unflushed
  | .flush _ => False

variable {history : BufferHistory}

/-! ### What a buffer remembers -/

theorem skipsRepeats_buffer (history : BufferHistory) :
    history.buffer.skipsRepeats = history.skipsRepeats := by
  induction history with
  | new skipsRepeats => rfl
  | prepare before source ih => exact ih
  | add before target ih =>
    rw [buffer, TargetBuffer.add]
    split <;> exact ih
  | flush before ih => exact ih

theorem previous_buffer (history : BufferHistory) :
    history.buffer.previous = history.added.getLast?.getD NodeId.unmapped := by
  induction history with
  | new skipsRepeats => rfl
  | prepare before source ih => rfl
  | add before target ih =>
    rw [buffer, added, List.getLast?_concat, Option.getD_some, TargetBuffer.add]
    split
    · next hskipped =>
      rw [Bool.and_eq_true, beq_iff_eq] at hskipped
      exact hskipped.2.symm
    · rfl
  | flush before ih => exact ih

theorem previous_eq_iff {target : NodeId} (h : target.isMapped = true) :
    history.buffer.previous = target ↔ history.added.getLast? = some target := by
  rw [previous_buffer]
  cases history.added.getLast? with
  | none => exact iff_of_false (NodeId.isMapped_iff.mp h).symm (by simp)
  | some last => rw [Option.getD_some, Option.some_inj]

/-- A target that is added is skipped, or it is appended to the others. -/
theorem add_buffer (history : BufferHistory) {target : NodeId} (h : target.isMapped = true) :
    (history.skipsRepeats = true ∧ history.added.getLast? = some target ∧
      (history.add target).buffer = history.buffer) ∨
    (¬ (history.skipsRepeats = true ∧ history.added.getLast? = some target) ∧
      (history.add target).buffer.targets.toList = history.buffer.targets.toList ++ [target] ∧
      (history.add target).buffer.sorted = (history.buffer.sorted &&
        !(history.buffer.previous.isMapped && target.val < history.buffer.previous.val))) := by
  have hskips : (history.buffer.skipsRepeats && target == history.buffer.previous) = true
      ↔ history.skipsRepeats = true ∧ history.added.getLast? = some target := by
    rw [Bool.and_eq_true, beq_iff_eq, eq_comm (a := target), previous_eq_iff h, skipsRepeats_buffer]
  rw [buffer, TargetBuffer.add]
  split
  · next hskipped =>
    obtain ⟨hrepeats, hlast⟩ := hskips.mp hskipped
    exact .inl ⟨hrepeats, hlast, rfl⟩
  · next hkept => exact .inr ⟨fun hskipped => hkept (hskips.mpr hskipped), Array.toList_push, rfl⟩

/-- A buffer is out of order, as far as it knows, if there was a descent since the last flush. -/
theorem sorted_buffer_iff (h : ∀ target ∈ history.added, target.isMapped = true) :
    history.buffer.sorted = true ↔ ¬ history.Descends := by
  induction history with
  | new skipsRepeats => exact iff_of_true rfl id
  | prepare before source ih => exact iff_of_true rfl id
  | add before target ih =>
    have hbefore : ∀ earlier ∈ before.added, earlier.isMapped = true :=
      fun earlier hearlier => h earlier (List.mem_append_left _ hearlier)
    have htarget : target.isMapped = true := h target (List.mem_append_right _ List.mem_cons_self)
    rw [Descends, not_or, ← ih hbefore]
    rcases add_buffer before htarget with ⟨-, hlast, hsame⟩ | ⟨-, -, hsorted⟩
    · rw [hsame, hlast]
      simp
    · rw [hsorted, previous_buffer, Bool.and_eq_true]
      refine and_congr_right fun _ => ?_
      cases hlast : before.added.getLast? with
      | none => simp [NodeId.isMapped]
      | some last =>
        have hmapped := hbefore last (List.mem_of_getLast? hlast)
        rw [Option.getD_some, hmapped, Bool.true_and]
        simp [NodeId.index, UInt32.le_iff_toNat_le]
  | flush before ih => exact iff_of_true rfl id

/-- What is held are the targets that were added. -/
theorem mem_targets_buffer_iff (h : ∀ target ∈ history.added, target.isMapped = true) (node : NodeId) :
    node ∈ history.buffer.targets.toList ↔ node ∈ history.added := by
  induction history with
  | new skipsRepeats => exact Iff.rfl
  | prepare before source ih => exact Iff.rfl
  | add before target ih =>
    have hbefore := ih fun earlier hearlier => h earlier (List.mem_append_left _ hearlier)
    have htarget : target.isMapped = true := h target (List.mem_append_right _ List.mem_cons_self)
    rw [added, List.mem_append, List.mem_singleton]
    rcases add_buffer before htarget with ⟨-, hlast, hsame⟩ | ⟨-, htargets, -⟩
    · -- a target that is skipped is there already
      rw [hsame, hbefore]
      refine ⟨Or.inl, ?_⟩
      rintro (hmem | rfl)
      · exact hmem
      · exact List.mem_of_getLast? hlast
    · rw [htargets, List.mem_append, List.mem_singleton, hbefore]
  | flush before ih =>
    show node ∈ compact _ ↔ node ∈ before.added
    rw [mem_compact, ← ih h]
    split
    · exact Iff.rfl
    · exact mem_sortTargets

/-! ### When the targets are in order -/

/-- Dropping repetitions leaves in order what was, and nothing else. -/
theorem pairwise_compact_iff {targets : List NodeId} :
    (compact targets).Pairwise (fun a b => a.le b = true) ↔
      targets.Pairwise fun a b => a.le b = true := by
  refine ⟨fun h => ?_, fun h => (ascending_compact h).imp fun hlt => NodeId.le_iff.mpr hlt.le⟩
  induction targets using compact.induct with
  | case1 => exact h
  | case2 a => exact h
  | case3 b rest ih =>
    rw [compact, if_pos rfl] at h
    have hrest := ih h
    refine List.pairwise_cons.mpr ⟨fun node hnode => ?_, hrest⟩
    rcases List.mem_cons.mp hnode with rfl | hmem
    · exact NodeId.le_iff.mpr (Nat.le_refl _)
    · exact (List.pairwise_cons.mp hrest).1 node hmem
  | case4 a b rest hne ih =>
    rw [compact, if_neg hne] at h
    obtain ⟨hfirst, hrest⟩ := List.pairwise_cons.mp h
    refine List.pairwise_cons.mpr ⟨fun node hnode => ?_, ih hrest⟩
    exact hfirst node ((mem_compact _).mpr hnode)

theorem ascending_compact_iff {targets : List NodeId} :
    Ascending (compact targets) ↔ targets.Pairwise fun a b => a.le b = true := by
  refine ⟨fun h => ?_, ascending_compact⟩
  exact pairwise_compact_iff.mp (h.imp fun hlt => NodeId.le_iff.mpr hlt.le)

/-- What a flush compacts is in order if what was held before is, or if it is sorted. -/
theorem pairwise_ordered_iff (hsorted : history.buffer.sorted = true ↔ ¬ history.Descends)
    (horder : history.buffer.targets.toList.Pairwise (fun a b => a.le b = true) ↔ history.InOrder) :
    (if history.buffer.sorted then history.buffer.targets.toList
      else sortTargets history.buffer.targets.toList).Pairwise (fun a b => a.le b = true) ↔
        history.flush.InOrder := by
  rw [InOrder]
  split
  · next hflag => rw [horder, or_iff_right (hsorted.mp hflag)]
  · next hflag =>
    exact iff_of_true (sorted_sortTargets _) (Or.inl (not_not.mp (mt hsorted.mpr hflag)))

/-- **What is held is in order** exactly if the calls say so. -/
theorem pairwise_targets_iff (h : ∀ target ∈ history.added, target.isMapped = true) :
    history.buffer.targets.toList.Pairwise (fun a b => a.le b = true) ↔ history.InOrder := by
  induction history with
  | new skipsRepeats => exact iff_of_true List.Pairwise.nil trivial
  | prepare before source ih => exact iff_of_true List.Pairwise.nil trivial
  | add before target ih =>
    have hbefore : ∀ earlier ∈ before.added, earlier.isMapped = true :=
      fun earlier hearlier => h earlier (List.mem_append_left _ hearlier)
    have htarget : target.isMapped = true := h target (List.mem_append_right _ List.mem_cons_self)
    rw [InOrder, ← ih hbefore]
    rcases add_buffer before htarget with ⟨hskips, hlast, hsame⟩ | ⟨hkept, htargets, -⟩
    · rw [hsame]
      exact (and_iff_left (.inl ⟨hskips, hlast⟩)).symm
    · rw [htargets, List.pairwise_append, or_iff_right hkept]
      refine and_congr_right fun _ => ?_
      rw [and_iff_right (List.pairwise_singleton ..)]
      simp only [List.mem_singleton, forall_eq, NodeId.le_iff, mem_targets_buffer_iff hbefore]
  | flush before ih =>
    exact pairwise_compact_iff.trans (pairwise_ordered_iff (sorted_buffer_iff h) (ih h))

/-- **A flush leaves the targets strictly ascending** exactly if the calls say that they are in order. -/
theorem ascending_flush_iff (h : ∀ target ∈ history.added, target.isMapped = true) :
    Ascending history.buffer.flush.targets.toList ↔ history.flush.InOrder :=
  ascending_compact_iff.trans (pairwise_ordered_iff (sorted_buffer_iff h) (pairwise_targets_iff h))

/-- A buffer that has not been flushed since it was bound to its node tracks the targets of the node. -/
theorem tracks_of_unflushed (h : ∀ target ∈ history.added, target.isMapped = true)
    (hunflushed : history.Unflushed) : history.buffer.Tracks := by
  induction history with
  | new skipsRepeats => exact (TargetBuffer.new skipsRepeats).tracks_prepare NodeId.unmapped
  | prepare before source ih => exact before.buffer.tracks_prepare source
  | add before target ih =>
    have hbefore := ih (fun earlier hearlier => h earlier (List.mem_append_left _ hearlier)) hunflushed
    exact hbefore.add (h target (List.mem_append_right _ List.mem_cons_self))
  | flush before ih => exact hunflushed.elim

/-- What a flush leaves of a node's targets. -/
structure LeavesTargets (history : BufferHistory) (degree : Nat) (targets : List NodeId) : Prop where
  degree : degree = targets.length
  mem_iff : ∀ node, node ∈ targets ↔ node ∈ history.added
  ascending_iff : Ascending targets ↔ history.flush.InOrder
  ascending_of_unflushed : history.Unflushed → Ascending targets

/-- **Every flush** leaves exactly the targets that were added since the buffer was bound to its node, and
returns their number.  They are strictly ascending exactly if the calls say so, as they do if this is the
first flush for the node. -/
theorem flush_leaves_targets (history : BufferHistory)
    (h : ∀ target ∈ history.added, target.isMapped = true) :
    history.LeavesTargets history.buffer.flushInPlace.1
      history.buffer.flushInPlace.2.targets.toList := by
  rw [TargetBuffer.flushInPlace_eq]
  refine ⟨rfl, fun node => ?_, ascending_flush_iff h, fun hunflushed => ?_⟩
  · have hadded : ∀ target ∈ history.flush.added, target.isMapped = true := h
    exact mem_targets_buffer_iff hadded node
  · rw [(tracks_of_unflushed h hunflushed).flush]
    exact ascending_compact_sortTargets _

/-- Nodes 5 and 3 are put in order by a flush, a repetition of node 3 is skipped, and node 7 comes behind the
others. -/
theorem flush_leaves_revisited : ∃ history : BufferHistory,
    (∀ target ∈ history.added, target.isMapped = true) ∧ history.flush.InOrder ∧
      history.LeavesTargets 3 [⟨3⟩, ⟨5⟩, ⟨7⟩] := by
  let history : BufferHistory :=
    .add (.add (.flush (.add (.add (.prepare (.new true) ⟨0⟩) ⟨5⟩) ⟨3⟩)) ⟨3⟩) ⟨7⟩
  have hmapped : ∀ target ∈ history.added, target.isMapped = true := by decide
  have horder : history.flush.InOrder := by
    refine .inr ⟨⟨.inl (.inr ⟨⟨5⟩, rfl, by decide⟩), .inl ⟨rfl, rfl⟩⟩, .inr ?_⟩
    decide
  have hflush : history.buffer.flushInPlace.1 = 3 ∧
      history.buffer.flushInPlace.2.targets.toList = [⟨3⟩, ⟨5⟩, ⟨7⟩] := by cbv
  exact ⟨history, hmapped, horder, hflush.1 ▸ hflush.2 ▸ flush_leaves_targets history hmapped⟩

/-- Nodes 5 and 3 are put in order by a flush, and node 4 comes after that.  It is not smaller than the node
that was added before it, so the next flush leaves it behind node 5. -/
theorem flush_misplaces_reopened :
    let history : BufferHistory :=
      .add (.flush (.add (.add (.prepare (.new false) ⟨0⟩) ⟨5⟩) ⟨3⟩)) ⟨4⟩
    (∀ target ∈ history.added, target.isMapped = true) ∧
      history.buffer.flushInPlace.2.targets.toList = [⟨3⟩, ⟨5⟩, ⟨4⟩] ∧
      ¬ Ascending history.buffer.flushInPlace.2.targets.toList := by
  intro history
  have htargets : history.buffer.flushInPlace.2.targets.toList = [⟨3⟩, ⟨5⟩, ⟨4⟩] := by cbv
  refine ⟨by decide, htargets, fun hascending => ?_⟩
  rw [htargets] at hascending
  have hlt : (⟨5⟩ : NodeId).index < (⟨4⟩ : NodeId).index :=
    (List.pairwise_cons.mp (List.pairwise_cons.mp hascending).2).1 _ List.mem_cons_self
  exact absurd hlt (by decide)

end BufferHistory

end CompactGraph
