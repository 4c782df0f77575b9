/-
# Other turns

The turns that workers take decide which of several failures is reported, and nothing else.  A load that
succeeds under one schedule succeeds under all of them, with the very same graph and the same summary.
-/
import CompactGraph.Proofs.Load.Failures

namespace CompactGraph

/-- A phase that succeeds does so under every schedule. -/
theorem gather_of_ok {σ : Type} {turns : List Nat} {works : List (PartitionWork σ)} {values : List σ}
    (h : gather (Crew.run turns false works).outcomes = .ok values) (turns' : List Nat) :
    gather (Crew.run turns' false works).outcomes = .ok values :=
  gather_run_eq_ok_iff.mpr (gather_run_eq_ok_iff.mp h)

namespace LoadRun

/-- The same run, whose workers take other turns. -/
def rescheduled (run : LoadRun) (schedule : Phase → List Nat) : LoadRun := { run with schedule }

variable {run : LoadRun} (schedule : Phase → List Nat)

/-- What a node comes to in all lists has nothing to do with turns. -/
theorem fillLists_rescheduled (position node : Nat) (id : ExternalId) (plans : List ListPlan) :
    (run.rescheduled schedule).fillLists position node id plans = run.fillLists position node id plans := by
  induction plans with
  | nil => rfl
  | cons plan plans ih =>
    funext outputs
    rw [fillLists, fillLists, ih]
    rfl

/-- Nor has what a partition does. -/
theorem fillWork_rescheduled : (run.rescheduled schedule).fillWork = run.fillWork := by
  have hnode : (run.rescheduled schedule).fillNode = run.fillNode := by
    funext plans position node output
    simp only [fillNode, fillLists_rescheduled]
    rfl
  funext cursor range plans capacity
  unfold fillWork
  rw [hnode]
  rfl

theorem exact_rescheduled {parts : Assembled} (h : run.exact = .ok parts) :
    (run.rescheduled schedule).exact = .ok parts := by
  obtain ⟨bounds, hbounds, hrest⟩ := bind_eq_ok_iff.mp h
  obtain ⟨offsets, hoffsets, hrest⟩ := bind_eq_ok_iff.mp hrest
  obtain ⟨outputs, houtputs, hmerged⟩ := bind_eq_ok_iff.mp hrest
  have hbounds' : gather (run.rescheduled schedule).degreeCrew.outcomes = .ok bounds :=
    gather_of_ok hbounds (schedule .degrees)
  have hfill : ∀ flag, (run.rescheduled schedule).exactFillCrew flag bounds offsets
      = Crew.run (schedule .fill) flag (run.regionWorks bounds offsets) := by
    intro flag
    unfold exactFillCrew
    rw [fillWork_rescheduled]
    rfl
  rw [flag_degreeCrew hbounds] at houtputs
  refine bind_eq_ok_iff.mpr ⟨bounds, hbounds', bind_eq_ok_iff.mpr ⟨offsets, hoffsets,
    bind_eq_ok_iff.mpr ⟨outputs, ?_, hmerged⟩⟩⟩
  rw [flag_degreeCrew hbounds', hfill]
  exact gather_of_ok houtputs (schedule .fill)

theorem growable_rescheduled {parts : Assembled} (h : run.growable = .ok parts) :
    (run.rescheduled schedule).growable = .ok parts := by
  obtain ⟨outputs, houtputs, hmerged⟩ := bind_eq_ok_iff.mp h
  have hfill : (run.rescheduled schedule).growableFillCrew
      = Crew.run (schedule .fill) false run.growingWorks := by
    unfold growableFillCrew
    rw [fillWork_rescheduled]
    rfl
  refine bind_eq_ok_iff.mpr ⟨outputs, ?_, hmerged⟩
  rw [hfill]
  exact gather_of_ok houtputs (schedule .fill)

/-- **A run that succeeds** does so whatever turns its workers take, and with the same result. -/
theorem load_rescheduled {result : Graph × RunReport} (h : run.load = .ok result) :
    (run.rescheduled schedule).load = .ok result := by
  obtain ⟨_, hvalid, hrest⟩ := bind_eq_ok_iff.mp h
  obtain ⟨parts, hparts, hgraph⟩ := bind_eq_ok_iff.mp hrest
  refine bind_eq_ok_iff.mpr ⟨(), hvalid, bind_eq_ok_iff.mpr ⟨parts, ?_, hgraph⟩⟩
  have hranges : (run.rescheduled schedule).ranges = run.ranges := rfl
  have hsizing : (run.rescheduled schedule).sizing = run.sizing := rfl
  unfold assembled at hparts ⊢
  rw [hranges, hsizing]
  split at hparts
  · next hnone =>
    rw [if_pos hnone]
    exact hparts
  · next hsome =>
    rw [if_neg hsome]
    cases hown : run.sizing with
    | exact =>
      rw [hown] at hparts
      exact exact_rescheduled schedule hparts
    | growable =>
      rw [hown] at hparts
      exact growable_rescheduled schedule hparts

end LoadRun

/-- **A load that succeeds** does so whatever turns its workers take, and with the same result. -/
theorem loadSnapshot_rescheduled {snapshot : Snapshot} {config : LoadConfig} {machine : Nat}
    {schedule : Phase → List Nat} {loaded : Graph × LoadSummary}
    (h : loadSnapshot snapshot config machine schedule = .ok loaded) (schedule' : Phase → List Nat) :
    loadSnapshot snapshot config machine schedule' = .ok loaded := by
  obtain ⟨_, hvalid, hrest⟩ := bind_eq_ok_iff.mp h
  obtain ⟨idMap, hidMap, hrest⟩ := bind_eq_ok_iff.mp hrest
  obtain ⟨_, hcheck, hrest⟩ := bind_eq_ok_iff.mp hrest
  obtain ⟨result, hresult, hsummary⟩ := bind_eq_ok_iff.mp hrest
  exact bind_eq_ok_iff.mpr ⟨(), hvalid, bind_eq_ok_iff.mpr ⟨idMap, hidMap,
    bind_eq_ok_iff.mpr ⟨(), hcheck, bind_eq_ok_iff.mpr ⟨result,
      LoadRun.load_rescheduled schedule' hresult, hsummary⟩⟩⟩⟩

end CompactGraph
