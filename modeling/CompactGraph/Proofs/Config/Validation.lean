/-
# Checked configurations

The check of a configuration is passed exactly by those that can be loaded with
(`LoadConfig.validate_eq_ok_iff`): there is somebody to work and something to do, weights are finite, names
are not blank, merging both directions reads both, and there is time.
-/
import CompactGraph.Config
import CompactGraph.Proofs.Outcomes

namespace CompactGraph

namespace LoadConfig

/-- A configuration that can be loaded with, on whatever machine. -/
structure Usable (config : LoadConfig) : Prop where
  concurrency : config.concurrency ≠ some 0
  workers : ∀ machine, 1 ≤ config.workers machine
  minPartitionSize : 1 ≤ config.minPartitionSize
  defaultWeight : config.defaultWeight.isFinite = true
  names : ∀ name, some name ∈ [config.nodeLabel, config.relationshipType, config.weightProperty] →
    ∃ c ∈ name.toList, isBlank c = false
  direction : config.undirected = true → config.direction = .both
  timeout : config.timeout ≠ some ⟨0⟩

variable {config : LoadConfig}

/-- A name is refused if all of its characters are blank. -/
theorem checkName_eq_ok_iff {option : NameOption} {name : Option String} :
    checkName option name = .ok () ↔ ∀ text, name = some text → ∃ c ∈ text.toList, isBlank c = false := by
  cases name with
  | none => exact iff_of_true rfl fun _ h => nomatch h
  | some text => simp [checkName, isBlankText]

theorem one_le_workers (h : config.concurrency ≠ some 0) (machine : Nat) :
    1 ≤ config.workers machine := by
  rw [workers]
  cases hconcurrency : config.concurrency with
  | none => exact Nat.le_max_right machine 1
  | some count =>
    refine Nat.one_le_iff_ne_zero.mpr ?_
    rintro rfl
    exact h hconcurrency

/-- **The check of a configuration** is passed exactly by those that can be loaded with. -/
theorem validate_eq_ok_iff : config.validate = .ok () ↔ config.Usable := by
  have hcheck : config.validate = .ok () ↔ ¬ config.concurrency = some 0 ∧
      ¬ config.minPartitionSize = 0 ∧ ¬ (!config.defaultWeight.isFinite) = true ∧
      checkName .nodeLabel config.nodeLabel = .ok () ∧
      checkName .relationshipType config.relationshipType = .ok () ∧
      checkName .weightProperty config.weightProperty = .ok () ∧
      ¬ (config.undirected && config.direction != .both) = true ∧ ¬ config.timeout = some ⟨0⟩ := by
    unfold validate
    rw [check_eq_ok_iff, check_eq_ok_iff, check_eq_ok_iff, then_eq_ok_iff, then_eq_ok_iff, then_eq_ok_iff,
      check_eq_ok_iff, last_check_eq_ok_iff]
  rw [hcheck, checkName_eq_ok_iff, checkName_eq_ok_iff, checkName_eq_ok_iff]
  constructor
  · rintro ⟨hconcurrency, hsize, hweight, hlabel, htype, hproperty, hdirection, htimeout⟩
    exact {
      concurrency := hconcurrency
      workers := one_le_workers hconcurrency
      minPartitionSize := Nat.one_le_iff_ne_zero.mpr hsize
      defaultWeight := by simpa using hweight
      names := by
        intro name hname
        rcases List.mem_cons.mp hname with h | hname
        · exact hlabel name h.symm
        rcases List.mem_cons.mp hname with h | hname
        · exact htype name h.symm
        · exact hproperty name (List.mem_singleton.mp hname).symm
      direction := by simpa using hdirection
      timeout := htimeout }
  · intro h
    have hname : ∀ {option}, option ∈ [config.nodeLabel, config.relationshipType, config.weightProperty] →
        ∀ text, option = some text → ∃ c ∈ text.toList, isBlank c = false := by
      rintro _ hmem text rfl
      exact h.names text hmem
    exact ⟨h.concurrency, Nat.one_le_iff_ne_zero.mp h.minPartitionSize, by simp [h.defaultWeight],
      hname (by simp), hname (by simp), hname (by simp), by simpa using h.direction, h.timeout⟩

end LoadConfig

end CompactGraph
