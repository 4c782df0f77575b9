/-
# Layers of a configuration

A layer of options over a configuration takes each option that it gives and leaves the others
(`FlagOptions.layOver_eq`).  Asking for an undirected load gives the direction too, unless the same layer
names one.  A file is such a layer over the defaults once its words are read, and flags are one over the
file; each time the outcome is checked as a whole, so that every configuration that comes out can be loaded
with (`LoadConfig.validate_eq_ok_iff`).
-/
import CompactGraph.Config.Layers
import CompactGraph.Proofs.Config.Validation

namespace CompactGraph

namespace LoadConfig

variable {config : LoadConfig}

/-! ## Options that may be given -/

/-- **An option that may be given** comes to what is written of it, given or not. -/
theorem setting_eq {α : Type} {set : α → LoadConfig → LoadConfig} {written : Option α → LoadConfig}
    (hgiven : ∀ a, set a config = written (some a)) (hleft : config = written none) (value : Option α) :
    config.setting value set = written value := by
  cases value with
  | none => exact hleft
  | some a => exact hgiven a

/-- Each option takes the value that is given, or else keeps the one that it has. -/
theorem setting_options (config : LoadConfig) :
    (∀ value, config.setting value .withLabel
        = { config with nodeLabel := value.or config.nodeLabel }) ∧
      (∀ value, config.setting value .withRelationshipType
        = { config with relationshipType := value.or config.relationshipType }) ∧
      (∀ value, config.setting value .withDirection
        = { config with direction := value.getD config.direction }) ∧
      (∀ value, config.setting value .withWeightProperty
        = { config with weightProperty := value.or config.weightProperty }) ∧
      (∀ value, config.setting value .withDefaultWeight
        = { config with defaultWeight := value.getD config.defaultWeight }) ∧
      (∀ value, config.setting value .withPolicy
        = { config with policy := value.getD config.policy }) ∧
      (∀ value, config.setting value .withConcurrency
        = { config with concurrency := value.or config.concurrency }) ∧
      (∀ value, config.setting value .withMinPartitionSize
        = { config with minPartitionSize := value.getD config.minPartitionSize }) ∧
      (∀ value, config.setting value .withSizing
        = { config with sizing := value.getD config.sizing }) ∧
      ∀ value, config.setting value .withTimeout
        = { config with timeout := value.or config.timeout } := by
  refine ⟨?_, ?_, ?_, ?_, ?_, ?_, ?_, ?_, ?_, ?_⟩
  all_goals exact setting_eq (fun _ => rfl) rfl

/-- An undirected load takes both directions. -/
theorem setting_undirected {undirected : Bool} :
    (if undirected then config.withUndirected else config) = { config with
      undirected := undirected || config.undirected
      direction := if undirected then .both else config.direction } := by
  cases undirected <;> rfl

end LoadConfig

/-! ## Flags -/

namespace FlagOptions

/-- The configuration that flags ask for over another one, option by option. -/
def candidate (flags : FlagOptions) (base : LoadConfig) : LoadConfig where
  nodeLabel := flags.nodeLabel.or base.nodeLabel
  relationshipType := flags.relationshipType.or base.relationshipType
  direction := flags.direction.getD (if flags.undirected then .both else base.direction)
  undirected := flags.undirected || base.undirected
  weightProperty := flags.weightProperty.or base.weightProperty
  defaultWeight := flags.defaultWeight.getD base.defaultWeight
  policy := flags.policy.getD base.policy
  concurrency := flags.concurrency.or base.concurrency
  minPartitionSize := flags.minPartitionSize.getD base.minPartitionSize
  sizing := flags.sizing.getD base.sizing
  timeout := (flags.timeoutMs.map Duration.ofMilliseconds).or base.timeout

open LoadConfig in
/-- Laying flags over a configuration, one after the other, comes to what they ask for. -/
theorem layOver_eq (flags : FlagOptions) (base : LoadConfig) :
    flags.layOver base = flags.candidate base := by
  simp only [layOver, candidate, setting_options, setting_undirected]

end FlagOptions

/-! ## Files -/

section Words

variable {α : Type} {ofWord? : String → Option α} {unknown : String → ConfigProblem}
  {text : Option String}

/-- A word is given that stands for nothing. -/
def IsUnknownWord (ofWord? : String → Option α) (text : Option String) : Prop :=
  ∃ word, text = some word ∧ ofWord? (normalizeWord word) = none

/-- What a word stands for, if one is given. -/
def wordValue? (ofWord? : String → Option α) (text : Option String) : Option α :=
  text.bind fun word => ofWord? (normalizeWord word)

/-- A word is read unless it stands for nothing. -/
theorem readWord?_eq_ok_iff {found : Option α} :
    FileOptions.readWord? (readWord ofWord? unknown) text = .ok found ↔
      ¬ IsUnknownWord ofWord? text ∧ found = wordValue? ofWord? text := by
  cases text with
  | none => simp [FileOptions.readWord?, IsUnknownWord, wordValue?, eq_comm]
  | some word =>
    rw [FileOptions.readWord?, map_eq_ok_iff, readWord]
    cases hword : ofWord? (normalizeWord word) with
    | none => simp [IsUnknownWord, hword]
    | some a => simp [IsUnknownWord, wordValue?, hword, eq_comm]

end Words

namespace FileOptions

/-- The options of a file as flags, its words read. -/
def asFlags (file : FileOptions) : FlagOptions where
  nodeLabel := file.nodeLabel
  relationshipType := file.relationshipType
  direction := wordValue? Direction.ofWord? file.direction
  undirected := file.undirected == some true
  weightProperty := file.weightProperty
  defaultWeight := file.defaultWeight
  policy := wordValue? DuplicatePolicy.ofWord? file.duplicateStrategy
  concurrency := file.concurrency
  minPartitionSize := file.minPartitionSize
  sizing := wordValue? Sizing.ofWord? file.sizing
  timeoutMs := file.timeoutMs

/-- One of the words of a file stands for nothing. -/
def HasUnknownWord (file : FileOptions) : Prop :=
  IsUnknownWord Direction.ofWord? file.direction ∨
    IsUnknownWord DuplicatePolicy.ofWord? file.duplicateStrategy ∨ IsUnknownWord Sizing.ofWord? file.sizing

open LoadConfig in
/-- **A file is a layer over the defaults**: it comes to what its options ask for over them, if all of its
words are known and that can be loaded with. -/
theorem toConfig_eq_ok_iff {file : FileOptions} {config : LoadConfig} :
    file.toConfig = .ok config ↔ ¬ file.HasUnknownWord ∧ (file.asFlags.candidate {}).validate = .ok () ∧
      config = file.asFlags.candidate {} := by
  unfold toConfig
  -- both sides are brought to the options, one by one, that the file asks for
  simp only [bind_eq_ok_iff, Direction.ofText, DuplicatePolicy.ofText, Sizing.ofText, readWord?_eq_ok_iff,
    setting_options, setting_undirected, asFlags, FlagOptions.candidate, Option.or_none]
  constructor
  · rintro ⟨_, ⟨hdirection, rfl⟩, _, ⟨hpolicy, rfl⟩, _, ⟨hsizing, rfl⟩, _, hvalid, hconfig⟩
    cases hconfig
    exact ⟨not_or.mpr ⟨hdirection, not_or.mpr ⟨hpolicy, hsizing⟩⟩, hvalid, rfl⟩
  · rintro ⟨hknown, hvalid, rfl⟩
    obtain ⟨hdirection, hrest⟩ := not_or.mp hknown
    obtain ⟨hpolicy, hsizing⟩ := not_or.mp hrest
    exact ⟨_, ⟨hdirection, rfl⟩, _, ⟨hpolicy, rfl⟩, _, ⟨hsizing, rfl⟩, (), hvalid, rfl⟩

/-- A file describes no configuration exactly if one of its words is unknown or what its options ask for
cannot be loaded with. -/
theorem toConfig_fails_iff {file : FileOptions} :
    (∃ error, file.toConfig = .error error) ↔
      file.HasUnknownWord ∨ (file.asFlags.candidate {}).validate ≠ .ok () := by
  have hfails : (∃ error, file.toConfig = .error error) ↔ ¬ ∃ config, file.toConfig = .ok config := by
    cases file.toConfig <;> simp
  have hsucceeds : (∃ config, file.toConfig = .ok config) ↔
      ¬ (file.HasUnknownWord ∨ (file.asFlags.candidate {}).validate ≠ .ok ()) := by
    rw [not_or, not_not]
    constructor
    · rintro ⟨config, hconfig⟩
      obtain ⟨hknown, hvalid, _⟩ := toConfig_eq_ok_iff.mp hconfig
      exact ⟨hknown, hvalid⟩
    · rintro ⟨hknown, hvalid⟩
      exact ⟨_, toConfig_eq_ok_iff.mpr ⟨hknown, hvalid, rfl⟩⟩
  rw [hfails, hsucceeds, not_not]

end FileOptions

/-! ## All layers -/

/-- The configuration that flags are laid over: that of the file, or the defaults. -/
def baseConfig : Option FileOptions → Except LoadError LoadConfig
  | none => .ok {}
  | some file => file.toConfig

/-- A configuration of three layers is what the flags ask for over the file or the defaults, checked. -/
theorem layeredConfig_eq (file : Option FileOptions) (flags : FlagOptions) :
    layeredConfig file flags = baseConfig file >>= fun base =>
      (fun _ => flags.candidate base) <$> (flags.candidate base).validate := by
  simp only [layeredConfig, FlagOptions.layOver_eq]
  cases file <;> rfl

/-- Every configuration of three layers can be loaded with. -/
theorem usable_of_layeredConfig {file : Option FileOptions} {flags : FlagOptions} {config : LoadConfig}
    (h : layeredConfig file flags = .ok config) : config.Usable := by
  rw [layeredConfig_eq] at h
  obtain ⟨base, _, h⟩ := bind_eq_ok_iff.mp h
  obtain ⟨_, hvalid, rfl⟩ := map_eq_ok_iff.mp h
  exact LoadConfig.validate_eq_ok_iff.mp hvalid

/-- Every configuration that a file describes can be loaded with. -/
theorem usable_of_toConfig {file : FileOptions} {config : LoadConfig} (h : file.toConfig = .ok config) :
    config.Usable := by
  obtain ⟨_, hvalid, rfl⟩ := FileOptions.toConfig_eq_ok_iff.mp h
  exact LoadConfig.validate_eq_ok_iff.mp hvalid

/-- **Three layers of options.**  A file that describes no configuration is reported as it is, whatever the
flags say.  Otherwise the outcome is what the flags ask for over the file or the defaults, if that passes
the check.  The file itself is a layer over the defaults, checked in the same way once its words are known.
Whatever configuration comes out can be loaded with. -/
theorem layeredConfig_of_layers (file : Option FileOptions) (flags : FlagOptions) :
    (∀ error, baseConfig file = .error error → layeredConfig file flags = .error error) ∧
      (∀ base, baseConfig file = .ok base →
        (∀ config, layeredConfig file flags = .ok config ↔
          (flags.candidate base).validate = .ok () ∧ config = flags.candidate base) ∧
        ∀ error, layeredConfig file flags = .error error ↔
          (flags.candidate base).validate = .error error) ∧
      (∀ options, file = some options →
        (∀ config, options.toConfig = .ok config ↔ ¬ options.HasUnknownWord ∧
          (options.asFlags.candidate {}).validate = .ok () ∧ config = options.asFlags.candidate {}) ∧
        ((∃ error, options.toConfig = .error error) ↔
          options.HasUnknownWord ∨ (options.asFlags.candidate {}).validate ≠ .ok ())) ∧
      ∀ config, layeredConfig file flags = .ok config ∨
        (∃ options, file = some options ∧ options.toConfig = .ok config) → config.Usable := by
  refine ⟨?failed, ?laid, fun options _ => ⟨fun _ => FileOptions.toConfig_eq_ok_iff,
    FileOptions.toConfig_fails_iff⟩, ?usable⟩
  case failed =>
    intro error hfile
    rw [layeredConfig_eq, hfile]
    rfl
  case laid =>
    intro base hfile
    have hlayered : layeredConfig file flags =
        (fun _ => flags.candidate base) <$> (flags.candidate base).validate := by
      rw [layeredConfig_eq, hfile]
      rfl
    constructor
    · intro config
      rw [hlayered, map_eq_ok_iff]
      exact ⟨fun ⟨_, hvalid, hconfig⟩ => ⟨hvalid, hconfig.symm⟩,
        fun ⟨hvalid, hconfig⟩ => ⟨(), hvalid, hconfig.symm⟩⟩
    · intro error
      rw [hlayered, map_eq_error_iff]
  case usable =>
    rintro config (hlayered | ⟨options, _, hfile⟩)
    · exact usable_of_layeredConfig hlayered
    · exact usable_of_toConfig hfile

/-- A direction flag has the last word over an undirected file, which then cannot be loaded. -/
example : layeredConfig (some { undirected := some true }) { direction := some .incoming } =
    .error (.configuration (.needsBothDirections .incoming)) := by
  rfl

end CompactGraph
