import OcneProvider.Controller.Filters
import OcneProvider.Webhooks.Update

/-! What is filled in before a control plane object is checked, and whether the checks then come to an end. -/

namespace OcneProvider.Webhooks.Defaulting
open Api.Meta Api.Objects Controller.Filters Validation Update

def defaultMaxSurge (rollingUpdate : Option RollingUpdate) : RollingUpdate :=
  ⟨some ((rollingUpdate.bind (·.maxSurge)).getD (.int 1))⟩

def defaultRolloutStrategy (rolloutStrategy : Option RolloutStrategy) : RolloutStrategy :=
  let strategy := rolloutStrategy.getD ⟨"", none⟩
  let type := if strategy.type = "" then rollingUpdateStrategyType else strategy.type
  ⟨type, if type = rollingUpdateStrategyType then some (defaultMaxSurge strategy.rollingUpdate) else strategy.rollingUpdate⟩

def defaultKubeadmControlPlaneSpec (spec : OCNEControlPlaneSpec) (ns : String) : OCNEControlPlaneSpec :=
  let ref := spec.machineTemplate.infrastructureRef
  { spec with
    replicas := some (spec.replicas.getD 1)
    machineTemplate := { spec.machineTemplate with infrastructureRef := if ref.ns = "" then { ref with ns } else ref }
    version := if spec.version.toList.head? = some 'v' then spec.version else "v" ++ spec.version
    controlPlaneConfig := defaultOCNEConfigSpec spec.controlPlaneConfig
    rolloutStrategy := some (defaultRolloutStrategy spec.rolloutStrategy) }

def defaulted (ocnecp : OCNEControlPlane) : OCNEControlPlane :=
  { ocnecp with spec := defaultKubeadmControlPlaneSpec ocnecp.spec ocnecp.ns }

/-- The pointers that the check of a strategy dereferences are not nil. -/
def SurgeGiven (strategy : RolloutStrategy) : Prop :=
  ∃ surge, strategy.rollingUpdate = some ⟨some surge⟩

theorem validateRolloutStrategy_returns_iff {strategy : RolloutStrategy} {replicas : Option Int32} {path : String} :
    (∃ errors, validateRolloutStrategy (some strategy) replicas path = .ok errors) ↔ SurgeGiven strategy := by
  obtain ⟨type, _ | ⟨_ | maxSurge⟩⟩ := strategy
  · simp [validateRolloutStrategy, SurgeGiven, throw, throwThe, MonadExceptOf.throw]
  · simp [validateRolloutStrategy, SurgeGiven, throw, throwThe, MonadExceptOf.throw]
  · simp [validateRolloutStrategy, SurgeGiven, pure, Except.pure]

/-- A strategy that is defaulted has all it needs, unless it is of another type. -/
def Completed (rolloutStrategy : Option RolloutStrategy) : Prop :=
  ∀ strategy ∈ rolloutStrategy, strategy.type = "" ∨ strategy.type = rollingUpdateStrategyType ∨ SurgeGiven strategy

theorem surgeGiven_defaultRolloutStrategy {rolloutStrategy : Option RolloutStrategy} :
    SurgeGiven (defaultRolloutStrategy rolloutStrategy) ↔ Completed rolloutStrategy := by
  cases rolloutStrategy with
  | none => simp [Completed, defaultRolloutStrategy, SurgeGiven, defaultMaxSurge]
  | some strategy =>
    obtain ⟨type, rollingUpdate⟩ := strategy
    by_cases empty : type = ""
    · simp [Completed, defaultRolloutStrategy, SurgeGiven, defaultMaxSurge, empty]
    by_cases rolling : type = rollingUpdateStrategyType
    · simp [Completed, defaultRolloutStrategy, SurgeGiven, defaultMaxSurge, rolling]
    · simp [Completed, defaultRolloutStrategy, SurgeGiven, empty, rolling]

theorem validateKubeadmControlPlaneSpec_returns_iff {spec : OCNEControlPlaneSpec} {ns path : String} :
    (∃ errors, validateKubeadmControlPlaneSpec spec ns path = .ok errors) ↔
      ∃ errors, validateRolloutStrategy spec.rolloutStrategy spec.replicas (ConfigSpec.child path ["rolloutStrategy"]) = .ok errors := by
  unfold validateKubeadmControlPlaneSpec
  cases validateRolloutStrategy spec.rolloutStrategy spec.replicas (ConfigSpec.child path ["rolloutStrategy"]) with
  | error error => simp [bind, Except.bind]
  | ok errors => simp [bind, Except.bind, pure, Except.pure]

theorem validateCreate_returns_iff {ignitionEnabled : Bool} {metadata : Except Err OCNEMetadata} {ocnecp : OCNEControlPlane} :
    (∃ errors, validateCreate ignitionEnabled metadata ocnecp = .ok errors) ↔
      ∃ errors, validateKubeadmControlPlaneSpec ocnecp.spec ocnecp.ns "spec" = .ok errors := by
  unfold validateCreate
  cases validateKubeadmControlPlaneSpec ocnecp.spec ocnecp.ns "spec" with
  | error error => simp [bind, Except.bind]
  | ok errors => simp [bind, Except.bind, pure, Except.pure]

theorem validateUpdate_returns_iff {runtime : Runtime} {prev new : Document} :
    (∃ errors, validateUpdate runtime prev new = .ok errors) ↔
      ∃ errors, validateKubeadmControlPlaneSpec new.object.spec new.object.ns "spec" = .ok errors := by
  unfold validateUpdate
  cases validateKubeadmControlPlaneSpec new.object.spec new.object.ns "spec" with
  | error error => simp [bind, Except.bind]
  | ok errors => simp [bind, Except.bind, pure, Except.pure]

theorem checked_returns_iff {ocnecp : OCNEControlPlane} :
    (∃ errors, validateKubeadmControlPlaneSpec (defaulted ocnecp).spec (defaulted ocnecp).ns "spec" = .ok errors) ↔
      Completed ocnecp.spec.rolloutStrategy := by
  rw [validateKubeadmControlPlaneSpec_returns_iff, ← surgeGiven_defaultRolloutStrategy]
  exact validateRolloutStrategy_returns_iff

/-- The checks of a defaulted object end exactly if it has a strategy of the supported type, or of another type with
all its parts. -/
theorem admission_returns_iff (ocnecp : OCNEControlPlane) :
    ((∀ ignitionEnabled metadata, ∃ errors, validateCreate ignitionEnabled metadata (defaulted ocnecp) = .ok errors) ∧
      ∀ (runtime : Runtime) (prev new : Document), new.object = defaulted ocnecp →
        ∃ errors, validateUpdate runtime prev new = .ok errors) ↔
      Completed ocnecp.spec.rolloutStrategy := by
  constructor
  · rintro ⟨created, -⟩
    exact checked_returns_iff.mp (validateCreate_returns_iff.mp (created false (.ok ∅)))
  · intro completed
    have checked := checked_returns_iff.mpr completed
    refine ⟨fun _ _ => validateCreate_returns_iff.mpr checked, fun runtime prev new same => ?_⟩
    rw [validateUpdate_returns_iff, same]
    exact checked

def bare (rolloutStrategy : Option RolloutStrategy) : OCNEControlPlane :=
  { name := "cp", ns := "default", uid := "u", deletionTimestamp := none, initialized := false, conditions := []
    spec := { (default : OCNEControlPlaneSpec) with rolloutStrategy } }

theorem bare_admission_returns :
    (∀ ignitionEnabled metadata, ∃ errors, validateCreate ignitionEnabled metadata (defaulted (bare none)) = .ok errors) ∧
      ∀ (runtime : Runtime) (prev new : Document), new.object = defaulted (bare none) →
        ∃ errors, validateUpdate runtime prev new = .ok errors :=
  (admission_returns_iff (bare none)).mpr (by simp [Completed, bare])

/-- A strategy of a type that is not supported is not refused but dereferenced. -/
theorem onDelete_admission_panics :
    validateCreate false (.ok ∅) (defaulted (bare (some ⟨"OnDelete", none⟩))) = .error nilPointerDereference := by
  rfl

end OcneProvider.Webhooks.Defaulting
