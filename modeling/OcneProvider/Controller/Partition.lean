import OcneProvider.Controller.Plane

/-! The two collections by which a pass decides on a rollout. To select machines for one of them changes
the bootstrap configurations that are looked at, and does not change any later answer. -/

namespace OcneProvider.Controller.Partition
open Api.Bootstrap Api.Objects Collections Calls Filters Plane

section Comparison

variable (codec : Codec) (ocnecp : OCNEControlPlane) (infraObj : Option InfraObject) (machine : Machine)

theorem cleanupJoinConfiguration_again (ocnecpJoin machineJoin : JoinConfiguration) :
    cleanupJoinConfiguration ocnecpJoin (cleanupJoinConfiguration ocnecpJoin machineJoin).2 =
      cleanupJoinConfiguration ocnecpJoin machineJoin := by
  simp only [cleanupJoinConfiguration]
  split <;> split <;> rfl

/-- A part counts only if the machine's configuration has it. -/
def adjusted {α : Type} [DecidableEq α] (machine ocnecp : Option α) : Option α :=
  if machine = none then none else ocnecp

theorem cleanupJoinConfigurations_again (ocnecpJoin machineJoin : Option JoinConfiguration) :
    let cleaned := (cleanupJoinConfigurations (adjusted machineJoin ocnecpJoin) machineJoin).2
    cleanupJoinConfigurations (adjusted cleaned ocnecpJoin) cleaned =
      cleanupJoinConfigurations (adjusted machineJoin ocnecpJoin) machineJoin := by
  cases machineJoin with
  | none => rfl
  | some machineJoin =>
    cases ocnecpJoin with
    | none => rfl
    | some ocnecpJoin =>
      have again := cleanupJoinConfiguration_again ocnecpJoin machineJoin
      simp only [adjusted, reduceCtorEq, if_false, cleanupJoinConfigurations, again]

theorem cleanupInitConfiguration_again (ocnecpInit machineInit : Option InitConfiguration) :
    let cleaned := cleanupInitConfiguration (adjusted machineInit ocnecpInit) machineInit
    adjusted cleaned ocnecpInit = adjusted machineInit ocnecpInit ∧
      cleanupInitConfiguration (adjusted cleaned ocnecpInit) cleaned = cleaned := by
  cases machineInit <;> cases ocnecpInit <;> exact ⟨rfl, rfl⟩

def compared (spec : OCNEConfigSpec) : OCNEConfigSpec × OCNEConfigSpec :=
  cleanupConfigFields (defaultOCNEConfigSpec (getAdjustedKcpConfig ocnecp spec)) (defaultOCNEConfigSpec spec)

theorem compared_eq (spec : OCNEConfigSpec) : let config := ocnecp.spec.controlPlaneConfig
    let init := adjusted spec.initConfiguration config.initConfiguration
    let joins := cleanupJoinConfigurations (adjusted spec.joinConfiguration config.joinConfiguration) spec.joinConfiguration
    compared ocnecp spec =
      ({ config with
          clusterConfiguration := none
          initConfiguration := init
          joinConfiguration := joins.1
          format := if config.format = "" then cloudConfig else config.format },
        { spec with
          clusterConfiguration := none
          initConfiguration := cleanupInitConfiguration init spec.initConfiguration
          joinConfiguration := joins.2
          format := if spec.format = "" then cloudConfig else spec.format }) := by
  simp only [compared, defaultOCNEConfigSpec_eq]
  rfl

theorem compared_again (spec : OCNEConfigSpec) : compared ocnecp (compared ocnecp spec).2 = compared ocnecp spec := by
  have join := cleanupJoinConfigurations_again ocnecp.spec.controlPlaneConfig.joinConfiguration spec.joinConfiguration
  obtain ⟨same, init⟩ := cleanupInitConfiguration_again ocnecp.spec.controlPlaneConfig.initConfiguration
    spec.initConfiguration
  have format : ∀ given : String, (if (if given = "" then cloudConfig else given) = "" then cloudConfig
      else if given = "" then cloudConfig else given) = if given = "" then cloudConfig else given := by
    intro given
    by_cases unset : given = ""
    · simp only [if_pos unset, show cloudConfig ≠ "" by decide, if_false]
    · simp only [if_neg unset]
  rw [compared_eq ocnecp (compared ocnecp spec).2, compared_eq ocnecp spec]
  rw [same] at init
  rw [join, same, init, format]

theorem matchInitOrJoinConfiguration_eq (config : OCNEConfig) : matchInitOrJoinConfiguration config ocnecp =
    ((compared ocnecp config.spec).2 == (compared ocnecp config.spec).1,
      { config with spec := (compared ocnecp config.spec).2 }) :=
  rfl

theorem matchInitOrJoinConfiguration_again (config : OCNEConfig) :
    matchInitOrJoinConfiguration (matchInitOrJoinConfiguration config ocnecp).2 ocnecp =
      matchInitOrJoinConfiguration config ocnecp := by
  simp only [matchInitOrJoinConfiguration_eq, compared_again]

theorem matchesOCNEBootstrapConfig_again (config : Option OCNEConfig) :
    matchesOCNEBootstrapConfig codec (matchesOCNEBootstrapConfig codec config ocnecp machine).2 ocnecp machine =
      matchesOCNEBootstrapConfig codec config ocnecp machine := by
  by_cases cluster : matchClusterConfiguration codec ocnecp machine = true
  · cases ref : machine.configRef with
    | none => simp only [matchesOCNEBootstrapConfig, cluster, ref, if_true]
    | some configRef =>
      cases config with
      | none => simp only [matchesOCNEBootstrapConfig, cluster, ref, if_true]
      | some config =>
        by_cases metadata : matchMachineTemplateMetadata ocnecp config.annotations config.labels = true
        · -- only the spec of the configuration is changed, so its metadata matches again
          have kept : matchMachineTemplateMetadata ocnecp (matchInitOrJoinConfiguration config ocnecp).2.annotations
              (matchInitOrJoinConfiguration config ocnecp).2.labels = true := metadata
          simp only [matchesOCNEBootstrapConfig, cluster, ref, metadata, kept, if_true,
            matchInitOrJoinConfiguration_again]
        · simp only [matchesOCNEBootstrapConfig, cluster, ref, metadata, if_true, Bool.false_eq_true, if_false]
  · simp only [matchesOCNEBootstrapConfig, cluster, Bool.false_eq_true, if_false]

theorem matchesMachineSpec_again (config : Option OCNEConfig) :
    matchesMachineSpec codec infraObj (matchesMachineSpec codec infraObj config ocnecp machine).2 ocnecp machine =
      matchesMachineSpec codec infraObj config ocnecp machine := by
  unfold matchesMachineSpec
  split
  · simp only [matchesOCNEBootstrapConfig_again]
  · rfl

end Comparison

section Evaluations

variable (codec : Codec) {plane : ControlPlane} {machine : Machine}

theorem needsRollout_again (config : Option OCNEConfig) :
    plane.needsRollout codec machine (plane.needsRollout codec machine config).2 =
      plane.needsRollout codec machine config := by
  unfold ControlPlane.needsRollout
  split
  · rfl
  · simp only [matchesMachineSpec_again]

inductive Evaluation where
  | machinesNeedingRollout
  | upToDateMachines

/-- The machines selected, and the control plane with the configurations left. -/
def Evaluation.run (controlPlane : ControlPlane) : Evaluation → Machines × ControlPlane
  | machinesNeedingRollout => controlPlane.machinesNeedingRollout codec
  | upToDateMachines => controlPlane.upToDateMachines codec

def evaluate (evaluations : List Evaluation) (controlPlane : ControlPlane) : ControlPlane :=
  evaluations.foldl (fun controlPlane evaluation => (evaluation.run codec controlPlane).2) controlPlane

/-- What evaluations change: the configuration of a machine may have been compared. -/
structure Evaluated (before after : ControlPlane) : Prop where
  rest : after = { before with ocneConfigs := after.ocneConfigs }
  configs : ∀ machine ∈ before.machines, after.ocneConfigs machine.name = before.ocneConfigs machine.name ∨
    after.ocneConfigs machine.name = (before.needsRollout codec machine (before.ocneConfigs machine.name)).2

variable {codec} {after : ControlPlane}

section

variable (evaluated : Evaluated codec plane after)
include evaluated

theorem Evaluated.needsRollout_eq (mem : machine ∈ plane.machines) :
    after.needsRollout codec machine (after.ocneConfigs machine.name) =
      plane.needsRollout codec machine (plane.ocneConfigs machine.name) := by
  have reads : ∀ config, after.needsRollout codec machine config = plane.needsRollout codec machine config := by
    intro config
    rw [evaluated.rest]
    rfl
  rw [reads]
  rcases evaluated.configs machine mem with same | compared
  · rw [same]
  · rw [compared, needsRollout_again]

theorem Evaluated.select {considered : Machines} (among : ∀ machine ∈ considered, machine ∈ plane.machines)
    {test : Machine → Option OCNEConfig → Bool × Option OCNEConfig}
    (left : ∀ machine config, (test machine config).2 = (after.needsRollout codec machine config).2) :
    Evaluated codec plane (after.select considered test).2 where
  rest := by
    rw [evaluated.rest]
    rfl
  configs machine mem := by
    simp only [ControlPlane.select]
    cases found : considered.items.find? (·.name == machine.name) with
    | none => exact evaluated.configs machine mem
    | some other =>
      have named : other.name = machine.name := by simpa using List.find?_some found
      obtain rfl : other = machine :=
        Machines.eq_of_name (among other (List.mem_of_find?_eq_some found)) mem named
      refine .inr ?_
      simp only
      rw [left, evaluated.needsRollout_eq mem]

theorem evaluated_run (evaluation : Evaluation) : Evaluated codec plane (evaluation.run codec after).2 := by
  have machines : after.machines = plane.machines := by rw [evaluated.rest]
  cases evaluation with
  | machinesNeedingRollout =>
    exact evaluated.select (fun machine mem => machines ▸ (mem_filter.mp mem).1) fun _ _ => rfl
  | upToDateMachines =>
    exact evaluated.select (fun machine mem => machines ▸ mem) fun _ _ => rfl

theorem evaluated_evaluate (evaluations : List Evaluation) :
    Evaluated codec plane (evaluate codec evaluations after) := by
  induction evaluations generalizing after with
  | nil => exact evaluated
  | cons evaluation rest ih => exact ih (evaluated_run evaluated evaluation)

end

/-- Within a pass a machine that is not being deleted needs a rollout or is up to date, however often it is asked. -/
theorem rollout_partition_stable (codec : Codec) (plane : ControlPlane) (machine : Machine)
    (present : machine ∈ plane.machines) (staying : hasDeletionTimestamp machine = false)
    (evaluations : List Evaluation) :
    let later := evaluate codec evaluations plane
    (machine ∈ (later.machinesNeedingRollout codec).1 ↔ machine ∉ (later.upToDateMachines codec).1) ∧
      (machine ∈ (later.machinesNeedingRollout codec).1 ↔ machine ∈ (plane.machinesNeedingRollout codec).1) ∧
      (machine ∈ (later.upToDateMachines codec).1 ↔ machine ∈ (plane.upToDateMachines codec).1) := by
  have start : Evaluated codec plane plane := ⟨rfl, fun _ _ => .inl rfl⟩
  have evaluated := evaluated_evaluate start evaluations
  have verdict := evaluated.needsRollout_eq present
  have machines : (evaluate codec evaluations plane).machines = plane.machines := by rw [evaluated.rest]
  have rollout : ∀ after : ControlPlane, after.machines = plane.machines →
      (machine ∈ (after.machinesNeedingRollout codec).1 ↔
        (after.needsRollout codec machine (after.ocneConfigs machine.name)).1 = true) := by
    intro after same
    change machine ∈ ((after.machines.filter _).filter _) ↔ _
    rw [mem_filter, mem_filter, same]
    simp [present, staying]
  have current : ∀ after : ControlPlane, after.machines = plane.machines →
      (machine ∈ (after.upToDateMachines codec).1 ↔
        (after.needsRollout codec machine (after.ocneConfigs machine.name)).1 = false) := by
    intro after same
    change machine ∈ (after.machines.filter _) ↔ _
    rw [mem_filter, same]
    simp [present]
  simp only
  rw [rollout _ machines, current _ machines, rollout _ rfl, current _ rfl, verdict]
  refine ⟨?_, Iff.rfl, Iff.rfl⟩
  simp

private def joinWith (token : String) : JoinConfiguration :=
  ⟨⟨"", ""⟩, emptyNodeRegistration, "", { emptyDiscovery with tlsBootstrapToken := token }, none, none, none⟩

def joinedMachine : Machine :=
  { (default : Machine) with name := "joined", version := some "v1.25.7", configRef := some default }

def joinedPlane : ControlPlane where
  ocnecp := { (default : OCNEControlPlane) with
    spec := { (default : OCNEControlPlaneSpec) with
      version := "v1.25.7"
      controlPlaneConfig := { (default : OCNEConfigSpec) with joinConfiguration := some (joinWith "") } } }
  cluster := default
  machines := ⟨[joinedMachine], by decide⟩
  reconciliationTime := 0
  ocneConfigs := fun _ => some { (default : OCNEConfig) with
    spec := { (default : OCNEConfigSpec) with joinConfiguration := some (joinWith "abcdef.0123456789abcdef") } }
  infraResources := fun _ => none

/-- The comparison takes the token out of the machine's configuration, and finds it up to date again. -/
theorem joined_partition_stable :
    let later := evaluate (default : Runtime).codec [.upToDateMachines, .machinesNeedingRollout] joinedPlane
    joinedMachine ∈ joinedPlane.machines ∧ hasDeletionTimestamp joinedMachine = false ∧
      (later.ocneConfigs "joined").bind (·.spec.joinConfiguration) = some (joinWith "") ∧
      joinedMachine ∈ (later.upToDateMachines (default : Runtime).codec).1 := by
  have present : joinedMachine ∈ joinedPlane.machines := List.mem_singleton_self _
  have stable := rollout_partition_stable (default : Runtime).codec joinedPlane joinedMachine present rfl
    [.upToDateMachines, .machinesNeedingRollout]
  exact ⟨present, rfl, rfl, stable.2.2.mpr (by decide)⟩

end Evaluations

end OcneProvider.Controller.Partition
