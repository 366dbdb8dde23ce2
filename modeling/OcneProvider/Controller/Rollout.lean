import OcneProvider.Bootstrapper.Filling
import OcneProvider.Controller.Clusters
import OcneProvider.Controller.Mild

/-! A machine that was generated from a control plane and bootstrapped matches it,
so that it is not rolled out for a difference nobody has made. -/

namespace OcneProvider.Controller.Rollout
open Api.Meta Api.Bootstrap Api.Objects Collections Calls Filters Plane Scale Mild
open Bootstrapper.Reconciler Bootstrapper.Filling Effects.Program Effects.Fallible Api.Json Finmap

def Generates (cluster : Cluster) (ocnecp : OCNEControlPlane) (codec : Codec) (spec : OCNEConfigSpec) : Call → Prop
  | .createFromTemplate input => input = newInfraInput cluster ocnecp
  | .createOCNEConfig config => ∃ name, config = newOCNEConfig cluster ocnecp name spec
  | .createMachine machine => ∃ name infraRef bootstrapRef failureDomain text,
      codec.marshal ocnecp.spec.controlPlaneConfig.clusterConfiguration = .ok text ∧
      machine = newMachine cluster ocnecp name infraRef bootstrapRef failureDomain text
  | _ => True

section Generation

variable {cluster : Cluster} {ocnecp : OCNEControlPlane} {codec : Codec} {spec : OCNEConfigSpec}

theorem generateKubeadmConfig_generates :
    WithinE (Generates cluster ocnecp codec spec) (fun _ => True) (generateKubeadmConfig cluster ocnecp spec) := by
  refine withinE_bind.mpr ((withinE_lift _).mpr ⟨trivial, fun name => ?_⟩)
  refine withinE_bind.mpr (withinE_adaptError.mpr ⟨⟨name, rfl⟩, fun _ uid _ => ?_⟩)
  exact withinE_pure.mpr trivial

theorem generateMachine_generates (infraRef bootstrapRef : ObjectReference) (failureDomain : Option String) :
    WithinE (Generates cluster ocnecp codec spec) (fun _ => True)
      (generateMachine cluster ocnecp codec infraRef bootstrapRef failureDomain) := by
  refine withinE_bind.mpr ((withinE_lift _).mpr ⟨trivial, fun name => ?_⟩)
  refine withinE_bind.mpr (withinE_adaptError.mpr fun text marshalled => ?_)
  refine withinE_adaptError.mpr ⟨?_, fun _ _ _ => trivial⟩
  exact ⟨name, infraRef, bootstrapRef, failureDomain, text, marshalled, rfl⟩

variable (cluster ocnecp codec spec) in
theorem cloneConfigsAndGenerateMachine_generates (failureDomain : Option String) :
    WithinE (Generates cluster ocnecp codec spec) (fun _ => True)
      (cloneConfigsAndGenerateMachine cluster ocnecp codec spec failureDomain) := by
  refine withinE_bind.mpr (withinE_adaptError.mpr ⟨rfl, fun _ infraRef _ => ?_⟩)
  refine withinE_bind.mpr (withinE_attempt.mpr ?_)
  refine generateKubeadmConfig_generates.run (fun bootstrapRef _ => ?_) fun error =>
    abandonGeneration_within (fun _ => trivial) _ _ _
  refine withinE_bind.mpr (withinE_attempt.mpr ?_)
  exact (generateMachine_generates infraRef bootstrapRef failureDomain).run (fun _ _ => withinE_pure.mpr trivial)
    fun error => abandonGeneration_within (fun _ => trivial) _ _ _

end Generation

inductive Role where
  | first
  | later

def Role.spec (controlPlane : ControlPlane) : Role → OCNEConfigSpec
  | first => controlPlane.initialControlPlaneConfig
  | later => controlPlane.joinControlPlaneConfig

/-- What creates a machine of the role. -/
def Role.create (runtime : Runtime) (cluster : Cluster) (plane : ControlPlane) : Role → Api Result
  | first => initializeControlPlane runtime cluster plane.ocnecp plane
  | later => scaleUpControlPlane runtime cluster plane.ocnecp plane

theorem Role.create_generates (runtime : Runtime) (cluster : Cluster) (plane : ControlPlane) (role : Role) :
    WithinE (Generates cluster plane.ocnecp runtime.codec (role.spec plane)) (fun _ => True)
      (role.create runtime cluster plane) := by
  have generated := cloneConfigsAndGenerateMachine_generates cluster plane.ocnecp runtime.codec (role.spec plane)
    (plane.nextFailureDomainForScaleUp runtime)
  cases role with
  | first =>
    refine withinE_bind.mpr ⟨trivial, fun _ mem _ => ?_⟩
    dsimp only
    split
    next => exact withinE_bind.mpr (withinE_throw _ _)
    next => exact withinE_bind.mpr (generated.mono fun _ _ => withinE_pure.mpr trivial)
  | later =>
    unfold Role.create scaleUpControlPlane
    dsimp only
    split
    next => exact withinE_pure.mpr trivial
    next => exact withinE_bind.mpr (generated.mono fun _ _ => withinE_pure.mpr trivial)

theorem isSubsetMapOf_iff {base existing : StringMap} :
    isSubsetMapOf base existing = true ↔ ∀ key ∈ base, existing.lookup key = base.lookup key := by
  simp [isSubsetMapOf, mem_keys]

theorem isSubsetMapOf_insert {base existing : StringMap} (key value : String) (unused : key ∉ base)
    (subset : isSubsetMapOf base existing = true) : isSubsetMapOf base (existing.insert key value) = true := by
  rw [isSubsetMapOf_iff] at subset ⊢
  intro other mem
  have apart : other ≠ key := fun same => unused (same ▸ mem)
  rw [lookup_insert_of_ne _ apart]
  exact subset other mem

theorem isSubsetMapOf_self (base : StringMap) : isSubsetMapOf base base = true := by
  simp [isSubsetMapOf_iff]

/-- The template has no label or annotation that the controllers set themselves. -/
structure AvoidsOwnKeys (template : MachineTemplate) : Prop where
  clusterConfiguration : ocneClusterConfigurationAnnotation ∉ template.annotations
  clonedFromName : templateClonedFromNameAnnotation ∉ template.annotations
  clonedFromGroupKind : templateClonedFromGroupKindAnnotation ∉ template.annotations
  cluster : clusterLabelName ∉ template.labels
  controlPlane : machineControlPlaneLabelName ∉ template.labels
  controlPlaneName : machineControlPlaneNameLabel ∉ template.labels

/-- What is assumed of the library that clones a template: labels and annotations that are asked for are set, but for
those it sets itself, and the annotations name the template. -/
structure Clones (clone : CreateFromTemplateInput → InfraObject → InfraObject) : Prop where
  labels : ∀ input template, ∀ key ∈ input.labels, key ≠ clusterLabelName →
    (clone input template).labels.lookup key = input.labels.lookup key
  annotations : ∀ input template, ∀ key ∈ input.annotations, key ≠ templateClonedFromNameAnnotation →
    key ≠ templateClonedFromGroupKindAnnotation →
    (clone input template).annotations.lookup key = input.annotations.lookup key
  name : ∀ input template,
    (clone input template).annotations.lookup templateClonedFromNameAnnotation = some input.templateRef.name
  kind : ∀ input template, (clone input template).annotations.lookup templateClonedFromGroupKindAnnotation =
    some (groupKind input.templateRef)

section Metadata

variable {clone : CreateFromTemplateInput → InfraObject → InfraObject} (clones : Clones clone)
variable (cluster : Cluster) (ocnecp : OCNEControlPlane) (avoids : AvoidsOwnKeys ocnecp.spec.machineTemplate)
include avoids

theorem labels_match : isSubsetMapOf ocnecp.spec.machineTemplate.labels
    (controlPlaneMachineLabelsForCluster ocnecp cluster.name) = true :=
  isSubsetMapOf_insert _ _ avoids.controlPlaneName (isSubsetMapOf_insert _ _ avoids.controlPlane
    (isSubsetMapOf_insert _ _ avoids.cluster (isSubsetMapOf_self _)))

include clones in
theorem clone_matches (template : InfraObject) :
    matchesTemplateClonedFrom (some (clone (newInfraInput cluster ocnecp) template)) ocnecp = true := by
  have annotations : isSubsetMapOf ocnecp.spec.machineTemplate.annotations
      (clone (newInfraInput cluster ocnecp) template).annotations = true :=
    isSubsetMapOf_iff.mpr fun key mem => clones.annotations _ template key mem
      (fun same => avoids.clonedFromName (same ▸ mem)) fun same => avoids.clonedFromGroupKind (same ▸ mem)
  have labels : isSubsetMapOf ocnecp.spec.machineTemplate.labels
      (clone (newInfraInput cluster ocnecp) template).labels = true := by
    refine isSubsetMapOf_iff.mpr fun key mem => ?_
    have given := isSubsetMapOf_iff.mp (labels_match cluster ocnecp avoids) key mem
    have asked : key ∈ (newInfraInput cluster ocnecp).labels := lookup_isSome.mp (given ▸ lookup_isSome.mpr mem)
    exact (clones.labels _ template key asked fun same => avoids.cluster (same ▸ mem)).trans given
  simpa [matchesTemplateClonedFrom, clones.name, clones.kind, newInfraInput, matchMachineTemplateMetadata] using
    ⟨annotations, labels⟩

end Metadata

theorem cleanupJoinConfiguration_of_kept {given filled : JoinConfiguration} (kept : JoinKept given filled) :
    (cleanupJoinConfiguration given filled).2 = (cleanupJoinConfiguration given filled).1 := by
  rw [kept.others]
  have plane : given.controlPlane = none ∨ filled.controlPlane = given.controlPlane := by
    cases known : given.controlPlane with
    | none => exact .inl rfl
    | some parts => exact .inr (kept.controlPlane parts known)
  by_cases registration : given.nodeRegistration = emptyNodeRegistration <;> rcases plane with absent | same
  all_goals by_cases absent : given.controlPlane = none <;> simp_all [cleanupJoinConfiguration]

/-- What does not depend on the way a machine is bootstrapped. -/
def common (spec : OCNEConfigSpec) : OCNEConfigSpec :=
  { spec with clusterConfiguration := none, initConfiguration := none, joinConfiguration := none }

theorem eq_of_common_eq {given stored : OCNEConfigSpec} (same : common stored = common given) : stored = { given with
      clusterConfiguration := stored.clusterConfiguration
      initConfiguration := stored.initConfiguration
      joinConfiguration := stored.joinConfiguration } := by
  cases stored
  cases given
  simpa [common] using same

theorem matchInitOrJoinConfiguration_iff {ocnecp : OCNEControlPlane} {config : OCNEConfig}
    (same : common config.spec = common ocnecp.spec.controlPlaneConfig) :
    (matchInitOrJoinConfiguration config ocnecp).1 = true ↔
      (∀ filled, config.spec.initConfiguration = some filled →
        ∃ given, ocnecp.spec.controlPlaneConfig.initConfiguration = some given ∧
          given = { filled with typeMeta := given.typeMeta }) ∧
      (∀ filled, config.spec.joinConfiguration = some filled →
        ∀ given, ocnecp.spec.controlPlaneConfig.joinConfiguration = some given →
          (cleanupJoinConfiguration given filled).2 = (cleanupJoinConfiguration given filled).1) := by
  simp only [matchInitOrJoinConfiguration, defaultOCNEConfigSpec_eq, getAdjustedKcpConfig, cleanupConfigFields]
  rw [eq_of_common_eq same]
  simp only [beq_iff_eq, OCNEConfigSpec.mk.injEq, and_true, true_and]
  refine and_congr ?_ ?_
  · cases config.spec.initConfiguration with
    | none => simp [cleanupInitConfiguration]
    | some filled =>
      cases ocnecp.spec.controlPlaneConfig.initConfiguration with
      | none => simp [cleanupInitConfiguration]
      | some given => simp [cleanupInitConfiguration, eq_comm]
  · cases config.spec.joinConfiguration with
    | none => simp [cleanupJoinConfigurations]
    | some filled =>
      cases ocnecp.spec.controlPlaneConfig.joinConfiguration <;> simp [cleanupJoinConfigurations]

/-- A pass over an unready configuration: the first machine initializes the cluster, and a later one joins it once
initialized. -/
def Expected (role : Role) (machine : Machine) (stored : Config) (answers : Answers) : Prop :=
  ∀ owner view, answers.scope = some (owner, view) →
    owner.kind = "Machine" ∧ owner.labels = machine.labels ∧ owner.version = machine.version ∧
    (stored.ready = false → match role with
      | .first => view.initialized = false
      | .later => view.initialized = true ∨ answers.lock = false)

inductive Bootstrapped (settings : Settings) (role : Role) (machine : Machine) (spec : OCNEConfigSpec) :
    Config → Prop where
  | created : Bootstrapped settings role machine spec ⟨Api.Json.configSpec spec, false, none⟩
  | passed {stored : Config} (answers : Answers) (earlier : Bootstrapped settings role machine spec stored)
    (expected : Expected role machine stored answers) :
    Bootstrapped settings role machine spec (runPass settings answers stored)

def Agrees (given : OCNEConfigSpec) (stored : OCNEConfigSpec) : Role → Prop
  | .first => common stored = common given ∧ stored.joinConfiguration = none ∧
      stored.initConfiguration = given.initConfiguration ∧
      (given.initConfiguration = none → given.clusterConfiguration = none → stored.clusterConfiguration = none)
  | .later => common stored = common given ∧ stored.initConfiguration = none ∧
      ∀ join, given.joinConfiguration = some join →
        ∃ filled, stored.joinConfiguration = some filled ∧ JoinKept join filled

section RoundTrip

variable {given stored : OCNEConfigSpec} (fixed : Api.Json.configSpec given = given)
include fixed

theorem common_roundTrip (same : common stored = common given) : common (configSpec stored) = common given :=
  calc common (configSpec stored)
    _ = configSpec (common stored) := rfl
    _ = configSpec (common given) := by rw [same]
    _ = common (configSpec given) := rfl
    _ = common given := by rw [fixed]

theorem joinKept_roundTrip {join filled : JoinConfiguration} (known : given.joinConfiguration = some join)
    (kept : JoinKept join filled) : JoinKept join (joinConfiguration filled) := by
  have fixedJoin : joinConfiguration join = join := by
    have parts := congrArg OCNEConfigSpec.joinConfiguration fixed
    simpa [configSpec, known] using parts
  have registration : nodeRegistration join.nodeRegistration = join.nodeRegistration :=
    congrArg JoinConfiguration.nodeRegistration fixedJoin
  have phases : omitEmpty join.skipPhases = join.skipPhases :=
    congrArg JoinConfiguration.skipPhases fixedJoin
  refine ⟨?_, kept.controlPlane⟩
  rw [kept.others]
  simp [joinConfiguration, registration, phases]

theorem Agrees.roundTrip (role : Role) (agrees : Agrees given stored role) :
    Agrees given (configSpec stored) role := by
  have init : given.initConfiguration.map initConfiguration = given.initConfiguration :=
    congrArg OCNEConfigSpec.initConfiguration fixed
  cases role with
  | first =>
    obtain ⟨same, noJoin, sameInit, noCluster⟩ := agrees
    refine ⟨common_roundTrip fixed same, ?_, ?_, fun absent absentToo => ?_⟩
    · simp [configSpec, noJoin]
    · simp [configSpec, sameInit, init]
    · simp [configSpec, noCluster absent absentToo]
  | later =>
    obtain ⟨same, noInit, join⟩ := agrees
    refine ⟨common_roundTrip fixed same, ?_, fun given known => ?_⟩
    · simp [configSpec, noInit]
    · obtain ⟨filled, stored, kept⟩ := join given known
      exact ⟨joinConfiguration filled, by simp [configSpec, stored],
        joinKept_roundTrip fixed known kept⟩

end RoundTrip

/-- Nothing is filled in that the control plane leaves open for its first machine. -/
def InitSettled (settings : Settings) (ocnecp : OCNEControlPlane) : Prop :=
  ocnecp.spec.controlPlaneConfig.initConfiguration ≠ none ∨
    ocnecp.spec.controlPlaneConfig.clusterConfiguration = none ∨
    ∀ version, settings.parseTolerant ocnecp.spec.version ≠ .ok version

section Runs

variable {settings : Settings} {ocnecp : OCNEControlPlane} {role : Role} {machine : Machine} {stored : Config}

theorem Agrees.passed {answers : Answers} {owner : ConfigOwner} {view : ClusterView} {reached : Config}
    (settled : InitSettled settings ocnecp) (version : owner.kubernetesVersion = ocnecp.spec.version)
    (expected : Expected role machine stored answers) (scope : answers.scope = some (owner, view))
    (passed : Passed settings answers owner view stored reached)
    (agrees : Agrees ocnecp.spec.controlPlaneConfig stored.spec role) :
    Agrees ocnecp.spec.controlPlaneConfig reached.spec role := by
  obtain ⟨_, _, _, state⟩ := expected owner view scope
  cases passed with
  | kept same => rwa [same]
  | initialized uninitialized unready locked parsed given filled =>
    cases role with
    | first =>
      obtain ⟨same, noJoin, sameInit, noCluster⟩ := agrees
      have others : common reached.spec = common stored.spec := by rw [filled.others]; rfl
      have join : reached.spec.joinConfiguration = stored.spec.joinConfiguration := by rw [filled.others]
      cases init : ocnecp.spec.controlPlaneConfig.initConfiguration with
      | some given =>
        refine ⟨others.trans same, join.trans noJoin, ?_, fun absent => by simp [init] at absent⟩
        rw [init]
        exact filled.init given (sameInit.trans init)
      | none =>
        -- the pass has found a cluster configuration, and it has parsed the version
        rcases settled with mem | absent | unparsed
        · exact absurd init mem
        · simp [sameInit, init, noCluster init absent] at given
        · rw [version] at parsed
          exact absurd parsed (unparsed _)
    | later =>
      rcases state unready with initialized | unlocked
      · rw [uninitialized] at initialized
        exact absurd initialized (by decide)
      · rw [locked] at unlocked
        exact absurd unlocked (by decide)
  | joined initialized unready filled =>
    cases role with
    | first =>
      have uninitialized : view.initialized = false := state unready
      rw [initialized] at uninitialized
      exact absurd uninitialized (by decide)
    | later =>
      obtain ⟨same, noInit, join⟩ := agrees
      have others : common reached.spec = common stored.spec := by rw [filled.others]; rfl
      have init : reached.spec.initConfiguration = stored.spec.initConfiguration := by rw [filled.others]
      refine ⟨others.trans same, init.trans noInit, fun given known => ?_⟩
      obtain ⟨earlier, storedJoin, kept⟩ := join given known
      obtain ⟨later, reachedJoin, keptAgain⟩ := filled.join earlier storedJoin
      exact ⟨later, reachedJoin, kept.trans keptAgain⟩

theorem Agrees.created (fixed : configSpec ocnecp.spec.controlPlaneConfig = ocnecp.spec.controlPlaneConfig)
    (plane : ControlPlane) (same : plane.ocnecp = ocnecp) :
    Agrees ocnecp.spec.controlPlaneConfig (configSpec (role.spec plane)) role := by
  refine Agrees.roundTrip fixed role ?_
  subst same
  cases role with
  | first => exact ⟨rfl, rfl, rfl, fun _ absent => absent⟩
  | later => exact ⟨rfl, rfl, fun join known => ⟨join, known, .refl join⟩⟩

/-- At any time a machine's configuration agrees with the control plane's. -/
theorem Bootstrapped.agrees {plane : ControlPlane} (settled : InitSettled settings plane.ocnecp)
    (fixed : configSpec plane.ocnecp.spec.controlPlaneConfig =
      plane.ocnecp.spec.controlPlaneConfig) (version : machine.version = some plane.ocnecp.spec.version)
    (labelled : (machine.labels.lookup machineControlPlaneLabelName).isSome = true)
    (bootstrapped : Bootstrapped settings role machine (role.spec plane) stored) :
    Agrees plane.ocnecp.spec.controlPlaneConfig stored.spec role := by
  induction bootstrapped with
  | created => exact Agrees.created fixed plane rfl
  | @passed stored answers _ expected ih =>
    unfold runPass
    cases scope : answers.scope with
    | none => exact ih
    | some pair =>
      obtain ⟨owner, view⟩ := pair
      obtain ⟨kind, labels, ownerVersion, _⟩ := expected owner view scope
      have controlPlaneMachine : owner.isControlPlaneMachine = true := by
        simp [ConfigOwner.isControlPlaneMachine, kind, labels, labelled]
      have known : owner.kubernetesVersion = plane.ocnecp.spec.version := by
        simp [ConfigOwner.kubernetesVersion, ownerVersion, version]
      have reached := ih.passed settled known expected scope
        (reconcile_passed settings answers owner view stored controlPlaneMachine)
      dsimp only
      split
      next => exact reached.roundTrip fixed role
      next => exact ih

end Runs

/-- Generated objects match if the parts do that depend on the way to bootstrap. -/
theorem matchesMachineSpec_generated {clone : CreateFromTemplateInput → InfraObject → InfraObject}
    (clones : Clones clone) {codec : Codec} (cluster : Cluster) {ocnecp : OCNEControlPlane} {text : String}
    (unmarshals : codec.unmarshal text = .ok ocnecp.spec.controlPlaneConfig.clusterConfiguration)
    (avoids : AvoidsOwnKeys ocnecp.spec.machineTemplate) (template : InfraObject) (configName machineName : String)
    (spec : OCNEConfigSpec) (infraRef bootstrapRef : ObjectReference) (failureDomain : Option String) :
    (matchesMachineSpec codec (some (clone (newInfraInput cluster ocnecp) template))
      (some (newOCNEConfig cluster ocnecp configName spec)) ocnecp
      (newMachine cluster ocnecp machineName infraRef bootstrapRef failureDomain text)).1 =
    (matchInitOrJoinConfiguration (newOCNEConfig cluster ocnecp configName spec) ocnecp).1 := by
  have labels := labels_match cluster ocnecp avoids
  have annotations := isSubsetMapOf_insert _ text avoids.clusterConfiguration
    (isSubsetMapOf_self ocnecp.spec.machineTemplate.annotations)
  have configuration : matchClusterConfiguration codec ocnecp
      (newMachine cluster ocnecp machineName infraRef bootstrapRef failureDomain text) = true := by
    simp [matchClusterConfiguration, newMachine, unmarshals]
  have machine : matchMachineTemplateMetadata ocnecp
      (newMachine cluster ocnecp machineName infraRef bootstrapRef failureDomain text).annotations
      (newMachine cluster ocnecp machineName infraRef bootstrapRef failureDomain text).labels = true := by
    simp [matchMachineTemplateMetadata, newMachine, labels, annotations]
  have config : matchMachineTemplateMetadata ocnecp (newOCNEConfig cluster ocnecp configName spec).annotations
      (newOCNEConfig cluster ocnecp configName spec).labels = true := by
    simp [matchMachineTemplateMetadata, newOCNEConfig, labels, isSubsetMapOf_self]
  have version : matchesKubernetesVersion ocnecp.spec.version
      (newMachine cluster ocnecp machineName infraRef bootstrapRef failureDomain text) = true := by
    simp [matchesKubernetesVersion, newMachine]
  have ref : (newMachine cluster ocnecp machineName infraRef bootstrapRef failureDomain text).configRef =
      some bootstrapRef := rfl
  simp [matchesMachineSpec, matchesOCNEBootstrapConfig, machine, version, configuration, ref, config,
    clone_matches clones cluster ocnecp avoids template]

theorem controlPlaneLabel_set (ocnecp : OCNEControlPlane) (clusterName : String) :
    ((controlPlaneMachineLabelsForCluster ocnecp clusterName).lookup machineControlPlaneLabelName).isSome = true := by
  rw [controlPlaneMachineLabelsForCluster, lookup_insert_of_ne _ (by decide), lookup_insert]
  rfl

theorem init_of_matches {ocnecp : OCNEControlPlane} {config : OCNEConfig} {filled : InitConfiguration}
    (known : config.spec.initConfiguration = some filled)
    (matched : (matchInitOrJoinConfiguration config ocnecp).1 = true) :
    ocnecp.spec.controlPlaneConfig.initConfiguration ≠ none := by
  intro absent
  have same : (matchInitOrJoinConfiguration config ocnecp).2.spec.initConfiguration =
      (getAdjustedKcpConfig ocnecp config.spec).initConfiguration := by
    simp only [matchInitOrJoinConfiguration, beq_iff_eq] at matched ⊢
    rw [matched, cleanupConfigFields, defaultOCNEConfigSpec_eq]
  simp [matchInitOrJoinConfiguration, cleanupConfigFields, defaultOCNEConfigSpec_eq, getAdjustedKcpConfig,
    cleanupInitConfiguration, known, absent] at same

theorem Agrees.matches {role : Role} {ocnecp : OCNEControlPlane} {config : OCNEConfig}
    (agrees : Agrees ocnecp.spec.controlPlaneConfig config.spec role) :
    (matchInitOrJoinConfiguration config ocnecp).1 = true := by
  cases role with
  | first =>
    obtain ⟨same, noJoin, sameInit, _⟩ := agrees
    rw [matchInitOrJoinConfiguration_iff same]
    refine ⟨fun filled known => ⟨filled, ?_, rfl⟩, fun filled known => ?_⟩
    · rw [← sameInit, known]
    · simp [noJoin] at known
  | later =>
    obtain ⟨same, noInit, join⟩ := agrees
    rw [matchInitOrJoinConfiguration_iff same]
    refine ⟨fun filled known => by simp [noInit] at known, fun filled known given wanted => ?_⟩
    obtain ⟨stored, found, kept⟩ := join given wanted
    cases known.symm.trans found
    exact cleanupJoinConfiguration_of_kept kept

/-- A pass that gets the init lock, with the state of the cluster and whether the configuration can be marshalled. -/
def answering (machine : Machine) (cluster : Cluster) (initialized : Bool) (marshal : Except Err Unit) : Answers :=
  { smoothAnswers with
    scope := some (⟨"Machine", machine.labels, machine.version, none, false⟩,
      ⟨{ cluster with infrastructureReady := true }, none, initialized⟩)
    marshal := marshal }

theorem exists_filled_init (settings : Settings) (cluster : Cluster) (plane : ControlPlane) (machine : Machine)
    (version : machine.version = some plane.ocnecp.spec.version)
    (labelled : (machine.labels.lookup machineControlPlaneLabelName).isSome = true)
    (unsettled : ¬ InitSettled settings plane.ocnecp) :
    ∃ stored filled, Bootstrapped settings .first machine (Role.first.spec plane) stored ∧
      stored.spec.initConfiguration = some filled := by
  simp only [InitSettled, not_or, not_not, not_forall] at unsettled
  obtain ⟨_, given, parsed, known⟩ := unsettled
  let answers := answering machine cluster false (.error (errorf "unexpected end of JSON input"))
  let created : Config := ⟨configSpec (Role.first.spec plane), false, none⟩
  have start : Bootstrapped settings .first machine (Role.first.spec plane) created := .created
  have expected : Expected .first machine created answers := by
    intro owner view scope
    cases scope
    exact ⟨rfl, rfl, rfl, fun _ => rfl⟩
  let owner : ConfigOwner := ⟨"Machine", machine.labels, machine.version, none, false⟩
  let view : ClusterView := ⟨{ cluster with infrastructureReady := true }, none, false⟩
  have fills := reconcile_fills_init settings answers owner view created
    (by simp [owner, ConfigOwner.isControlPlaneMachine, labelled]) rfl rfl rfl rfl rfl rfl
    (by simpa [owner, ConfigOwner.kubernetesVersion, version] using known) rfl rfl (by
      simpa [created, configSpec, Role.spec, ControlPlane.initialControlPlaneConfig] using given)
  refine ⟨_, initConfiguration (created.spec.initConfiguration.getD emptyInitConfiguration),
    start.passed _ expected, ?_⟩
  change (configSpec (Effects.Stateful.outcome (reconcile settings answers owner view)
    created).2.spec).initConfiguration = _
  rw [fills]
  rfl

theorem clusterConfiguration_fixed {given : OCNEConfigSpec} (fixed : configSpec given = given) :
    given.clusterConfiguration.map clusterConfiguration = given.clusterConfiguration :=
  congrArg OCNEConfigSpec.clusterConfiguration fixed

/-- No machine is rolled out for what the controllers wrote, exactly if the control plane leaves nothing open for its
first machine. -/
theorem no_spurious_rollout_iff {clone : CreateFromTemplateInput → InfraObject → InfraObject} (clones : Clones clone)
    (settings : Settings) (codec : Codec) (cluster : Cluster) (plane : ControlPlane) (text : String)
    (marshals : codec.marshal plane.ocnecp.spec.controlPlaneConfig.clusterConfiguration = .ok text)
    (unmarshals : codec.unmarshal text =
      .ok (plane.ocnecp.spec.controlPlaneConfig.clusterConfiguration.map Api.Json.clusterConfiguration))
    (fixed : Api.Json.configSpec plane.ocnecp.spec.controlPlaneConfig =
      plane.ocnecp.spec.controlPlaneConfig)
    (avoids : AvoidsOwnKeys plane.ocnecp.spec.machineTemplate) :
    (∀ (role : Role) (machine : Machine) (config : OCNEConfig) (input : CreateFromTemplateInput),
      Generates cluster plane.ocnecp codec (role.spec plane) (.createMachine machine) →
      Generates cluster plane.ocnecp codec (role.spec plane) (.createOCNEConfig config) →
      Generates cluster plane.ocnecp codec (role.spec plane) (.createFromTemplate input) →
      ∀ (stored : Config) (template : InfraObject), Bootstrapped settings role machine config.spec stored →
        (matchesMachineSpec codec (some (clone input template)) (some { config with spec := stored.spec })
          plane.ocnecp machine).1 = true) ↔
      InitSettled settings plane.ocnecp := by
  rw [clusterConfiguration_fixed fixed] at unmarshals
  have labelled := controlPlaneLabel_set plane.ocnecp cluster.name
  constructor
  · intro all
    by_contra unsettled
    let machine := newMachine cluster plane.ocnecp "" default default none text
    obtain ⟨stored, filled, bootstrapped, init⟩ :=
      exists_filled_init settings cluster plane machine rfl labelled unsettled
    have matched := all .first machine (newOCNEConfig cluster plane.ocnecp "" (Role.first.spec plane))
      (newInfraInput cluster plane.ocnecp) ⟨_, _, _, _, text, marshals, rfl⟩ ⟨_, rfl⟩ rfl stored ⟨∅, ∅⟩ bootstrapped
    have compared := (matchesMachineSpec_generated clones cluster unmarshals avoids ⟨∅, ∅⟩ ""
      "" stored.spec default default none).symm.trans matched
    exact unsettled (.inl (init_of_matches init compared))
  · rintro settled role machine config input ⟨machineName, infraRef, bootstrapRef, failureDomain, _, marshalled, rfl⟩
      ⟨configName, rfl⟩ rfl stored template bootstrapped
    cases marshals.symm.trans marshalled
    have agrees := bootstrapped.agrees settled fixed rfl labelled
    refine (matchesMachineSpec_generated clones cluster unmarshals avoids template configName
      machineName stored.spec infraRef bootstrapRef failureDomain).trans ?_
    exact Agrees.matches agrees

private def plain (configuration : Option ClusterConfiguration) : ControlPlane where
  ocnecp := { (default : OCNEControlPlane) with
    spec := { (default : OCNEControlPlaneSpec) with
      controlPlaneConfig := { (default : OCNEConfigSpec) with clusterConfiguration := configuration } } }
  cluster := default
  machines := default
  reconciliationTime := 0
  ocneConfigs _ := none
  infraResources _ := none

private def only (configuration : Option ClusterConfiguration) : Codec where
  marshal _ := .ok "configuration"
  unmarshal _ := .ok configuration

private def parsing : Settings := ⟨fun _ => .ok ⟨1, 25, 7⟩, 0⟩

private def generated (configuration : Option ClusterConfiguration) : Machine :=
  newMachine default (plain configuration).ocnecp "m" default default none "configuration"

private theorem avoids_none : AvoidsOwnKeys (default : MachineTemplate) where
  clusterConfiguration := notMem_empty
  clonedFromName := notMem_empty
  clonedFromGroupKind := notMem_empty
  cluster := notMem_empty
  controlPlane := notMem_empty
  controlPlaneName := notMem_empty

private def afterPass (role : Role) (initialized : Bool) (configuration : Option ClusterConfiguration) : OCNEConfig :=
  { newOCNEConfig default (plain configuration).ocnecp "c" (role.spec (plain configuration)) with
    spec := (runPass parsing (answering (generated configuration) default initialized (.ok ()))
      ⟨Api.Json.configSpec (role.spec (plain configuration)), false, none⟩).spec }

private def cloning (input : CreateFromTemplateInput) (template : InfraObject) : InfraObject where
  labels := (input.labels ∪ template.labels).insert clusterLabelName input.clusterName
  annotations := ((input.annotations ∪ template.annotations).insert templateClonedFromNameAnnotation
    input.templateRef.name).insert templateClonedFromGroupKindAnnotation (groupKind input.templateRef)

private theorem cloning_clones : Clones cloning where
  labels _ _ _ mem other := by rw [cloning, lookup_insert_of_ne _ other, lookup_union_left mem]
  annotations _ _ _ mem other others := by
    rw [cloning, lookup_insert_of_ne _ others, lookup_insert_of_ne _ other, lookup_union_left mem]
  name _ _ := by rw [cloning, lookup_insert_of_ne _ (by decide), lookup_insert]
  kind _ _ := by rw [cloning, lookup_insert]

private def infra (configuration : Option ClusterConfiguration) : InfraObject :=
  cloning (newInfraInput default (plain configuration).ocnecp) ⟨∅, ∅⟩

/-- A machine that joined with a filled configuration still matches. -/
theorem joined_not_rolled_out : (afterPass .later true none).spec.joinConfiguration.isSome = true ∧
    (matchesMachineSpec (only none) (some (infra none)) (some (afterPass .later true none)) (plain none).ocnecp
      (generated none)).1 = true := by
  refine ⟨by decide, ?_⟩
  have settled : InitSettled parsing (plain none).ocnecp := .inr (.inl rfl)
  refine (no_spurious_rollout_iff cloning_clones parsing (only none) default (plain none) "configuration" rfl rfl rfl
    avoids_none).mpr settled .later (generated none) (newOCNEConfig default (plain none).ocnecp "c" _)
    (newInfraInput default (plain none).ocnecp) ⟨"m", default, default, none, "configuration", rfl, rfl⟩ ⟨"c", rfl⟩ rfl
    _ ⟨∅, ∅⟩ (.passed _ .created ?_)
  intro owner view scope
  cases scope
  exact ⟨rfl, rfl, rfl, fun _ => .inl rfl⟩

/-- With a cluster but no init configuration the first machine is rolled out once bootstrapped. -/
theorem first_machine_rolled_out :
    Api.Json.configSpec (plain (some emptyClusterConfiguration)).ocnecp.spec.controlPlaneConfig =
      (plain (some emptyClusterConfiguration)).ocnecp.spec.controlPlaneConfig ∧
    AvoidsOwnKeys (plain (some emptyClusterConfiguration)).ocnecp.spec.machineTemplate ∧
    (matchesMachineSpec (only (some emptyClusterConfiguration)) (some (infra (some emptyClusterConfiguration)))
      (some (afterPass .first false (some emptyClusterConfiguration)))
      (plain (some emptyClusterConfiguration)).ocnecp (generated (some emptyClusterConfiguration))).1 = false :=
  ⟨rfl, avoids_none, by decide⟩

end OcneProvider.Controller.Rollout
