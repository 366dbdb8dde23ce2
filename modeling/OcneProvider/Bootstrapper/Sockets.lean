import OcneProvider.Controller.Rollout
import OcneProvider.Webhooks.AllowList

/-! The container runtime socket of the nodes of a control plane, from the object a user writes to the configuration
that is rendered. -/

namespace OcneProvider.Bootstrapper.Sockets
open Api.Meta Api.Bootstrap Api.Objects Controller.Calls Controller.Plane Controller.Rollout Effects.Stateful
open Webhooks.Validation Webhooks.Update Webhooks.AllowList Reconciler Filling Api.Json
open Effects.Fallible (mapError_ok)

variable {ocnecp : OCNEControlPlane} {config : Config}

def setOCNEControlPlaneInitConfigurationDefaults (init : InitConfiguration) : InitConfiguration :=
  if init.nodeRegistration.criSocket = "" then
    { init with nodeRegistration := { init.nodeRegistration with criSocket := defaultOCNESocket } }
  else init

def setOCNEJoinConfigurationDefaults (join : JoinConfiguration) : JoinConfiguration :=
  if join.nodeRegistration.criSocket = "" then
    { join with nodeRegistration := { join.nodeRegistration with criSocket := defaultOCNESocket } }
  else join

theorem criSocket_initDefaults (init : InitConfiguration) :
    (setOCNEControlPlaneInitConfigurationDefaults init).nodeRegistration.criSocket =
      orElse init.nodeRegistration.criSocket defaultOCNESocket := by
  simp only [setOCNEControlPlaneInitConfigurationDefaults, orElse]
  split <;> rfl

theorem criSocket_joinDefaults (join : JoinConfiguration) :
    (setOCNEJoinConfigurationDefaults join).nodeRegistration.criSocket =
      orElse join.nodeRegistration.criSocket defaultOCNESocket := by
  simp only [setOCNEJoinConfigurationDefaults, orElse]
  split <;> rfl

/-- A pass ends before rendering, or renders an init or a join configuration. -/
inductive Step where
  | ended (result : Result)
  | first (init : InitConfiguration)
  | later (join : JoinConfiguration)
  deriving DecidableEq

def Step.criSocket : Step → Option String
  | ended _ => none
  | first init => some init.nodeRegistration.criSocket
  | later join => some join.nodeRegistration.criSocket

section Paths

variable (settings : Settings) (answers : Answers) (owner : ConfigOwner) (view : ClusterView)

def firstInit : Pass Step := do
  let _ ← parseVersion settings owner
  modifySpec fillInitConfiguration
  match (← get).spec.initConfiguration with
  | some init => return .first (setOCNEControlPlaneInitConfigurationDefaults init)
  | none => throw nilPointerDereference

def afterFirst : Pass Result := do
  fallible answers.marshal
  modifySpec (fillClusterConfiguration view owner.version)
  let _ ← fallible answers.metadata
  fallible answers.marshalCluster
  fallible answers.lookupCertificates
  renderAndStore answers

def untilFirst : Pass Step := do
  let config ← get
  if config.spec.initConfiguration.isNone && config.spec.clusterConfiguration.isNone then
    return .ended (requeueAfter (30 * second))
  else
    ExceptT.adapt (Err.wrap ("cannot convert " ++ owner.kind ++ " to Machine")) (fallible answers.convertMachine)
    if !answers.lock then return .ended (requeueAfter (30 * second))
    else ExceptT.adapt (unlockAfter answers) (firstInit settings owner)

def untilLater : Pass Step := do
  modifySpec fillJoinConfiguration
  modifyJoin fun join => { join with controlPlane := some (join.controlPlane.getD ⟨⟨"", 0⟩⟩) }
  let result ← prepareJoin answers view
  if !result.isZero then return .ended result
  else
    let _ ← parseVersion settings owner
    return .later (setOCNEJoinConfigurationDefaults (← getJoin))

/-- A pass over the configuration of a control plane machine, up to what it renders. -/
def untilRendered : Pass Step := do
  fallible answers.bootstrapSecretOwners
  let config ← get
  if !view.cluster.infrastructureReady then return .ended .empty
  else if owner.dataSecretName.isSome && (!config.ready || config.dataSecretName.isNone) then
    setReady (owner.dataSecretName.getD "")
    return .ended .empty
  else if config.ready then return .ended (← keepFresh settings answers owner view)
  else if !view.initialized then untilFirst settings answers owner
  else untilLater settings answers owner view

def rest : Step → Pass Result
  | .ended result => return result
  | .first _ => ExceptT.adapt (unlockAfter answers) (afterFirst answers owner view)
  | .later _ => do
    fallible answers.marshal
    renderAndStore answers

variable (config : Config)

theorem outcome_parseVersion : outcome (parseVersion settings owner) config =
    ((settings.parseTolerant owner.kubernetesVersion).mapError
      (Err.wrap ("failed to parse kubernetes version " ++ quoted owner.kubernetesVersion)), config) :=
  rfl

def filledInit (config : Config) : Config :=
  { config with spec := fillInitConfiguration config.spec }

theorem outcome_modifySpec_fillInit :
    outcome (modifySpec fillInitConfiguration) config = (.ok (), filledInit config) :=
  rfl

theorem outcome_firstInit : outcome (firstInit settings owner) config =
    match outcome (parseVersion settings owner) config with
    | (.ok _, _) => (.ok (.first (setOCNEControlPlaneInitConfigurationDefaults
        (config.spec.initConfiguration.getD emptyInitConfiguration))), filledInit config)
    | (.error error, _) => (.error error, config) := by
  rw [firstInit, outcome_bind, outcome_parseVersion]
  cases settings.parseTolerant owner.kubernetesVersion <;> rfl

theorem outcome_bootstrapFirst : outcome (bootstrapFirst settings answers owner view) config =
    match outcome (parseVersion settings owner) config with
    | (.ok _, _) => outcome (afterFirst answers owner view) (filledInit config)
    | (.error error, _) => (.error error, config) := by
  rw [bootstrapFirst, outcome_bind, outcome_parseVersion]
  cases settings.parseTolerant owner.kubernetesVersion with
  | error error => rfl
  | ok version =>
    simp only [mapError_ok, outcome_bind, outcome_modifySpec_fillInit]
    simp only [afterFirst, outcome_bind]

theorem untilFirst_rest (machine : owner.isControlPlaneMachine = true) :
    outcome (untilFirst settings answers owner >>= rest answers owner view) config =
      outcome (handleClusterNotInitialized settings answers owner view) config := by
  simp only [untilFirst, handleClusterNotInitialized, outcome_bind, outcome_get, machine, Bool.not_true,
    Bool.false_eq_true, if_false]
  by_cases absent : (config.spec.initConfiguration.isNone && config.spec.clusterConfiguration.isNone) = true
  · rw [if_pos absent, if_pos absent]
    rfl
  · rw [if_neg absent, if_neg absent]
    simp only [outcome_bind, outcome_adapt, fallible, outcome_except]
    cases answers.convertMachine with
    | error error => rfl
    | ok converted =>
      cases answers.lock with
      | false => rfl
      | true =>
        simp only [Bool.not_true, Bool.false_eq_true, if_false, outcome_adapt, outcome_firstInit,
          outcome_bootstrapFirst, outcome_parseVersion]
        cases settings.parseTolerant owner.kubernetesVersion <;> rfl

def filledJoin (config : Config) : Config :=
  { config with spec := { fillJoinConfiguration config.spec with
    joinConfiguration := (fillJoinConfiguration config.spec).joinConfiguration.map fun join =>
      { join with controlPlane := some (join.controlPlane.getD ⟨⟨"", 0⟩⟩) } } }

theorem prepareJoin_join :
    ∃ join, (outcome (prepareJoin answers view) (filledJoin config)).2.spec.joinConfiguration = some join := by
  have filled : JoinFilled (filledJoin config) (outcome (prepareJoin answers view) (filledJoin config)).2 :=
    prepareJoin_moves modifyDiscovery_moves answers view _
  obtain ⟨join, mem, -⟩ := filled.join _ rfl
  exact ⟨join, mem⟩

theorem outcome_untilLater : outcome (untilLater settings answers owner view) config =
    outcome (do
      let result ← prepareJoin answers view
      if !result.isZero then return .ended result
      else
        let _ ← parseVersion settings owner
        return .later (setOCNEJoinConfigurationDefaults (← getJoin))) (filledJoin config) :=
  rfl

theorem outcome_joinControlplane (machine : owner.isControlPlaneMachine = true) :
    outcome (do modifySpec fillJoinConfiguration; joinControlplane settings answers owner view) config =
      outcome (do
        let result ← prepareJoin answers view
        if !result.isZero then return result
        else
          let _ ← parseVersion settings owner
          fallible answers.marshal
          renderAndStore answers) (filledJoin config) := by
  simp only [joinControlplane, machine, Bool.not_true, Bool.false_eq_true, if_false]
  rfl

theorem untilLater_rest (machine : owner.isControlPlaneMachine = true) :
    outcome (untilLater settings answers owner view >>= rest answers owner view) config =
      outcome (do modifySpec fillJoinConfiguration; joinControlplane settings answers owner view) config := by
  obtain ⟨join, mem⟩ := prepareJoin_join answers view config
  rw [outcome_bind, outcome_untilLater, outcome_joinControlplane settings answers owner view config machine, outcome_bind,
    outcome_bind]
  generalize outcome (prepareJoin answers view) (filledJoin config) = prepared at mem
  obtain ⟨answer, reached⟩ := prepared
  cases answer with
  | error error => rfl
  | ok result =>
    cases zero : result.isZero with
    | false => simp [zero, rest]
    | true =>
      have found : outcome getJoin reached = (.ok join, reached) := by
        simp only at mem
        simp [getJoin, mem]
      simp only [zero, Bool.not_true, Bool.false_eq_true, if_false, outcome_bind, outcome_parseVersion]
      cases settings.parseTolerant owner.kubernetesVersion with
      | error error => rfl
      | ok version => simp only [mapError_ok, found, outcome_bind, outcome_pure, rest]

/-- The pass is what comes before the rendering and what comes after it. -/
theorem reconcile_eq (machine : owner.isControlPlaneMachine = true) :
    outcome (reconcile settings answers owner view) config =
      outcome (untilRendered settings answers owner view >>= rest answers owner view) config := by
  have first := untilFirst_rest settings answers owner view config machine
  have later := untilLater_rest settings answers owner view config machine
  rw [outcome_bind] at first later
  simp only [reconcile, untilRendered, outcome_bind, fallible, outcome_except]
  cases answers.bootstrapSecretOwners with
  | error error => rfl
  | ok owners =>
    simp only [outcome_get]
    by_cases waiting : (!view.cluster.infrastructureReady) = true
    · rw [if_pos waiting, if_pos waiting]
      rfl
    rw [if_neg waiting, if_neg waiting]
    by_cases stored : (owner.dataSecretName.isSome && (!config.ready || config.dataSecretName.isNone)) = true
    · rw [if_pos stored, if_pos stored]
      rfl
    rw [if_neg stored, if_neg stored]
    by_cases ready : config.ready = true
    · rw [if_pos ready, if_pos ready, outcome_bind]
      generalize outcome (keepFresh settings answers owner view) config = fresh
      obtain ⟨_ | _, _⟩ := fresh
      · rfl
      · rfl
    rw [if_neg ready, if_neg ready]
    by_cases uninitialized : (!view.initialized) = true
    · rw [if_pos uninitialized, if_pos uninitialized]
      exact first.symm
    · rw [if_neg uninitialized, if_neg uninitialized, if_pos machine]
      exact later.symm

end Paths

section Kept

def initSocket (spec : OCNEConfigSpec) : String :=
  spec.initConfiguration.elim "" (·.nodeRegistration.criSocket)

def joinSocket (spec : OCNEConfigSpec) : String :=
  spec.joinConfiguration.elim "" (·.nodeRegistration.criSocket)

structure SocketsKept (before after : Config) : Prop where
  init : initSocket after.spec = initSocket before.spec
  join : joinSocket after.spec = joinSocket before.spec

instance : IsPreorder Config SocketsKept where
  refl _ := ⟨rfl, rfl⟩
  trans _ _ _ earlier later := ⟨later.init.trans earlier.init, later.join.trans earlier.join⟩

theorem socketsKept_of_specKept (before after : Config) (same : SpecKept before after) : SocketsKept before after :=
  ⟨congrArg initSocket same, congrArg joinSocket same⟩

theorem modifyJoin_socketsKept {change : JoinConfiguration → JoinConfiguration}
    (kept : ∀ join, (change join).nodeRegistration = join.nodeRegistration) : Moves SocketsKept (modifyJoin change) := by
  refine Moves.modify _ fun config => ⟨rfl, ?_⟩
  cases given : config.spec.joinConfiguration with
  | none => simp [joinSocket, given]
  | some join => simp [joinSocket, given, kept]

theorem modifyDiscovery_socketsKept (change : Discovery → Discovery) : Moves SocketsKept (modifyDiscovery change) :=
  modifyJoin_socketsKept fun _ => rfl

theorem fillControlPlane_socketsKept : Moves SocketsKept
    (modifyJoin fun join => { join with controlPlane := some (join.controlPlane.getD ⟨⟨"", 0⟩⟩) }) :=
  modifyJoin_socketsKept fun _ => rfl

theorem fillInit_socketsKept : Moves SocketsKept (modifySpec fillInitConfiguration) := by
  refine Moves.modify _ fun config => ⟨?_, rfl⟩
  cases given : config.spec.initConfiguration with
  | none => simp [initSocket, fillInitConfiguration, given, emptyInitConfiguration, emptyNodeRegistration]
  | some init => simp [initSocket, fillInitConfiguration, given]

theorem fillJoin_socketsKept : Moves SocketsKept (modifySpec fillJoinConfiguration) := by
  refine Moves.modify _ fun config => ⟨rfl, ?_⟩
  cases given : config.spec.joinConfiguration with
  | none => simp [joinSocket, fillJoinConfiguration, given, emptyJoinConfiguration, emptyNodeRegistration]
  | some join => simp [joinSocket, fillJoinConfiguration, given]

variable (settings : Settings) (answers : Answers) (owner : ConfigOwner) (view : ClusterView)

theorem firstInit_moves : Moves SocketsKept (firstInit settings owner) := by
  refine .bind parseVersion_moves fun _ => .bind fillInit_socketsKept fun _ => .bind .get fun config => ?_
  cases config.spec.initConfiguration with
  | none => exact .throw _
  | some init => exact .pure _

theorem untilFirst_moves : Moves SocketsKept (untilFirst settings answers owner) := by
  refine .bind .get fun config => .ite (fun _ => .pure _) fun _ => .bind (.adapt _ fallible_moves) fun _ => ?_
  exact .ite (fun _ => .pure _) fun _ => .adapt _ (firstInit_moves settings owner)

theorem untilLater_moves : Moves SocketsKept (untilLater settings answers owner view) := by
  refine .bind fillJoin_socketsKept fun _ => .bind fillControlPlane_socketsKept fun _ => ?_
  refine .bind (prepareJoin_moves modifyDiscovery_socketsKept answers view) fun _ => .ite (fun _ => .pure _) fun _ => ?_
  exact .bind parseVersion_moves fun _ => .bind getJoin_moves fun _ => .pure _

theorem untilRendered_moves (machine : owner.isControlPlaneMachine = true) :
    Moves SocketsKept (untilRendered settings answers owner view) := by
  have fresh : Moves SocketsKept (keepFresh settings answers owner view) := fun config =>
    socketsKept_of_specKept _ _ (keepFresh_moves settings answers owner view (isMachinePool_of_machine machine) config)
  have ready : ∀ name, Moves SocketsKept (setReady name) := setReady_moves socketsKept_of_specKept
  refine .bind fallible_moves fun _ => .bind .get fun config => .ite (fun _ => .pure _) fun _ => ?_
  refine .ite (fun _ => .bind (ready _) fun _ => .pure _) fun _ => .ite (fun _ => .bind fresh fun _ => .pure _) fun _ => ?_
  exact .ite (fun _ => untilFirst_moves settings answers owner) fun _ => untilLater_moves settings answers owner view

theorem rest_moves (step : Step) : Moves SocketsKept (rest answers owner view step) := by
  have stored : Moves SocketsKept (renderAndStore answers) := renderAndStore_moves socketsKept_of_specKept answers
  cases step with
  | ended result => exact .pure _
  | first init =>
    have fillCluster : Moves SocketsKept (modifySpec (fillClusterConfiguration view owner.version)) :=
      Moves.modify _ fun _ => ⟨rfl, rfl⟩
    refine .adapt _ (.bind fallible_moves fun _ => .bind fillCluster fun _ => .bind fallible_moves fun _ => ?_)
    exact .bind fallible_moves fun _ => .bind fallible_moves fun _ => stored
  | later join => exact .bind fallible_moves fun _ => stored

theorem reconcile_moves (machine : owner.isControlPlaneMachine = true) :
    Moves SocketsKept (reconcile settings answers owner view) := by
  intro config
  rw [reconcile_eq settings answers owner view config machine]
  exact Moves.bind (untilRendered_moves settings answers owner view machine) (rest_moves answers owner view) config

end Kept

section Rendered

def Step.Uses (spec : OCNEConfigSpec) : Step → Prop
  | ended _ => True
  | first init => init.nodeRegistration.criSocket = orElse (initSocket spec) defaultOCNESocket
  | later join => join.nodeRegistration.criSocket = orElse (joinSocket spec) defaultOCNESocket

variable (settings : Settings) (answers : Answers) (owner : ConfigOwner) (view : ClusterView) {start : Config}

theorem ensures_firstInit :
    Ensures (SocketsKept start) (firstInit settings owner) fun step _ => step.Uses start.spec := by
  intro config kept step reached done
  rw [outcome_firstInit, outcome_parseVersion] at done
  cases parsed : settings.parseTolerant owner.kubernetesVersion with
  | error error =>
    rw [parsed] at done
    cases done
  | ok version =>
    rw [parsed] at done
    cases done
    have given : (config.spec.initConfiguration.getD emptyInitConfiguration).nodeRegistration.criSocket =
        initSocket config.spec := by
      rw [initSocket]
      cases config.spec.initConfiguration <;> rfl
    rw [Step.Uses, criSocket_initDefaults, given, kept.init]

theorem ensures_getJoin :
    Ensures (SocketsKept start) getJoin fun join _ => join.nodeRegistration.criSocket = joinSocket start.spec := by
  intro config kept join reached done
  cases given : config.spec.joinConfiguration with
  | none => simp [getJoin, given, throw, throwThe, MonadExceptOf.throw] at done
  | some found =>
    have same : found = join := by
      simp [getJoin, given] at done
      exact done.1
    rw [← kept.join, ← same, joinSocket, given]
    rfl

theorem ensures_untilLater :
    Ensures (SocketsKept start) (untilLater settings answers owner view) fun step _ => step.Uses start.spec := by
  refine .bind fillJoin_socketsKept.ensures fun _ => .bind fillControlPlane_socketsKept.ensures fun _ => ?_
  refine .bind (prepareJoin_moves modifyDiscovery_socketsKept answers view).ensures fun _ => ?_
  refine .ite (fun _ => .pure fun _ _ => trivial) fun _ => .bind parseVersion_moves.ensures fun _ => ?_
  refine .bind ensures_getJoin fun join => .pure fun _ given => ?_
  rw [Step.Uses, criSocket_joinDefaults, given]

theorem ensures_untilRendered {step : Step} {reached : Config}
    (done : outcome (untilRendered settings answers owner view) config = (.ok step, reached)) :
    step.Uses config.spec := by
  suffices ensures : Ensures (SocketsKept config) (untilRendered settings answers owner view)
      fun step _ => step.Uses config.spec from ensures config (refl_of SocketsKept config) step reached done
  have ended : ∀ {result : Result} {pre : Config → Prop},
      Ensures pre (Pure.pure (.ended result) : Pass Step) fun step _ => step.Uses config.spec :=
    .pure fun _ _ => trivial
  refine .bind fallible_moves.ensures fun _ => .bind Moves.get.ensures fun current => .ite (fun _ => ended) fun _ => ?_
  refine .ite (fun _ => ?_) fun _ => .ite (fun _ => ?_) fun _ => .ite (fun _ => ?_) fun _ => ?_
  · exact .bind (setReady_moves socketsKept_of_specKept _).ensures fun _ => ended
  · exact .bind (fun _ _ _ _ _ => trivial : Ensures _ _ fun _ _ => True) fun _ => ended
  · refine .bind Moves.get.ensures fun _ => .ite (fun _ => ended) fun _ => ?_
    refine .bind (Moves.adapt _ fallible_moves).ensures fun _ => .ite (fun _ => ended) fun _ => ?_
    exact .adapt (ensures_firstInit settings owner)
  · exact ensures_untilLater settings answers owner view

end Rendered

section Runs

/-- From its creation on, whatever the passes over it find. -/
inductive Stored (spec : OCNEConfigSpec) : Config → Prop where
  | created : Stored spec ⟨Api.Json.configSpec spec, false, none⟩
  | passed {stored : Config} (settings : Settings) (answers : Answers) (earlier : Stored spec stored)
    (machine : ∀ owner view, answers.scope = some (owner, view) → owner.isControlPlaneMachine = true) :
    Stored spec (runPass settings answers stored)

variable (spec : OCNEConfigSpec)

theorem initSocket_configSpec : initSocket (configSpec spec) = initSocket spec := by
  rw [initSocket, initSocket, configSpec]
  cases spec.initConfiguration <;> rfl

theorem joinSocket_configSpec : joinSocket (configSpec spec) = joinSocket spec := by
  rw [joinSocket, joinSocket, configSpec]
  cases spec.joinConfiguration <;> rfl

theorem runPass_socketsKept (settings : Settings) {answers : Answers} (stored : Config)
    (machine : ∀ owner view, answers.scope = some (owner, view) → owner.isControlPlaneMachine = true) :
    SocketsKept stored (runPass settings answers stored) := by
  unfold runPass
  cases scope : answers.scope with
  | none => exact refl_of SocketsKept stored
  | some found =>
    have kept := reconcile_moves settings answers found.1 found.2 (machine found.1 found.2 scope) stored
    cases answers.patchSpec with
    | false => exact ⟨rfl, rfl⟩
    | true => exact ⟨(initSocket_configSpec _).trans kept.init, (joinSocket_configSpec _).trans kept.join⟩

theorem Stored.sockets {spec : OCNEConfigSpec} {stored : Config} (reached : Stored spec stored) :
    initSocket stored.spec = initSocket spec ∧ joinSocket stored.spec = joinSocket spec := by
  induction reached with
  | created => exact ⟨initSocket_configSpec spec, joinSocket_configSpec spec⟩
  | @passed earlier settings answers _ machine ih =>
    have kept := runPass_socketsKept settings earlier machine
    exact ⟨kept.init.trans ih.1, kept.join.trans ih.2⟩

/-- Every configuration rendered for a control plane machine has the OCNE socket. -/
def AlwaysOnSocket (ocnecp : OCNEControlPlane) : Prop :=
  ∀ (controlPlane : ControlPlane) (role : Role) (stored : Config), controlPlane.ocnecp = ocnecp →
    Stored (role.spec controlPlane) stored → ∀ settings answers owner view, owner.isControlPlaneMachine = true →
      ∀ step reached, outcome (untilRendered settings answers owner view) stored = (.ok step, reached) →
        ∀ socket ∈ step.criSocket, socket = defaultOCNESocket

def Supported (config : OCNEConfigSpec) : Prop :=
  (initSocket config = "" ∨ initSocket config = defaultOCNESocket) ∧
    (joinSocket config = "" ∨ joinSocket config = defaultOCNESocket)

theorem orElse_eq_right {given default : String} : orElse given default = default ↔ given = "" ∨ given = default := by
  rw [orElse]
  split
  next absent => simp [absent]
  next mem => simp [mem]

theorem alwaysOnSocket_of_supported (supported : Supported ocnecp.spec.controlPlaneConfig) : AlwaysOnSocket ocnecp := by
  rintro plane role stored rfl kept settings answers owner view - step reached done socket rendered
  have uses := ensures_untilRendered settings answers owner view done
  obtain ⟨sameInit, sameJoin⟩ := kept.sockets
  have absent : orElse "" defaultOCNESocket = defaultOCNESocket := rfl
  cases step with
  | ended result => cases rendered
  | first init =>
    cases rendered
    rw [Step.Uses, sameInit] at uses
    rw [uses]
    cases role with
    | first => exact orElse_eq_right.mpr supported.1
    | later => exact absent
  | later join =>
    cases rendered
    rw [Step.Uses, sameJoin] at uses
    rw [uses]
    cases role with
    | first => exact absent
    | later => exact orElse_eq_right.mpr supported.2

def parsing : Settings := ⟨fun _ => .ok ⟨1, 25, 7⟩, 0⟩

def machineOwner : ConfigOwner := ⟨"Machine", Finmap.singleton Controller.Collections.machineControlPlaneLabelName "", none, none, false⟩

def readyView (initialized : Bool) : ClusterView :=
  ⟨{ (default : Cluster) with infrastructureReady := true, controlPlaneEndpoint := ("localhost", 6443) }, none, initialized⟩

theorem renders_first {init : InitConfiguration} (given : spec.initConfiguration = some init) :
    ∃ reached, outcome (untilRendered parsing smoothAnswers machineOwner (readyView false)) ⟨spec, false, none⟩ =
      (.ok (.first (setOCNEControlPlaneInitConfigurationDefaults init)), reached) := by
  have path : outcome (untilRendered parsing smoothAnswers machineOwner (readyView false)) ⟨spec, false, none⟩ =
      outcome (untilFirst parsing smoothAnswers machineOwner) ⟨spec, false, none⟩ := rfl
  have filled : outcome (firstInit parsing machineOwner) ⟨spec, false, none⟩ =
      (.ok (.first (setOCNEControlPlaneInitConfigurationDefaults init)), filledInit ⟨spec, false, none⟩) := by
    simp only [outcome_firstInit, outcome_parseVersion, given]
    rfl
  refine ⟨filledInit ⟨spec, false, none⟩, ?_⟩
  rw [path]
  simp [untilFirst, given, fallible, smoothAnswers, filled]

def HasToken (config : Config) : Prop :=
  ∃ join token, config.spec.joinConfiguration = some join ∧ join.discovery.bootstrapToken = some token

theorem HasToken.get (has : HasToken config) : ∃ token, outcome getBootstrapToken config = (.ok token, config) := by
  obtain ⟨join, token, given, found⟩ := has
  exact ⟨token, by simp [getBootstrapToken, getJoin, given, found]⟩

theorem HasToken.modify (has : HasToken config) (change : BootstrapTokenDiscovery → BootstrapTokenDiscovery) :
    ∃ reached, outcome (modifyBootstrapToken change) config = (.ok (), reached) ∧ HasToken reached := by
  obtain ⟨join, token, given, found⟩ := has
  exact ⟨_, rfl, { join with discovery := { join.discovery with bootstrapToken := some (change token) } }, change token,
    by simp [given, found], rfl⟩

theorem HasToken.ensureHashes (has : HasToken config) :
    ∃ reached, outcome (ensureHashes smoothAnswers) config = (.ok (), reached) ∧ HasToken reached := by
  obtain ⟨token, found⟩ := has.get
  by_cases pinned : isPinned token = true
  · exact ⟨config, by simp [Reconciler.ensureHashes, found, pinned], has⟩
  · obtain ⟨reached, changed, has⟩ := has.modify fun token => { token with caCertHashes := some ["sha256:00"] }
    exact ⟨reached, by simp [Reconciler.ensureHashes, found, pinned, fallible, smoothAnswers, changed], has⟩

theorem HasToken.ensureToken (has : HasToken config) :
    ∃ reached, outcome (ensureToken smoothAnswers) config = (.ok (), reached) ∧ HasToken reached := by
  obtain ⟨token, found⟩ := has.get
  by_cases unnamed : token.token = ""
  · obtain ⟨reached, changed, has⟩ := has.modify fun token => { token with token := "abcdef.0123456789abcdef" }
    exact ⟨reached, by
      simp [Reconciler.ensureToken, found, unnamed, fallible, smoothAnswers, changed], has⟩
  · exact ⟨config, by simp [Reconciler.ensureToken, found, unnamed], has⟩

theorem reconcileDiscovery_ends (config : Config) {join : JoinConfiguration}
    (given : config.spec.joinConfiguration = some join) :
    ∃ reached, outcome (reconcileDiscovery smoothAnswers (readyView true)) config = (.ok .empty, reached) := by
  have valid : (readyView true).cluster.endpointIsValid = true := by decide
  cases file : join.discovery.file with
  | some path => exact ⟨config, by simp [reconcileDiscovery, getJoin, given, file]⟩
  | none =>
    have asked : outcome getJoin config = (.ok join, config) := by simp [getJoin, given]
    obtain ⟨discovering, discovered, has⟩ : ∃ reached, outcome (modifyDiscovery fun discovery => { discovery with
        bootstrapToken := some (discovery.bootstrapToken.getD emptyBootstrapToken) }) config = (.ok (), reached) ∧
          HasToken reached := ⟨_, rfl, _, _, congrArg (Option.map _) given, rfl⟩
    obtain ⟨hashed, hashing, has⟩ := has.ensureHashes
    obtain ⟨token, found⟩ := has.get
    obtain ⟨located, locating, has⟩ := has.modify fun token => { token with
      apiServerEndpoint := orElse token.apiServerEndpoint (endpointString (readyView true).cluster.controlPlaneEndpoint) }
    obtain ⟨named, naming, has⟩ := has.ensureToken
    obtain ⟨reached, verifying, -⟩ := has.modify fun token => { token with
      unsafeSkipCAVerification := token.unsafeSkipCAVerification || !isPinned token }
    refine ⟨reached, ?_⟩
    simp only [reconcileDiscovery, outcome_bind, outcome_pure, asked, file, Option.isSome_none, Bool.false_eq_true, if_false,
      discovered, hashing, found, valid, Bool.not_true, Bool.and_false, locating, naming, verifying]

theorem renders_later :
    ∃ join reached, outcome (untilRendered parsing smoothAnswers machineOwner (readyView true)) ⟨spec, false, none⟩ =
      (.ok (.later join), reached) := by
  have path : outcome (untilRendered parsing smoothAnswers machineOwner (readyView true)) ⟨spec, false, none⟩ =
      outcome (untilLater parsing smoothAnswers machineOwner (readyView true)) ⟨spec, false, none⟩ := rfl
  obtain ⟨reached, discovered⟩ := reconcileDiscovery_ends (filledJoin ⟨spec, false, none⟩) rfl
  have prepared : outcome (prepareJoin smoothAnswers (readyView true)) (filledJoin ⟨spec, false, none⟩) =
      (.ok .empty, reached) := by
    exact discovered
  obtain ⟨join, mem⟩ := prepareJoin_join smoothAnswers (readyView true) ⟨spec, false, none⟩
  rw [prepared] at mem
  have found : outcome getJoin reached = (.ok join, reached) := by
    simp only at mem
    simp [getJoin, mem]
  refine ⟨setOCNEJoinConfigurationDefaults join, reached, ?_⟩
  rw [path, outcome_untilLater, outcome_bind, prepared]
  have settled : (!Result.empty.isZero) = false := rfl
  simp only [settled, Bool.false_eq_true, if_false, outcome_bind, outcome_pure, outcome_parseVersion, parsing,
    mapError_ok, found]

theorem supported_of_alwaysOnSocket (always : AlwaysOnSocket ocnecp) : Supported ocnecp.spec.controlPlaneConfig := by
  let plane : ControlPlane := ⟨ocnecp, default, default, 0, fun _ => none, fun _ => none⟩
  constructor
  · cases given : ocnecp.spec.controlPlaneConfig.initConfiguration with
    | none => exact .inl (by rw [initSocket, given]; rfl)
    | some init =>
      have mem : (configSpec (Role.first.spec plane)).initConfiguration =
          some (initConfiguration init) := congrArg (Option.map _) given
      obtain ⟨reached, done⟩ := renders_first _ mem
      have uses := ensures_untilRendered _ _ _ _ done
      rw [Step.Uses, initSocket_configSpec] at uses
      have socket := always plane .first _ rfl .created _ _ _ _ rfl _ _ done _ rfl
      exact orElse_eq_right.mp (uses.symm.trans socket)
  · obtain ⟨join, reached, done⟩ := renders_later (configSpec (Role.later.spec plane))
    have uses := ensures_untilRendered _ _ _ _ done
    rw [Step.Uses, joinSocket_configSpec] at uses
    have socket := always plane .later _ rfl .created _ _ _ _ rfl _ _ done _ rfl
    exact orElse_eq_right.mp (uses.symm.trans socket)

theorem alwaysOnSocket_iff : AlwaysOnSocket ocnecp ↔ Supported ocnecp.spec.controlPlaneConfig :=
  ⟨supported_of_alwaysOnSocket, alwaysOnSocket_of_supported⟩

end Runs

/-- What creation and accepted updates can lead to. -/
inductive Accepted : Document → Prop where
  | created {document : Document} (runtime : Webhooks.Update.Runtime)
    (accepted : validateCreate runtime.ignitionEnabled runtime.metadata document.object = .ok []) : Accepted document
  | updated {prev new : Document} (runtime : Webhooks.Update.Runtime) (earlier : Accepted prev)
    (accepted : validateUpdate runtime prev new = .ok []) : Accepted new

theorem validateUpdate_socket {runtime : Webhooks.Update.Runtime} {prev new : Document}
    (accepted : validateUpdate runtime prev new = .ok []) :
    validateOCNESocket new.object.spec.controlPlaneConfig = [] := by
  obtain ⟨specErrs, _, accepted⟩ := Effects.Fallible.bind_eq_ok.mp accepted
  simp only [pure, Except.pure, Except.ok.injEq, List.append_eq_nil_iff] at accepted
  exact accepted.1.1.2

theorem validateCreate_socket {ignitionEnabled : Bool} {metadata : Except Err OCNEMetadata}
    (accepted : validateCreate ignitionEnabled metadata ocnecp = .ok []) :
    validateOCNESocket ocnecp.spec.controlPlaneConfig = [] := by
  obtain ⟨specErrs, _, accepted⟩ := Effects.Fallible.bind_eq_ok.mp accepted
  simp only [pure, Except.pure, Except.ok.injEq, List.append_eq_nil_iff] at accepted
  exact accepted.1.2

theorem Accepted.socket {document : Document} (accepted : Accepted document) :
    validateOCNESocket document.object.spec.controlPlaneConfig = [] := by
  cases accepted with
  | created runtime accepted => exact validateCreate_socket accepted
  | updated runtime earlier accepted => exact validateUpdate_socket accepted

/-- The sockets are only looked at if both configurations are there. -/
theorem supported_of_validateOCNESocket {config : OCNEConfigSpec} (accepted : validateOCNESocket config = [])
    (init : config.initConfiguration.isSome = true) (join : config.joinConfiguration.isSome = true) :
    Supported config := by
  obtain ⟨init, givenInit⟩ := Option.isSome_iff_exists.mp init
  obtain ⟨join, givenJoin⟩ := Option.isSome_iff_exists.mp join
  simp only [validateOCNESocket, givenInit, givenJoin, List.append_eq_nil_iff, validateSocket,
    Webhooks.ConfigSpec.reject_eq_nil, Bool.and_eq_false_iff, bne_eq_false_iff_eq] at accepted
  simp only [Supported, initSocket, joinSocket, givenInit, givenJoin, Option.elim_some]
  exact accepted

/-- Nodes use the OCNE socket exactly if both configurations are there, or the one that is there has no other socket. -/
theorem accepted_alwaysOnSocket_iff {document : Document} (accepted : Accepted document) :
    AlwaysOnSocket document.object ↔
      (document.object.spec.controlPlaneConfig.initConfiguration.isSome = true ∧
        document.object.spec.controlPlaneConfig.joinConfiguration.isSome = true) ∨
      Supported document.object.spec.controlPlaneConfig := by
  rw [alwaysOnSocket_iff]
  refine ⟨.inr, ?_⟩
  rintro (⟨init, join⟩ | supported)
  · exact supported_of_validateOCNESocket accepted.socket init join
  · exact supported

def initDocument (socket : String) : Document where
  object := exampleObject { (default : OCNEConfigSpec) with
    clusterConfiguration := some emptyClusterConfiguration
    initConfiguration := some { emptyInitConfiguration with
      nodeRegistration := { emptyNodeRegistration with criSocket := socket } } }
  json := exampleJson [exampleConfiguration [], ("initConfiguration", .object [
    ("nodeRegistration", .object [("criSocket", .value (.text socket))]), ("localAPIEndpoint", .object [])])]
  shaped := rfl
  format := rfl
  external := rfl

theorem ocne_socket_rendered : AlwaysOnSocket (initDocument defaultOCNESocket).object :=
  (accepted_alwaysOnSocket_iff (.created lenient (by decide +kernel))).mpr (.inr ⟨.inr rfl, .inl rfl⟩)

def otherSocket : String := "/run/containerd/containerd.sock"

def otherPlane : ControlPlane :=
  ⟨(initDocument otherSocket).object, default, default, 0, fun _ => none, fun _ => none⟩

/-- Without a join configuration another socket passes, and is rendered for the first machine. -/
theorem other_socket_rendered :
    Accepted (initDocument otherSocket) ∧ ¬ AlwaysOnSocket (initDocument otherSocket).object ∧
      ∃ stored step reached, Stored (Role.first.spec otherPlane) stored ∧
        outcome (untilRendered parsing smoothAnswers machineOwner (readyView false)) stored = (.ok step, reached) ∧
        step.criSocket = some otherSocket := by
  refine ⟨.created lenient (by decide +kernel), fun always => ?_, ?_⟩
  · exact absurd (supported_of_alwaysOnSocket always).1 (by decide)
  · obtain ⟨reached, finished⟩ := renders_first (configSpec (Role.first.spec otherPlane)) rfl
    exact ⟨_, _, reached, .created, finished, rfl⟩

end OcneProvider.Bootstrapper.Sockets
