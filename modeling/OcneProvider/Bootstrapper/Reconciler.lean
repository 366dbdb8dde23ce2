import OcneProvider.Api.Json
import OcneProvider.Controller.Filters
import OcneProvider.Effects.Stateful
import OcneProvider.Webhooks.Validation

/-! The controller that fills in a bootstrap configuration and renders it. A pass
changes its copy of the configuration as it goes, and what it has changed is
written back at the end even if the pass fails. -/

namespace OcneProvider.Bootstrapper.Reconciler
open Api.Meta Api.Bootstrap Api.Objects Api.Formats Controller.Calls Controller.Collections
open Effects.Stateful Webhooks.Validation

structure Config where
  spec : OCNEConfigSpec
  ready : Bool
  dataSecretName : Option String
  deriving DecidableEq

structure ConfigOwner where
  kind : String
  labels : StringMap
  version : Option String
  dataSecretName : Option String
  hasNodeRefs : Bool

def ConfigOwner.isControlPlaneMachine (owner : ConfigOwner) : Bool :=
  owner.kind == "Machine" && (owner.labels.lookup machineControlPlaneLabelName).isSome

def ConfigOwner.isMachinePool (owner : ConfigOwner) : Bool :=
  owner.kind == "MachinePool"

def ConfigOwner.kubernetesVersion (owner : ConfigOwner) : String :=
  owner.version.getD ""

structure ClusterNetwork where
  serviceDomain : String
  services : Option (List String)
  pods : Option (List String)

structure ClusterView where
  cluster : Cluster
  network : Option ClusterNetwork
  initialized : Bool

/-- What the calls of one pass return, but for the rendered data. -/
structure Answers where
  /-- The owner and the cluster, none if the pass ends before it has both. -/
  scope : Option (ConfigOwner × ClusterView)
  bootstrapSecretOwners : Except Err Unit
  refreshToken : Except Err Unit
  shouldRotate : Except Err Bool
  convertMachine : Except Err Unit
  lock : Bool
  unlock : Bool
  marshal : Except Err Unit
  metadata : Except Err OCNEMetadata
  marshalCluster : Except Err Unit
  lookupCertificates : Except Err Unit
  ensureAllExist : Except Err Unit
  hashes : Except Err (List String)
  remoteClient : Except Err Unit
  createToken : Except Err String
  resolveFiles : Except Err Unit
  resolveUsers : Except Err Unit
  render : Except Err Unit
  storeBootstrapData : Except Err String
  /-- Whether the patches of the configuration and of its status succeed. -/
  patchSpec : Bool
  patchStatus : Bool

def smoothAnswers : Answers where
  scope := none
  bootstrapSecretOwners := .ok ()
  refreshToken := .ok ()
  shouldRotate := .ok false
  convertMachine := .ok ()
  lock := true
  unlock := true
  marshal := .ok ()
  metadata := .ok ∅
  marshalCluster := .ok ()
  lookupCertificates := .ok ()
  ensureAllExist := .ok ()
  hashes := .ok ["sha256:00"]
  remoteClient := .ok ()
  createToken := .ok "abcdef.0123456789abcdef"
  resolveFiles := .ok ()
  resolveUsers := .ok ()
  render := .ok ()
  storeBootstrapData := .ok "control-plane-0"
  patchSpec := true
  patchStatus := true

structure Settings where
  parseTolerant : String → Except Err Version
  tokenTTL : Duration

abbrev Pass := Changing Err Config

def fallible {α : Type} (answer : Except Err α) : Pass α :=
  ExceptT.mk (pure answer)

def modifySpec (change : OCNEConfigSpec → OCNEConfigSpec) : Pass Unit :=
  modify fun config => { config with spec := change config.spec }

def modifyJoin (change : JoinConfiguration → JoinConfiguration) : Pass Unit :=
  modifySpec fun spec => { spec with joinConfiguration := spec.joinConfiguration.map change }

def modifyDiscovery (change : Discovery → Discovery) : Pass Unit :=
  modifyJoin fun join => { join with discovery := change join.discovery }

def modifyBootstrapToken (change : BootstrapTokenDiscovery → BootstrapTokenDiscovery) : Pass Unit :=
  modifyDiscovery fun discovery => { discovery with bootstrapToken := discovery.bootstrapToken.map change }

def getJoin : Pass JoinConfiguration := do
  match (← get).spec.joinConfiguration with
  | some join => return join
  | none => throw nilPointerDereference

def getBootstrapToken : Pass BootstrapTokenDiscovery := do
  match (← getJoin).discovery.bootstrapToken with
  | some token => return token
  | none => throw nilPointerDereference

def requeueAfter (delay : Duration) : Result := ⟨false, delay⟩

/-- With brackets around a host that has colons. -/
def endpointString (endpoint : String × Int32) : String :=
  let host := if ':' ∈ endpoint.1.toList then "[" ++ endpoint.1 ++ "]" else endpoint.1
  host ++ ":" ++ toString endpoint.2

def emptyInitConfiguration : InitConfiguration where
  typeMeta := ⟨"InitConfiguration", "ocne.k8s.io/v1alpha1"⟩
  bootstrapTokens := none
  nodeRegistration := emptyNodeRegistration
  localAPIEndpoint := ⟨"", 0⟩
  skipPhases := none
  patches := none

def emptyJoinConfiguration : JoinConfiguration where
  typeMeta := ⟨"", ""⟩
  nodeRegistration := emptyNodeRegistration
  caCertPath := ""
  discovery := emptyDiscovery
  controlPlane := none
  skipPhases := none
  patches := none

def emptyBootstrapToken : BootstrapTokenDiscovery := ⟨"", "", none, false⟩

/-- A text of the user's, or the default for an empty one. -/
def orElse (given default : String) : String :=
  if given = "" then default else given

def ranges (blocks : Option (List String)) : String :=
  ",".intercalate (blocks.getD [])

def reconcileTopLevelObjectSettings (view : ClusterView) (version : Option String)
    (configuration : ClusterConfiguration) : ClusterConfiguration :=
  let network := view.network.getD ⟨"", none, none⟩
  { configuration with
    controlPlaneEndpoint := if view.cluster.endpointIsValid then
      orElse configuration.controlPlaneEndpoint (endpointString view.cluster.controlPlaneEndpoint)
      else configuration.controlPlaneEndpoint
    clusterName := orElse configuration.clusterName view.cluster.name
    networking := {
      dnsDomain := orElse configuration.networking.dnsDomain network.serviceDomain
      serviceSubnet := orElse configuration.networking.serviceSubnet (ranges network.services)
      podSubnet := orElse configuration.networking.podSubnet (ranges network.pods) }
    kubernetesVersion := orElse configuration.kubernetesVersion (version.getD "") }

def setReady (dataSecretName : String) : Pass Unit :=
  modify fun config => { config with ready := true, dataSecretName := some dataSecretName }

def parseVersion (settings : Settings) (owner : ConfigOwner) : Pass Version :=
  ExceptT.adapt (Err.wrap ("failed to parse kubernetes version " ++ quoted owner.kubernetesVersion))
    (fallible (settings.parseTolerant owner.kubernetesVersion))

def renderAndStore (answers : Answers) : Pass Result := do
  fallible answers.resolveFiles
  fallible answers.resolveUsers
  fallible answers.render
  setReady (← fallible answers.storeBootstrapData)
  return .empty

def fillInitConfiguration (spec : OCNEConfigSpec) : OCNEConfigSpec :=
  { spec with initConfiguration := some (spec.initConfiguration.getD emptyInitConfiguration) }

def fillClusterConfiguration (view : ClusterView) (version : Option String) (spec : OCNEConfigSpec) :
    OCNEConfigSpec :=
  let configuration := spec.clusterConfiguration.getD
    { emptyClusterConfiguration with typeMeta := ⟨"ClusterConfiguration", "ocne.k8s.io/v1alpha1"⟩ }
  { spec with clusterConfiguration := some (reconcileTopLevelObjectSettings view version configuration) }

section Paths

variable (settings : Settings) (answers : Answers) (owner : ConfigOwner) (view : ClusterView)

/-- The part that runs with the init lock held. -/
def bootstrapFirst : Pass Result := do
  let _ ← parseVersion settings owner
  modifySpec fillInitConfiguration
  fallible answers.marshal
  modifySpec (fillClusterConfiguration view owner.version)
  let _ ← fallible answers.metadata
  fallible answers.marshalCluster
  fallible answers.lookupCertificates
  renderAndStore answers

/-- What the pass fails with after it could or could not give the lock back. -/
def unlockAfter (error : Err) : Err :=
  if answers.unlock then error else aggregate [error, errorf "failed to unlock the ocne init lock"]

def handleClusterNotInitialized : Pass Result := do
  let config ← get
  if !owner.isControlPlaneMachine then return requeueAfter (30 * second)
  else if config.spec.initConfiguration.isNone && config.spec.clusterConfiguration.isNone then
    return requeueAfter (30 * second)
  else
    ExceptT.adapt (Err.wrap ("cannot convert " ++ owner.kind ++ " to Machine")) (fallible answers.convertMachine)
    if !answers.lock then return requeueAfter (30 * second)
    else ExceptT.adapt (unlockAfter answers) (bootstrapFirst settings answers owner view)

def isPinned (token : BootstrapTokenDiscovery) : Bool :=
  !(token.caCertHashes.getD []).isEmpty

def ensureHashes : Pass Unit := do
  if isPinned (← getBootstrapToken) then return ()
  else
    let hashes ← fallible answers.hashes
    modifyBootstrapToken fun token => { token with caCertHashes := some hashes }

def ensureToken : Pass Unit := do
  if (← getBootstrapToken).token != "" then return ()
  else
    fallible answers.remoteClient
    let created ← ExceptT.adapt (Err.wrap "failed to create new bootstrap token") (fallible answers.createToken)
    modifyBootstrapToken fun token => { token with token := created }

/-- Completes the discovery of a joining node; what the user has given is kept. -/
def reconcileDiscovery : Pass Result := do
  if (← getJoin).discovery.file.isSome then return .empty
  else
    modifyDiscovery fun discovery =>
      { discovery with bootstrapToken := some (discovery.bootstrapToken.getD emptyBootstrapToken) }
    ensureHashes answers
    if (← getBootstrapToken).apiServerEndpoint == "" && !view.cluster.endpointIsValid then
      return requeueAfter (10 * second)
    else
      modifyBootstrapToken fun token =>
        { token with
          apiServerEndpoint := orElse token.apiServerEndpoint (endpointString view.cluster.controlPlaneEndpoint) }
      ensureToken answers
      modifyBootstrapToken fun token =>
        { token with unsafeSkipCAVerification := token.unsafeSkipCAVerification || !isPinned token }
      return .empty

def prepareJoin : Pass Result := do
  fallible answers.lookupCertificates
  fallible answers.ensureAllExist
  reconcileDiscovery answers view

def joinWorker : Pass Result := do
  let result ← prepareJoin answers view
  if !result.isZero then return result
  else
    let _ ← parseVersion settings owner
    fallible answers.marshal
    if (← getJoin).controlPlane.isSome then
      throw (errorf "Machine is a Worker, but JoinConfiguration.ControlPlane is set in the OCNEConfig object")
    else renderAndStore answers

def joinControlplane : Pass Result := do
  if !owner.isControlPlaneMachine then
    throw (errorf (owner.kind ++ " is not a valid control plane kind, only Machine is supported"))
  else
    modifyJoin fun join => { join with controlPlane := some (join.controlPlane.getD ⟨⟨"", 0⟩⟩) }
    let result ← prepareJoin answers view
    if !result.isZero then return result
    else
      let _ ← parseVersion settings owner
      fallible answers.marshal
      renderAndStore answers

def refreshBootstrapToken : Pass Result := do
  fallible answers.remoteClient
  ExceptT.adapt (Err.wrap "failed to refresh bootstrap token") (fallible answers.refreshToken)
  return requeueAfter (settings.tokenTTL / 2)

def rotateMachinePoolBootstrapToken : Pass Result := do
  fallible answers.remoteClient
  if ← fallible answers.shouldRotate then
    let created ← ExceptT.adapt (Err.wrap "failed to create new bootstrap token") (fallible answers.createToken)
    modifyBootstrapToken fun token => { token with token := created }
    joinWorker settings answers owner view
  else return requeueAfter (settings.tokenTTL / 3)

/-- A rendered configuration is only kept fresh until its node has joined. -/
def keepFresh : Pass Result := do
  let token := (← get).spec.joinConfiguration.bind fun join => join.discovery.bootstrapToken
  if token.isSome && !owner.hasNodeRefs then refreshBootstrapToken settings answers
  else if token.isSome && owner.isMachinePool then rotateMachinePoolBootstrapToken settings answers owner view
  else return .empty

def fillJoinConfiguration (spec : OCNEConfigSpec) : OCNEConfigSpec :=
  { spec with joinConfiguration := some (spec.joinConfiguration.getD emptyJoinConfiguration) }

def reconcile : Pass Result := do
  fallible answers.bootstrapSecretOwners
  let config ← get
  if !view.cluster.infrastructureReady then return .empty
  else if owner.dataSecretName.isSome && (!config.ready || config.dataSecretName.isNone) then
    setReady (owner.dataSecretName.getD "")
    return .empty
  else if config.ready then keepFresh settings answers owner view
  else if !view.initialized then handleClusterNotInitialized settings answers owner view
  else
    modifySpec fillJoinConfiguration
    if owner.isControlPlaneMachine then joinControlplane settings answers owner view
    else joinWorker settings answers owner view

end Paths

/-- Each of the two patches may have failed. -/
def runPass (settings : Settings) (answers : Answers) (stored : Config) : Config :=
  match answers.scope with
  | none => stored
  | some (owner, view) =>
    let reached := (outcome (reconcile settings answers owner view) stored).2
    let status := if answers.patchStatus then reached else stored
    { status with spec := if answers.patchSpec then Api.Json.configSpec reached.spec else stored.spec }

end OcneProvider.Bootstrapper.Reconciler
