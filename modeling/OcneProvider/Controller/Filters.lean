import OcneProvider.Controller.Calls

/-! The comparison of a machine, its bootstrap configuration and its infrastructure
with the control plane they were made for. The comparison clears fields of the
bootstrap configuration it is given, so it returns the configuration it leaves. -/

namespace OcneProvider.Controller.Filters
open Api.Meta Api.Bootstrap Api.Objects Collections Calls

structure Codec where
  marshal : Option ClusterConfiguration → Except Err String
  unmarshal : String → Except Err (Option ClusterConfiguration)

def ocneClusterConfigurationAnnotation : String := "controlplane.cluster.x-k8s.io/ocne-cluster-configuration"

def templateClonedFromNameAnnotation : String := "cluster.x-k8s.io/cloned-from-name"

def templateClonedFromGroupKindAnnotation : String := "cluster.x-k8s.io/cloned-from-groupkind"

def cloudConfig : String := "cloud-config"

def isSubsetMapOf (base existing : StringMap) : Bool :=
  ∀ key ∈ base.keys, existing.lookup key = base.lookup key

def matchMachineTemplateMetadata (ocnecp : OCNEControlPlane) (annotations labels : StringMap) : Bool :=
  isSubsetMapOf ocnecp.spec.machineTemplate.annotations annotations &&
    isSubsetMapOf ocnecp.spec.machineTemplate.labels labels

def groupKind (ref : ObjectReference) : String :=
  match parseGroup ref.apiVersion with
  | none | some "" => ref.kind
  | some group => ref.kind ++ "." ++ group

def matchesTemplateClonedFrom (infraObj : Option InfraObject) (ocnecp : OCNEControlPlane) : Bool :=
  match infraObj with
  | none => true
  | some infraObj =>
    match infraObj.annotations.lookup templateClonedFromNameAnnotation,
      infraObj.annotations.lookup templateClonedFromGroupKindAnnotation with
    | some clonedFromName, some clonedFromGroupKind =>
      clonedFromName == ocnecp.spec.machineTemplate.infrastructureRef.name &&
        clonedFromGroupKind == groupKind ocnecp.spec.machineTemplate.infrastructureRef &&
        matchMachineTemplateMetadata ocnecp infraObj.annotations infraObj.labels
    | _, _ => true

def matchClusterConfiguration (codec : Codec) (ocnecp : OCNEControlPlane) (machine : Machine) : Bool :=
  match machine.annotations.lookup ocneClusterConfigurationAnnotation with
  | none => true
  | some text =>
    match codec.unmarshal text with
    | .error _ => false
    | .ok machineClusterConfig =>
      machineClusterConfig.getD emptyClusterConfiguration ==
        ocnecp.spec.controlPlaneConfig.clusterConfiguration.getD emptyClusterConfiguration

def defaultOCNEConfigSpec (spec : OCNEConfigSpec) : OCNEConfigSpec :=
  if spec.format = "" then { spec with format := cloudConfig } else spec

theorem defaultOCNEConfigSpec_eq (spec : OCNEConfigSpec) : defaultOCNEConfigSpec spec =
    { spec with format := if spec.format = "" then cloudConfig else spec.format } := by
  unfold defaultOCNEConfigSpec
  split <;> rfl

/-- Drops the init or join part that the machine's configuration lacks. -/
def getAdjustedKcpConfig (ocnecp : OCNEControlPlane) (machineSpec : OCNEConfigSpec) : OCNEConfigSpec :=
  let config := ocnecp.spec.controlPlaneConfig
  { config with
    joinConfiguration := if machineSpec.joinConfiguration = none then none else config.joinConfiguration
    initConfiguration := if machineSpec.initConfiguration = none then none else config.initConfiguration }

def cleanupJoinConfiguration (ocnecpJoin machineJoin : JoinConfiguration) :
    JoinConfiguration × JoinConfiguration :=
  let ocnecpJoin := { ocnecpJoin with discovery := emptyDiscovery }
  let machineJoin := { machineJoin with discovery := emptyDiscovery }
  let machineJoin := if ocnecpJoin.controlPlane = none then { machineJoin with controlPlane := none } else machineJoin
  let machineJoin := if ocnecpJoin.nodeRegistration = emptyNodeRegistration then
    { machineJoin with nodeRegistration := emptyNodeRegistration } else machineJoin
  (ocnecpJoin, { machineJoin with typeMeta := ocnecpJoin.typeMeta })

/-- Without the control plane's join part there is nothing to compare. -/
def cleanupJoinConfigurations : Option JoinConfiguration → Option JoinConfiguration →
    Option JoinConfiguration × Option JoinConfiguration
  | none, _ => (none, none)
  | some ocnecpJoin, none => (some { ocnecpJoin with discovery := emptyDiscovery }, none)
  | some ocnecpJoin, some machineJoin =>
    let (ocnecpJoin, machineJoin) := cleanupJoinConfiguration ocnecpJoin machineJoin
    (some ocnecpJoin, some machineJoin)

def cleanupInitConfiguration : Option InitConfiguration → Option InitConfiguration → Option InitConfiguration
  | some ocnecpInit, some machineInit => some { machineInit with typeMeta := ocnecpInit.typeMeta }
  | _, machineInit => machineInit

def cleanupConfigFields (ocnecpConfig machineSpec : OCNEConfigSpec) : OCNEConfigSpec × OCNEConfigSpec :=
  let (ocnecpJoin, machineJoin) :=
    cleanupJoinConfigurations ocnecpConfig.joinConfiguration machineSpec.joinConfiguration
  ({ ocnecpConfig with clusterConfiguration := none, joinConfiguration := ocnecpJoin },
    { machineSpec with
      clusterConfiguration := none
      joinConfiguration := machineJoin
      initConfiguration :=
        cleanupInitConfiguration ocnecpConfig.initConfiguration machineSpec.initConfiguration })

def matchInitOrJoinConfiguration (machineConfig : OCNEConfig) (ocnecp : OCNEControlPlane) : Bool × OCNEConfig :=
  let ocnecpConfig := defaultOCNEConfigSpec (getAdjustedKcpConfig ocnecp machineConfig.spec)
  let (ocnecpConfig, machineSpec) := cleanupConfigFields ocnecpConfig (defaultOCNEConfigSpec machineConfig.spec)
  (machineSpec == ocnecpConfig, { machineConfig with spec := machineSpec })

def matchesOCNEBootstrapConfig (codec : Codec) (machineConfig : Option OCNEConfig) (ocnecp : OCNEControlPlane)
    (machine : Machine) : Bool × Option OCNEConfig :=
  if matchClusterConfiguration codec ocnecp machine then
    match machine.configRef, machineConfig with
    | some _, some config =>
      if matchMachineTemplateMetadata ocnecp config.annotations config.labels then
        let (same, config) := matchInitOrJoinConfiguration config ocnecp
        (same, some config)
      else (false, some config)
    | _, _ => (true, machineConfig)
  else (false, machineConfig)

def matchesMachineSpec (codec : Codec) (infraObj : Option InfraObject) (machineConfig : Option OCNEConfig)
    (ocnecp : OCNEControlPlane) (machine : Machine) : Bool × Option OCNEConfig :=
  if matchMachineTemplateMetadata ocnecp machine.annotations machine.labels &&
      matchesKubernetesVersion ocnecp.spec.version machine then
    let (same, machineConfig) := matchesOCNEBootstrapConfig codec machineConfig ocnecp machine
    (same && matchesTemplateClonedFrom infraObj ocnecp, machineConfig)
  else (false, machineConfig)

end OcneProvider.Controller.Filters
