import OcneProvider.Data.Shapes

/-! The JSON encoding of a control plane object, by its shape. -/

namespace OcneProvider.Api.Encoding
open Data.MergePatch Data.Shapes

/-- A value of the JSON encoding; an array is kept by its text. -/
inductive Content where
  | text (value : String)
  | number (value : Int)
  | flag (value : Bool)
  | array (items : String)
  deriving DecidableEq

abbrev Tree := Json Content

def optional (names : List String) : List (String × Bool × Shape) :=
  names.map fun name => (name, false, .plain)

def always (names : List String) : List (String × Bool × Shape) :=
  names.map fun name => (name, true, .plain)

def typeMeta : List (String × Bool × Shape) := optional ["kind", "apiVersion"]

def objectMeta : Shape := .record (
  optional ["name", "generateName", "namespace", "selfLink", "uid", "resourceVersion", "generation"] ++
  always ["creationTimestamp"] ++ optional ["deletionTimestamp", "deletionGracePeriodSeconds"] ++
  [("labels", false, .table), ("annotations", false, .table)] ++
  optional ["ownerReferences", "finalizers", "managedFields"])

def nodeRegistrationOptions : Shape := .record (
  optional ["name", "criSocket", "taints"] ++ [("kubeletExtraArgs", false, .table)] ++
  optional ["ignorePreflightErrors"])

def apiEndpoint : Shape := .record (optional ["advertiseAddress", "bindPort"])

def patches : Shape := .record (optional ["directory"])

def imageMeta : List (String × Bool × Shape) := optional ["imageRepository", "imageTag"]

def controlPlaneComponent : List (String × Bool × Shape) :=
  ("extraArgs", false, .table) :: optional ["extraVolumes"]

def localEtcd : Shape := .record (
  imageMeta ++ optional ["dataDir"] ++ [("extraArgs", false, .table)] ++ optional ["serverCertSANs", "peerCertSANs"])

def externalEtcd : Shape := .record (always ["endpoints", "caFile", "certFile", "keyFile"])

def etcd : Shape := .record [("local", false, localEtcd), ("external", false, externalEtcd)]

def clusterConfiguration : Shape := .record (
  typeMeta ++ [("etcd", true, etcd),
    ("networking", true, .record (optional ["serviceSubnet", "podSubnet", "dnsDomain"]))] ++
  optional ["kubernetesVersion", "controlPlaneEndpoint"] ++
  [("apiServer", true, .record (controlPlaneComponent ++ optional ["certSANs", "timeoutForControlPlane"])),
    ("controllerManager", true, .record controlPlaneComponent), ("scheduler", true, .record controlPlaneComponent),
    ("dns", true, .record imageMeta)] ++
  optional ["certificatesDir", "imageRepository"] ++ [("featureGates", false, .table)] ++ optional ["clusterName"])

def initConfiguration : Shape := .record (
  typeMeta ++ optional ["bootstrapTokens"] ++
  [("nodeRegistration", true, nodeRegistrationOptions), ("localAPIEndpoint", true, apiEndpoint)] ++
  optional ["skipPhases"] ++ [("patches", false, patches)])

def bootstrapTokenDiscovery : Shape := .record (
  always ["token"] ++ optional ["apiServerEndpoint", "caCertHashes", "unsafeSkipCAVerification"])

def discovery : Shape := .record (
  [("bootstrapToken", false, bootstrapTokenDiscovery), ("file", false, .record (always ["kubeConfigPath"]))] ++
  optional ["tlsBootstrapToken", "timeout"])

def joinConfiguration : Shape := .record (
  typeMeta ++ [("nodeRegistration", true, nodeRegistrationOptions)] ++ optional ["caCertPath"] ++
  [("discovery", true, discovery), ("controlPlane", false, .record [("localAPIEndpoint", true, apiEndpoint)])] ++
  optional ["skipPhases"] ++ [("patches", false, patches)])

def imageConfigurationSpec : Shape := .record [
  ("proxy", false, .record (optional ["httpProxy", "httpsProxy", "noProxy"])),
  ("dependencies", false, .record (optional ["skipInstall"]))]

def ocneConfigSpec : Shape := .record (
  [("clusterConfiguration", false, clusterConfiguration), ("initConfiguration", false, initConfiguration),
    ("joinConfiguration", false, joinConfiguration)] ++
  optional ["files"] ++ [("diskSetup", false, .record (optional ["partitions", "filesystems"]))] ++
  optional ["mounts", "preOCNECommands", "postOCNECommands", "users"] ++
  [("ntp", false, .record (optional ["servers", "enabled"]))] ++
  optional ["format", "verbosity", "useExperimentalRetryJoin"] ++
  [("ignition", false, .record [
      ("containerLinuxConfig", false, .record (optional ["additionalConfig", "strict"]))]),
    ("imageConfiguration", false, imageConfigurationSpec)])

def machineTemplate : Shape := .record (
  [("metadata", true, .record [("labels", false, .table), ("annotations", false, .table)]),
    ("infrastructureRef", true, .record (
      optional ["kind", "namespace", "name", "uid", "apiVersion", "resourceVersion", "fieldPath"]))] ++
  optional ["nodeDrainTimeout", "nodeVolumeDetachTimeout", "nodeDeletionTimeout"])

def operator : List (String × Bool × Shape) :=
  optional ["enabled"] ++ [("image", false, .record (optional ["repository", "tag", "pullPolicy"]))] ++
  optional ["imagePullSecrets"]

def ocneControlPlaneSpec : Shape := .record (
  optional ["replicas"] ++ always ["version"] ++
  [("machineTemplate", true, machineTemplate), ("controlPlaneConfig", true, ocneConfigSpec),
    ("rolloutBefore", false, .record (optional ["certificatesExpiryDays"]))] ++
  optional ["rolloutAfter"] ++
  [("rolloutStrategy", false, .record (optional ["type"] ++
      [("rollingUpdate", false, .record (optional ["maxSurge"]))])),
    ("moduleOperator", false, .record operator),
    ("verrazzanoPlatformOperator", false, .record (operator ++
      [("privateRegistry", true, .record (optional ["enabled"]))]))])

def ocneControlPlaneStatus : Shape := .record (
  optional ["selector"] ++ always ["replicas"] ++ optional ["version"] ++
  always ["updatedReplicas", "readyReplicas", "unavailableReplicas", "initialized", "ready"] ++
  optional ["failureReason", "failureMessage", "observedGeneration", "conditions"])

/-- A field that may be left out is there only if it is not empty, but a struct that is no pointer always. -/
def ocneControlPlane : Shape := .record (
  typeMeta ++ [("metadata", true, objectMeta), ("spec", true, ocneControlPlaneSpec),
    ("status", true, ocneControlPlaneStatus)])

end OcneProvider.Api.Encoding
