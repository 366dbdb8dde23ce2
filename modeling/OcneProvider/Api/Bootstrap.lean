import OcneProvider.Api.Conditions

/-! The bootstrap configuration of a machine. Optional values, slices and maps
keep the difference between nil and empty, which the comparison of two
configurations sees. -/

namespace OcneProvider.Api.Bootstrap
open Meta

structure ImageMeta where
  imageRepository : String
  imageTag : String
  deriving DecidableEq

structure Patches where
  directory : String
  deriving DecidableEq

structure APIEndpoint where
  advertiseAddress : String
  bindPort : Int
  deriving DecidableEq

structure Taint where
  key : String
  value : String
  effect : String
  timeAdded : Option Time
  deriving DecidableEq

structure NodeRegistrationOptions where
  name : String
  criSocket : String
  taints : Slice Taint
  kubeletExtraArgs : GoMap String
  ignorePreflightErrors : Slice String
  deriving DecidableEq

def emptyNodeRegistration : NodeRegistrationOptions := ⟨"", "", none, none, none⟩

structure BootstrapTokenString where
  id : String
  secret : String
  deriving DecidableEq

structure BootstrapToken where
  token : Option BootstrapTokenString
  description : String
  ttl : Option Duration
  expires : Option Time
  usages : Slice String
  groups : Slice String
  deriving DecidableEq

structure InitConfiguration where
  typeMeta : TypeMeta
  bootstrapTokens : Slice BootstrapToken
  nodeRegistration : NodeRegistrationOptions
  localAPIEndpoint : APIEndpoint
  skipPhases : Slice String
  patches : Option Patches
  deriving DecidableEq

structure BootstrapTokenDiscovery where
  token : String
  apiServerEndpoint : String
  caCertHashes : Slice String
  unsafeSkipCAVerification : Bool
  deriving DecidableEq

structure Discovery where
  bootstrapToken : Option BootstrapTokenDiscovery
  /-- The path of the kubeconfig file of a file discovery. -/
  file : Option String
  tlsBootstrapToken : String
  timeout : Option Duration
  deriving DecidableEq

def emptyDiscovery : Discovery := ⟨none, none, "", none⟩

structure JoinControlPlane where
  localAPIEndpoint : APIEndpoint
  deriving DecidableEq

structure JoinConfiguration where
  typeMeta : TypeMeta
  nodeRegistration : NodeRegistrationOptions
  caCertPath : String
  discovery : Discovery
  controlPlane : Option JoinControlPlane
  skipPhases : Slice String
  patches : Option Patches
  deriving DecidableEq

structure LocalEtcd where
  imageMeta : ImageMeta
  dataDir : String
  extraArgs : GoMap String
  serverCertSANs : Slice String
  peerCertSANs : Slice String
  deriving DecidableEq

structure ExternalEtcd where
  endpoints : Slice String
  caFile : String
  certFile : String
  keyFile : String
  deriving DecidableEq

structure Etcd where
  localEtcd : Option LocalEtcd
  external : Option ExternalEtcd
  deriving DecidableEq

structure Networking where
  serviceSubnet : String
  podSubnet : String
  dnsDomain : String
  deriving DecidableEq

structure HostPathMount where
  name : String
  hostPath : String
  mountPath : String
  readOnly : Bool
  pathType : String
  deriving DecidableEq

structure ControlPlaneComponent where
  extraArgs : GoMap String
  extraVolumes : Slice HostPathMount
  deriving DecidableEq

structure APIServer where
  component : ControlPlaneComponent
  certSANs : Slice String
  timeoutForControlPlane : Option Duration
  deriving DecidableEq

structure ClusterConfiguration where
  typeMeta : TypeMeta
  etcd : Etcd
  networking : Networking
  kubernetesVersion : String
  controlPlaneEndpoint : String
  apiServer : APIServer
  controllerManager : ControlPlaneComponent
  scheduler : ControlPlaneComponent
  dns : ImageMeta
  certificatesDir : String
  imageRepository : String
  featureGates : GoMap Bool
  clusterName : String
  deriving DecidableEq

def emptyImageMeta : ImageMeta := ⟨"", ""⟩

def emptyComponent : ControlPlaneComponent := ⟨none, none⟩

def emptyClusterConfiguration : ClusterConfiguration where
  typeMeta := ⟨"", ""⟩
  etcd := ⟨none, none⟩
  networking := ⟨"", "", ""⟩
  kubernetesVersion := ""
  controlPlaneEndpoint := ""
  apiServer := ⟨emptyComponent, none, none⟩
  controllerManager := emptyComponent
  scheduler := emptyComponent
  dns := emptyImageMeta
  certificatesDir := ""
  imageRepository := ""
  featureGates := none
  clusterName := ""

structure SecretKeySource where
  name : String
  key : String
  deriving DecidableEq

structure File where
  path : String
  owner : String
  permissions : String
  encoding : String
  append : Bool
  content : String
  contentFrom : Option SecretKeySource
  deriving DecidableEq

structure User where
  name : String
  gecos : Option String
  groups : Option String
  homeDir : Option String
  inactive : Option Bool
  shell : Option String
  passwd : Option String
  passwdFrom : Option SecretKeySource
  primaryGroup : Option String
  lockPassword : Option Bool
  sudoRule : Option String
  sshAuthorizedKeys : Slice String
  deriving DecidableEq

structure NTP where
  servers : Slice String
  enabled : Option Bool
  deriving DecidableEq

structure Partition where
  device : String
  layout : Bool
  overwrite : Option Bool
  tableType : Option String
  deriving DecidableEq

structure Filesystem where
  device : String
  filesystem : String
  label : String
  partition : Option String
  overwrite : Option Bool
  replaceFS : Option String
  extraOpts : Slice String
  deriving DecidableEq

structure DiskSetup where
  partitions : Slice Partition
  filesystems : Slice Filesystem
  deriving DecidableEq

structure ContainerLinuxConfig where
  additionalConfig : String
  strict : Bool
  deriving DecidableEq

structure IgnitionSpec where
  containerLinuxConfig : Option ContainerLinuxConfig
  deriving DecidableEq

structure ProxySpec where
  httpProxy : String
  httpsProxy : String
  noProxy : String
  deriving DecidableEq

structure ImageConfigurationSpec where
  proxy : Option ProxySpec
  /-- Whether the dependencies, if given, are not to be installed. -/
  dependencies : Option Bool
  deriving DecidableEq

structure OCNEConfigSpec where
  clusterConfiguration : Option ClusterConfiguration
  initConfiguration : Option InitConfiguration
  joinConfiguration : Option JoinConfiguration
  files : Slice File
  diskSetup : Option DiskSetup
  mounts : Slice (Slice String)
  preOCNECommands : Slice String
  postOCNECommands : Slice String
  users : Slice User
  ntp : Option NTP
  format : String
  verbosity : Option Int
  useExperimentalRetryJoin : Bool
  ignition : Option IgnitionSpec
  imageConfiguration : Option ImageConfigurationSpec
  deriving DecidableEq, Inhabited

structure OCNEConfig where
  name : String
  ns : String
  labels : StringMap
  annotations : StringMap
  ownerReferences : List OwnerReference
  spec : OCNEConfigSpec
  deriving DecidableEq, Inhabited

end OcneProvider.Api.Bootstrap
