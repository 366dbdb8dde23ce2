import OcneProvider.Kubeadm.Updates

/-! The configuration types of kubeadm's API versions, and their conversions from and to the types of the
bootstrap API. Parts that the code reinterprets in place have the type they have there. -/

namespace OcneProvider.Kubeadm.Upstream
open Api Api.Bootstrap Api.Meta Kubeadm.Updates

/-- The parts that are the same in all API versions. -/
structure Etcd where
  localEtcd : Option LocalEtcd
  external : Option ExternalEtcd
  deriving DecidableEq

structure Networking where
  serviceSubnet : String
  podSubnet : String
  dnsDomain : String
  deriving DecidableEq

structure ControlPlaneComponent where
  extraArgs : GoMap String
  extraVolumes : Slice HostPathMount
  deriving DecidableEq

structure APIServer where
  component : ControlPlaneComponent
  certSANs : Slice String
  timeoutForControlPlane : Option Duration
  deriving DecidableEq

structure ImageMeta where
  imageRepository : String
  imageTag : String
  deriving DecidableEq

structure ClusterStatus where
  typeMeta : TypeMeta
  apiEndpoints : GoMap APIEndpoint
  deriving DecidableEq

/-- The add-on for names, which in v1beta3 is an image only. -/
structure TypedDNS where
  type : String
  imageMeta : ImageMeta
  deriving DecidableEq

structure LegacyClusterConfiguration where
  typeMeta : TypeMeta
  etcd : Etcd
  networking : Networking
  kubernetesVersion : String
  controlPlaneEndpoint : String
  apiServer : APIServer
  controllerManager : ControlPlaneComponent
  scheduler : ControlPlaneComponent
  dns : TypedDNS
  certificatesDir : String
  imageRepository : String
  useHyperKubeImage : Bool
  featureGates : GoMap Bool
  clusterName : String
  deriving DecidableEq

structure ClusterConfiguration where
  typeMeta : TypeMeta
  etcd : Etcd
  networking : Networking
  kubernetesVersion : String
  controlPlaneEndpoint : String
  apiServer : APIServer
  controllerManager : ControlPlaneComponent
  scheduler : ControlPlaneComponent
  dns : ImageMeta
  certificatesDir : String
  imageRepository : String
  featureGates : GoMap Bool
  clusterName : String
  deriving DecidableEq

/-- The later versions also know preflight errors to ignore. -/
structure NodeRegistrationOptionsV1beta1 where
  name : String
  criSocket : String
  taints : Slice Taint
  kubeletExtraArgs : GoMap String
  deriving DecidableEq

structure NodeRegistrationOptions where
  name : String
  criSocket : String
  taints : Slice Taint
  kubeletExtraArgs : GoMap String
  ignorePreflightErrors : Slice String
  deriving DecidableEq

structure InitConfigurationV1beta1 where
  typeMeta : TypeMeta
  bootstrapTokens : Slice BootstrapToken
  nodeRegistration : NodeRegistrationOptionsV1beta1
  localAPIEndpoint : APIEndpoint
  deriving DecidableEq

structure InitConfigurationV1beta2 where
  typeMeta : TypeMeta
  bootstrapTokens : Slice BootstrapToken
  nodeRegistration : NodeRegistrationOptions
  localAPIEndpoint : APIEndpoint
  certificateKey : String
  deriving DecidableEq

structure InitConfigurationV1beta3 where
  typeMeta : TypeMeta
  bootstrapTokens : Slice BootstrapToken
  nodeRegistration : NodeRegistrationOptions
  localAPIEndpoint : APIEndpoint
  certificateKey : String
  skipPhases : Slice String
  patches : Option Patches
  deriving DecidableEq

/-- The control plane part of a join in v1beta2 and v1beta3. -/
structure JoinControlPlane where
  localAPIEndpoint : APIEndpoint
  certificateKey : String
  deriving DecidableEq

structure JoinConfigurationV1beta1 where
  typeMeta : TypeMeta
  nodeRegistration : NodeRegistrationOptionsV1beta1
  caCertPath : String
  discovery : Discovery
  controlPlane : Option Bootstrap.JoinControlPlane
  deriving DecidableEq

structure JoinConfigurationV1beta2 where
  typeMeta : TypeMeta
  nodeRegistration : NodeRegistrationOptions
  caCertPath : String
  discovery : Discovery
  controlPlane : Option JoinControlPlane
  deriving DecidableEq

structure JoinConfigurationV1beta3 where
  typeMeta : TypeMeta
  nodeRegistration : NodeRegistrationOptions
  caCertPath : String
  discovery : Discovery
  controlPlane : Option JoinControlPlane
  skipPhases : Slice String
  patches : Option Patches
  deriving DecidableEq

def emptyTypeMeta : TypeMeta := ⟨"", ""⟩

def Etcd.convertFrom (etcd : Bootstrap.Etcd) : Etcd := ⟨etcd.localEtcd, etcd.external⟩

def Networking.convertFrom (networking : Bootstrap.Networking) : Networking :=
  ⟨networking.serviceSubnet, networking.podSubnet, networking.dnsDomain⟩

def ControlPlaneComponent.convertFrom (component : Bootstrap.ControlPlaneComponent) : ControlPlaneComponent :=
  ⟨component.extraArgs, component.extraVolumes⟩

def APIServer.convertFrom (apiServer : Bootstrap.APIServer) : APIServer :=
  ⟨.convertFrom apiServer.component, apiServer.certSANs, apiServer.timeoutForControlPlane⟩

def ImageMeta.convertFrom (imageMeta : Bootstrap.ImageMeta) : ImageMeta :=
  ⟨imageMeta.imageRepository, imageMeta.imageTag⟩

/-- The type of the add-on is left empty. -/
def TypedDNS.convertFrom (dns : Bootstrap.ImageMeta) : TypedDNS := ⟨"", .convertFrom dns⟩

def ClusterStatus.convertFrom (status : Updates.ClusterStatus) : ClusterStatus :=
  ⟨emptyTypeMeta, status.apiEndpoints⟩

def LegacyClusterConfiguration.convertFrom (config : Bootstrap.ClusterConfiguration) :
    LegacyClusterConfiguration where
  typeMeta := emptyTypeMeta
  etcd := .convertFrom config.etcd
  networking := .convertFrom config.networking
  kubernetesVersion := config.kubernetesVersion
  controlPlaneEndpoint := config.controlPlaneEndpoint
  apiServer := .convertFrom config.apiServer
  controllerManager := .convertFrom config.controllerManager
  scheduler := .convertFrom config.scheduler
  dns := .convertFrom config.dns
  certificatesDir := config.certificatesDir
  imageRepository := config.imageRepository
  useHyperKubeImage := false
  featureGates := config.featureGates
  clusterName := config.clusterName

def ClusterConfiguration.convertFrom (config : Bootstrap.ClusterConfiguration) : ClusterConfiguration where
  typeMeta := emptyTypeMeta
  etcd := .convertFrom config.etcd
  networking := .convertFrom config.networking
  kubernetesVersion := config.kubernetesVersion
  controlPlaneEndpoint := config.controlPlaneEndpoint
  apiServer := .convertFrom config.apiServer
  controllerManager := .convertFrom config.controllerManager
  scheduler := .convertFrom config.scheduler
  dns := .convertFrom config.dns
  certificatesDir := config.certificatesDir
  imageRepository := config.imageRepository
  featureGates := config.featureGates
  clusterName := config.clusterName

def NodeRegistrationOptionsV1beta1.convertFrom (options : Bootstrap.NodeRegistrationOptions) :
    NodeRegistrationOptionsV1beta1 :=
  ⟨options.name, options.criSocket, options.taints, options.kubeletExtraArgs⟩

def NodeRegistrationOptions.convertFrom (options : Bootstrap.NodeRegistrationOptions) : NodeRegistrationOptions :=
  ⟨options.name, options.criSocket, options.taints, options.kubeletExtraArgs, options.ignorePreflightErrors⟩

/-- The phases to skip and the patches do not exist there. -/
def InitConfigurationV1beta1.convertFrom (config : InitConfiguration) : InitConfigurationV1beta1 :=
  ⟨emptyTypeMeta, config.bootstrapTokens, .convertFrom config.nodeRegistration, config.localAPIEndpoint⟩

def InitConfigurationV1beta2.convertFrom (config : InitConfiguration) : InitConfigurationV1beta2 :=
  ⟨emptyTypeMeta, config.bootstrapTokens, .convertFrom config.nodeRegistration, config.localAPIEndpoint, ""⟩

def InitConfigurationV1beta3.convertFrom (config : InitConfiguration) : InitConfigurationV1beta3 :=
  ⟨emptyTypeMeta, config.bootstrapTokens, .convertFrom config.nodeRegistration, config.localAPIEndpoint, "",
    config.skipPhases, config.patches⟩

def JoinControlPlane.convertFrom (controlPlane : Bootstrap.JoinControlPlane) : JoinControlPlane :=
  ⟨controlPlane.localAPIEndpoint, ""⟩

def JoinConfigurationV1beta1.convertFrom (config : JoinConfiguration) : JoinConfigurationV1beta1 :=
  ⟨emptyTypeMeta, .convertFrom config.nodeRegistration, config.caCertPath, config.discovery, config.controlPlane⟩

def JoinConfigurationV1beta2.convertFrom (config : JoinConfiguration) : JoinConfigurationV1beta2 :=
  ⟨emptyTypeMeta, .convertFrom config.nodeRegistration, config.caCertPath, config.discovery,
    config.controlPlane.map .convertFrom⟩

def JoinConfigurationV1beta3.convertFrom (config : JoinConfiguration) : JoinConfigurationV1beta3 :=
  ⟨emptyTypeMeta, .convertFrom config.nodeRegistration, config.caCertPath, config.discovery,
    config.controlPlane.map .convertFrom, config.skipPhases, config.patches⟩

def Etcd.convertTo (etcd : Etcd) : Bootstrap.Etcd := ⟨etcd.localEtcd, etcd.external⟩

def Networking.convertTo (networking : Networking) : Bootstrap.Networking :=
  ⟨networking.serviceSubnet, networking.podSubnet, networking.dnsDomain⟩

def ControlPlaneComponent.convertTo (component : ControlPlaneComponent) : Bootstrap.ControlPlaneComponent :=
  ⟨component.extraArgs, component.extraVolumes⟩

def APIServer.convertTo (apiServer : APIServer) : Bootstrap.APIServer :=
  ⟨apiServer.component.convertTo, apiServer.certSANs, apiServer.timeoutForControlPlane⟩

def ImageMeta.convertTo (imageMeta : ImageMeta) : Bootstrap.ImageMeta :=
  ⟨imageMeta.imageRepository, imageMeta.imageTag⟩

/-- The type of the add-on is dropped. -/
def TypedDNS.convertTo (dns : TypedDNS) : Bootstrap.ImageMeta := dns.imageMeta.convertTo

/-- The type metadata of the object that is written to stays. -/
def ClusterStatus.convertTo (status : ClusterStatus) (out : Updates.ClusterStatus) : Updates.ClusterStatus :=
  { out with apiEndpoints := status.apiEndpoints }

/-- Whether an image of all components was used is dropped. -/
def LegacyClusterConfiguration.convertTo (config : LegacyClusterConfiguration)
    (out : Bootstrap.ClusterConfiguration) : Bootstrap.ClusterConfiguration where
  typeMeta := out.typeMeta
  etcd := config.etcd.convertTo
  networking := config.networking.convertTo
  kubernetesVersion := config.kubernetesVersion
  controlPlaneEndpoint := config.controlPlaneEndpoint
  apiServer := config.apiServer.convertTo
  controllerManager := config.controllerManager.convertTo
  scheduler := config.scheduler.convertTo
  dns := config.dns.convertTo
  certificatesDir := config.certificatesDir
  imageRepository := config.imageRepository
  featureGates := config.featureGates
  clusterName := config.clusterName

def ClusterConfiguration.convertTo (config : ClusterConfiguration)
    (out : Bootstrap.ClusterConfiguration) : Bootstrap.ClusterConfiguration where
  typeMeta := out.typeMeta
  etcd := config.etcd.convertTo
  networking := config.networking.convertTo
  kubernetesVersion := config.kubernetesVersion
  controlPlaneEndpoint := config.controlPlaneEndpoint
  apiServer := config.apiServer.convertTo
  controllerManager := config.controllerManager.convertTo
  scheduler := config.scheduler.convertTo
  dns := config.dns.convertTo
  certificatesDir := config.certificatesDir
  imageRepository := config.imageRepository
  featureGates := config.featureGates
  clusterName := config.clusterName

/-- The preflight errors to ignore stay those of the object that is written to. -/
def NodeRegistrationOptionsV1beta1.convertTo (options : NodeRegistrationOptionsV1beta1)
    (out : Bootstrap.NodeRegistrationOptions) : Bootstrap.NodeRegistrationOptions :=
  ⟨options.name, options.criSocket, options.taints, options.kubeletExtraArgs, out.ignorePreflightErrors⟩

def NodeRegistrationOptions.convertTo (options : NodeRegistrationOptions) : Bootstrap.NodeRegistrationOptions :=
  ⟨options.name, options.criSocket, options.taints, options.kubeletExtraArgs, options.ignorePreflightErrors⟩

def InitConfigurationV1beta1.convertTo (config : InitConfigurationV1beta1)
    (out : InitConfiguration) : InitConfiguration :=
  { out with
    bootstrapTokens := config.bootstrapTokens
    nodeRegistration := config.nodeRegistration.convertTo out.nodeRegistration
    localAPIEndpoint := config.localAPIEndpoint }

/-- The certificate key is dropped. -/
def InitConfigurationV1beta2.convertTo (config : InitConfigurationV1beta2)
    (out : InitConfiguration) : InitConfiguration :=
  { out with
    bootstrapTokens := config.bootstrapTokens
    nodeRegistration := config.nodeRegistration.convertTo
    localAPIEndpoint := config.localAPIEndpoint }

def InitConfigurationV1beta3.convertTo (config : InitConfigurationV1beta3)
    (out : InitConfiguration) : InitConfiguration where
  typeMeta := out.typeMeta
  bootstrapTokens := config.bootstrapTokens
  nodeRegistration := config.nodeRegistration.convertTo
  localAPIEndpoint := config.localAPIEndpoint
  skipPhases := config.skipPhases
  patches := config.patches

def JoinControlPlane.convertTo (controlPlane : JoinControlPlane) : Bootstrap.JoinControlPlane :=
  ⟨controlPlane.localAPIEndpoint⟩

def JoinConfigurationV1beta1.convertTo (config : JoinConfigurationV1beta1)
    (out : JoinConfiguration) : JoinConfiguration :=
  { out with
    nodeRegistration := config.nodeRegistration.convertTo out.nodeRegistration
    caCertPath := config.caCertPath
    discovery := config.discovery
    controlPlane := config.controlPlane }

def JoinConfigurationV1beta2.convertTo (config : JoinConfigurationV1beta2)
    (out : JoinConfiguration) : JoinConfiguration :=
  { out with
    nodeRegistration := config.nodeRegistration.convertTo
    caCertPath := config.caCertPath
    discovery := config.discovery
    controlPlane := config.controlPlane.map (·.convertTo) }

def JoinConfigurationV1beta3.convertTo (config : JoinConfigurationV1beta3)
    (out : JoinConfiguration) : JoinConfiguration where
  typeMeta := out.typeMeta
  nodeRegistration := config.nodeRegistration.convertTo
  caCertPath := config.caCertPath
  discovery := config.discovery
  controlPlane := config.controlPlane.map (·.convertTo)
  skipPhases := config.skipPhases
  patches := config.patches

end OcneProvider.Kubeadm.Upstream
