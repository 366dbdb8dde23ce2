import OcneProvider.Api.Bootstrap

/-! What a bootstrap configuration is after it was written as JSON and read again.
A field that is left out when it is empty comes back nil, a time loses what is
below a second, and everything else comes back as it was. -/

namespace OcneProvider.Api.Json
open Meta Bootstrap

def omitEmpty {α : Type} : Slice α → Slice α
  | some [] => none
  | entries => entries

def omitEmptyMap {α : Type} [DecidableEq α] (entries : GoMap α) : GoMap α :=
  if entries = some ∅ then none else entries

def wholeSeconds (time : Time) : Time :=
  time / 1000000000 * 1000000000

def taint (taint : Taint) : Taint :=
  { taint with timeAdded := taint.timeAdded.map wholeSeconds }

/-- Unlike other lists, the taints are only left out when there is no list at all. -/
def nodeRegistration (options : NodeRegistrationOptions) : NodeRegistrationOptions :=
  { options with
    taints := options.taints.map (List.map taint)
    kubeletExtraArgs := omitEmptyMap options.kubeletExtraArgs
    ignorePreflightErrors := omitEmpty options.ignorePreflightErrors }

def bootstrapToken (token : BootstrapToken) : BootstrapToken :=
  { token with
    expires := token.expires.map wholeSeconds
    usages := omitEmpty token.usages
    groups := omitEmpty token.groups }

def initConfiguration (configuration : InitConfiguration) : InitConfiguration :=
  { configuration with
    bootstrapTokens := omitEmpty (configuration.bootstrapTokens.map (List.map bootstrapToken))
    nodeRegistration := nodeRegistration configuration.nodeRegistration
    skipPhases := omitEmpty configuration.skipPhases }

def bootstrapTokenDiscovery (discovery : BootstrapTokenDiscovery) : BootstrapTokenDiscovery :=
  { discovery with caCertHashes := omitEmpty discovery.caCertHashes }

def joinConfiguration (configuration : JoinConfiguration) : JoinConfiguration :=
  { configuration with
    nodeRegistration := nodeRegistration configuration.nodeRegistration
    discovery := { configuration.discovery with
      bootstrapToken := configuration.discovery.bootstrapToken.map bootstrapTokenDiscovery }
    skipPhases := omitEmpty configuration.skipPhases }

def controlPlaneComponent (component : ControlPlaneComponent) : ControlPlaneComponent :=
  ⟨omitEmptyMap component.extraArgs, omitEmpty component.extraVolumes⟩

def localEtcd (etcd : LocalEtcd) : LocalEtcd :=
  { etcd with
    extraArgs := omitEmptyMap etcd.extraArgs
    serverCertSANs := omitEmpty etcd.serverCertSANs
    peerCertSANs := omitEmpty etcd.peerCertSANs }

def clusterConfiguration (configuration : ClusterConfiguration) : ClusterConfiguration :=
  { configuration with
    etcd := { configuration.etcd with localEtcd := configuration.etcd.localEtcd.map localEtcd }
    apiServer := { configuration.apiServer with
      component := controlPlaneComponent configuration.apiServer.component
      certSANs := omitEmpty configuration.apiServer.certSANs }
    controllerManager := controlPlaneComponent configuration.controllerManager
    scheduler := controlPlaneComponent configuration.scheduler
    featureGates := omitEmptyMap configuration.featureGates }

def user (user : User) : User :=
  { user with sshAuthorizedKeys := omitEmpty user.sshAuthorizedKeys }

def filesystem (filesystem : Filesystem) : Filesystem :=
  { filesystem with extraOpts := omitEmpty filesystem.extraOpts }

def diskSetup (disk : DiskSetup) : DiskSetup :=
  ⟨omitEmpty disk.partitions, omitEmpty (disk.filesystems.map (List.map filesystem))⟩

def ntp (ntp : NTP) : NTP :=
  { ntp with servers := omitEmpty ntp.servers }

def configSpec (spec : OCNEConfigSpec) : OCNEConfigSpec :=
  { spec with
    clusterConfiguration := spec.clusterConfiguration.map clusterConfiguration
    initConfiguration := spec.initConfiguration.map initConfiguration
    joinConfiguration := spec.joinConfiguration.map joinConfiguration
    files := omitEmpty spec.files
    diskSetup := spec.diskSetup.map diskSetup
    mounts := omitEmpty spec.mounts
    preOCNECommands := omitEmpty spec.preOCNECommands
    postOCNECommands := omitEmpty spec.postOCNECommands
    users := omitEmpty (spec.users.map (List.map user))
    ntp := spec.ntp.map ntp }

end OcneProvider.Api.Json
