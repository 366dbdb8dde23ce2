import OcneProvider.Etcd.Orphans
import OcneProvider.Webhooks.Scaling
import OcneProvider.CoreDNS.Frame
import OcneProvider.CoreDNS.Convergence
import OcneProvider.Bootstrapper.Locking
import OcneProvider.Patch.Updating
import OcneProvider.Controller.Settling
import OcneProvider.Controller.Partition
import OcneProvider.Controller.Spreading
import OcneProvider.Bootstrapper.Defaults
import OcneProvider.Controller.Aggregation
import OcneProvider.Controller.EtcdMembers
import OcneProvider.Api.ConditionHistory
import OcneProvider.Api.Messages
import OcneProvider.Bootstrapper.InitPath
import OcneProvider.Bootstrapper.Joining
import OcneProvider.Semver.Admitted
import OcneProvider.Webhooks.Defaulting
import OcneProvider.Bootstrapper.Sockets
import OcneProvider.Controller.Creation
import OcneProvider.Controller.Adoption
import OcneProvider.Controller.Ownership
import OcneProvider.Controller.Expiry
import OcneProvider.Bootstrapper.SecretNames
import OcneProvider.Controller.Status
import OcneProvider.Bootstrapper.Tokens
import OcneProvider.Kubeadm.Registration
import OcneProvider.Bootstrapper.CloudFiles
import OcneProvider.Bootstrapper.MountUnits
import OcneProvider.Helm.Charts
import OcneProvider.Runtime.Refinement
import OcneProvider.Runtime.Client
import OcneProvider.Runtime.Tracking
import OcneProvider.Topology.Schemas
import OcneProvider.Topology.Variables
import OcneProvider.Topology.VersionSkew
