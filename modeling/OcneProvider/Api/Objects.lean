import OcneProvider.Api.Bootstrap

/-! The objects of the management cluster that the control plane controller reads
and writes, and the nodes of the workload cluster. -/

namespace OcneProvider.Api.Objects
open Meta Conditions Bootstrap

structure Machine where
  name : String
  ns : String
  labels : StringMap
  annotations : StringMap
  ownerReferences : List OwnerReference
  creationTimestamp : Time
  deletionTimestamp : Option Time
  clusterName : String
  version : Option String
  failureDomain : Option String
  configRef : Option ObjectReference
  infrastructureRef : ObjectReference
  nodeDrainTimeout : Option Duration
  nodeVolumeDetachTimeout : Option Duration
  nodeDeletionTimeout : Option Duration
  /-- The name of the node, once the machine has one. -/
  nodeRef : Option String
  certificatesExpiryDate : Option Time
  conditions : ConditionList
  deriving DecidableEq, Inhabited

structure FailureDomains where
  entries : List (String × Bool)
  distinct : (entries.map Prod.fst).Nodup

instance : Inhabited FailureDomains := ⟨[], List.nodup_nil⟩

def FailureDomains.filterControlPlane (domains : FailureDomains) : FailureDomains where
  entries := domains.entries.filter Prod.snd
  distinct := domains.distinct.sublist (List.filter_sublist.map _)

def FailureDomains.getIDs (domains : FailureDomains) : List String :=
  domains.entries.map Prod.fst

structure Cluster where
  name : String
  ns : String
  uid : String
  infrastructureReady : Bool
  controlPlaneEndpoint : String × Int32
  failureDomains : FailureDomains
  deriving Inhabited

def Cluster.endpointIsValid (cluster : Cluster) : Bool :=
  cluster.controlPlaneEndpoint.1 != "" && cluster.controlPlaneEndpoint.2 != 0

structure Node where
  name : String
  labels : StringMap
  taints : List Taint
  /-- The conditions of the node by their types, with the status of each. -/
  conditions : List (String × ConditionStatus)
  deriving DecidableEq

inductive PodPhase where
  | pending
  | running
  | succeeded
  | failed
  | unknown
  | other
  deriving DecidableEq

structure ContainerStatus where
  /-- The exit code of the last termination, if there was one. -/
  lastTermination : Option Int
  /-- The reasons for which the container waits or has terminated, if it does or has. -/
  waiting : Option String
  terminated : Option String
  deriving DecidableEq

structure Pod where
  phase : PodPhase
  conditions : List (String × ConditionStatus)
  containerStatuses : List ContainerStatus
  deriving DecidableEq

inductive IntOrString where
  | int (value : Int32)
  | str (value : String)
  deriving DecidableEq

def decimal? (digits : List Char) : Option Nat :=
  if digits ≠ [] ∧ digits.all Char.isDigit then
    some (digits.foldl (fun value digit => 10 * value + (digit.toNat - '0'.toNat)) 0)
  else none

/-- What `strconv.Atoi` returns beside its error: zero, or the nearest 64 bit integer. -/
def atoi (text : String) : Int :=
  match text.toList with
  | '-' :: digits => max (-2 ^ 63) (-((decimal? digits).getD 0 : Int))
  | '+' :: digits => min (2 ^ 63 - 1) ((decimal? digits).getD 0)
  | digits => min (2 ^ 63 - 1) ((decimal? digits).getD 0)

def IntOrString.intValue : IntOrString → Int
  | int value => value.toInt
  | str value => atoi value

structure RollingUpdate where
  maxSurge : Option IntOrString
  deriving DecidableEq

def rollingUpdateStrategyType : String := "RollingUpdate"

structure RolloutStrategy where
  type : String
  rollingUpdate : Option RollingUpdate
  deriving DecidableEq

structure RolloutBefore where
  certificatesExpiryDays : Option Int32
  deriving DecidableEq

structure MachineTemplate where
  labels : StringMap
  annotations : StringMap
  infrastructureRef : ObjectReference
  nodeDrainTimeout : Option Duration
  nodeVolumeDetachTimeout : Option Duration
  nodeDeletionTimeout : Option Duration
  deriving DecidableEq, Inhabited

structure OCNEControlPlaneSpec where
  replicas : Option Int32
  version : String
  machineTemplate : MachineTemplate
  controlPlaneConfig : OCNEConfigSpec
  rolloutBefore : Option RolloutBefore
  rolloutAfter : Option Time
  rolloutStrategy : Option RolloutStrategy
  /-- Whether the optional operators are given at all. -/
  moduleOperator : Bool
  verrazzanoPlatformOperator : Bool
  deriving DecidableEq, Inhabited

structure OCNEControlPlane where
  name : String
  ns : String
  uid : String
  deletionTimestamp : Option Time
  spec : OCNEControlPlaneSpec
  initialized : Bool
  conditions : ConditionList
  deriving DecidableEq, Inhabited

def controlPlaneGroup : String := "controlplane.cluster.x-k8s.io"

def controlPlaneGroupVersion : String := "controlplane.cluster.x-k8s.io/v1alpha1"

def OCNEControlPlane.identity (ocnecp : OCNEControlPlane) : ObjectIdentity :=
  ⟨controlPlaneGroup, "OCNEControlPlane", ocnecp.name⟩

def OCNEControlPlane.newControllerRef (ocnecp : OCNEControlPlane) : OwnerReference :=
  ⟨controlPlaneGroupVersion, "OCNEControlPlane", ocnecp.name, ocnecp.uid, some true, some true⟩

def OCNEControlPlane.asOwnerReference (ocnecp : OCNEControlPlane) : OwnerReference :=
  ⟨controlPlaneGroupVersion, "OCNEControlPlane", ocnecp.name, ocnecp.uid, none, none⟩

theorem refersTo_newControllerRef (ocnecp : OCNEControlPlane) :
    refersTo ocnecp.newControllerRef ocnecp.identity = true := by
  have group : parseGroup controlPlaneGroupVersion = some controlPlaneGroup := by decide
  simp [refersTo, OCNEControlPlane.newControllerRef, OCNEControlPlane.identity, group]

def OCNEControlPlane.isEtcdManaged (ocnecp : OCNEControlPlane) : Bool :=
  match ocnecp.spec.controlPlaneConfig.clusterConfiguration with
  | none => true
  | some configuration => configuration.etcd.external.isNone

end OcneProvider.Api.Objects
