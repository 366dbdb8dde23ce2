import OcneProvider.Api.Formats
import OcneProvider.Controller.Collections
import OcneProvider.Effects.Fallible

/-! The calls a pass of the control plane controller makes: to the management
cluster, to the workload cluster and to the etcd members on its nodes. -/

namespace OcneProvider.Controller.Calls
open Api.Meta Api.Conditions Api.Bootstrap Api.Objects Collections
open Effects.Program Effects.Fallible

structure Result where
  requeue : Bool
  requeueAfter : Duration
  deriving DecidableEq

def Result.empty : Result := ⟨false, 0⟩

def Result.isZero (result : Result) : Bool :=
  result == .empty

structure InfraObject where
  labels : StringMap
  annotations : StringMap
  deriving DecidableEq

structure CreateFromTemplateInput where
  templateRef : ObjectReference
  ns : String
  ownerRef : OwnerReference
  clusterName : String
  labels : StringMap
  annotations : StringMap

structure MachinePatch where
  controlPlaneName : Option String
  conditions : ConditionList
  ownerReferences : Option (List OwnerReference)

inductive AlarmType where
  | ok
  | noSpace
  | corrupt
  deriving DecidableEq

structure EtcdClient where
  node : String
  leaderID : Nat
  errors : List String

structure PbMember where
  id : Nat
  name : String
  deriving DecidableEq

structure MemberAlarm where
  memberID : Nat
  type : AlarmType

/-- Stages that only succeed or fail as far as the rest of the pass can see. -/
inductive Task where
  | reconcileExternalReference
  | lookupOrGenerateCertificates
  | ensureCertificatesOwnerRef
  | adoptOwnedSecrets (config : String)
  | newHelper (object : String)
  | getWorkloadCluster
  | getOCNEConfigMap
  | updateClusterStatus (removedNode : String)
  | reconcileKubeletRBACRole
  | reconcileKubeletRBACBinding
  | allowBootstrapTokensToGetNodes
  | updateKubernetesVersionInOCNEConfigMap
  | updateImageRepositoryInOCNEConfigMap
  | updateEtcdVersionInOCNEConfigMap
  | updateEtcdExtraArgsInOCNEConfigMap
  | updateAPIServerInOCNEConfigMap
  | updateControllerManagerInOCNEConfigMap
  | updateSchedulerInOCNEConfigMap
  | updateKubeletConfigMap
  | updateKubeProxyImageInfo
  | updateCoreDNS
  | reconcileOCNEModuleOperator
  | reconcileVerrazzanoPlatformOperator
  | setCertificateExpiry (config expiry : String)
  deriving DecidableEq

inductive Call where
  | task (task : Task)
  | reconcileKubeconfig
  | getControlPlaneUncached
  | listMachines (clusterName : String)
  | getInfra (ref : ObjectReference)
  | getOCNEConfig (ns name : String)
  | now
  | generateName (base : String)
  | createFromTemplate (input : CreateFromTemplateInput)
  | createOCNEConfig (config : OCNEConfig)
  | createMachine (machine : Machine)
  | patchMachine (name : String) (patch : MachinePatch)
  | deleteMachine (name : String)
  | deleteObject (ref : ObjectReference)
  | getPod (name : String)
  | getAPIServerCertificateExpiry (node : String)
  | listNodes (label : String)
  | newEtcdClient (node : String)
  | memberList (node : String)
  | alarmList (node : String)
  | memberRemove (node : String) (id : Nat)
  | moveLeader (node : String) (id : Nat)

def Call.Answer : Call → Type
  | task _ => Except Err Unit
  | reconcileKubeconfig => Except Err Result
  | getControlPlaneUncached => Except Err (Option Time)
  | listMachines _ => Except Err Machines
  | getInfra _ => Except Err InfraObject
  | getOCNEConfig _ _ => Except Err OCNEConfig
  | now => Time
  | generateName _ => String
  | createFromTemplate _ => Except Err ObjectReference
  | createOCNEConfig _ => Except Err String
  | createMachine _ => Except Err Unit
  | patchMachine _ _ => Except Err Unit
  | deleteMachine _ => Except Err Unit
  | deleteObject _ => Except Err Unit
  | getPod _ => Except Err Pod
  | getAPIServerCertificateExpiry _ => Except Err Time
  | listNodes _ => Except Err (List Node)
  | newEtcdClient _ => Except Err EtcdClient
  | memberList _ => Except Err (Nat × List PbMember)
  | alarmList _ => Except Err (List MemberAlarm)
  | memberRemove _ _ => Except Err Unit
  | moveLeader _ _ => Except Err Unit

abbrev signature : Signature := ⟨Call, Call.Answer⟩

abbrev Api := Try signature Err

def issue (call : Call) : Prog signature call.Answer :=
  Prog.perform (S := signature) call

def runTask (task : Task) : Api Unit := ExceptT.mk (issue (.task task))

def reconcileKubeconfig : Api Result := ExceptT.mk (issue .reconcileKubeconfig)

def getControlPlaneUncached : Api (Option Time) := ExceptT.mk (issue .getControlPlaneUncached)

def listMachines (clusterName : String) : Api Machines := ExceptT.mk (issue (.listMachines clusterName))

def getInfra (ref : ObjectReference) : Api InfraObject := ExceptT.mk (issue (.getInfra ref))

def getOCNEConfig (ns name : String) : Api OCNEConfig := ExceptT.mk (issue (.getOCNEConfig ns name))

def now : Api Time := ExceptT.lift (issue .now)

def generateName (base : String) : Api String := ExceptT.lift (issue (.generateName base))

def createFromTemplate (input : CreateFromTemplateInput) : Api ObjectReference :=
  ExceptT.mk (issue (.createFromTemplate input))

def createOCNEConfig (config : OCNEConfig) : Api String := ExceptT.mk (issue (.createOCNEConfig config))

def createMachine (machine : Machine) : Api Unit := ExceptT.mk (issue (.createMachine machine))

def patchMachine (name : String) (patch : MachinePatch) : Api Unit :=
  ExceptT.mk (issue (.patchMachine name patch))

def deleteMachine (name : String) : Api Unit := ExceptT.mk (issue (.deleteMachine name))

def deleteObject (ref : ObjectReference) : Api Unit := ExceptT.mk (issue (.deleteObject ref))

def getPod (name : String) : Api Pod := ExceptT.mk (issue (.getPod name))

def getAPIServerCertificateExpiry (node : String) : Api Time :=
  ExceptT.mk (issue (.getAPIServerCertificateExpiry node))

def listNodes (label : String) : Api (List Node) := ExceptT.mk (issue (.listNodes label))

def newEtcdClient (node : String) : Api EtcdClient := ExceptT.mk (issue (.newEtcdClient node))

def memberList (node : String) : Api (Nat × List PbMember) := ExceptT.mk (issue (.memberList node))

def alarmList (node : String) : Api (List MemberAlarm) := ExceptT.mk (issue (.alarmList node))

def memberRemove (node : String) (id : Nat) : Api Unit := ExceptT.mk (issue (.memberRemove node id))

def moveLeaderTo (node : String) (id : Nat) : Api Unit := ExceptT.mk (issue (.moveLeader node id))

end OcneProvider.Controller.Calls
