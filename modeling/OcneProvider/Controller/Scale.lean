import OcneProvider.Controller.Health

/-! Creation and deletion of control plane machines by number: the first machine,
further ones, and the choice of the one to delete. -/

namespace OcneProvider.Controller.Scale
open Api.Meta Api.Conditions Api.Bootstrap Api.Objects Api.Formats Collections Calls Filters Plane Health
open Etcd.Workload Effects.Program Effects.Fallible

section Generation

variable (cluster : Cluster) (ocnecp : OCNEControlPlane)

def bootstrapGroupVersion : String := "bootstrap.cluster.x-k8s.io/v1alpha1"

def controlPlaneMachineLabelsForCluster (clusterName : String) : StringMap :=
  ((ocnecp.spec.machineTemplate.labels.insert clusterLabelName clusterName).insert
    machineControlPlaneLabelName "").insert machineControlPlaneNameLabel (mustFormatValue ocnecp.name)

def newOCNEConfig (name : String) (spec : OCNEConfigSpec) : OCNEConfig where
  name := name
  ns := ocnecp.ns
  labels := controlPlaneMachineLabelsForCluster ocnecp cluster.name
  annotations := ocnecp.spec.machineTemplate.annotations
  ownerReferences := [ocnecp.asOwnerReference]
  spec := spec

def generateKubeadmConfig (spec : OCNEConfigSpec) : Api ObjectReference := do
  let name ← generateName (ocnecp.name ++ "-")
  let uid ← adaptError (Err.wrap "Failed to create bootstrap configuration")
    (createOCNEConfig (newOCNEConfig cluster ocnecp name spec))
  return ⟨bootstrapGroupVersion, "OCNEConfig", ocnecp.ns, name, uid⟩

def newMachine (name : String) (infraRef bootstrapRef : ObjectReference) (failureDomain : Option String)
    (clusterConfig : String) : Machine where
  name := name
  ns := ocnecp.ns
  labels := controlPlaneMachineLabelsForCluster ocnecp cluster.name
  annotations := ocnecp.spec.machineTemplate.annotations.insert ocneClusterConfigurationAnnotation clusterConfig
  ownerReferences := [ocnecp.newControllerRef]
  creationTimestamp := 0
  deletionTimestamp := none
  clusterName := cluster.name
  version := some ocnecp.spec.version
  failureDomain := failureDomain
  configRef := some bootstrapRef
  infrastructureRef := infraRef
  nodeDrainTimeout := ocnecp.spec.machineTemplate.nodeDrainTimeout
  -- the field of the template is not looked at
  nodeVolumeDetachTimeout := none
  nodeDeletionTimeout := ocnecp.spec.machineTemplate.nodeDeletionTimeout
  nodeRef := none
  certificatesExpiryDate := none
  conditions := []

def generateMachine (codec : Codec) (infraRef bootstrapRef : ObjectReference) (failureDomain : Option String) :
    Api Unit := do
  let name ← generateName (ocnecp.name ++ "-")
  let clusterConfig ← adaptError (Err.wrap "failed to marshal cluster configuration")
    (ExceptT.mk (pure (codec.marshal ocnecp.spec.controlPlaneConfig.clusterConfiguration)))
  adaptError (Err.wrap "failed to create machine")
    (createMachine (newMachine cluster ocnecp name infraRef bootstrapRef failureDomain clusterConfig))

/-- Objects that are gone already are no error. -/
def cleanupFromGeneration : List ObjectReference → Prog signature (List Err)
  | [] => return []
  | ref :: rest => do
    let deleted ← (deleteObject ref).run
    let later ← cleanupFromGeneration rest
    match deleted with
    | .ok _ => return later
    | .error error =>
      if error.is .notFound then return later
      else return error.wrap "failed to cleanup generated resources after error" :: later

/-- Ends a failed generation: cleans up and fails with all errors. -/
def abandonGeneration {α : Type} (error : Err) (refs : List ObjectReference) : Api α := do
  match newAggregate (← ExceptT.lift (cleanupFromGeneration refs)) with
  | none => throw (aggregate [error])
  | some cleanup => throw (aggregate [error, cleanup.wrap "failed to cleanup generated resources"])

def newInfraInput : CreateFromTemplateInput where
  templateRef := ocnecp.spec.machineTemplate.infrastructureRef
  ns := ocnecp.ns
  ownerRef := ocnecp.asOwnerReference
  clusterName := cluster.name
  labels := controlPlaneMachineLabelsForCluster ocnecp cluster.name
  annotations := ocnecp.spec.machineTemplate.annotations

def cloneConfigsAndGenerateMachine (codec : Codec) (bootstrapSpec : OCNEConfigSpec)
    (failureDomain : Option String) : Api Unit := do
  let infraRef ← adaptError (Err.wrap "failed to clone infrastructure template")
    (createFromTemplate (newInfraInput cluster ocnecp))
  match ← attempt (generateKubeadmConfig cluster ocnecp bootstrapSpec) with
  | .error error => abandonGeneration (error.wrap "failed to generate bootstrap config") [infraRef]
  | .ok bootstrapRef =>
    match ← attempt (generateMachine cluster ocnecp codec infraRef bootstrapRef failureDomain) with
    | .error error => abandonGeneration (error.wrap "failed to create Machine") [infraRef, bootstrapRef]
    | .ok _ => return ()

end Generation

def requeue : Result := ⟨true, 0⟩

def deleteRequeueAfter : Duration := 30 * second

def preflightFailedRequeueAfter : Duration := 15 * second

section Checks

variable (controlPlane : ControlPlane)

def allMachineHealthConditions : List ConditionType :=
  [machineAPIServerPodHealthyCondition, machineControllerManagerPodHealthyCondition,
    machineSchedulerPodHealthyCondition] ++
    if controlPlane.isEtcdManaged then [machineEtcdPodHealthyCondition, machineEtcdMemberHealthyCondition] else []

def ConditionSeverity.text : ConditionSeverity → String
  | .Error => "Error"
  | .Warning => "Warning"
  | .Info => "Info"
  | .None => ""

def preflightCheckCondition (kind : String) (machine : Machine) (type : ConditionType) : Option Err :=
  match get machine.conditions type with
  | none => some (errorf (kind ++ " " ++ machine.name ++ " does not have " ++ type ++ " condition"))
  | some condition =>
    match condition.status with
    | .False => some (errorf (kind ++ " " ++ machine.name ++ " reports " ++ type ++ " condition is false (" ++
        ConditionSeverity.text condition.severity ++ ", " ++ condition.message ++ ")"))
    | .Unknown => some (errorf (kind ++ " " ++ machine.name ++ " reports " ++ type ++
        " condition is unknown (" ++ condition.message ++ ")"))
    | .True => none

def machineErrors (excludeFor : List Machine) : List Err :=
  (controlPlane.machines.items.filter (·.name ∉ excludeFor.map Machine.name)).flatMap fun machine =>
    (allMachineHealthConditions controlPlane).filterMap (preflightCheckCondition "machine" machine)

/-- The empty result if the control plane is stable, else when to look again. -/
def preflightChecks (excludeFor : List Machine) : Result :=
  if controlPlane.machines.len = 0 then .empty
  else if controlPlane.hasDeletingMachine then ⟨false, deleteRequeueAfter⟩
  else if machineErrors controlPlane excludeFor ≠ [] then ⟨false, preflightFailedRequeueAfter⟩
  else .empty

/-- The machines to choose from: annotated ones first, of them the outdated ones. -/
def candidatesForScaleDown (outdatedMachines : Machines) : Machines :=
  let annotatedOutdated := ControlPlane.machineWithDeleteAnnotation outdatedMachines
  let annotated := ControlPlane.machineWithDeleteAnnotation controlPlane.machines
  if 0 < annotatedOutdated.len then annotatedOutdated
  else if 0 < annotated.len then annotated
  else if 0 < outdatedMachines.len then outdatedMachines
  else controlPlane.machines

def selectMachineForScaleDown (order : DomainOrder) (outdatedMachines : Machines) : Except Err Machine :=
  controlPlane.machineInFailureDomainWithMostMachines order
    (candidatesForScaleDown controlPlane outdatedMachines)

end Checks

section Scaling

variable (runtime : Runtime) (cluster : Cluster) (ocnecp : OCNEControlPlane) (controlPlane : ControlPlane)

def initializeControlPlane : Api Result := do
  let listed ← listMachines cluster.name
  let owned := listed.filter (ownedMachines ocnecp.identity)
  if 0 < owned.len then
    throw (errorf ("control plane has already been initialized, found " ++ toString owned.len ++
      " owned machine for cluster " ++ cluster.ns ++ "/" ++ cluster.name ++
      ": controller cache or management cluster is misbehaving"))
  cloneConfigsAndGenerateMachine cluster ocnecp runtime.codec controlPlane.initialControlPlaneConfig
    (controlPlane.nextFailureDomainForScaleUp runtime)
  return requeue

def scaleUpControlPlane : Api Result := do
  let result := preflightChecks controlPlane []
  if !result.isZero then return result
  cloneConfigsAndGenerateMachine cluster ocnecp runtime.codec controlPlane.joinControlPlaneConfig
    (controlPlane.nextFailureDomainForScaleUp runtime)
  return requeue

def removeFromEtcd (machine : Machine) : Api Unit := do
  forwardEtcdLeadership machine controlPlane.machines.newest
  removeEtcdMemberForMachine machine

/-- A machine that is gone already is no error. -/
def deleteScaledDown (machine : Machine) : Api Result := do
  let parsedVersion ← adaptError (Err.wrap ("failed to parse kubernetes version " ++ quoted ocnecp.spec.version))
    (ExceptT.mk (pure (runtime.parseTolerant ocnecp.spec.version)))
  removeMachineFromOCNEConfigMap machine parsedVersion
  match ← attempt (deleteMachine machine.name) with
  | .ok _ => return requeue
  | .error error => if error.is .notFound then return requeue else throw error

def scaleDownControlPlane (outdatedMachines : Machines) : Api Result := do
  let machineToDelete ← adaptError (Err.wrap "failed to select machine for scale down")
    (ExceptT.mk (pure (selectMachineForScaleDown controlPlane runtime.order outdatedMachines)))
  let result := preflightChecks controlPlane [machineToDelete]
  if !result.isZero then return result
  adaptError (Err.wrap "failed to create client to workload cluster") (runTask .getWorkloadCluster)
  if controlPlane.isEtcdManaged then removeFromEtcd controlPlane machineToDelete
  deleteScaledDown runtime ocnecp machineToDelete

end Scaling

end OcneProvider.Controller.Scale
