import OcneProvider.Controller.Remediation
import OcneProvider.Controller.Scale

/-! One pass of the controller over a control plane that is not being deleted. -/

namespace OcneProvider.Controller.Reconcile
open Api.Meta Api.Conditions Api.Bootstrap Api.Objects Api.Formats Collections Calls Plane Health
open Remediation Scale Etcd.Workload Effects.Fallible

def availableCondition : ConditionType := "Available"

def machineCertificatesExpiryDateAnnotation : String := "machine.cluster.x-k8s.io/certificates-expiry"

def parseVersion (parse : String → Except Err Version) (version : String) : Api Version :=
  adaptError (Err.wrap ("failed to parse kubernetes version " ++ quoted version)) (ExceptT.mk (pure (parse version)))

def runStage (text : String) (task : Task) : Api Unit :=
  adaptError (Err.wrap text) (runTask task)

section Adoption

variable (runtime : Runtime) (ocnecp : OCNEControlPlane)

def upsertOwnerRef (ref : OwnerReference) (target : ObjectIdentity) : List OwnerReference → List OwnerReference
  | [] => [ref]
  | existing :: rest =>
    if refersTo existing target then ref :: rest else existing :: upsertOwnerRef ref target rest

def printedRef (ref : ObjectReference) : String :=
  "&ObjectReference\x7bKind:" ++ ref.kind ++ ",Namespace:" ++ ref.ns ++ ",Name:" ++ ref.name ++ ",UID:" ++
    ref.uid ++ ",APIVersion:" ++ ref.apiVersion ++ ",ResourceVersion:,FieldPath:,\x7d"

/-- A version too far from the control plane's is not an error. -/
def checkAdoption (ocnecpVersion : Version) (machine : Machine) : Except Err Bool := do
  let some ref := machine.configRef
    | throw (errorf ("unable to adopt Machine " ++ machine.ns ++ "/" ++ machine.name ++
        ": expected a ConfigRef of kind OCNEConfig but instead found nil"))
  if ref.kind ≠ "OCNEConfig" then
    throw (errorf ("unable to adopt Machine " ++ machine.ns ++ "/" ++ machine.name ++
      ": expected a ConfigRef of kind OCNEConfig but instead found " ++ printedRef ref))
  if ref.ns ≠ "" ∧ ref.ns ≠ ocnecp.ns then
    throw (errorf ("could not adopt resources from OCNEConfig " ++ ref.ns ++ "/" ++ ref.name ++
      ": cannot adopt across namespaces"))
  let some version := machine.version | return true
  match runtime.parseTolerant version with
  | .error error => throw (error.wrap ("failed to parse kubernetes version " ++ quoted version))
  | .ok machineVersion => return isSupportedVersionSkew ocnecpVersion machineVersion

def checkAdoptions (ocnecpVersion : Version) : List Machine → Except Err Bool
  | [] => .ok true
  | machine :: rest => do
    if ← checkAdoption runtime ocnecp ocnecpVersion machine then checkAdoptions ocnecpVersion rest
    else return false

/-- A machine that has another controller cannot get a second one. -/
def alreadyOwned (machine : Machine) : Option Err :=
  match getControllerOf machine.ownerReferences with
  | none => none
  | some existing =>
    if refersTo existing ocnecp.identity then none
    else some (errorf ("Object " ++ machine.ns ++ "/" ++ machine.name ++ " is already owned by another " ++
      existing.kind ++ " controller " ++ existing.name))

def adoptMachine (machine : Machine) : Api Unit := do
  let some ref := machine.configRef | throw nilPointerDereference
  let config ← getOCNEConfig ocnecp.ns ref.name
  runTask (.adoptOwnedSecrets config.name)
  runTask (.newHelper machine.name)
  if machine.ns ≠ ocnecp.ns then
    throw (errorf ("cross-namespace owner references are disallowed, owner's namespace " ++ ocnecp.ns ++
      ", obj's namespace " ++ machine.ns))
  if let some error := alreadyOwned ocnecp machine then throw error
  patchMachine machine.name ⟨none, machine.conditions,
    some (upsertOwnerRef ocnecp.newControllerRef ocnecp.identity machine.ownerReferences)⟩

def adoptEach : List Machine → Api Unit
  | [] => return ()
  | machine :: rest => do
    adoptMachine ocnecp machine
    adoptEach rest

def adoptUndeleted (checked adopted : List Machine) : Api Unit := do
  let ocnecpVersion ← parseVersion runtime.parseTolerant ocnecp.spec.version
  if ← ExceptT.mk (pure (checkAdoptions runtime ocnecp ocnecpVersion checked)) then adoptEach ocnecp adopted

/-- The machines are gone through twice, each time in an order of its own. -/
def adoptMachines (checked adopted : List Machine) : Api Unit := do
  let deletionTimestamp ← adaptError (Err.wrap ("failed to check whether " ++ ocnecp.ns ++ "/" ++ ocnecp.name ++
    " was deleted before adoption")) getControlPlaneUncached
  if deletionTimestamp.isSome then
    throw (errorf (ocnecp.ns ++ "/" ++ ocnecp.name ++ " has just been deleted at " ++
      (ocnecp.deletionTimestamp.map runtime.formatTime).getD "<nil>"))
  adoptUndeleted runtime ocnecp checked adopted

end Adoption

section Stages

variable (runtime : Runtime) (controlPlane : ControlPlane)

def labelMachines : ControlPlane :=
  let name := controlPlane.ocnecp.name
  { controlPlane with
    machines := controlPlane.machines.modify (fun machine =>
      if (machine.labels.lookup machineControlPlaneNameLabel).any (mustEqualValue name) then machine
      else { machine with labels := machine.labels.insert machineControlPlaneNameLabel (mustFormatValue name) })
      (fun machine => by split <;> rfl) }

def reconcileControlPlaneConditions : Api ControlPlane := do
  if !controlPlane.ocnecp.initialized then return controlPlane
  runStage "cannot get remote client to workload cluster" .getWorkloadCluster
  let controlPlane ← ExceptT.lift (updateStaticPodConditions controlPlane)
  let controlPlane ← updateEtcdConditions controlPlane
  controlPlane.patchMachines
  return controlPlane

/-- Removes members without a machine, unless all are known to be in order. -/
def reconcileEtcdMembers : Api Unit := do
  if !controlPlane.isEtcdManaged then return
  if controlPlane.machines.len = 0 then return
  if hasProvisioningMachine controlPlane.machines then return
  if isTrue controlPlane.ocnecp.conditions etcdClusterHealthyCondition then return
  runStage "cannot get remote client to workload cluster" .getWorkloadCluster
  let parsedVersion ← parseVersion runtime.parseTolerant controlPlane.ocnecp.spec.version
  let nodeNames := controlPlane.machines.items.filterMap Machine.nodeRef
  match ← ExceptT.lift (Etcd.Workload.reconcileEtcdMembers nodeNames parsedVersion) with
  | (_, some error) => throw (error.wrap "failed attempt to reconcile etcd members")
  | (_, none) => return

def noteExpiry (machine : Machine) (config : OCNEConfig) (nodeName : String) : Api OCNEConfig := do
  let text := "failed to reconcile certificate expiry for Machine/" ++ machine.name
  let expiry := runtime.formatTime (← adaptError (Err.wrap text) (getAPIServerCertificateExpiry nodeName))
  runStage (text ++ ": failed to create PatchHelper for OCNEConfig/" ++ config.name) (.newHelper config.name)
  runStage (text ++ ": failed to patch OCNEConfig/" ++ config.name) (.setCertificateExpiry config.name expiry)
  return { config with annotations := config.annotations.insert machineCertificatesExpiryDateAnnotation expiry }

/-- Machines with a node and a configuration without an expiry. -/
def reconcileExpiries (configs : String → Option OCNEConfig) : List Machine → Api (String → Option OCNEConfig)
  | [] => return configs
  | machine :: rest =>
    match configs machine.name, machine.nodeRef with
    | some config, some nodeName =>
      if (config.annotations.lookup machineCertificatesExpiryDateAnnotation).isSome then
        reconcileExpiries configs rest
      else do
        let noted ← noteExpiry runtime machine config nodeName
        reconcileExpiries (fun name => if name = machine.name then some noted else configs name) rest
    | _, _ => reconcileExpiries configs rest

def reconcileCertificateExpiries : Api ControlPlane := do
  if controlPlane.machines.len = 0 then return controlPlane
  if !controlPlane.ocnecp.initialized then return controlPlane
  runStage "failed to reconcile certificate expiries: cannot get remote client to workload cluster"
    .getWorkloadCluster
  let ocneConfigs ← reconcileExpiries runtime controlPlane.ocneConfigs
    (controlPlane.machines.filter (!hasDeletionTimestamp ·)).items
  return { controlPlane with ocneConfigs := ocneConfigs }

/-- The updates of the kubeadm config map that come before a rollout. -/
def updateOCNEConfigMap (spec : OCNEControlPlaneSpec) : Api Unit := do
  runStage "failed to update the kubernetes version in the kubeadm config map"
    .updateKubernetesVersionInOCNEConfigMap
  if let some configuration := spec.controlPlaneConfig.clusterConfiguration then
    let _ ← parseVersion parseMajorMinorPatchTolerant spec.version
    runStage "failed to update the image repository in the kubeadm config map" .updateImageRepositoryInOCNEConfigMap
    if configuration.etcd.localEtcd.isSome then
      runStage "failed to update the etcd version in the kubeadm config map" .updateEtcdVersionInOCNEConfigMap
      runStage "failed to update the etcd extra args in the kubeadm config map" .updateEtcdExtraArgsInOCNEConfigMap
    runStage "failed to update api server in the kubeadm config map" .updateAPIServerInOCNEConfigMap
    runStage "failed to update controller manager in the kubeadm config map" .updateControllerManagerInOCNEConfigMap
    runStage "failed to update scheduler in the kubeadm config map" .updateSchedulerInOCNEConfigMap
  runStage "failed to upgrade kubelet config map" .updateKubeletConfigMap

/-- The number of machines a rollout may have, in 32 bit arithmetic. -/
def maxNodes (replicas : Int32) (maxSurge : IntOrString) : Int32 :=
  replicas + Int32.ofInt maxSurge.intValue

def upgradeControlPlane (cluster : Cluster) (ocnecp : OCNEControlPlane) (machinesRequireUpgrade : Machines) :
    Api Result := do
  let some strategy := ocnecp.spec.rolloutStrategy | throw (errorf "rolloutStrategy is not set")
  let some rollingUpdate := strategy.rollingUpdate | throw (errorf "rolloutStrategy is not set")
  runTask .getWorkloadCluster
  let _ ← parseVersion runtime.parseTolerant ocnecp.spec.version
  runStage "failed to reconcile the remote kubelet RBAC role" .reconcileKubeletRBACRole
  runStage "failed to reconcile the remote kubelet RBAC binding" .reconcileKubeletRBACBinding
  runStage "failed to set role and role binding for kubeadm" .allowBootstrapTokensToGetNodes
  updateOCNEConfigMap ocnecp.spec
  if strategy.type = rollingUpdateStrategyType then
    let some replicas := ocnecp.spec.replicas | throw nilPointerDereference
    let some maxSurge := rollingUpdate.maxSurge | throw nilPointerDereference
    if Int32.ofNat controlPlane.machines.len < maxNodes replicas maxSurge then
      scaleUpControlPlane runtime cluster ocnecp controlPlane
    else scaleDownControlPlane runtime ocnecp controlPlane machinesRequireUpgrade
  else return .empty

def reconcileWorkload (ocnecp : OCNEControlPlane) : Api Result := do
  match ← attempt (runTask .getWorkloadCluster) with
  | .error _ => return requeue
  | .ok _ =>
    runStage "failed to set role and role binding for kubeadm" .allowBootstrapTokensToGetNodes
    let _ ← parseVersion parseMajorMinorPatchTolerant ocnecp.spec.version
    runTask .updateKubeProxyImageInfo
    runStage "failed to update CoreDNS deployment" .updateCoreDNS
    if ocnecp.spec.moduleOperator && isTrue controlPlane.ocnecp.conditions availableCondition then
      runTask .reconcileOCNEModuleOperator
    if ocnecp.spec.verrazzanoPlatformOperator && isTrue controlPlane.ocnecp.conditions availableCondition then
      runTask .reconcileVerrazzanoPlatformOperator
    return .empty

/-- Rollout of outdated machines, else scaling, else the rest of the cluster. -/
def reconcileMachines (cluster : Cluster) (ocnecp : OCNEControlPlane) : Api Result := do
  let (needRollout, controlPlane) := controlPlane.machinesNeedingRollout runtime.codec
  if 0 < needRollout.len then upgradeControlPlane runtime controlPlane cluster ocnecp needRollout
  else
    let some replicas := ocnecp.spec.replicas | throw nilPointerDereference
    let numMachines : Int := controlPlane.machines.len
    let desiredReplicas := replicas.toInt
    if numMachines < desiredReplicas ∧ numMachines = 0 then
      initializeControlPlane runtime cluster ocnecp controlPlane
    else if numMachines < desiredReplicas ∧ 0 < numMachines then
      scaleUpControlPlane runtime cluster ocnecp controlPlane
    else if desiredReplicas < numMachines then
      scaleDownControlPlane runtime ocnecp controlPlane ⟨[], List.nodup_nil⟩
    else reconcileWorkload controlPlane ocnecp

def reconcileOwned (cluster : Cluster) (ocnecp : OCNEControlPlane) (owned : Machines) : Api Result := do
  let controlPlane ← newControlPlane cluster ocnecp owned
  let controlPlane ← reconcileControlPlaneConditions (labelMachines controlPlane)
  reconcileEtcdMembers runtime controlPlane
  let (result, controlPlane) ← reconcileUnhealthyMachines runtime controlPlane
  if !result.isZero then return result
  let controlPlane ← reconcileCertificateExpiries runtime controlPlane
  reconcileMachines runtime controlPlane cluster ocnecp

end Stages

def reconcile (runtime : Runtime) (cluster : Cluster) (ocnecp : OCNEControlPlane) : Api Result := do
  runTask .reconcileExternalReference
  if !cluster.infrastructureReady then return .empty
  runTask .lookupOrGenerateCertificates
  if !cluster.endpointIsValid then return .empty
  let result ← reconcileKubeconfig
  if !result.isZero then return result
  let listed ← listMachines cluster.name
  let machines := listed.filter (controlPlaneMachines cluster.name)
  let adoptable := machines.filter (adoptableControlPlaneMachines cluster.name)
  if 0 < adoptable.len then
    adoptMachines runtime ocnecp adoptable.items adoptable.items
    return .empty
  runTask .ensureCertificatesOwnerRef
  let owned := machines.filter (ownedMachines ocnecp.identity)
  if owned.len ≠ machines.len then return .empty
  reconcileOwned runtime cluster ocnecp owned

end OcneProvider.Controller.Reconcile
