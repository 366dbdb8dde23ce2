import OcneProvider.Controller.Filters

/-! The control plane as one pass sees it: the machines it owns with their
bootstrap and infrastructure objects, and the choices made among them. -/

namespace OcneProvider.Controller.Plane
open Api.Meta Api.Bootstrap Api.Objects Api.Formats Collections Calls Filters
open Effects.Fallible

/-- The text form of configurations, the order of failure domains with equal counts, version parsing and the printing
of times. -/
structure Runtime where
  codec : Codec
  order : DomainOrder
  parseTolerant : String → Except Err Version
  formatTime : Time → String

instance : Inhabited Runtime :=
  ⟨⟨fun _ => .ok "", fun _ => .ok none⟩, default, Api.Formats.parseMajorMinorPatchTolerant, fun _ => ""⟩

structure ControlPlane where
  ocnecp : OCNEControlPlane
  cluster : Cluster
  machines : Machines
  reconciliationTime : Time
  /-- The objects that were found, by the name of the machine they belong to. -/
  ocneConfigs : String → Option OCNEConfig
  infraResources : String → Option InfraObject

def getInfraResources : List Machine → Api (String → Option InfraObject)
  | [] => return fun _ => none
  | machine :: rest => do
    match ← attempt (getInfra { machine.infrastructureRef with ns := machine.ns }) with
    | .ok infraObj =>
      let later ← getInfraResources rest
      return fun name => if name = machine.name then some infraObj else later name
    | .error error =>
      if error.is .notFound then getInfraResources rest
      else throw (error.wrap ("failed to retrieve infra obj for machine " ++ quoted machine.name))

def getOCNEConfigs : List Machine → Api (String → Option OCNEConfig)
  | [] => return fun _ => none
  | machine :: rest =>
    match machine.configRef with
    | none => getOCNEConfigs rest
    | some ref => do
      match ← attempt (getOCNEConfig machine.ns ref.name) with
      | .ok machineConfig =>
        let later ← getOCNEConfigs rest
        return fun name => if name = machine.name then some machineConfig else later name
      | .error error =>
        if error.is .notFound then getOCNEConfigs rest
        else throw (error.wrap ("failed to retrieve bootstrap config for machine " ++ quoted machine.name))

def newPatchHelpers : List Machine → Api Unit
  | [] => return ()
  | machine :: rest => do
    adaptError (Err.wrap ("failed to create patch helper for machine " ++ machine.name))
      (runTask (.newHelper machine.name))
    newPatchHelpers rest

def newControlPlane (cluster : Cluster) (ocnecp : OCNEControlPlane) (ownedMachines : Machines) :
    Api ControlPlane := do
  let infraResources ← getInfraResources ownedMachines.items
  let ocneConfigs ← getOCNEConfigs ownedMachines.items
  newPatchHelpers ownedMachines.items
  let reconciliationTime ← now
  return ⟨ocnecp, cluster, ownedMachines, reconciliationTime, ocneConfigs, infraResources⟩

def patchEach : List Machine → Api (List Err)
  | [] => return []
  | machine :: rest => do
    let patched ← attempt (patchMachine machine.name
      ⟨machine.labels.lookup machineControlPlaneNameLabel, machine.conditions, none⟩)
    let later ← patchEach rest
    match patched with
    | .ok _ => return later
    | .error error => return error.wrap ("failed to patch machine " ++ machine.name) :: later

namespace ControlPlane

variable (controlPlane : ControlPlane)

def isEtcdManaged : Bool :=
  controlPlane.ocnecp.isEtcdManaged

def hasDeletingMachine : Bool :=
  0 < (controlPlane.machines.filter hasDeletionTimestamp).len

def unhealthyMachines : Machines :=
  controlPlane.machines.filter hasUnhealthyCondition

def healthyMachines : Machines :=
  controlPlane.machines.filter (!hasUnhealthyCondition ·)

def machineWithDeleteAnnotation (machines : Machines) : Machines :=
  machines.filter (hasAnnotationKey deleteMachineAnnotation)

def failureDomainWithMostMachines (order : DomainOrder) (machines : Machines) : Option String :=
  let failureDomains := controlPlane.cluster.failureDomains.filterControlPlane
  let notInFailureDomains := machines.filter (!inFailureDomains (failureDomains.getIDs.map some) ·)
  match notInFailureDomains.oldest with
  | some machine => machine.failureDomain
  | none => pickMost order failureDomains controlPlane.machines machines

def machineInFailureDomainWithMostMachines (order : DomainOrder) (machines : Machines) :
    Except Err Machine :=
  let failureDomain := controlPlane.failureDomainWithMostMachines order machines
  match (machines.filter (inFailureDomains [failureDomain])).oldest with
  | some machine => .ok machine
  | none => .error (errorf "failed to pick control plane Machine to mark for deletion")

/-- The test may change the configuration it looks at. -/
def select (considered : Machines) (test : Machine → Option OCNEConfig → Bool × Option OCNEConfig) :
    Machines × ControlPlane :=
  (considered.filter fun machine => (test machine (controlPlane.ocneConfigs machine.name)).1,
    { controlPlane with
      ocneConfigs := fun name =>
        match considered.items.find? (·.name == name) with
        | none => controlPlane.ocneConfigs name
        | some machine => (test machine (controlPlane.ocneConfigs name)).2 })

def isScheduledForRollout (machine : Machine) : Bool :=
  shouldRolloutBefore controlPlane.reconciliationTime controlPlane.ocnecp.spec.rolloutBefore machine ||
    shouldRolloutAfter controlPlane.reconciliationTime controlPlane.ocnecp.spec.rolloutAfter machine

/-- Whether a machine is due for rollout or not as the control plane asks. -/
def needsRollout (codec : Codec) (machine : Machine) (machineConfig : Option OCNEConfig) :
    Bool × Option OCNEConfig :=
  if controlPlane.isScheduledForRollout machine then (true, machineConfig)
  else
    let (same, machineConfig) := matchesMachineSpec codec (controlPlane.infraResources machine.name)
      machineConfig controlPlane.ocnecp machine
    (!same, machineConfig)

def machinesNeedingRollout (codec : Codec) : Machines × ControlPlane :=
  controlPlane.select (controlPlane.machines.filter (!hasDeletionTimestamp ·)) (controlPlane.needsRollout codec)

def upToDateMachines (codec : Codec) : Machines × ControlPlane :=
  controlPlane.select controlPlane.machines fun machine machineConfig =>
    let (outdated, machineConfig) := controlPlane.needsRollout codec machine machineConfig
    (!outdated, machineConfig)

def nextFailureDomainForScaleUp (runtime : Runtime) : Option String :=
  let failureDomains := controlPlane.cluster.failureDomains.filterControlPlane
  if failureDomains.entries = [] then none
  else pickFewest runtime.order failureDomains (controlPlane.upToDateMachines runtime.codec).1

def initialControlPlaneConfig : OCNEConfigSpec :=
  { controlPlane.ocnecp.spec.controlPlaneConfig with joinConfiguration := none }

def joinControlPlaneConfig : OCNEConfigSpec :=
  { controlPlane.ocnecp.spec.controlPlaneConfig with initConfiguration := none }

def patchMachines : Api Unit := do
  failIfAny (← patchEach controlPlane.machines.items) ()

end ControlPlane

end OcneProvider.Controller.Plane
