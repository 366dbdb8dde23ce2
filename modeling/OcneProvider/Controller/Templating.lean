import OcneProvider.Controller.Scale

/-! What a machine takes over from the template of its control plane, and how it is found again. -/

namespace OcneProvider.Controller.Templating
open Api.Meta Api.Objects Api.Formats Calls Collections Filters Scale Effects.Program Effects.Fallible Finmap

inductive Requirement where
  | equals (key value : String)
  | present (key : String)

def Requirement.matches (labels : StringMap) : Requirement → Bool
  | equals key value => labels.lookup key == some value
  | present key => (labels.lookup key).isSome

/-- A name that is no label value makes the program panic. -/
def controlPlaneSelectorForCluster (clusterName : String) : Option (List Requirement) :=
  if isValidLabelValue clusterName then
    some [.equals clusterLabelName clusterName, .present machineControlPlaneLabelName]
  else none

def selects (selector : List Requirement) (labels : StringMap) : Bool :=
  selector.all (·.matches labels)

theorem selects_eq_controlPlaneMachines {clusterName : String} {selector : List Requirement}
    (given : controlPlaneSelectorForCluster clusterName = some selector) (machine : Machine) :
    selects selector machine.labels = controlPlaneMachines clusterName machine := by
  unfold controlPlaneSelectorForCluster at given
  split at given
  next =>
    cases given
    simp [selects, Requirement.matches, controlPlaneMachines]
  next => cases given

def ownLabels : List String := [clusterLabelName, machineControlPlaneLabelName, machineControlPlaneNameLabel]

section Labels

variable (ocnecp : OCNEControlPlane) (clusterName : String)

theorem lookup_labels_of_notMem {key : String} (other : key ∉ ownLabels) :
    (controlPlaneMachineLabelsForCluster ocnecp clusterName).lookup key =
      ocnecp.spec.machineTemplate.labels.lookup key := by
  simp only [ownLabels, List.mem_cons, List.not_mem_nil, or_false, not_or] at other
  rw [controlPlaneMachineLabelsForCluster, lookup_insert_of_ne _ other.2.2, lookup_insert_of_ne _ other.2.1,
    lookup_insert_of_ne _ other.1]

theorem lookup_ownLabels :
    (controlPlaneMachineLabelsForCluster ocnecp clusterName).lookup clusterLabelName = some clusterName ∧
    (controlPlaneMachineLabelsForCluster ocnecp clusterName).lookup machineControlPlaneLabelName = some "" ∧
    (controlPlaneMachineLabelsForCluster ocnecp clusterName).lookup machineControlPlaneNameLabel =
      some (mustFormatValue ocnecp.name) := by
  refine ⟨?_, ?_, lookup_insert _⟩
  · rw [controlPlaneMachineLabelsForCluster, lookup_insert_of_ne _ (by decide),
      lookup_insert_of_ne _ (by decide), lookup_insert]
  · rw [controlPlaneMachineLabelsForCluster, lookup_insert_of_ne _ (by decide), lookup_insert]

end Labels

structure Request where
  cluster : Cluster
  ocnecp : OCNEControlPlane
  codec : Codec
  infraRef : ObjectReference
  bootstrapRef : ObjectReference
  failureDomain : Option String

def Request.template (request : Request) : MachineTemplate :=
  request.ocnecp.spec.machineTemplate

def Request.Selected (request : Request) (machine : Machine) : Prop :=
  ∃ selector, controlPlaneSelectorForCluster request.cluster.name = some selector ∧ selects selector machine.labels = true

/-- The machine is as the template, the control plane and the request say. -/
structure Faithful (request : Request) (machine : Machine) : Prop where
  labels : ∀ key value, key ∉ ownLabels → request.template.labels.lookup key = some value →
    machine.labels.lookup key = some value
  clusterLabel : machine.labels.lookup clusterLabelName = some request.cluster.name
  controlPlaneLabel : machine.labels.lookup machineControlPlaneLabelName = some ""
  controlPlaneNameLabel : machine.labels.lookup machineControlPlaneNameLabel = some (mustFormatValue request.ocnecp.name)
  annotations : ∀ key value, key ≠ ocneClusterConfigurationAnnotation →
    request.template.annotations.lookup key = some value → machine.annotations.lookup key = some value
  clusterConfiguration : ∃ text,
    request.codec.marshal request.ocnecp.spec.controlPlaneConfig.clusterConfiguration = .ok text ∧
      machine.annotations.lookup ocneClusterConfigurationAnnotation = some text
  drain : ∀ timeout, request.template.nodeDrainTimeout = some timeout → machine.nodeDrainTimeout = some timeout
  volumeDetach : ∀ timeout, request.template.nodeVolumeDetachTimeout = some timeout →
    machine.nodeVolumeDetachTimeout = some timeout
  deletion : ∀ timeout, request.template.nodeDeletionTimeout = some timeout → machine.nodeDeletionTimeout = some timeout
  version : machine.version = some request.ocnecp.spec.version
  failureDomain : machine.failureDomain = request.failureDomain
  infrastructure : machine.infrastructureRef = request.infraRef
  bootstrap : machine.configRef = some request.bootstrapRef
  controller : getControllerOf machine.ownerReferences = some request.ocnecp.newControllerRef
  selected : request.Selected machine

def Request.machine (request : Request) (name clusterConfig : String) : Machine :=
  newMachine request.cluster request.ocnecp name request.infraRef request.bootstrapRef request.failureDomain clusterConfig

section Generation

variable (request : Request) {name clusterConfig : String}

theorem machine_selected_iff :
    request.Selected (request.machine name clusterConfig) ↔ isValidLabelValue request.cluster.name = true := by
  obtain ⟨cluster, plane, -⟩ := lookup_ownLabels request.ocnecp request.cluster.name
  have mem : controlPlaneMachines request.cluster.name (request.machine name clusterConfig) = true := by
    simp [controlPlaneMachines, Request.machine, newMachine, cluster, plane]
  constructor
  · rintro ⟨selector, given, -⟩
    by_contra invalid
    simp [controlPlaneSelectorForCluster, invalid] at given
  · intro valid
    refine ⟨_, if_pos valid, ?_⟩
    rw [selects_eq_controlPlaneMachines (if_pos valid), mem]

theorem machine_faithful_iff
    (marshalled : request.codec.marshal request.ocnecp.spec.controlPlaneConfig.clusterConfiguration = .ok clusterConfig) :
    Faithful request (request.machine name clusterConfig) ↔
      request.template.nodeVolumeDetachTimeout = none ∧ isValidLabelValue request.cluster.name = true := by
  constructor
  · intro faithful
    refine ⟨?_, (machine_selected_iff request).mp faithful.selected⟩
    cases given : request.template.nodeVolumeDetachTimeout with
    | none => rfl
    | some timeout => cases faithful.volumeDetach timeout given
  · rintro ⟨absent, valid⟩
    obtain ⟨cluster, plane, controlPlaneName⟩ := lookup_ownLabels request.ocnecp request.cluster.name
    exact {
      labels := fun key value other given => (lookup_labels_of_notMem _ _ other).trans given
      clusterLabel := cluster
      controlPlaneLabel := plane
      controlPlaneNameLabel := controlPlaneName
      annotations := fun key value other given => (lookup_insert_of_ne _ other).trans given
      clusterConfiguration := ⟨clusterConfig, marshalled, lookup_insert _⟩
      drain := fun timeout given => given
      volumeDetach := fun timeout given => absurd given (by simp [absent])
      deletion := fun timeout given => given
      version := rfl
      failureDomain := rfl
      infrastructure := rfl
      bootstrap := rfl
      controller := rfl
      selected := (machine_selected_iff request).mpr valid }

/-- Faithful exactly if the template has no timeout for detaching volumes, and the cluster's name can stand in a
label. -/
theorem generateMachine_faithful_iff :
    WithinE (fun call => ∀ machine, call = Call.createMachine machine → (Faithful request machine ↔
        request.template.nodeVolumeDetachTimeout = none ∧ isValidLabelValue request.cluster.name = true))
      (fun _ => True) (generateMachine request.cluster request.ocnecp request.codec request.infraRef request.bootstrapRef
        request.failureDomain) := by
  refine withinE_bind.mpr ((withinE_lift _).mpr ⟨fun _ other => (nomatch other), fun name => ?_⟩)
  refine withinE_bind.mpr (withinE_adaptError.mpr fun text marshalled => ?_)
  refine withinE_adaptError.mpr ⟨fun machine same => ?_, fun _ _ _ => trivial⟩
  cases same
  exact machine_faithful_iff request marshalled

def sampleRequest (nodeVolumeDetachTimeout : Option Duration) : Request where
  cluster := { (default : Cluster) with name := "prod" }
  ocnecp := { (default : OCNEControlPlane) with
    name := "prod"
    spec := { (default : OCNEControlPlaneSpec) with
      version := "v1.25.7"
      machineTemplate := { (default : MachineTemplate) with nodeVolumeDetachTimeout } } }
  codec := ⟨fun _ => .ok "", fun _ => .ok none⟩
  infraRef := default
  bootstrapRef := default
  failureDomain := none

theorem plain_template_faithful :
    WithinE (fun call => ∀ machine, call = Call.createMachine machine → Faithful (sampleRequest none) machine)
      (fun _ => True) (generateMachine (sampleRequest none).cluster (sampleRequest none).ocnecp (sampleRequest none).codec
        default default none) :=
  within_widen (generateMachine_faithful_iff (sampleRequest none)) fun _ faithful machine same =>
    (faithful machine same).mpr ⟨rfl, by decide +kernel⟩

/-- A timeout for detaching volumes is lost. -/
theorem volume_detach_timeout_lost :
    (sampleRequest (some (5 * second))).template.nodeVolumeDetachTimeout = some (5 * second) ∧
      ((sampleRequest (some (5 * second))).machine "prod-0" "").nodeVolumeDetachTimeout = none ∧
      ¬ Faithful (sampleRequest (some (5 * second))) ((sampleRequest (some (5 * second))).machine "prod-0" "") := by
  refine ⟨rfl, rfl, fun faithful => ?_⟩
  cases faithful.volumeDetach (5 * second) rfl

end Generation

end OcneProvider.Controller.Templating
