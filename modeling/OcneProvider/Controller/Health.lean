import OcneProvider.Controller.Plane
import OcneProvider.Etcd.Workload

/-! The health conditions of machines and of the control plane: what is found out
about static pods and etcd members, and how it is summed up. A member that the
inspection expects but does not find ends the pass with a panic. -/

namespace OcneProvider.Controller.Health
open Api.Meta Api.Conditions Api.Objects Collections Calls Plane Etcd.Workload
open Effects.Program Effects.Fallible

def machineAPIServerPodHealthyCondition : ConditionType := "APIServerPodHealthy"

def machineControllerManagerPodHealthyCondition : ConditionType := "ControllerManagerPodHealthy"

def machineSchedulerPodHealthyCondition : ConditionType := "SchedulerPodHealthy"

def machineEtcdPodHealthyCondition : ConditionType := "EtcdPodHealthy"

def machineEtcdMemberHealthyCondition : ConditionType := "EtcdMemberHealthy"

def healthTypes : List ConditionType :=
  [machineAPIServerPodHealthyCondition, machineControllerManagerPodHealthyCondition,
    machineSchedulerPodHealthyCondition, machineEtcdPodHealthyCondition, machineEtcdMemberHealthyCondition]

def controlPlaneComponentsHealthyCondition : ConditionType := "ControlPlaneComponentsHealthy"

def etcdClusterHealthyCondition : ConditionType := "EtcdClusterHealthy"

def deletingReason : String := "Deleting"

def podProvisioningReason : String := "PodProvisioning"

def podMissingReason : String := "PodMissing"

def podFailedReason : String := "PodFailed"

def podInspectionFailedReason : String := "PodInspectionFailed"

def etcdMemberInspectionFailedReason : String := "MemberInspectionFailed"

def etcdMemberUnhealthyReason : String := "EtcdMemberUnhealthy"

def setMachineCondition (now : Time) (machines : Machines) (name : String) (condition : Condition) : Machines :=
  machines.modify (fun machine =>
    if machine.name = name then { machine with conditions := set now machine.conditions condition } else machine)
    (fun machine => by split <;> rfl)

def setAll (now : Time) (conditions : ConditionList) : List Condition → ConditionList :=
  List.foldl (set now) conditions

def setMachineConditions (now : Time) (machines : Machines) (name : String) : List Condition → Machines :=
  List.foldl (fun machines condition => setMachineCondition now machines name condition) machines

def hasNode (nodeName : String) (machine : Machine) : Bool :=
  machine.nodeRef == some nodeName

def hasProvisioningMachine (machines : Machines) : Bool :=
  machines.items.any (·.nodeRef.isNone)

def printed (texts : List String) : String :=
  "[" ++ " ".intercalate texts ++ "]"

structure AggregateInput where
  machineConditions : List ConditionType
  ocnecpErrors : List String
  condition : ConditionType
  unhealthyReason : String
  unknownReason : String
  note : String

def machinesReporting (machines : Machines) (types : List ConditionType) (state : Condition → Bool) :
    List String :=
  ((machines.items.filter fun machine => types.any fun type =>
    (get machine.conditions type).any state).map Machine.name).insertionSort (· ≤ ·)

def hasSeverity (severity : ConditionSeverity) (condition : Condition) : Bool :=
  condition.status == .False && condition.severity == severity

/-- The test for info looks at the machines that report warnings. -/
def aggregateFromMachinesToKCP (now : Time) (machines : Machines) (input : AggregateInput)
    (conditions : ConditionList) : ConditionList :=
  let withErrors := machinesReporting machines input.machineConditions (hasSeverity .Error)
  let withWarnings := machinesReporting machines input.machineConditions (hasSeverity .Warning)
  let withInfo := machinesReporting machines input.machineConditions (hasSeverity .Info)
  let withTrue := machinesReporting machines input.machineConditions (·.status == .True)
  let withUnknown := machinesReporting machines input.machineConditions (·.status == .Unknown)
  let ocnecpErrors := input.ocnecpErrors ++ if withErrors = [] then [] else
    ["Following machines are reporting " ++ input.note ++ " errors: " ++ ", ".intercalate withErrors]
  if ocnecpErrors ≠ [] then
    set now conditions (falseCondition input.condition input.unhealthyReason .Error
      ("; ".intercalate ocnecpErrors))
  else if withWarnings ≠ [] then
    set now conditions (falseCondition input.condition input.unhealthyReason .Warning
      ("Following machines are reporting " ++ input.note ++ " warnings: " ++ ", ".intercalate withWarnings))
  else if withWarnings ≠ [] then
    set now conditions (falseCondition input.condition input.unhealthyReason .Warning
      ("Following machines are reporting " ++ input.note ++ " info: " ++ ", ".intercalate withInfo))
  else if withTrue ≠ [] then
    set now conditions (trueCondition input.condition)
  else if withUnknown ≠ [] then
    set now conditions (unknownCondition input.condition input.unknownReason
      ("Following machines are reporting unknown " ++ input.note ++ " status: " ++ ", ".intercalate withUnknown))
  else conditions

def memberHealthy : Condition := trueCondition machineEtcdMemberHealthyCondition

def memberUnhealthy (message : String) : Condition :=
  falseCondition machineEtcdMemberHealthyCondition etcdMemberUnhealthyReason .Error message

def memberInspectionFailed (message : String) : Condition :=
  unknownCondition machineEtcdMemberHealthyCondition etcdMemberInspectionFailedReason message

def memberDeleting : Condition :=
  falseCondition machineEtcdMemberHealthyCondition deletingReason .Info ""

/-- The members that a node's member knows, or the condition to report. -/
def getCurrentEtcdMembers (nodeName : String) : Prog signature (Except Condition (List Member)) := do
  match ← (forFirstAvailableNode [nodeName]).run with
  | .error error => return .error (memberInspectionFailed
      ("Failed to connect to the etcd pod on the " ++ nodeName ++ " node: " ++ error.message))
  | .ok client =>
    if client.errors ≠ [] then
      return .error (memberUnhealthy
        ("Etcd member status reports errors: " ++ ", ".intercalate client.errors))
    else
      match ← (members client).run with
      | .error _ => return .error (memberUnhealthy
          ("Failed get answer from the etcd member on the " ++ nodeName ++ " node"))
      | .ok known => return .ok known

def memberEqual (first second : List Member) : Bool :=
  (∀ member ∈ first, member.name ∈ second.map Member.name) &&
    (∀ member ∈ second, member.name ∈ first.map Member.name)

def AlarmType.text : AlarmType → String
  | .ok => "NONE"
  | .noSpace => "NOSPACE"
  | .corrupt => "CORRUPT"

/-- What was found so far; all members must report what the first one to answer did. -/
structure Inspection where
  machines : Machines
  ocnecpErrors : List String
  clusterID : Option Nat
  members : Option (List Member)

def inspectMember (expected current : List Member) (clusterID : Option Nat) (nodeName : String) :
    Except Err (Condition × Option Nat) :=
  if !memberEqual expected current then
    .ok (memberUnhealthy ("etcd member reports the cluster is composed by members " ++
      printed (current.map Member.name) ++ ", but all previously seen etcd members are reporting " ++
      printed (expected.map Member.name)), clusterID)
  else match memberForName current nodeName with
  | none => .error nilPointerDereference
  | some member =>
    let alarms := (member.alarms.filter (· ≠ .ok)).map AlarmType.text
    if alarms ≠ [] then
      .ok (memberUnhealthy ("Etcd member reports alarms: " ++ ", ".intercalate alarms), clusterID)
    else
      let known := clusterID.getD member.clusterID
      if known ≠ member.clusterID then
        .ok (memberUnhealthy ("etcd member has cluster ID " ++ toString member.clusterID ++
          ", but all previously seen etcd members have cluster ID " ++ toString known), some known)
      else .ok (memberHealthy, some known)

def inspectNode (now : Time) (found : Inspection) (nodeName : String) : Api Inspection :=
  -- the search for the machine does not stop at the first hit
  match (found.machines.items.filter (hasNode nodeName)).getLast? with
  | none =>
    if hasProvisioningMachine found.machines then return found
    else return { found with ocnecpErrors := found.ocnecpErrors ++
      ["Control plane node " ++ nodeName ++ " does not have a corresponding machine"] }
  | some machine =>
    let report := fun condition => setMachineCondition now found.machines machine.name condition
    if hasDeletionTimestamp machine then return { found with machines := report memberDeleting }
    else do
      match ← ExceptT.lift (getCurrentEtcdMembers nodeName) with
      | .error condition => return { found with machines := report condition }
      | .ok current =>
        let expected := found.members.getD current
        let (condition, clusterID) ← ExceptT.mk (pure (inspectMember expected current found.clusterID nodeName))
        return ⟨report condition, found.ocnecpErrors, clusterID, some expected⟩

def isListed (members : List Member) (machine : Machine) : Bool :=
  machine.nodeRef.all fun nodeName => members.any (·.name == nodeName)

def Member.display (member : Member) : String :=
  if member.name = "" then toString member.id ++ " (Name not yet assigned)" else member.name

def compareMachinesAndMembers (now : Time) (found : Inspection) : Machines × List String :=
  match found.members with
  | none => (found.machines, found.ocnecpErrors)
  | some members =>
    (found.machines.modify (fun machine =>
        if isListed members machine then machine
        else { machine with conditions := set now machine.conditions (memberUnhealthy "Missing etcd member") })
        (fun machine => by split <;> rfl),
      found.ocnecpErrors ++ (members.filter fun member => !found.machines.items.any (hasNode member.name)).map
        fun member => "etcd member " ++ Member.display member ++ " does not have a corresponding machine")

def etcdClusterInput (ocnecpErrors : List String) : AggregateInput where
  machineConditions := [machineEtcdMemberHealthyCondition]
  ocnecpErrors := ocnecpErrors
  condition := etcdClusterHealthyCondition
  unhealthyReason := "EtcdClusterUnhealthy"
  unknownReason := "EtcdClusterUnknown"
  note := "etcd member"

def setConditionOfAll (now : Time) (machines : Machines) (condition : Condition) : Machines :=
  machines.modify (fun machine => { machine with conditions := set now machine.conditions condition }) fun _ => rfl

def concludeInspection (controlPlane : ControlPlane) (found : Inspection) : ControlPlane :=
  let now := controlPlane.reconciliationTime
  let (machines, ocnecpErrors) := compareMachinesAndMembers now found
  { controlPlane with
    machines := machines
    ocnecp.conditions := aggregateFromMachinesToKCP now machines (etcdClusterInput ocnecpErrors)
      controlPlane.ocnecp.conditions }

def updateManagedEtcdConditions (controlPlane : ControlPlane) : Api ControlPlane := do
  let now := controlPlane.reconciliationTime
  match ← attempt getControlPlaneNodes with
  | .error _ =>
    return { controlPlane with
      machines := setConditionOfAll now controlPlane.machines
        (memberInspectionFailed "Failed to get the node which is hosting the etcd member")
      ocnecp.conditions := set now controlPlane.ocnecp.conditions
        (unknownCondition etcdClusterHealthyCondition "EtcdClusterInspectionFailed"
          "Failed to list nodes which are hosting the etcd members") }
  | .ok nodes =>
    let found ← (nodes.map Node.name).foldlM (inspectNode now) ⟨controlPlane.machines, [], none, none⟩
    return concludeInspection controlPlane found

def updateEtcdConditions (controlPlane : ControlPlane) : Api ControlPlane :=
  if controlPlane.isEtcdManaged then updateManagedEtcdConditions controlPlane
  else return { controlPlane with
    ocnecp.conditions := set controlPlane.reconciliationTime controlPlane.ocnecp.conditions
      (trueCondition etcdClusterHealthyCondition) }

def staticPods (etcdManaged : Bool) : List (String × ConditionType) :=
  [("kube-apiserver", machineAPIServerPodHealthyCondition),
    ("kube-controller-manager", machineControllerManagerPodHealthyCondition),
    ("kube-scheduler", machineSchedulerPodHealthyCondition)] ++
    if etcdManaged then [("etcd", machineEtcdPodHealthyCondition)] else []

def staticPodName (component nodeName : String) : String :=
  component ++ "-" ++ nodeName

def nodeHasUnreachableTaint (node : Node) : Bool :=
  node.taints.any fun taint => taint.key == "node.kubernetes.io/unreachable" && taint.effect == "NoExecute"

def nodeReadyUnknown (node : Node) : Bool :=
  (node.conditions.find? (·.1 == "Ready")).any (·.2 == .Unknown)

def podCondition (pod : Pod) (type : String) : ConditionStatus :=
  ((pod.conditions.find? (·.1 == type)).map Prod.snd).getD .Unknown

def podProvisioning (type : ConditionType) (message : String) : Condition :=
  falseCondition type podProvisioningReason .Info message

def podFailed (type : ConditionType) (message : String) : Condition :=
  falseCondition type podFailedReason .Error message

def podInspectionFailed (type : ConditionType) (message : String) : Condition :=
  unknownCondition type podInspectionFailedReason message

def containersCondition (type : ConditionType) (containers : List ContainerStatus) : Condition :=
  let waiting := containers.filterMap ContainerStatus.waiting
  let terminated := containers.filterMap ContainerStatus.terminated
  if waiting ≠ [] then
    if containers.any (·.lastTermination.any (· ≠ 0)) then podFailed type (", ".intercalate waiting)
    else podProvisioning type (", ".intercalate waiting)
  else if terminated ≠ [] then podFailed type (", ".intercalate terminated)
  else podProvisioning type "Waiting for startup or readiness probes"

/-- Unknown phases report nothing. -/
def phaseCondition (type : ConditionType) (pod : Pod) : Option Condition :=
  match pod.phase with
  | .pending =>
    if podCondition pod "PodScheduled" ≠ .True then some (podProvisioning type "Waiting to be scheduled")
    else if podCondition pod "Initialized" ≠ .True then some (podProvisioning type "Running init containers")
    else some (podProvisioning type "")
  | .running =>
    if podCondition pod "Ready" = .True then some (trueCondition type)
    else some (containersCondition type pod.containerStatuses)
  | .succeeded | .failed => some (podFailed type "All the containers have been terminated")
  | .unknown => some (podInspectionFailed type "Pod is reporting unknown status")
  | .other => none

def staticPodCondition (node : Node) (component : String) (type : ConditionType) :
    Prog signature (Option Condition) := do
  if nodeReadyUnknown node then
    return some (podInspectionFailed type "Node Ready condition is unknown, pod data might be stale")
  else
    let podName := staticPodName component node.name
    match ← (getPod podName).run with
    | .error error =>
      if error.is .notFound then
        return some (falseCondition type podMissingReason .Error ("Pod " ++ podName ++ " is missing"))
      else return some (podInspectionFailed type "Failed to get pod status")
    | .ok pod => return phaseCondition type pod

def staticPodConditions (node : Node) : List (String × ConditionType) → Prog signature (List Condition)
  | [] => return []
  | (component, type) :: rest => do
    let condition ← staticPodCondition node component type
    let later ← staticPodConditions node rest
    return condition.toList ++ later

def podReports (pods : List (String × ConditionType)) (machine : Machine) (node : Node) :
    Prog signature (List Condition) :=
  if hasDeletionTimestamp machine then return pods.map fun pod => falseCondition pod.2 deletingReason .Info ""
  else if nodeHasUnreachableTaint node then
    return pods.map fun pod => podInspectionFailed pod.2 "Node is unreachable"
  else staticPodConditions node pods

def inspectStaticPods (now : Time) (pods : List (String × ConditionType)) (found : Machines × List String)
    (node : Node) : Prog signature (Machines × List String) := do
  match found.1.items.find? (hasNode node.name) with
  | none =>
    if hasProvisioningMachine found.1 then return found
    else return (found.1, found.2 ++
      ["Control plane node " ++ node.name ++ " does not have a corresponding machine"])
  | some machine =>
    let conditions ← podReports pods machine node
    return (setMachineConditions now found.1 machine.name conditions, found.2)

/-- Reports the machines whose node is not among the control plane nodes. -/
def reportMissingNodes (now : Time) (pods : List (String × ConditionType)) (nodes : List Node)
    (machines : Machines) : Machines :=
  machines.modify (fun machine =>
    if machine.nodeRef.all (· ∈ nodes.map Node.name) then machine
    else { machine with
      conditions := setAll now machine.conditions (pods.map fun pod => podFailed pod.2 "Missing node") })
    (fun machine => by split <;> rfl)

def updateStaticPodConditions (controlPlane : ControlPlane) : Prog signature ControlPlane := do
  let now := controlPlane.reconciliationTime
  let pods := staticPods controlPlane.isEtcdManaged
  match ← getControlPlaneNodes.run with
  | .error error =>
    return { controlPlane with
      machines := controlPlane.machines.modify (fun machine => { machine with
        conditions := setAll now machine.conditions (pods.map fun pod => podInspectionFailed pod.2
          ("Failed to get the node which is hosting this component: " ++ error.message)) }) fun _ => rfl
      ocnecp.conditions := set now controlPlane.ocnecp.conditions
        (unknownCondition controlPlaneComponentsHealthyCondition "ControlPlaneComponentsInspectionFailed"
          ("Failed to list nodes which are hosting control plane components: " ++ error.message)) }
  | .ok nodes =>
    let (machines, ocnecpErrors) ← nodes.foldlM (inspectStaticPods now pods) (controlPlane.machines, [])
    let machines := reportMissingNodes now pods nodes machines
    return { controlPlane with
      machines := machines
      ocnecp.conditions := aggregateFromMachinesToKCP now machines
        ⟨pods.map Prod.snd, ocnecpErrors, controlPlaneComponentsHealthyCondition,
          "ControlPlaneComponentsUnhealthy", "ControlPlaneComponentsUnknown", "control plane"⟩
        controlPlane.ocnecp.conditions }

end OcneProvider.Controller.Health
