import OcneProvider.Controller.Clusters
import OcneProvider.Controller.Templating
import OcneProvider.Effects.Answers
import OcneProvider.Semver.Lowest

/-! The status of a control plane. Its replicas are counted from machines and those that are ready from nodes, each in
32 bits. -/

namespace OcneProvider.Controller.Status
open Api.Meta Api.Conditions Api.Objects Calls Collections Plane Templating Etcd.Workload
open Data.Comparison Data.Sorted Semver.Lowest Effects.Program Effects.Fallible Effects.Answers

variable {cluster : Cluster} {ocnecp : OCNEControlPlane}

def resizedCondition : ConditionType := "Resized"

def scalingUpReason : String := "ScalingUp"

def scalingDownReason : String := "ScalingDown"

def machinesCreatedCondition : ConditionType := "MachinesCreated"

def availableCondition : ConditionType := "Available"

structure OCNEControlPlaneStatus where
  selector : String
  replicas : Int32
  version : Option String
  updatedReplicas : Int32
  readyReplicas : Int32
  unavailableReplicas : Int32
  initialized : Bool
  ready : Bool
  conditions : ConditionList
  deriving DecidableEq

structure ClusterStatus where
  nodes : Int32
  readyNodes : Int32
  hasOCNEConfig : Bool

def isNodeReady (node : Node) : Bool :=
  (node.conditions.find? (·.1 == "Ready")).any (·.2 == .True)

def countNode (status : ClusterStatus) (node : Node) : ClusterStatus :=
  { status with
    nodes := status.nodes + 1
    readyNodes := if isNodeReady node then status.readyNodes + 1 else status.readyNodes }

/-- Any failure to read the config map counts as its absence. -/
def clusterStatus : Api ClusterStatus := do
  let nodes ← getControlPlaneNodes
  let status := nodes.foldl countNode ⟨0, 0, false⟩
  let found ← attempt (runTask .getOCNEConfigMap)
  return { status with hasOCNEConfig := found.isOk }

def Requirement.text : Requirement → String
  | .equals key value => key ++ "=" ++ value
  | .present key => key

/-- Two conditions may be set, one after the other. -/
def resized (first second : Time) (machines : Machines) (replicas desiredReplicas : Int32) (conditions : ConditionList) :
    ConditionList :=
  let sizes := toString desiredReplicas.toInt ++ " replicas (actual " ++ toString replicas.toInt ++ ")"
  if replicas < desiredReplicas then
    set first conditions (falseCondition resizedCondition scalingUpReason .Warning
      ("Scaling up control plane to " ++ sizes))
  else if desiredReplicas < replicas then
    let conditions := set first conditions (falseCondition resizedCondition scalingDownReason .Warning
      ("Scaling down control plane to " ++ sizes))
    set second conditions (trueCondition machinesCreatedCondition)
  else
    let readyMachines := machines.filter (isTrue ·.conditions readyCondition)
    let conditions :=
      if Int32.ofNat readyMachines.len = replicas then set first conditions (trueCondition resizedCondition)
      else conditions
    set second conditions (trueCondition machinesCreatedCondition)

/-- The lowest version with a healthy API server; without any the version stays. -/
def reportedVersion (sort : SortBy (byVersionLess parseTolerant)) (machines : Machines) (version : Option String) :
    Option String :=
  (lowestVersion parseTolerant sort
    (machines.filter (isTrue ·.conditions Health.machineAPIServerPodHealthyCondition))).or version

def withClusterStatus (time : Time) (status : OCNEControlPlaneStatus) (found : ClusterStatus) : OCNEControlPlaneStatus :=
  { status with
    readyReplicas := found.readyNodes
    unavailableReplicas := status.replicas - found.readyNodes
    initialized := status.initialized || found.hasOCNEConfig
    conditions := if found.hasOCNEConfig then set time status.conditions (trueCondition availableCondition)
      else status.conditions
    ready := status.ready || 0 < found.readyNodes }

/-- What does not need the workload cluster. -/
def basicData (status : OCNEControlPlaneStatus) (selector : List Requirement) (upToDate replicas : Nat) :
    OCNEControlPlaneStatus :=
  { status with
    selector := ",".intercalate (selector.map Requirement.text)
    updatedReplicas := Int32.ofNat upToDate
    replicas := Int32.ofNat replicas
    readyReplicas := 0
    unavailableReplicas := Int32.ofNat replicas }

def reportSize (sort : SortBy (byVersionLess parseTolerant)) (machines : Machines) (desiredReplicas : Int32)
    (status : OCNEControlPlaneStatus) : Api OCNEControlPlaneStatus := do
  let first ← now
  let second ← now
  return { status with
    version := reportedVersion sort machines status.version
    conditions := resized first second machines status.replicas desiredReplicas status.conditions }

def reportNodes (status : OCNEControlPlaneStatus) : Api OCNEControlPlaneStatus := do
  adaptError (Err.wrap "failed to create remote cluster client") (runTask .getWorkloadCluster)
  let found ← clusterStatus
  let time ← now
  return withClusterStatus time status found

/-- A panic ends the pass like an error. -/
def updateStatus (runtime : Runtime) (sort : SortBy (byVersionLess parseTolerant)) (ocnecp : OCNEControlPlane)
    (cluster : Cluster) (status : OCNEControlPlaneStatus) : Api OCNEControlPlaneStatus :=
  match controlPlaneSelectorForCluster cluster.name with
  | none => throw (errorf "invalid label value")
  | some selector => do
    let listed ← adaptError (Err.wrap "failed to get list of owned machines") (listMachines cluster.name)
    let machines := listed.filter (ownedMachines ocnecp.identity)
    let controlPlane ← newControlPlane cluster ocnecp machines
    let upToDate := (controlPlane.upToDateMachines runtime.codec).1
    match ocnecp.spec.replicas with
    | none => throw nilPointerDereference
    | some desiredReplicas => do
      let status := basicData status selector upToDate.len machines.len
      if ocnecp.deletionTimestamp.isSome then return status
      else do
        let status ← reportSize sort machines desiredReplicas status
        reportNodes status

section Counters

/-- A count that is neither negative nor more than another. -/
def Within (count total : Int32) : Prop := 0 ≤ count ∧ count ≤ total

structure Consistent (status : OCNEControlPlaneStatus) : Prop where
  ready : Within status.readyReplicas status.replicas
  unavailable : Within status.unavailableReplicas status.replicas
  total : status.readyReplicas.toInt + status.unavailableReplicas.toInt = status.replicas.toInt
  updated : Within status.updatedReplicas status.replicas

variable (given : (call : Call) → call.Answer)

def owned (ocnecp : OCNEControlPlane) (cluster : Cluster) : Machines :=
  match given (.listMachines cluster.name) with
  | .ok listed => listed.filter (ownedMachines ocnecp.identity)
  | .error _ => default

def readyNodes : Nat :=
  match result given getControlPlaneNodes with
  | .ok nodes => nodes.countP isNodeReady
  | .error _ => 0

/-- The machines of its own that need no rollout. -/
def upToDate (runtime : Runtime) (ocnecp : OCNEControlPlane) (cluster : Cluster) : Nat :=
  match result given (newControlPlane cluster ocnecp (owned given ocnecp cluster)) with
  | .ok plane => (plane.upToDateMachines runtime.codec).1.len
  | .error _ => 0

theorem foldl_countNode (nodes : List Node) (status : ClusterStatus) :
    (nodes.foldl countNode status).readyNodes = status.readyNodes + Int32.ofNat (nodes.countP isNodeReady) := by
  induction nodes generalizing status with
  | nil => simp
  | cons node rest ih =>
    rw [List.foldl_cons, ih, List.countP_cons]
    by_cases ready : isNodeReady node = true
    · simp [countNode, ready, Int32.ofNat_add, Int32.add_assoc, Int32.add_comm 1]
    · simp [countNode, ready]

variable {given}

theorem clusterStatus_readyNodes {found : ClusterStatus} (gave : result given clusterStatus = .ok found) :
    found.readyNodes = Int32.ofNat (readyNodes given) := by
  unfold clusterStatus at gave
  rw [result_bind] at gave
  unfold readyNodes
  cases mem : result given getControlPlaneNodes with
  | error error =>
    rw [mem] at gave
    cases gave
  | ok nodes =>
    rw [mem] at gave
    cases gave
    simp [foldl_countNode]

theorem newControlPlane_machines {machines : Machines}
    {plane : ControlPlane} (gave : result given (newControlPlane cluster ocnecp machines) = .ok plane) :
    plane.machines = machines := by
  unfold newControlPlane at gave
  simp only [result_bind] at gave
  obtain ⟨infraResources, -, gave⟩ := bind_eq_ok.mp gave
  obtain ⟨ocneConfigs, -, gave⟩ := bind_eq_ok.mp gave
  obtain ⟨-, -, gave⟩ := bind_eq_ok.mp gave
  obtain ⟨time, -, gave⟩ := bind_eq_ok.mp gave
  cases gave
  rfl

theorem upToDate_le {runtime : Runtime} : upToDate given runtime ocnecp cluster ≤ (owned given ocnecp cluster).len := by
  unfold upToDate
  split
  next plane created =>
    rw [← newControlPlane_machines created]
    exact List.length_filter_le _ _
  next => exact Nat.zero_le _

variable {runtime : Runtime}

/-- Those of a deleted control plane take no notice of its nodes. -/
structure Reported (given : (call : Call) → call.Answer) (runtime : Runtime) (ocnecp : OCNEControlPlane)
    (cluster : Cluster) (status : OCNEControlPlaneStatus) : Prop where
  replicas : status.replicas = Int32.ofNat (owned given ocnecp cluster).len
  updated : status.updatedReplicas = Int32.ofNat (upToDate given runtime ocnecp cluster)
  deleted : ocnecp.deletionTimestamp.isSome = true →
    status.readyReplicas = 0 ∧ status.unavailableReplicas = status.replicas
  ready : ocnecp.deletionTimestamp.isSome = false →
    status.readyReplicas = Int32.ofNat (readyNodes given) ∧
      status.unavailableReplicas = status.replicas - status.readyReplicas

theorem reportNodes_spec {status after : OCNEControlPlaneStatus} (gave : result given (reportNodes status) = .ok after) :
    after.replicas = status.replicas ∧ after.updatedReplicas = status.updatedReplicas ∧
      after.readyReplicas = Int32.ofNat (readyNodes given) ∧
      after.unavailableReplicas = status.replicas - after.readyReplicas := by
  unfold reportNodes at gave
  simp only [result_bind] at gave
  obtain ⟨-, -, gave⟩ := bind_eq_ok.mp gave
  obtain ⟨found, counted, gave⟩ := bind_eq_ok.mp gave
  obtain ⟨time, -, gave⟩ := bind_eq_ok.mp gave
  cases gave
  exact ⟨rfl, rfl, clusterStatus_readyNodes counted, rfl⟩

theorem reportSize_spec {sort : SortBy (byVersionLess parseTolerant)} {machines : Machines} {desiredReplicas : Int32}
    {status after : OCNEControlPlaneStatus}
    (gave : result given (reportSize sort machines desiredReplicas status) = .ok after) :
    after.replicas = status.replicas ∧ after.updatedReplicas = status.updatedReplicas := by
  unfold reportSize at gave
  simp only [result_bind] at gave
  obtain ⟨first, -, gave⟩ := bind_eq_ok.mp gave
  obtain ⟨second, -, gave⟩ := bind_eq_ok.mp gave
  cases gave
  exact ⟨rfl, rfl⟩

theorem updateStatus_reported {sort : SortBy (byVersionLess parseTolerant)} {before after : OCNEControlPlaneStatus}
    (gave : result given (updateStatus runtime sort ocnecp cluster before) = .ok after) :
    Reported given runtime ocnecp cluster after := by
  unfold updateStatus at gave
  split at gave
  · cases gave
  next selector valid =>
    simp only [result_bind, result_adaptError] at gave
    obtain ⟨mem, isListed, gave⟩ := bind_eq_ok.mp gave
    obtain ⟨plane, created, gave⟩ := bind_eq_ok.mp gave
    have answered : given (.listMachines cluster.name) = .ok mem := by
      change (given (.listMachines cluster.name)).mapError _ = _ at isListed
      cases answer : given (.listMachines cluster.name) with
      | error error =>
        rw [answer] at isListed
        cases isListed
      | ok machines =>
        rw [answer] at isListed
        exact isListed
    have machines : owned given ocnecp cluster = mem.filter (ownedMachines ocnecp.identity) := by
      rw [owned, answered]
    have updated : upToDate given runtime ocnecp cluster = (plane.upToDateMachines runtime.codec).1.len := by
      rw [upToDate, machines, created]
    split at gave
    · cases gave
    next desiredReplicas =>
      by_cases deleting : ocnecp.deletionTimestamp.isSome = true
      · rw [if_pos deleting] at gave
        cases gave
        exact ⟨by rw [machines]; rfl, by rw [updated]; rfl, fun _ => ⟨rfl, rfl⟩, fun staying => by
          rw [deleting] at staying
          cases staying⟩
      · rw [if_neg deleting, result_bind] at gave
        obtain ⟨sized, isSized, gave⟩ := bind_eq_ok.mp gave
        obtain ⟨replicas, counted⟩ := reportSize_spec isSized
        obtain ⟨sameReplicas, sameUpdated, ready, unavailable⟩ := reportNodes_spec gave
        refine ⟨?_, ?_, fun deleted => absurd deleted deleting, fun _ => ⟨ready, ?_⟩⟩
        · rw [sameReplicas, replicas, machines]
          rfl
        · rw [sameUpdated, counted, updated]
          rfl
        · rw [unavailable, sameReplicas]

variable {status : OCNEControlPlaneStatus} {count total : Int32}

theorem Within.toInt : Within count total ↔ 0 ≤ count.toInt ∧ count.toInt ≤ total.toInt := by
  unfold Within
  rw [Int32.le_iff_toInt_le, Int32.le_iff_toInt_le]
  rfl

/-- What is left of a total is also within it, and makes up for the rest. -/
theorem Within.sub (within : Within count total) :
    Within (total - count) total ∧ count.toInt + (total - count).toInt = total.toInt := by
  rw [Within.toInt] at within ⊢
  have difference : (total - count).toInt = total.toInt - count.toInt := by
    have most := total.toInt_lt
    rw [Int32.toInt_sub]
    apply Int.bmod_eq_of_le
    · omega
    · omega
  omega

theorem Reported.consistent_iff (reported : Reported given runtime ocnecp cluster status) :
    Consistent status ↔
      Within (Int32.ofNat (upToDate given runtime ocnecp cluster)) (Int32.ofNat (owned given ocnecp cluster).len) ∧
      (ocnecp.deletionTimestamp.isSome = true ∨
        Within (Int32.ofNat (readyNodes given)) (Int32.ofNat (owned given ocnecp cluster).len)) := by
  rw [← reported.replicas, ← reported.updated]
  constructor
  · intro consistent
    refine ⟨consistent.updated, ?_⟩
    by_cases deleting : ocnecp.deletionTimestamp.isSome = true
    · exact .inl deleting
    · rw [← (reported.ready (by simpa using deleting)).1]
      exact .inr consistent.ready
  · rintro ⟨updated, nodes⟩
    by_cases deleting : ocnecp.deletionTimestamp.isSome = true
    · obtain ⟨ready, unavailable⟩ := reported.deleted deleting
      have least : 0 ≤ status.replicas := Int32.le_trans updated.1 updated.2
      refine ⟨?_, ?_, ?_, updated⟩
      · rw [ready]
        exact ⟨Int32.le_refl 0, least⟩
      · rw [unavailable]
        exact ⟨least, Int32.le_refl _⟩
      · rw [ready, unavailable]
        exact Int.zero_add _
    · obtain ⟨ready, unavailable⟩ := reported.ready (by simpa using deleting)
      have within := nodes.resolve_left deleting
      rw [← ready] at within
      obtain ⟨left, total⟩ := within.sub
      rw [← unavailable] at left total
      exact ⟨within, left, total, updated⟩

theorem within_ofNat {count total : Nat} (fits : total < 2 ^ 31) (countFits : count < 2 ^ 31) :
    Within (Int32.ofNat count) (Int32.ofNat total) ↔ count ≤ total := by
  rw [Within.toInt, Int32.toInt_ofNat_of_lt countFits, Int32.toInt_ofNat_of_lt fits]
  omega

/-- With room for them in 32 bits: unless it is deleted, not more nodes are ready than there are machines. -/
theorem Reported.consistent_iff_le
    (reported : Reported given runtime ocnecp cluster status) (machinesFit : (owned given ocnecp cluster).len < 2 ^ 31)
    (nodesFit : readyNodes given < 2 ^ 31) :
    Consistent status ↔ ocnecp.deletionTimestamp.isSome = true ∨ readyNodes given ≤ (owned given ocnecp cluster).len := by
  have most : upToDate given runtime ocnecp cluster ≤ (owned given ocnecp cluster).len := upToDate_le
  rw [reported.consistent_iff, within_ofNat machinesFit (by omega), within_ofNat machinesFit nodesFit]
  exact and_iff_right most

/-- Consistent exactly if, in 32 bits, there are no fewer machines than up-to-date ones, and unless deleted than ready
nodes; where the counts fit, exactly if deleted or without more ready nodes than machines. -/
theorem updateStatus_consistent_iff (given : (call : Call) → call.Answer) (runtime : Runtime)
    (sort : SortBy (byVersionLess parseTolerant)) (ocnecp : OCNEControlPlane) (cluster : Cluster)
    (before after : OCNEControlPlaneStatus)
    (returned : result given (updateStatus runtime sort ocnecp cluster before) = .ok after) :
    (Consistent after ↔
      Within (Int32.ofNat (upToDate given runtime ocnecp cluster)) (Int32.ofNat (owned given ocnecp cluster).len) ∧
      (ocnecp.deletionTimestamp.isSome = true ∨
        Within (Int32.ofNat (readyNodes given)) (Int32.ofNat (owned given ocnecp cluster).len))) ∧
    ((owned given ocnecp cluster).len < 2 ^ 31 → readyNodes given < 2 ^ 31 → (Consistent after ↔
      ocnecp.deletionTimestamp.isSome = true ∨ readyNodes given ≤ (owned given ocnecp cluster).len)) :=
  ⟨(updateStatus_reported returned).consistent_iff, (updateStatus_reported returned).consistent_iff_le⟩

end Counters

private def plane : OCNEControlPlane :=
  { (default : OCNEControlPlane) with
    name := "prod"
    spec := { (default : OCNEControlPlaneSpec) with replicas := some 1 } }

private def replica : Machine :=
  { (default : Machine) with name := "prod-0", ownerReferences := [plane.newControllerRef] }

private def readyNode (name : String) : Node := ⟨name, ∅, [], [("Ready", .True)]⟩

private def listing (nodes : List Node) : (call : Call) → call.Answer
  | .listMachines _ => .ok ⟨[replica], by decide⟩
  | .listNodes _ => .ok nodes
  | call => Clusters.plainly call

private def unreported : OCNEControlPlaneStatus := ⟨"", 0, none, 0, 0, 0, false, false, []⟩

private def reportFor (nodes : List Node) : Except Err OCNEControlPlaneStatus :=
  result (listing nodes) (updateStatus default (SortBy.insertion _) plane { (default : Cluster) with name := "prod" } unreported)

theorem one_node_consistent : ∃ status, reportFor [readyNode "prod-0"] = .ok status ∧ Consistent status :=
  ⟨_, rfl, (updateStatus_consistent_iff (listing [readyNode "prod-0"]) default (SortBy.insertion _) plane
    { (default : Cluster) with name := "prod" } unreported _ rfl).2 (by decide) (by decide) |>.mpr (.inr (by decide))⟩

/-- A ready node without a machine of the control plane counts all the same. -/
theorem two_nodes_inconsistent : ∃ status, reportFor [readyNode "prod-0", readyNode "other"] = .ok status ∧
    status.replicas = 1 ∧ status.readyReplicas = 2 ∧ status.unavailableReplicas = -1 :=
  ⟨_, rfl, by decide, by decide, by decide⟩

end OcneProvider.Controller.Status
