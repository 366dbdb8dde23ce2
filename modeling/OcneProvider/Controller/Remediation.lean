import OcneProvider.Controller.Health

/-! Remediation of the machines that a health check has marked: the oldest of
them is deleted if the control plane can do without it. -/

namespace OcneProvider.Controller.Remediation
open Api.Meta Api.Conditions Api.Objects Collections Calls Plane Health Etcd.Workload
open Effects.Program Effects.Fallible

def waitingForRemediationReason : String := "WaitingForRemediation"

def remediationFailedReason : String := "RemediationFailed"

def remediationInProgressReason : String := "RemediationInProgress"

def hasPendingRemediation (machine : Machine) : Bool :=
  isTrue machine.conditions machineHealthCheckSucceededCondition &&
    isFalse machine.conditions machineOwnerRemediatedCondition && !hasDeletionTimestamp machine

def withoutRemediation (machine : Machine) : Machine :=
  if hasPendingRemediation machine then
    { machine with conditions := delete machine.conditions machineOwnerRemediatedCondition }
  else machine

def patchConditions (machine : Machine) : Api Unit :=
  patchMachine machine.name ⟨none, machine.conditions, none⟩

def clearRemediation (machine : Machine) : Prog signature (List Err) := do
  match ← (runTask (.newHelper machine.name)).run with
  | .error error => return [error.wrap ("failed to get PatchHelper for machine " ++ machine.name)]
  | .ok _ =>
    match ← (patchConditions (withoutRemediation machine)).run with
    | .error error => return [error.wrap ("failed to patch machine " ++ machine.name)]
    | .ok _ => return []

def cleanupRemediation : List Machine → Prog signature (List Err)
  | [] => return []
  | machine :: rest =>
    if hasPendingRemediation machine then do
      let errors ← clearRemediation machine
      let later ← cleanupRemediation rest
      return errors ++ later
    else cleanupRemediation rest

def isHealthyMember (machines : Machines) (name : String) : Bool :=
  (machines.items.find? (hasNode name)).any fun machine =>
    isTrue machine.conditions machineEtcdMemberHealthyCondition

/-- The healthy ones among the members that stay are more than half. -/
def keepsQuorum (machines : Machines) (machineToBeRemediated : Machine) (etcdMembers : List String) : Bool :=
  let target := etcdMembers.filter (!hasNode · machineToBeRemediated)
  let targetUnhealthyMembers := target.countP (!isHealthyMember machines ·)
  let targetQuorum := target.length / 2 + 1
  targetQuorum ≤ target.length - targetUnhealthyMembers

def canSafelyRemoveEtcdMember (controlPlane : ControlPlane) (machineToBeRemediated : Machine) : Api Bool := do
  adaptError (Err.wrap ("failed to get client for workload cluster " ++ controlPlane.cluster.name))
    (runTask .getWorkloadCluster)
  let names ← adaptError (Err.wrap ("failed to get etcdStatus for workload cluster " ++ controlPlane.cluster.name))
    etcdMembers
  return keepsQuorum controlPlane.machines machineToBeRemediated names

/-- The mark left on the machine, if any, and the result. -/
structure Verdict where
  mark : Option Condition
  outcome : Except Err Result

def remediationMark (reason : String) (severity : ConditionSeverity) (message : String) : Condition :=
  falseCondition machineOwnerRemediatedCondition reason severity message

def Verdict.skip (message : String) : Verdict :=
  ⟨some (remediationMark waitingForRemediationReason .Warning message), .ok .empty⟩

def Verdict.unmarked (change : Err → Err) (error : Err) : Verdict :=
  ⟨none, .error (change error)⟩

def Verdict.failed (change : Err → Err) (error : Err) : Verdict :=
  ⟨some (remediationMark remediationFailedReason .Error error.message), .error (change error)⟩

def remediateEtcdMember (controlPlane : ControlPlane) (machine : Machine) : Try signature Verdict Unit := do
  let some candidate := controlPlane.healthyMachines.newest
    | throw ⟨some (remediationMark remediationFailedReason .Warning
        ("A control plane machine needs remediation, but there is no healthy machine to forward " ++
          "etcd leadership to. Skipping remediation")), .ok .empty⟩
  adaptError (Verdict.failed id) (forwardEtcdLeadership machine (some candidate))
  adaptError (Verdict.failed id) (removeEtcdMemberForMachine machine)

def checkQuorum (controlPlane : ControlPlane) (machine : Machine) : Try signature Verdict Unit := do
  unless ← adaptError (Verdict.failed id) (canSafelyRemoveEtcdMember controlPlane machine) do
    throw (.skip "KCP can't remediate this machine because this could result in etcd loosing quorum")

def checkRemediation (controlPlane : ControlPlane) (machine : Machine) : Try signature Verdict Unit := do
  let some replicas := controlPlane.ocnecp.spec.replicas | throw ⟨none, .error nilPointerDereference⟩
  if controlPlane.machines.len ≤ 1 then
    throw (.skip "KCP can't remediate if current replicas are less or equal to 1")
  else if (controlPlane.machines.len : Int) < replicas.toInt then
    throw (.skip ("KCP waiting for having at least " ++ toString replicas.toInt ++
      " control plane machines before triggering remediation"))
  else if controlPlane.hasDeletingMachine then
    throw (.skip "KCP waiting for control plane machine deletion to complete before triggering remediation")
  else if controlPlane.isEtcdManaged then checkQuorum controlPlane machine
  else return ()

def deleteUnhealthyMachine (runtime : Runtime) (controlPlane : ControlPlane) (machine : Machine) :
    Try signature Verdict Verdict := do
  let version := controlPlane.ocnecp.spec.version
  let parsedVersion ← adaptError (Verdict.unmarked (Err.wrap
    ("failed to parse kubernetes version " ++ quoted version))) (ExceptT.mk (pure (runtime.parseTolerant version)))
  adaptError (Verdict.unmarked id) (removeMachineFromOCNEConfigMap machine parsedVersion)
  adaptError (Verdict.failed (Err.wrap ("failed to delete unhealthy machine " ++ machine.name)))
    (deleteMachine machine.name)
  return ⟨some (remediationMark remediationInProgressReason .Warning ""), .ok ⟨true, 0⟩⟩

def remediate (runtime : Runtime) (controlPlane : ControlPlane) (machine : Machine) :
    Try signature Verdict Verdict := do
  checkRemediation controlPlane machine
  adaptError (Verdict.unmarked (Err.wrap "failed to create client to workload cluster"))
    (runTask .getWorkloadCluster)
  if controlPlane.isEtcdManaged then remediateEtcdMember controlPlane machine
  deleteUnhealthyMachine runtime controlPlane machine

def verdictOf (attempted : Try signature Verdict Verdict) : Prog signature Verdict := do
  match ← attempted.run with
  | .ok verdict => return verdict
  | .error verdict => return verdict

/-- The patch of the machine that follows an attempt however it ends. -/
def patchVerdict (controlPlane : ControlPlane) (machine : Machine) (verdict : Verdict) :
    Api (Result × ControlPlane) := do
  let marked := match verdict.mark with
    | none => machine
    | some mark => { machine with conditions := set controlPlane.reconciliationTime machine.conditions mark }
  let patched ← attempt (patchConditions marked)
  let result ← ExceptT.mk (pure verdict.outcome)
  match patched with
  | .error error => throw (error.wrap ("failed to patch control plane Machine " ++ machine.name))
  | .ok _ => return (result, { controlPlane with
      machines := controlPlane.machines.modify
        (fun other => if other.name = machine.name then { other with conditions := marked.conditions } else other)
        (fun other => by split <;> rfl) })

def withoutRemediations (controlPlane : ControlPlane) : ControlPlane :=
  { controlPlane with
    machines := controlPlane.machines.modify withoutRemediation
      (fun machine => by unfold withoutRemediation; split <;> rfl) }

def remediateOldest (runtime : Runtime) (controlPlane : ControlPlane) : Api (Result × ControlPlane) :=
  match controlPlane.unhealthyMachines.oldest with
  | none => return (.empty, controlPlane)
  | some machine =>
    if hasDeletionTimestamp machine then return (.empty, controlPlane)
    else do
      runTask (.newHelper machine.name)
      let verdict ← ExceptT.lift (verdictOf (remediate runtime controlPlane machine))
      patchVerdict controlPlane machine verdict

def reconcileUnhealthyMachines (runtime : Runtime) (controlPlane : ControlPlane) :
    Api (Result × ControlPlane) := do
  let errors ← ExceptT.lift (cleanupRemediation controlPlane.healthyMachines.items)
  failIfAny errors ()
  remediateOldest runtime (withoutRemediations controlPlane)

end OcneProvider.Controller.Remediation
