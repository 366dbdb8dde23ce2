import OcneProvider.Controller.Remediation
import OcneProvider.Etcd.Reading

/-! Remediation and the quorum of etcd: what holds whenever a remediation goes as
far as removing a member or deleting a machine. -/

namespace OcneProvider.Controller.Quorum
open Api.Meta Api.Conditions Api.Objects Collections Calls Clusters Plane Health Remediation
open Etcd.Workload Etcd.Reading Effects.Program Effects.Fallible
open List hiding mem_filter

def reportedHealthy (machines : Machines) (name : String) : Bool :=
  machines.items.any fun machine =>
    machine.nodeRef == some name && isTrue machine.conditions machineEtcdMemberHealthyCondition

def otherMembers (machine : Machine) (members : List PbMember) : List PbMember :=
  members.filter fun member => machine.nodeRef ≠ some member.name

/-- What is known about a machine that is remediated, and about the members then. -/
structure Safe (controlPlane : ControlPlane) (machine : Machine) (members : List PbMember) : Prop where
  present : machine ∈ controlPlane.machines
  unhealthy : hasUnhealthyCondition machine = true
  oldest : ∀ other ∈ controlPlane.machines, hasUnhealthyCondition other = true →
    byCreationTimestamp machine ≤ byCreationTimestamp other
  staying : ∀ other ∈ controlPlane.machines, other.deletionTimestamp = none
  enough : ∃ replicas, controlPlane.ocnecp.spec.replicas = some replicas ∧
    max 2 replicas.toInt ≤ controlPlane.machines.len
  majority : (otherMembers machine members).length <
    2 * (otherMembers machine members).countP fun member => reportedHealthy controlPlane.machines member.name

section Marks

variable {machines : Machines} {machine : Machine}

theorem hasUnhealthyCondition_withoutRemediation :
    hasUnhealthyCondition (withoutRemediation machine) = hasUnhealthyCondition machine := by
  unfold withoutRemediation
  split
  · rename_i pending
    simp only [hasPendingRemediation, Bool.and_eq_true] at pending
    have other : machineHealthCheckSucceededCondition ≠ machineOwnerRemediatedCondition := by decide
    simp only [hasUnhealthyCondition, isFalse_delete_other _ other, isFalse_eq_false pending.1.1, Bool.false_and]
  · rfl

theorem withoutRemediation_of_unhealthy (unhealthy : hasUnhealthyCondition machine = true) :
    withoutRemediation machine = machine := by
  unfold withoutRemediation
  split
  · rename_i pending
    simp only [hasPendingRemediation, Bool.and_eq_true] at pending
    simp [hasUnhealthyCondition, isFalse_eq_false pending.1.1] at unhealthy
  · rfl

theorem isTrue_withoutRemediation :
    isTrue (withoutRemediation machine).conditions machineEtcdMemberHealthyCondition =
      isTrue machine.conditions machineEtcdMemberHealthyCondition := by
  unfold withoutRemediation
  split
  · exact isTrue_delete_other _ (by decide)
  · rfl

end Marks

section Checks

variable {controlPlane : ControlPlane} {machine : Machine} {members : List PbMember}

theorem reportedHealthy_of_isHealthyMember {name : String}
    (healthy : isHealthyMember (withoutRemediations controlPlane).machines name = true) :
    reportedHealthy controlPlane.machines name = true := by
  simp only [isHealthyMember, Option.any_eq_true] at healthy
  obtain ⟨marked, found, reports⟩ := healthy
  have runs := find?_some found
  obtain ⟨machine, mem, rfl⟩ := mem_map.mp (mem_of_find?_eq_some found)
  rw [isTrue_withoutRemediation] at reports
  have node : (withoutRemediation machine).nodeRef = machine.nodeRef := by
    unfold withoutRemediation
    split <;> rfl
  simp only [hasNode, node] at runs
  exact any_eq_true.mpr ⟨machine, mem, by simpa [reports] using runs⟩

theorem majority_of_keepsQuorum
    (keeps : keepsQuorum (withoutRemediations controlPlane).machines machine (members.map PbMember.name) = true) :
    (otherMembers machine members).length <
      2 * (otherMembers machine members).countP fun mem => reportedHealthy controlPlane.machines mem.name := by
  simp only [keepsQuorum, decide_eq_true_eq] at keeps
  have target : (members.map PbMember.name).filter (!hasNode · machine) =
      (otherMembers machine members).map PbMember.name := by
    rw [otherMembers, filter_map]
    congr 1
    apply filter_congr
    intro mem _
    by_cases same : machine.nodeRef = some mem.name <;> simp [hasNode, same]
  rw [target, length_map, countP_map] at keeps
  have counted := length_eq_countP_add_countP (l := otherMembers machine members)
    (fun mem : PbMember => isHealthyMember (withoutRemediations controlPlane).machines mem.name)
  have fewer : (otherMembers machine members).countP
      (fun mem => isHealthyMember (withoutRemediations controlPlane).machines mem.name) ≤
        (otherMembers machine members).countP fun mem => reportedHealthy controlPlane.machines mem.name :=
    countP_mono_left fun mem _ => reportedHealthy_of_isHealthyMember
  have same : (otherMembers machine members).countP ((fun name =>
      !isHealthyMember (withoutRemediations controlPlane).machines name) ∘ PbMember.name) =
      (otherMembers machine members).countP
        (fun mem => decide ¬ isHealthyMember (withoutRemediations controlPlane).machines mem.name = true) :=
    countP_congr fun mem _ => by simp
  omega

end Checks

/-- The safe removals of members and deletions of machines. -/
def permitted (controlPlane : ControlPlane) (world : World) : Call → Prop
  | .memberRemove _ id => ∃ machine, Safe controlPlane machine world.etcd.members ∧
      ∃ member ∈ world.etcd.members, member.id = id ∧ machine.nodeRef = some member.name
  | .deleteMachine name => ∃ machine, Safe controlPlane machine world.etcd.members ∧ machine.name = name
  | _ => True

section Remediations

variable {controlPlane : ControlPlane} {machine : Machine} {world : World} {runtime : Runtime}

theorem reads_permitted (world : World) (call : Call) (quiet : changes call = false) :
    permitted controlPlane world call := by
  cases call <;> trivial

theorem Safe.removeMember (safe : Safe controlPlane machine world.etcd.members) {member : PbMember}
    (mem : member ∈ world.etcd.members) (own : machine.nodeRef = some member.name) (leader : Nat) :
    Safe controlPlane machine (world.removeMember member.id leader).etcd.members := by
  have same : otherMembers machine (world.removeMember member.id leader).etcd.members =
      otherMembers machine world.etcd.members := by
    simp only [otherMembers, World.removeMember, EtcdCluster.remove, filter_filter]
    apply filter_congr
    intro other present
    by_cases runs : machine.nodeRef = some other.name
    · simp [runs]
    · have differs : other.id ≠ member.id := by
        intro ids
        rw [inj_on_of_nodup_map world.etcd.distinct present mem ids] at runs
        exact runs own
      simp [runs, differs]
  exact { safe with majority := by rw [same]; exact safe.majority }

/-- The oldest unhealthy machine, once the marks of healthy machines are removed. -/
theorem oldest_unhealthy (picked : (withoutRemediations controlPlane).unhealthyMachines.oldest = some machine) :
    machine ∈ controlPlane.machines ∧ hasUnhealthyCondition machine = true ∧
      ∀ other ∈ controlPlane.machines, hasUnhealthyCondition other = true →
        byCreationTimestamp machine ≤ byCreationTimestamp other := by
  obtain ⟨found, unhealthy⟩ := mem_filter.mp (Machines.oldest_mem picked)
  obtain ⟨old, mem, rfl⟩ := mem_map.mp found
  rw [hasUnhealthyCondition_withoutRemediation] at unhealthy
  rw [withoutRemediation_of_unhealthy unhealthy] at picked ⊢
  refine ⟨mem, unhealthy, fun other otherPresent otherUnhealthy => ?_⟩
  apply Machines.oldest_le picked
  refine mem_filter.mpr ⟨mem_map.mpr ⟨other, otherPresent, ?_⟩, otherUnhealthy⟩
  exact withoutRemediation_of_unhealthy otherUnhealthy

theorem staying_of_checked (settled : (withoutRemediations controlPlane).hasDeletingMachine = false) :
    ∀ other ∈ controlPlane.machines, other.deletionTimestamp = none := by
  intro other mem
  have same : (withoutRemediation other).deletionTimestamp = other.deletionTimestamp := by
    unfold withoutRemediation
    split <;> rfl
  by_contra deleting
  have found : withoutRemediation other ∈
      (withoutRemediations controlPlane).machines.filter hasDeletionTimestamp := by
    refine mem_filter.mpr ⟨mem_map_of_mem mem, ?_⟩
    rw [hasDeletionTimestamp, same]
    exact Option.isSome_iff_ne_none.mpr deleting
  have positive := length_pos_of_mem found
  simp only [ControlPlane.hasDeletingMachine, decide_eq_false_iff_not] at settled
  exact settled positive

section Parts

variable {permit : World → Call → Prop} {mayFail : Prop}
variable (reads : ∀ world call, changes call = false → permit world call)
variable (patches : ∀ world name patch, permit world (.patchMachine name patch))

include reads

/-- A machine that passes the checks can be removed safely. -/
theorem checkRemediation_wp (managed : controlPlane.isEtcdManaged = true)
    (picked : (withoutRemediations controlPlane).unhealthyMachines.oldest = some machine) :
    wpE (env mayFail) permit (fun _ next => next = world ∧ Safe controlPlane machine world.etcd.members)
      (fun _ _ => True) (checkRemediation (withoutRemediations controlPlane) machine) world := by
  obtain ⟨mem, unhealthy, oldest⟩ := oldest_unhealthy picked
  have size : (withoutRemediations controlPlane).machines.len = controlPlane.machines.len := length_map _
  have managed : (withoutRemediations controlPlane).isEtcdManaged = true := managed
  unfold checkRemediation
  split
  · rename_i replicas given
    split
    · trivial
    split
    · trivial
    split
    · trivial
    rename_i several wanted staying
    simp only [checkQuorum, canSafelyRemoveEtcdMember, wpE_bind, wpE_adaptError, wpE_runTask, wpE_pure]
    refine ⟨reads _ _ rfl, ?_, fun _ _ => trivial⟩
    refine etcdMembers_wp reads ?_ fun _ _ => trivial
    split
    · rename_i keeps
      refine ⟨rfl, mem, unhealthy, oldest, staying_of_checked (by simpa using staying), ⟨replicas, given, ?_⟩,
        majority_of_keepsQuorum keeps⟩
      omega
    · trivial
  · trivial

theorem deleteUnhealthyMachine_wp {plane : ControlPlane} (deletes : permit world (.deleteMachine machine.name)) :
    wpE (env mayFail) permit (fun _ _ => True) (fun _ _ => True)
      (deleteUnhealthyMachine runtime plane machine) world := by
  simp only [deleteUnhealthyMachine, wpE_bind, wpE_adaptError, wpE_mk, wp_pure, wpE_pure]
  cases runtime.parseTolerant plane.ocnecp.spec.version with
  | error error => trivial
  | ok version =>
    refine removeMachineFromOCNEConfigMap_wp machine version (fun _ => reads _ _ rfl) ?_ (fun _ _ => trivial)
    simpa using deletes

include patches

omit reads in
theorem patchVerdict_wp (verdict : Verdict) (plane : ControlPlane) :
    wpE (env mayFail) permit (fun _ _ => True) (fun _ _ => True) (patchVerdict plane machine verdict) world := by
  simp only [patchVerdict, patchConditions, wpE_bind, wpE_attempt, wpE_patchMachine, wpE_mk, wp_pure]
  cases verdict.outcome <;> simp [outcome, patches]

theorem remediateOldest_wp {plane : ControlPlane}
    (remediates : ∀ machine, plane.unhealthyMachines.oldest = some machine →
      wpE (env mayFail) permit (fun _ _ => True) (fun _ _ => True) (remediate runtime plane machine) world) :
    wpE (env mayFail) permit (fun _ _ => True) (fun _ _ => True) (remediateOldest runtime plane) world := by
  unfold remediateOldest
  split
  · trivial
  · rename_i machine picked
    split
    · trivial
    · simp only [wpE_bind, wpE_runTask, wpE_lift, verdictOf, wp_bind]
      refine ⟨reads _ _ rfl, ?_, fun _ _ => trivial⟩
      rw [wp_outcomes]
      exact wpE_mono (remediates machine picked)
        (fun verdict later _ => patchVerdict_wp patches verdict _)
        (fun verdict later _ => patchVerdict_wp patches verdict _)

theorem cleanupRemediation_wp (machines : List Machine) (world : World) :
    (cleanupRemediation machines).wp (env mayFail) permit (fun _ next => next.etcd = world.etcd) world := by
  induction machines generalizing world with
  | nil => rfl
  | cons machine rest ih =>
    have later : ∀ next : World, next.etcd = world.etcd →
        (cleanupRemediation rest).wp (env mayFail) permit (fun _ next => next.etcd = world.etcd) next :=
      fun next same => same ▸ ih next
    unfold cleanupRemediation
    split
    · simp only [clearRemediation, patchConditions, wp_bind, wp_outcomes, wpE_runTask, wpE_patchMachine, wp_pure]
      refine ⟨reads _ _ rfl, ⟨patches _ _ _, later _ rfl, fun _ _ => ⟨later _ rfl, later _ rfl⟩⟩,
        fun _ _ => later _ rfl⟩
    · exact later world rfl

theorem reconcileUnhealthyMachines_wp
    (remediates : ∀ machine, (withoutRemediations controlPlane).unhealthyMachines.oldest = some machine →
      ∀ later : World, later.etcd = world.etcd → wpE (env mayFail) permit (fun _ _ => True) (fun _ _ => True)
        (remediate runtime (withoutRemediations controlPlane) machine) later) :
    wpE (env mayFail) permit (fun _ _ => True) (fun _ _ => True)
      (reconcileUnhealthyMachines runtime controlPlane) world := by
  simp only [reconcileUnhealthyMachines, wpE_bind, wpE_lift]
  refine wp_mono (cleanupRemediation_wp reads patches _ world) fun errors next same => ?_
  unfold failIfAny
  split
  · exact remediateOldest_wp reads patches fun machine picked => remediates machine picked next same
  · trivial

end Parts

theorem remediateEtcdMember_wp (safe : Safe controlPlane machine world.etcd.members) :
    wpE (env True) (permitted controlPlane) (fun _ next => Safe controlPlane machine next.etcd.members)
      (fun _ _ => True) (remediateEtcdMember (withoutRemediations controlPlane) machine) world := by
  -- The leader may change before the member is removed; the members do not.
  have removal : ∀ {before : World}, before.etcd.members = world.etcd.members →
      wpE (env True) (permitted controlPlane) (fun _ next => Safe controlPlane machine next.etcd.members)
        (fun _ _ => True) (removeEtcdMemberForMachine machine) before := by
    intro before same
    have safe : Safe controlPlane machine before.etcd.members := same ▸ safe
    unfold removeEtcdMemberForMachine
    split
    · exact safe
    · rename_i node runs
      refine removeMemberForNode_wp reads_permitted ?_ (fun _ => safe) ?_ (fun _ _ => trivial) (fun _ _ _ _ _ => trivial)
      · intro _ member found
        obtain ⟨mem, rfl⟩ := memberNamed_mem found
        exact ⟨machine, safe, member, mem, rfl, runs⟩
      · intro member found leader _
        obtain ⟨mem, rfl⟩ := memberNamed_mem found
        exact safe.removeMember mem runs leader
  unfold remediateEtcdMember
  split
  · simp only [wpE_bind, wpE_adaptError]
    exact forwardEtcdLeadership_wp reads_permitted (fun _ _ => trivial) (fun _ => removal rfl)
      (fun _ _ _ _ _ _ => removal rfl) (fun _ _ => trivial) (fun _ _ _ => trivial)
  · trivial

theorem remediate_wp (managed : controlPlane.isEtcdManaged = true)
    (picked : (withoutRemediations controlPlane).unhealthyMachines.oldest = some machine) :
    wpE (env True) (permitted controlPlane) (fun _ _ => True) (fun _ _ => True)
      (remediate runtime (withoutRemediations controlPlane) machine) world := by
  have managedToo : (withoutRemediations controlPlane).isEtcdManaged = true := managed
  simp only [remediate, managedToo, if_true, wpE_bind, wpE_adaptError, wpE_runTask]
  refine wpE_mono (checkRemediation_wp reads_permitted managed picked) ?_ (fun _ _ _ => trivial)
  rintro _ next ⟨rfl, safe⟩
  refine ⟨trivial, ?_, fun _ _ => trivial⟩
  exact wpE_mono (remediateEtcdMember_wp safe)
    (fun _ _ safe => deleteUnhealthyMachine_wp reads_permitted ⟨machine, safe, rfl⟩) (fun _ _ _ => trivial)

/-- A machine that is remediated is the oldest unhealthy one, none is being deleted, there are enough, and the healthy
other members are a strict majority. -/
theorem remediation_keeps_quorum (managed : controlPlane.isEtcdManaged = true)
    {trace : List (Event signature World)} {rest : Prog signature (Except Err (Result × ControlPlane))} {next : World}
    (run : Run (env True) (reconcileUnhealthyMachines runtime controlPlane).run world trace rest next)
    (event : Event signature World) (occurs : event ∈ trace) :
    (∀ node id, event.request = .memberRemove node id →
      ∃ machine, Safe controlPlane machine event.before.etcd.members ∧
        ∃ member ∈ event.before.etcd.members, member.id = id ∧ machine.nodeRef = some member.name) ∧
    ∀ name, event.request = .deleteMachine name →
      ∃ machine, Safe controlPlane machine event.before.etcd.members ∧ machine.name = name := by
  have valid : wpE (env True) (permitted controlPlane) (fun _ _ => True) (fun _ _ => True)
      (reconcileUnhealthyMachines runtime controlPlane) world :=
    reconcileUnhealthyMachines_wp reads_permitted (fun _ _ _ => trivial) fun _ picked _ _ => remediate_wp managed picked
  have issued := (wp_run run valid).2 event occurs
  constructor
  · intro node id removes
    rw [removes] at issued
    exact issued
  · intro name deletes
    rw [deletes] at issued
    exact issued

end Remediations

private def onNode (name node : String) (conditions : ConditionList) : Machine :=
  { (default : Machine) with name := name, nodeRef := some node, conditions := conditions }

private def oneMarked : ControlPlane where
  ocnecp := { (default : OCNEControlPlane) with
    spec := { (default : OCNEControlPlaneSpec) with replicas := some 3 } }
  cluster := default
  machines := ⟨[
    onNode "a" "x" [falseCondition machineHealthCheckSucceededCondition "" .Warning "",
      falseCondition machineOwnerRemediatedCondition "" .Warning ""],
    onNode "b" "y" [trueCondition machineEtcdMemberHealthyCondition],
    onNode "c" "z" [trueCondition machineEtcdMemberHealthyCondition]], by decide⟩
  reconciliationTime := 0
  ocneConfigs _ := none
  infraResources _ := none

private def threeNodes : World :=
  let node (name : String) : Node := ⟨name, (∅ : StringMap).insert labelNodeRoleControlPlane "", [], []⟩
  { (default : World) with
    nodes := [node "x", node "y", node "z"]
    etcd := ⟨[⟨1, "x"⟩, ⟨2, "y"⟩, ⟨3, "z"⟩], 1, by decide⟩ }

private def removesMember : Call → Bool
  | .memberRemove _ _ => true
  | _ => false

/-- A remediation that removes the member of the marked machine. -/
theorem remediation_keeps_quorum_of_three :
    ∃ event ∈ (reconcileUnhealthyMachines default oneMarked).run.trace (serve plainly) threeNodes,
      removesMember event.request = true ∧ ∃ machine, Safe oneMarked machine event.before.etcd.members := by
  have run := serve_run plainly (reconcileUnhealthyMachines default oneMarked).run threeNodes
  have removal : ((reconcileUnhealthyMachines default oneMarked).run.trace (serve plainly) threeNodes).any
      (removesMember ·.request) = true := by decide
  obtain ⟨event, occurs, removes⟩ := any_eq_true.mp removal
  refine ⟨event, occurs, removes, ?_⟩
  have safe := (remediation_keeps_quorum (by decide) run event occurs).1
  cases request : event.request with
  | memberRemove node id =>
    obtain ⟨machine, held, _⟩ := safe node id request
    exact ⟨machine, held⟩
  | _ => simp [request, removesMember] at removes

end OcneProvider.Controller.Quorum
