import OcneProvider.Controller.Quorum
import OcneProvider.Controller.Selection

/-! The etcd leadership when a member is removed: when another machine has it then,
and when it is forwarded to the very machine that is about to go. -/

namespace OcneProvider.Controller.Leadership
open Api.Meta Api.Conditions Api.Objects Collections Calls Clusters Plane Remediation Scale Selection Quorum
open Etcd.Workload Etcd.Reading Effects.Program Effects.Fallible

def NodesDistinct (machines : Machines) : Prop :=
  ∀ first ∈ machines, ∀ second ∈ machines, first.nodeRef ≠ none → first.nodeRef = second.nodeRef → first = second

/-- The candidate is another machine, the member does not lead, and if it did at first, the candidate's does. -/
structure Handover (world : World) (was : Nat) (machine candidate : Machine) (id : Nat) : Prop where
  own : ∃ member ∈ world.etcd.members, member.id = id ∧ machine.nodeRef = some member.name
  different : candidate ≠ machine
  moved : world.etcd.leader ≠ id
  leads : was = id → ∃ member ∈ world.etcd.members, member.id = world.etcd.leader ∧
    candidate.nodeRef = some member.name

section Forwarding

variable {mayFail : Prop} {permit : World → Call → Prop} {world : World} {machine candidate : Machine}
variable (reads : ∀ world call, changes call = false → permit world call)
variable (moves : ∀ world node id, permit world (.moveLeader node id))

include reads moves

/-- Members are removed only after the leadership has gone to another machine. -/
theorem forward_remove_wp {ok : Unit → World → Prop} {fail : Err → World → Prop}
    (apart : machine.nodeRef ≠ none → candidate ≠ machine ∧ candidate.nodeRef ≠ machine.nodeRef)
    (removes : ∀ later node id, Handover later world.etcd.leader machine candidate id →
      permit later (.memberRemove node id)) (onOk : ∀ later, ok () later) (onFail : ∀ error later, fail error later) :
    wpE (env mayFail) permit
      (fun _ later => wpE (env mayFail) permit ok fail (removeEtcdMemberForMachine machine) later) fail
      (forwardEtcdLeadership machine (some candidate)) world := by
  have removal : ∀ later : World, later.etcd.members = world.etcd.members →
      (∀ node member, machine.nodeRef = some node → memberNamed world.etcd.members node = some member →
        Handover later world.etcd.leader machine candidate member.id) →
      wpE (env mayFail) permit ok fail (removeEtcdMemberForMachine machine) later := by
    intro later same handover
    unfold removeEtcdMemberForMachine
    split
    · exact onOk later
    · rename_i node runs
      refine removeMemberForNode_wp reads ?_ (fun _ => onOk _) (fun _ _ _ _ => onOk _) (fun _ _ => onFail _ _)
        (fun _ _ _ _ _ => onFail _ _)
      intro client member found
      rw [same] at found
      exact removes later client member.id (handover node member runs found)
  refine forwardEtcdLeadership_wp reads (moves world) ?_ ?_ (fun _ _ => onFail _ _) (fun _ _ _ => onFail _ _)
  · intro stays
    refine removal world rfl fun node member runs found => ?_
    have apart := apart (by simp [runs])
    obtain ⟨mem, rfl⟩ := memberNamed_mem found
    have follows := stays member.name member runs found
    exact ⟨⟨member, mem, rfl, runs⟩, apart.1, follows.symm, fun led => absurd led.symm follows⟩
  · intro other node next given otherRuns foundNext
    obtain rfl := Option.some.inj given
    refine removal _ rfl fun node member runs found => ?_
    have apart := apart (by simp [runs])
    obtain ⟨mem, rfl⟩ := memberNamed_mem found
    obtain ⟨listedNext, rfl⟩ := memberNamed_mem foundNext
    refine ⟨⟨member, mem, rfl, runs⟩, apart.1, fun same => ?_, fun _ => ⟨next, listedNext, rfl, otherRuns⟩⟩
    have names : next = member := List.inj_on_of_nodup_map world.etcd.distinct listedNext mem same
    exact apart.2 (by rw [otherRuns, runs, names])

end Forwarding

/-- In every scale-down, rollout and remediation the leadership is handed over. -/
structure LeadershipMoves (controlPlane : ControlPlane) (outdated : Machines) : Prop where
  scaleDown : ∀ {runtime : Runtime} {ocnecp : OCNEControlPlane} {world next : World}
    {trace : List (Event signature World)} {rest : Prog signature (Except Err Result)},
    Run (env True) (scaleDownControlPlane runtime ocnecp controlPlane outdated).run world trace rest next →
    ∀ event ∈ trace, ∀ node id, event.request = .memberRemove node id →
      ∃ machine candidate, selectMachineForScaleDown controlPlane runtime.order outdated = .ok machine ∧
        controlPlane.machines.newest = some candidate ∧
        Handover event.before world.etcd.leader machine candidate id
  remediation : ∀ {runtime : Runtime} {world next : World} {trace : List (Event signature World)}
    {rest : Prog signature (Except Err (Result × ControlPlane))},
    Run (env True) (reconcileUnhealthyMachines runtime controlPlane).run world trace rest next →
    ∀ event ∈ trace, ∀ node id, event.request = .memberRemove node id →
      ∃ machine candidate, (withoutRemediations controlPlane).unhealthyMachines.oldest = some machine ∧
        (withoutRemediations controlPlane).healthyMachines.newest = some candidate ∧
        Handover event.before world.etcd.leader machine candidate id

/-- A scale-down forwards the leadership to the machine it removes. -/
def ForwardsToItself (controlPlane : ControlPlane) (outdated : Machines) (machine : Machine) : Prop :=
  NewestAlone controlPlane outdated machine ∧ machine.nodeRef ≠ none ∧
    (preflightChecks controlPlane [machine]).isZero = true

/-- Members are removed only when `removable` holds. -/
def OnlyRemoves (removable : World → Nat → Prop) (world : World) (call : Call) : Prop :=
  ∀ node id, call = .memberRemove node id → removable world id

section Moves

variable {plane : ControlPlane} {outdated : Machines} {runtime : Runtime} {ocnecp : OCNEControlPlane}
variable {mayFail : Prop} {world : World} {machine : Machine} {removable : World → Nat → Prop}

theorem onlyRemoves_other {call : Call} (other : ∀ node id, call ≠ .memberRemove node id) :
    OnlyRemoves removable world call :=
  fun node id is => absurd is (other node id)

theorem onlyRemoves_reads (world : World) (call : Call) (quiet : changes call = false) :
    OnlyRemoves removable world call := by
  rintro node id rfl
  simp [changes] at quiet

theorem deleteScaledDown_removes : wpE (env mayFail) (OnlyRemoves removable) (fun _ _ => True) (fun _ _ => True)
      (deleteScaledDown runtime ocnecp machine) world := by
  simp only [deleteScaledDown, wpE_bind, wpE_adaptError, wpE_mk, wp_pure]
  cases runtime.parseTolerant ocnecp.spec.version with
  | error error => trivial
  | ok version =>
    refine removeMachineFromOCNEConfigMap_wp machine version (fun _ => onlyRemoves_other (by simp)) ?_
      (fun _ _ => trivial)
    have deletion : OnlyRemoves removable world (.deleteMachine machine.name) := onlyRemoves_other (by simp)
    simp only [wpE_attempt, wpE_deleteMachine, wpE_pure, deletion, true_and, implies_true, and_self]
    intro _ error
    split <;> simp

theorem scaleDownControlPlane_removes (managed : plane.isEtcdManaged = true)
    (among : ∀ other ∈ outdated, other ∈ plane.machines) (distinct : NodesDistinct plane.machines)
    (otherwise : ∀ machine, ¬ ForwardsToItself plane outdated machine) :
    wpE (env mayFail) (OnlyRemoves fun later id => ∃ machine candidate,
        selectMachineForScaleDown plane runtime.order outdated = .ok machine ∧
        plane.machines.newest = some candidate ∧ Handover later world.etcd.leader machine candidate id)
      (fun _ _ => True) (fun _ _ => True) (scaleDownControlPlane runtime ocnecp plane outdated) world := by
  simp only [scaleDownControlPlane, wpE_bind, wpE_adaptError, wpE_mk, wp_pure]
  cases selected : selectMachineForScaleDown plane runtime.order outdated with
  | error error => trivial
  | ok machine =>
    have mem := (selectMachineForScaleDown_spec among selected).present
    obtain ⟨candidate, newest⟩ := Machines.exists_newest mem
    by_cases stable : (preflightChecks plane [machine]).isZero = true
    · have apart : machine.nodeRef ≠ none → candidate ≠ machine ∧ candidate.nodeRef ≠ machine.nodeRef := by
        intro runs
        have differs : candidate ≠ machine := by
          rintro rfl
          exact otherwise candidate ⟨newestAlone_of_selected among selected newest, runs, stable⟩
        refine ⟨differs, fun same => differs ?_⟩
        exact (distinct machine mem candidate (Machines.newest_mem newest) runs same.symm).symm
      simp only [outcome, stable, Bool.not_true, Bool.false_eq_true, if_false, managed, if_true, wpE_bind,
        wpE_adaptError, wpE_runTask, removeFromEtcd, newest]
      refine ⟨onlyRemoves_other (by simp), ?_, fun _ _ => trivial⟩
      refine forward_remove_wp onlyRemoves_reads (fun _ _ _ => onlyRemoves_other (by simp)) apart ?_
        (fun _ => deleteScaledDown_removes) (fun _ _ => trivial)
      rintro later _ id handover _ _ ⟨⟩
      exact ⟨machine, candidate, rfl, rfl, handover⟩
    · simp [outcome, stable]

/-- In a remediation the candidate is healthy, so it is not the machine to go. -/
theorem remediate_removes (managed : plane.isEtcdManaged = true) (distinct : NodesDistinct plane.machines)
    (picked : (withoutRemediations plane).unhealthyMachines.oldest = some machine) :
    wpE (env mayFail) (OnlyRemoves fun later id => ∃ machine candidate,
        (withoutRemediations plane).unhealthyMachines.oldest = some machine ∧
        (withoutRemediations plane).healthyMachines.newest = some candidate ∧
        Handover later world.etcd.leader machine candidate id)
      (fun _ _ => True) (fun _ _ => True) (remediate runtime (withoutRemediations plane) machine) world := by
  have managedToo : (withoutRemediations plane).isEtcdManaged = true := managed
  obtain ⟨present, unhealthy, _⟩ := oldest_unhealthy picked
  simp only [remediate, managedToo, if_true, wpE_bind, wpE_adaptError, wpE_runTask]
  refine wpE_mono (checkRemediation_wp onlyRemoves_reads managed picked) ?_ (fun _ _ _ => trivial)
  rintro _ later ⟨rfl, _⟩
  refine ⟨onlyRemoves_other (by simp), ?_, fun _ _ => trivial⟩
  unfold remediateEtcdMember
  split
  · rename_i candidate newest
    obtain ⟨found, healthy⟩ := mem_filter.mp (Machines.newest_mem newest)
    obtain ⟨old, mem, rfl⟩ := List.mem_map.mp found
    have differs : withoutRemediation old ≠ machine := by
      intro same
      rw [same, unhealthy] at healthy
      simp at healthy
    have apart : machine.nodeRef ≠ none →
        withoutRemediation old ≠ machine ∧ (withoutRemediation old).nodeRef ≠ machine.nodeRef := by
      refine fun runs => ⟨differs, fun same => differs ?_⟩
      have node : (withoutRemediation old).nodeRef = old.nodeRef := by
        unfold withoutRemediation
        split <;> rfl
      have is := distinct machine present old mem runs (same.symm.trans node)
      rw [← is, withoutRemediation_of_unhealthy unhealthy]
    simp only [wpE_bind, wpE_adaptError]
    refine forward_remove_wp onlyRemoves_reads (fun _ _ _ => onlyRemoves_other (by simp)) apart ?_
      (fun _ => deleteUnhealthyMachine_wp onlyRemoves_reads (onlyRemoves_other (by simp))) (fun _ _ => trivial)
    rintro later _ id handover _ _ ⟨⟩
    exact ⟨machine, _, picked, newest, handover⟩
  · trivial

theorem leadershipMoves (managed : plane.isEtcdManaged = true)
    (among : ∀ other ∈ outdated, other ∈ plane.machines) (apart : NodesDistinct plane.machines)
    (otherwise : ∀ machine, ¬ ForwardsToItself plane outdated machine) :
    LeadershipMoves plane outdated where
  scaleDown run event occurs node id removes :=
    (wp_run run (scaleDownControlPlane_removes managed among apart otherwise)).2 event occurs node id removes
  remediation {runtime world _ _ _} run event occurs node id removes := by
    have valid : wpE (env True) (OnlyRemoves fun later id => ∃ machine candidate,
        (withoutRemediations plane).unhealthyMachines.oldest = some machine ∧
        (withoutRemediations plane).healthyMachines.newest = some candidate ∧
        Handover later world.etcd.leader machine candidate id) (fun _ _ => True) (fun _ _ => True)
        (reconcileUnhealthyMachines runtime plane) world := by
      refine reconcileUnhealthyMachines_wp onlyRemoves_reads (fun _ _ _ => onlyRemoves_other (by simp)) ?_
      intro machine picked later same
      rw [← same]
      exact remediate_removes managed apart picked
    exact (wp_run run valid).2 event occurs node id removes

end Moves

section Failure

variable {plane : ControlPlane} {outdated : Machines} {runtime : Runtime} {ocnecp : OCNEControlPlane}
variable {mayFail : Prop} {world next : World} {machine : Machine}

theorem env_members {call : Call} {answer : call.Answer} (other : ∀ node id, call ≠ .memberRemove node id)
    (answered : env mayFail world call answer next) : next.etcd.members = world.etcd.members := by
  cases call with
  | memberRemove node id => exact absurd rfl (other node id)
  | createMachine machine =>
    cases answer with
    | ok value =>
      obtain ⟨created, free, rfl⟩ := answered
      rfl
    | error error =>
      obtain ⟨_, rfl | ⟨created, free, rfl⟩⟩ := answered <;> rfl
  | patchMachine name patch =>
    cases answer with
    | ok value =>
      obtain rfl := answered
      rfl
    | error error =>
      obtain ⟨_, rfl | rfl⟩ := answered <;> rfl
  | deleteMachine name =>
    cases answer with
    | ok value =>
      obtain ⟨time, rfl⟩ | rfl := answered <;> rfl
    | error error =>
      obtain ⟨_, rfl | ⟨time, rfl⟩ | rfl⟩ := answered <;> rfl
  | moveLeader node id =>
    cases answer with
    | ok value =>
      obtain rfl := answered
      rfl
    | error error =>
      obtain ⟨_, rfl | rfl⟩ := answered <;> rfl
  | _ => rw [env_unchanged rfl answered]

theorem exists_removal {α : Type} {program rest : Prog signature α} {trace : List (Event signature World)}
    (run : Run (env mayFail) program world trace rest next) (changed : next.etcd.members ≠ world.etcd.members) :
    ∃ event ∈ trace, ∃ node id, event.request = .memberRemove node id := by
  induction run with
  | here program world => exact absurd rfl changed
  | @step request _ before middle _ answer trace _ answered later ih =>
    by_cases removal : ∃ node id, request = .memberRemove node id
    · exact ⟨_, List.mem_cons_self, removal⟩
    · have same := env_members (fun node id is => removal ⟨node, id, is⟩) answered
      obtain ⟨event, occurs, removes⟩ := ih (same ▸ changed)
      exact ⟨event, List.mem_cons_of_mem _ occurs, removes⟩

def labelledNode (name : String) : Node := ⟨name, (∅ : StringMap).insert labelNodeRoleControlPlane "", [], []⟩

def oneMember (node : String) : World :=
  { (default : World) with
    nodes := [labelledNode node, labelledNode (node ++ "-")]
    etcd := ⟨[⟨1, node⟩], 1, List.nodup_singleton _⟩ }

theorem controlPlaneNodes_oneMember (node : String) :
    (controlPlaneNodes (oneMember node)).map Node.name = [node, node ++ "-"] := by
  have old : labelNodeRoleOldControlPlane ≠ labelNodeRoleControlPlane := by decide
  have longer : node ≠ node ++ "-" := by
    intro same
    have length := congrArg String.length same
    simp at length
  simp [controlPlaneNodes, oneMember, labelledNode, addNewNodes, old, longer]

theorem memberNamed_oneMember (node : String) : memberNamed (oneMember node).etcd.members node = some ⟨1, node⟩ := by
  simp [memberNamed, oneMember]

/-- No machine is created, and the member is removed as leader. -/
def Forgets (world : World) (call : Call) : Prop :=
  (∀ node id, call = .memberRemove node id → world.etcd.leader = id) ∧ ∀ machine, call ≠ .createMachine machine

theorem forgets_reads (world : World) (call : Call) (quiet : changes call = false) : Forgets world call := by
  constructor
  · rintro node id rfl
    simp [changes] at quiet
  · rintro machine rfl
    simp [changes] at quiet

theorem removeFromEtcd_forgets {node : String} (newest : plane.machines.newest = some machine)
    (runs : machine.nodeRef = some node) {ok : Unit → World → Prop} {fail : Err → World → Prop}
    (onOk : ∀ later : World, later.etcd.members = [] → ok () later) :
    wpE (env False) Forgets ok fail (removeFromEtcd plane machine) (oneMember node) := by
  have known : LeaderKnown (oneMember node) ((controlPlaneNodes (oneMember node)).map Node.name) :=
    ⟨⟨1, node⟩, by simp [oneMember], rfl, by simp [controlPlaneNodes_oneMember]⟩
  have able : Forwardable (oneMember node) machine plane.machines.newest :=
    ⟨fun _ => known, fun _ => ⟨machine, node, newest, runs, by simp [memberNamed_oneMember]⟩⟩
  simp only [removeFromEtcd, wpE_bind]
  refine forwardEtcdLeadership_wp forgets_reads (fun _ _ => ⟨by simp, by simp⟩) ?_ ?_ ?_ (fun may => may.elim)
  · intro stays
    exact absurd rfl (stays node _ runs (memberNamed_oneMember node))
  · intro candidate candidateNode next given candidateRuns found
    obtain rfl := Option.some.inj (newest.symm.trans given)
    obtain rfl := Option.some.inj (runs.symm.trans candidateRuns)
    obtain rfl := Option.some.inj ((memberNamed_oneMember _).symm.trans found)
    simp only [removeEtcdMemberForMachine, runs]
    have same : memberNamed ((oneMember node).moveLeader 1).etcd.members node =
        some ⟨1, node⟩ := memberNamed_oneMember node
    refine removeMemberForNode_wp forgets_reads ?_ ?_ ?_ ?_ (fun may => may.elim)
    · intro _ mem found
      obtain rfl := Option.some.inj (same.symm.trans found)
      refine ⟨fun _ id removes => ?_, by simp⟩
      obtain ⟨_, rfl⟩ : _ ∧ 1 = id := by simpa using removes
      rfl
    · intro missing
      exact absurd (same.symm.trans missing) (by simp)
    · intro mem found leader _
      obtain rfl := Option.some.inj (same.symm.trans found)
      exact onOk _ (by simp [World.removeMember, World.moveLeader, EtcdCluster.remove, oneMember])
    · rintro (may | few) error
      · exact may.elim
      · have two : (controlPlaneNodes ((oneMember node).moveLeader 1)).length = 2 := by
          have nodes := congrArg List.length (controlPlaneNodes_oneMember node)
          rw [List.length_map] at nodes
          exact nodes
        omega
  · rintro (may | unable) error
    · exact may.elim
    · exact absurd able unable

theorem deleteScaledDown_forgets (gone : world.etcd.members = []) :
    wpE (env False) Forgets (fun _ later => later.etcd.members = []) (fun _ later => later.etcd.members = [])
      (deleteScaledDown runtime ocnecp machine) world := by
  simp only [deleteScaledDown, wpE_bind, wpE_adaptError, wpE_mk, wp_pure]
  cases runtime.parseTolerant ocnecp.spec.version with
  | error error => exact gone
  | ok version =>
    refine removeMachineFromOCNEConfigMap_wp machine version (fun _ => forgets_reads _ _ rfl) ?_ (fun may => may.elim)
    have deletion : Forgets world (.deleteMachine machine.name) := ⟨by simp, by simp⟩
    simp only [wpE_attempt, wpE_deleteMachine, wpE_pure, deletion, true_and, false_imp_iff, and_true]
    exact ⟨fun _ => gone, gone⟩

theorem not_leadershipMoves (managed : plane.isEtcdManaged = true)
    (among : ∀ other ∈ outdated, other ∈ plane.machines)
    (forwards : ForwardsToItself plane outdated machine) : ¬ LeadershipMoves plane outdated := by
  obtain ⟨alone, runs, stable⟩ := forwards
  obtain ⟨order, selected⟩ := exists_selected among alone
  obtain ⟨node, runs⟩ := Option.ne_none_iff_exists'.mp runs
  have valid : wpE (env False) Forgets (fun _ later => later.etcd.members = []) (fun _ later => later.etcd.members = [])
      (scaleDownControlPlane { (default : Runtime) with order := order } default plane outdated)
      (oneMember node) := by
    simp only [scaleDownControlPlane, wpE_bind, wpE_adaptError, wpE_mk, wp_pure, selected, outcome, stable,
      Bool.not_true, Bool.false_eq_true, if_false, managed, if_true, wpE_runTask]
    refine ⟨forgets_reads _ _ rfl, ?_, fun may => may.elim⟩
    exact removeFromEtcd_forgets alone.newest runs fun later gone => deleteScaledDown_forgets gone
  obtain ⟨trace, result, next, run, gone⟩ := exists_finished_run valid fun world call issued =>
    exists_answer fun machine is => absurd is (issued.2 machine)
  have emptied : next.etcd.members = [] := by cases result <;> exact gone
  obtain ⟨event, occurs, client, id, removes⟩ := exists_removal run (by simp [emptied, oneMember])
  have leads := ((wp_run run valid).2 event occurs).1 client id removes
  intro moves
  have wide : Run (env True) _ _ _ _ _ := run.mono fun _ _ _ _ answered => env_mono False.elim answered
  obtain ⟨_, _, _, _, handover⟩ := moves.scaleDown wide event occurs client id removes
  exact handover.moved leads

end Failure

section Results

variable {plane : ControlPlane} {outdated : Machines}

/-- Whenever a member is removed another machine leads, except when a scale-down can choose the newest machine, its
own candidate. -/
theorem leadershipMoves_iff (managed : plane.isEtcdManaged = true)
    (among : ∀ other ∈ outdated, other ∈ plane.machines) (distinct : NodesDistinct plane.machines) :
    LeadershipMoves plane outdated ↔ ¬ ∃ machine, ForwardsToItself plane outdated machine := by
  constructor
  · rintro moves ⟨machine, forwards⟩
    exact not_leadershipMoves managed among forwards moves
  · intro otherwise
    exact leadershipMoves managed among distinct fun machine forwards => otherwise ⟨machine, forwards⟩

end Results

private def aged (name node : String) (created : Time) (annotated : Bool) : Machine :=
  { (default : Machine) with
    name := name
    nodeRef := some node
    creationTimestamp := created
    annotations := if annotated then (∅ : StringMap).insert deleteMachineAnnotation "" else ∅
    conditions := Health.healthTypes.map trueCondition }

private def pair (annotated : Bool) : ControlPlane where
  ocnecp := { (default : OCNEControlPlane) with spec := { (default : OCNEControlPlaneSpec) with version := "v1.25.7" } }
  cluster := default
  machines := ⟨[aged "a" "x" 0 false, aged "b" "y" 1 annotated], by cases annotated <;> decide⟩
  reconciliationTime := 0
  ocneConfigs _ := none
  infraResources _ := none

private theorem pair_distinct (annotated : Bool) : NodesDistinct (pair annotated).machines := by
  unfold NodesDistinct
  cases annotated <;> decide

/-- Without the mark the older machine goes and the newer one gets the leadership. -/
theorem leadershipMoves_pair : LeadershipMoves (pair false) default := by
  refine (leadershipMoves_iff (by decide) (fun _ none => absurd none List.not_mem_nil) (pair_distinct false)).mpr ?_
  rintro ⟨machine, ⟨newest, _, alone⟩, _⟩
  obtain rfl : machine = aged "b" "y" 1 false := by
    have found : (pair false).machines.newest = some (aged "b" "y" 1 false) := by decide
    exact Option.some.inj (newest.symm.trans found)
  have older : Eligible (pair false) default (aged "a" "x" 0 false) := by
    exact ⟨List.mem_cons_self, by decide⟩
  rcases alone with ⟨_, others⟩ | ⟨inside, _⟩
  · exact absurd (others _ older (by decide)) (by decide)
  · exact absurd inside (by decide)

/-- Both machines have a member, and the newer one leads. -/
private def twoMembers : World :=
  { (default : World) with
    nodes := [labelledNode "x", labelledNode "y"]
    etcd := ⟨[⟨1, "x"⟩, ⟨2, "y"⟩], 2, by decide⟩ }

private def removesLeader (event : Event signature World) : Bool :=
  match event.request with
  | .memberRemove _ id => event.before.etcd.leader == id && event.after.etcd.members == [⟨1, "x"⟩]
  | _ => false

/-- The annotated newest of two machines: every call succeeds, and the leader is removed while the other is there. -/
theorem scaleDown_removes_leader : ∃ (plane : ControlPlane) (world : World),
    plane.isEtcdManaged = true ∧ 2 ≤ plane.machines.len ∧ NodesDistinct plane.machines ∧
    ∃ trace rest next,
      Run (env True) (scaleDownControlPlane default default plane default).run world trace rest next ∧
      ∃ event ∈ trace, ∃ node id, event.request = .memberRemove node id ∧ event.before.etcd.leader = id ∧
        event.after.etcd.members = [⟨1, "x"⟩] := by
  have run := serve_run plainly (scaleDownControlPlane default default (pair true) default).run twoMembers
  have removal : ((scaleDownControlPlane default default (pair true) default).run.trace (serve plainly)
      twoMembers).any removesLeader = true := by decide
  refine ⟨_, _, by decide, by decide, pair_distinct _, _, _, _, run, ?_⟩
  obtain ⟨event, occurs, removes⟩ := List.any_eq_true.mp removal
  refine ⟨event, occurs, ?_⟩
  unfold removesLeader at removes
  split at removes
  · rename_i node id request
    exact ⟨node, id, request, by simpa using removes⟩
  · simp at removes

end OcneProvider.Controller.Leadership
