import OcneProvider.Controller.Calls

/-! The clusters a pass acts on, as far as its calls change or report them. A
call that fails may still have taken effect, since an error can reach the
controller after the server has done the work. -/

namespace OcneProvider.Controller.Clusters
open Api.Meta Api.Objects Collections Calls
open Effects.Program Effects.Fallible

/-- The etcd cluster of the workload cluster; members have distinct ids. -/
structure EtcdCluster where
  members : List PbMember
  leader : Nat
  distinct : (members.map PbMember.id).Nodup

/-- Removal of a member; if it was the leader, another leader is elected. -/
def EtcdCluster.remove (etcd : EtcdCluster) (id leader : Nat) : EtcdCluster where
  members := etcd.members.filter (·.id ≠ id)
  leader := leader
  distinct := etcd.distinct.sublist (List.filter_sublist.map _)

instance : Inhabited EtcdCluster := ⟨[], 0, List.nodup_nil⟩

structure World where
  machines : Machines
  nodes : List Node
  etcd : EtcdCluster
  deriving Inhabited

def World.machineNames (world : World) : List String :=
  world.machines.items.map Machine.name

def World.addMachine (world : World) (machine : Machine) (free : machine.name ∉ world.machineNames) : World where
  __ := world
  machines := ⟨machine :: world.machines.items, List.nodup_cons.mpr ⟨free, world.machines.distinct⟩⟩

def World.removeMachine (world : World) (name : String) : World where
  __ := world
  machines := world.machines.filter (·.name ≠ name)

def Machine.startDeletion (time : Time) (machine : Machine) : Machine :=
  { machine with deletionTimestamp := machine.deletionTimestamp.or (some time) }

def Machine.applyPatch (patch : MachinePatch) (machine : Machine) : Machine :=
  { machine with
    labels := match patch.controlPlaneName with
      | none => machine.labels
      | some name => machine.labels.insert machineControlPlaneNameLabel name
    conditions := patch.conditions
    ownerReferences := patch.ownerReferences.getD machine.ownerReferences }

def World.updateMachine (world : World) (name : String) (change : Machine → Machine)
    (named : ∀ machine, (change machine).name = machine.name) : World where
  __ := world
  machines := world.machines.modify (fun machine => if machine.name = name then change machine else machine)
    (fun machine => by split <;> simp [named])

def World.startDeletion (world : World) (name : String) (time : Time) : World :=
  world.updateMachine name (Machine.startDeletion time) fun _ => rfl

def World.patchMachine (world : World) (name : String) (patch : MachinePatch) : World :=
  world.updateMachine name (Machine.applyPatch patch) fun _ => rfl

def World.removeMember (world : World) (id leader : Nat) : World :=
  { world with etcd := world.etcd.remove id leader }

def World.moveLeader (world : World) (id : Nat) : World :=
  { world with etcd := { world.etcd with leader := id } }

def World.Lists (world : World) (clusterName : String) (listed : Machines) : Prop :=
  ∀ machine, machine ∈ listed ↔
    machine ∈ world.machines ∧ machine.labels.lookup clusterLabelName = some clusterName

/-- How the clusters answer a call and what it changes. Calls whose effects are not followed may return anything. -/
def env (mayFail : Prop) : Env signature World := fun world call => match call with
  | .task _ => fun answer next => Reads mayFail answer (next = world) fun _ => True
  | .reconcileKubeconfig => fun answer next => Reads mayFail answer (next = world) fun _ => True
  | .getControlPlaneUncached => fun answer next => Reads mayFail answer (next = world) fun _ => True
  | .listMachines clusterName => fun answer next =>
      Reads mayFail answer (next = world) (world.Lists clusterName)
  | .getInfra _ => fun answer next => Reads mayFail answer (next = world) fun _ => True
  | .getOCNEConfig _ _ => fun answer next => Reads mayFail answer (next = world) fun _ => True
  | .now => fun _ next => next = world
  | .generateName _ => fun _ next => next = world
  | .createFromTemplate _ => fun answer next => Reads mayFail answer (next = world) fun _ => True
  | .createOCNEConfig _ => fun answer next => Reads mayFail answer (next = world) fun _ => True
  | .createMachine machine => fun answer next => Writes mayFail answer (next = world)
      (∃ created free, next = world.addMachine { machine with creationTimestamp := created } free)
  | .patchMachine name patch => fun answer next => Writes mayFail answer (next = world)
      (next = world.patchMachine name patch)
  | .deleteMachine name => fun answer next => Writes mayFail answer (next = world)
      ((∃ time, next = world.startDeletion name time) ∨ next = world.removeMachine name)
  | .deleteObject _ => fun answer next => Reads mayFail answer (next = world) fun _ => True
  | .getPod _ => fun answer next => Reads mayFail answer (next = world) fun _ => True
  | .getAPIServerCertificateExpiry _ => fun answer next =>
      Reads mayFail answer (next = world) fun _ => True
  | .listNodes label => fun answer next => Reads mayFail answer (next = world) fun nodes =>
      nodes = world.nodes.filter (·.labels.lookup label = some "")
  | .newEtcdClient node => fun answer next => Reads mayFail answer (next = world) fun client =>
      client.node = node ∧ client.leaderID = world.etcd.leader
  | .memberList _ => fun answer next => Reads mayFail answer (next = world) fun response =>
      response.2 = world.etcd.members
  | .alarmList _ => fun answer next => Reads mayFail answer (next = world) fun _ => True
  | .memberRemove _ id => fun answer next => Writes mayFail answer (next = world)
      (∃ leader, (world.etcd.leader ≠ id → leader = world.etcd.leader) ∧
        next = world.removeMember id leader)
  | .moveLeader _ id => fun answer next => Writes mayFail answer (next = world)
      (next = world.moveLeader id)

/-- One way to answer: calls take effect, and those not followed are answered as given. -/
def serve (given : (call : Call) → call.Answer) (world : World) (call : Call) : call.Answer × World :=
  match call with
  | .listMachines clusterName => (.ok (world.machines.filter fun machine =>
      machine.labels.lookup clusterLabelName = some clusterName), world)
  | .createMachine machine =>
    if free : machine.name ∉ world.machineNames then (.ok (), world.addMachine machine free)
    else (.error (errorf "already exists"), world)
  | .patchMachine name patch => (.ok (), world.patchMachine name patch)
  | .deleteMachine name => (.ok (), world.startDeletion name 0)
  | .listNodes label => (.ok (world.nodes.filter (·.labels.lookup label = some "")), world)
  | .newEtcdClient node => (.ok ⟨node, world.etcd.leader, []⟩, world)
  | .memberList _ => (.ok (0, world.etcd.members), world)
  | .memberRemove _ id => (.ok (), world.removeMember id world.etcd.leader)
  | .moveLeader _ id => (.ok (), world.moveLeader id)
  | call => (given call, world)

def plainly : (call : Call) → call.Answer
  | .task _ => .ok ()
  | .reconcileKubeconfig => .ok .empty
  | .getControlPlaneUncached => .ok none
  | .listMachines _ => .ok default
  | .getInfra _ => .ok ⟨∅, ∅⟩
  | .getOCNEConfig _ _ => .ok default
  | .now => (0 : Int)
  | .generateName base => base
  | .createFromTemplate input => .ok input.templateRef
  | .createOCNEConfig _ => .ok ""
  | .createMachine _ => .ok ()
  | .patchMachine _ _ => .ok ()
  | .deleteMachine _ => .ok ()
  | .deleteObject _ => .ok ()
  | .getPod _ => .ok ⟨.running, [], []⟩
  | .getAPIServerCertificateExpiry _ => .ok 0
  | .listNodes _ => .ok []
  | .newEtcdClient node => .ok ⟨node, 0, []⟩
  | .memberList _ => .ok (0, [])
  | .alarmList _ => .ok []
  | .memberRemove _ _ => .ok ()
  | .moveLeader _ _ => .ok ()

def readyCluster : Cluster :=
  { (default : Cluster) with name := "cluster", infrastructureReady := true, controlPlaneEndpoint := ("host", 1) }

def changes : Call → Bool
  | .createMachine _ | .patchMachine _ _ | .deleteMachine _ | .memberRemove _ _ | .moveLeader _ _ => true
  | _ => false

theorem env_mono {may must : Prop} (weaker : must → may) {world next : World} {call : Call} {answer : call.Answer}
    (answered : env must world call answer next) : env may world call answer next := by
  cases call <;>
    first | exact Reads.mono weaker answered | exact Writes.mono weaker answered | exact answered

theorem env_unchanged {mayFail : Prop} {world next : World} {call : Call} {answer : call.Answer}
    (quiet : changes call = false) (answered : env mayFail world call answer next) : next = world := by
  cases call <;> first | exact answered.1 | exact answered | simp [changes] at quiet

variable {α : Type} (given : (call : Call) → call.Answer)

theorem reads_of {mayFail unchanged : Prop} (may : mayFail) (answer : Except Err α) (same : unchanged) :
    Reads mayFail answer unchanged fun _ => True := by
  cases answer with
  | ok value => exact ⟨same, trivial⟩
  | error error => exact ⟨same, may⟩

theorem serve_createMachine {world : World} {machine : Machine} (free : machine.name ∉ world.machineNames) :
    serve given world (.createMachine machine) = (.ok (), world.addMachine machine free) :=
  dif_pos free

theorem serve_env {mayFail : Prop} (may : mayFail ∨ given = plainly) {world : World} {call : Call}
    (free : mayFail ∨ ∀ machine, call = .createMachine machine → machine.name ∉ world.machineNames) :
    env mayFail world call (serve given world call).1 (serve given world call).2 := by
  cases call with
  | listMachines clusterName =>
    refine ⟨rfl, fun machine => ?_⟩
    rw [mem_filter, decide_eq_true_iff]
  | createMachine machine =>
    by_cases unused : machine.name ∉ world.machineNames
    · rw [serve_createMachine given unused]
      exact ⟨machine.creationTimestamp, unused, rfl⟩
    · have refused : serve given world (.createMachine machine) = (.error (errorf "already exists"), world) :=
        dif_neg unused
      rw [refused]
      exact ⟨free.resolve_right fun free => unused (free machine rfl), .inl rfl⟩
  | patchMachine name patch => exact rfl
  | deleteMachine name => exact .inl ⟨0, rfl⟩
  | listNodes label => exact ⟨rfl, rfl⟩
  | newEtcdClient node => exact ⟨rfl, rfl, rfl⟩
  | memberList node => exact ⟨rfl, rfl⟩
  | memberRemove node id => exact ⟨world.etcd.leader, fun _ => rfl, rfl⟩
  | moveLeader node id => exact rfl
  | now => exact rfl
  | generateName base => exact rfl
  | _ =>
    rcases may with may | rfl
    · exact reads_of may _ rfl
    · exact ⟨rfl, by trivial⟩

theorem serve_answers (world : World) (call : Call) :
    env True world call (serve given world call).1 (serve given world call).2 :=
  serve_env given (.inl trivial) (.inl trivial)

theorem serve_run (program : Prog signature α) (world : World) :
    Run (env True) program world (program.trace (serve given) world) (.done (program.exec (serve given) world).1)
      (program.exec (serve given) world).2 :=
  exec_run (serve given) program world (serve_answers given)

theorem exists_answer {world : World} {call : Call}
    (free : ∀ machine, call = .createMachine machine → machine.name ∉ world.machineNames) :
    ∃ answer next, env False world call answer next :=
  ⟨_, _, serve_env plainly (.inr rfl) (.inr free)⟩

theorem forall_made {ι : Type} {P : ι → Prop} {make : ∀ i, P i → World} {post : World → Prop} :
    (∀ next, (∃ i given, next = make i given) → post next) ↔ ∀ i given, post (make i given) := by
  constructor
  · exact fun valid i given => valid _ ⟨i, given, rfl⟩
  · rintro valid _ ⟨i, given, rfl⟩
    exact valid i given

section Rules

variable {mayFail : Prop} {permit : World → Call → Prop} {world : World} {fail : Err → World → Prop}

variable (node : String) (name : String) (id : Nat) {ok : Unit → World → Prop}

@[simp] theorem wpE_runTask (task : Task) :
    wpE (env mayFail) permit ok fail (runTask task) world ↔
      permit world (.task task) ∧ ok () world ∧ (mayFail → ∀ error, fail error world) :=
  and_congr Iff.rfl (forall_reads.trans (and_congr_left' ⟨fun valid => valid () trivial, fun valid _ _ => valid⟩))

@[simp] theorem wpE_listMachines (clusterName : String) {ok : Machines → World → Prop} :
    wpE (env mayFail) permit ok fail (listMachines clusterName) world ↔
      permit world (.listMachines clusterName) ∧ (∀ mem, world.Lists clusterName mem → ok mem world) ∧
        (mayFail → ∀ error, fail error world) :=
  and_congr Iff.rfl forall_reads

@[simp] theorem wpE_createFromTemplate (input : CreateFromTemplateInput) {ok : ObjectReference → World → Prop} :
    wpE (env mayFail) permit ok fail (createFromTemplate input) world ↔
      permit world (.createFromTemplate input) ∧ (∀ ref, ok ref world) ∧ (mayFail → ∀ error, fail error world) := by
  refine and_congr Iff.rfl (forall_reads.trans ?_)
  simp

@[simp] theorem wpE_createOCNEConfig (config : Api.Bootstrap.OCNEConfig) {ok : String → World → Prop} :
    wpE (env mayFail) permit ok fail (createOCNEConfig config) world ↔
      permit world (.createOCNEConfig config) ∧ (∀ uid, ok uid world) ∧ (mayFail → ∀ error, fail error world) := by
  refine and_congr Iff.rfl (forall_reads.trans ?_)
  simp

@[simp] theorem wpE_createMachine (machine : Machine) :
    wpE (env mayFail) permit ok fail (createMachine machine) world ↔
      permit world (.createMachine machine) ∧
        (∀ created free, ok () (world.addMachine { machine with creationTimestamp := created } free)) ∧
        (mayFail → ∀ error, fail error world ∧
          ∀ created free, fail error (world.addMachine { machine with creationTimestamp := created } free)) := by
  refine and_congr Iff.rfl (forall_writes.trans ?_)
  simp only [forall_made]

@[simp] theorem wpE_listNodes (label : String) {ok : List Node → World → Prop} :
    wpE (env mayFail) permit ok fail (listNodes label) world ↔
      permit world (.listNodes label) ∧
        ok (world.nodes.filter (·.labels.lookup label = some "")) world ∧ (mayFail → ∀ error, fail error world) := by
  refine and_congr Iff.rfl (forall_reads.trans ?_)
  simp

@[simp] theorem wpE_newEtcdClient {ok : EtcdClient → World → Prop} :
    wpE (env mayFail) permit ok fail (newEtcdClient node) world ↔
      permit world (.newEtcdClient node) ∧
        (∀ errors, ok ⟨node, world.etcd.leader, errors⟩ world) ∧ (mayFail → ∀ error, fail error world) := by
  refine and_congr Iff.rfl (forall_reads.trans (and_congr_left' ?_))
  constructor
  · intro valid errors
    exact valid _ ⟨rfl, rfl⟩
  · rintro valid ⟨_, _, errors⟩ ⟨rfl, rfl⟩
    exact valid errors

@[simp] theorem wpE_memberList {ok : Nat × List PbMember → World → Prop} :
    wpE (env mayFail) permit ok fail (memberList node) world ↔
      permit world (.memberList node) ∧
        (∀ clusterID, ok (clusterID, world.etcd.members) world) ∧ (mayFail → ∀ error, fail error world) := by
  refine and_congr Iff.rfl (forall_reads.trans (and_congr_left' ?_))
  constructor
  · intro valid clusterID
    exact valid _ rfl
  · rintro valid ⟨clusterID, _⟩ rfl
    exact valid clusterID

@[simp] theorem wpE_alarmList {ok : List MemberAlarm → World → Prop} :
    wpE (env mayFail) permit ok fail (alarmList node) world ↔
      permit world (.alarmList node) ∧ (∀ alarms, ok alarms world) ∧
        (mayFail → ∀ error, fail error world) := by
  refine and_congr Iff.rfl (forall_reads.trans ?_)
  simp

@[simp] theorem wpE_memberRemove : wpE (env mayFail) permit ok fail (memberRemove node id) world ↔
      permit world (.memberRemove node id) ∧
        (∀ leader, (world.etcd.leader ≠ id → leader = world.etcd.leader) →
          ok () (world.removeMember id leader)) ∧
        (mayFail → ∀ error, fail error world ∧
          ∀ leader, (world.etcd.leader ≠ id → leader = world.etcd.leader) →
            fail error (world.removeMember id leader)) := by
  refine and_congr Iff.rfl (forall_writes.trans ?_)
  simp only [← exists_prop, forall_made]

@[simp] theorem wpE_patchMachine (patch : MachinePatch) :
    wpE (env mayFail) permit ok fail (patchMachine name patch) world ↔
      permit world (.patchMachine name patch) ∧ ok () (world.patchMachine name patch) ∧
        (mayFail → ∀ error, fail error world ∧ fail error (world.patchMachine name patch)) := by
  refine and_congr Iff.rfl (forall_writes.trans ?_)
  simp only [forall_eq]

@[simp] theorem wpE_deleteMachine : wpE (env mayFail) permit ok fail (deleteMachine name) world ↔
      permit world (.deleteMachine name) ∧
        ((∀ time, ok () (world.startDeletion name time)) ∧ ok () (world.removeMachine name)) ∧
        (mayFail → ∀ error, fail error world ∧
          (∀ time, fail error (world.startDeletion name time)) ∧ fail error (world.removeMachine name)) := by
  refine and_congr Iff.rfl (forall_writes.trans ?_)
  simp only [or_imp, forall_and, forall_exists_index, forall_eq, forall_eq_apply_imp_iff]

@[simp] theorem wpE_moveLeaderTo : wpE (env mayFail) permit ok fail (moveLeaderTo node id) world ↔
      permit world (.moveLeader node id) ∧ ok () (world.moveLeader id) ∧
        (mayFail → ∀ error, fail error world ∧ fail error (world.moveLeader id)) := by
  refine and_congr Iff.rfl (forall_writes.trans ?_)
  simp only [forall_eq]

end Rules

end OcneProvider.Controller.Clusters
