import Mathlib.Data.Fintype.EquivFin
import OcneProvider.Controller.Bounds
import OcneProvider.Controller.Quorum

/-! Passes in surroundings where no call fails and everything is healthy: what the calls report then,
and what the stages of a pass that precede the changes of machines do. -/

namespace OcneProvider.Controller.Calm
open Api.Meta Api.Bootstrap Api.Objects Api.Formats Collections Calls Clusters Plane Health
open Remediation Reconcile Discipline Passes Quorum Etcd.Workload Effects.Program Effects.Fallible
open List hiding mem_filter

variable {name node : String} {seen : ControlPlane}

/-- The arguments of a pass, the clusters, and what calls report beyond them. -/
structure Scene where
  runtime : Runtime
  cluster : Cluster
  ocnecp : OCNEControlPlane
  world : World
  time : Time
  infra : ObjectReference → InfraObject
  configs : String → String → OCNEConfig
  expiry : String → Time
  clusterID : Nat

def Scene.Reports (scene : Scene) (world : World) (call : Call) : call.Answer → Prop :=
  match call with
  | .reconcileKubeconfig => fun answer => answer = .ok .empty
  | .getInfra ref => fun answer => answer = .ok (scene.infra ref)
  | .getOCNEConfig ns name => fun answer => answer = .ok (scene.configs ns name)
  | .now => fun answer => answer = scene.time
  | .generateName _ => fun answer => answer ∉ world.machineNames
  | .getPod _ => fun answer => ∃ pod, answer = .ok pod ∧ pod.phase = .running ∧ podCondition pod "Ready" = .True
  | .getAPIServerCertificateExpiry node => fun answer => answer = .ok (scene.expiry node)
  | .newEtcdClient _ => fun answer => ∀ client, answer = .ok client → client.errors = []
  | .memberList _ => fun answer => ∀ response, answer = .ok response → response.1 = scene.clusterID
  | .alarmList _ => fun answer => answer = .ok []
  | _ => fun _ => True

def calm (scene : Scene) : Env signature World := fun world call answer next =>
  env False world call answer next ∧ scene.Reports world call answer

/-- The calls that neither create nor delete machines, nor change their owners or labels. -/
def isPlain : Call → Bool
  | .createMachine _ | .deleteMachine _ => false
  | .patchMachine _ patch => patch.ownerReferences.isNone && patch.controlPlaneName.isNone
  | _ => true

def Lenient (permit : World → Call → Prop) : Prop := ∀ world call, isPlain call = true → permit world call

theorem isPlain_of_reads {call : Call} (quiet : changes call = false) : isPlain call = true := by
  cases call with
  | createMachine machine => cases quiet
  | deleteMachine name => cases quiet
  | patchMachine name patch => cases quiet
  | _ => rfl

theorem reads_of_plain {permit : World → Call → Prop} (plain : Lenient permit)
    (world : World) (call : Call) (quiet : changes call = false) : permit world call :=
  plain world call (isPlain_of_reads quiet)

section Rules

variable {scene : Scene} {permit : World → Call → Prop} {world : World} {fail : Err → World → Prop}

theorem wpE_calm {α ε : Type} {part : Try signature ε α} {ok : α → World → Prop} {fail : ε → World → Prop}
    (valid : wpE (env False) permit ok fail part world) : wpE (calm scene) permit ok fail part world :=
  wp_narrow valid fun _ _ _ _ answered => answered.1

theorem task_calm (plain : Lenient permit) {task : Task}
    {ok : Unit → World → Prop} (onOk : ok () world) : wpE (calm scene) permit ok fail (runTask task) world :=
  wpE_calm ((wpE_runTask task).mpr ⟨plain _ _ rfl, onOk, False.elim⟩)

theorem patchMachine_calm {patch : MachinePatch} {ok : Unit → World → Prop}
    (issued : permit world (.patchMachine name patch)) (onOk : ok () (world.patchMachine name patch)) :
    wpE (calm scene) permit ok fail (patchMachine name patch) world :=
  wpE_calm ((wpE_patchMachine name patch).mpr ⟨issued, onOk, False.elim⟩)

/-- A call that is answered with what the scene reports. -/
theorem reported {α : Type} {value : α} {ok : α → World → Prop} (onOk : ok value world) (answer : Except Err α)
    (next : World) (told : Reads False answer (next = world) (fun _ => True) ∧ answer = .ok value) :
    outcome ok fail answer next := by
  obtain ⟨⟨rfl, -⟩, rfl⟩ := told
  exact onOk

theorem now_calm {ok : Time → World → Prop} (issued : permit world .now) (onOk : ok scene.time world) :
    wpE (calm scene) permit ok fail now world := by
  refine (wpE_lift _ ok).mpr ⟨issued, ?_⟩
  rintro _ _ ⟨rfl, rfl⟩
  exact onOk

theorem generateName_calm {base : String} {ok : String → World → Prop} (issued : permit world (.generateName base))
    (onOk : ∀ name, name ∉ world.machineNames → ok name world) :
    wpE (calm scene) permit ok fail (generateName base) world := by
  refine (wpE_lift _ ok).mpr ⟨issued, ?_⟩
  rintro name _ ⟨rfl, free⟩
  exact onOk name free

theorem getPod_calm {ok : Pod → World → Prop} (issued : permit world (.getPod name))
    (onOk : ∀ pod, pod.phase = .running → podCondition pod "Ready" = .True → ok pod world) :
    wpE (calm scene) permit ok fail (getPod name) world := by
  refine ⟨issued, ?_⟩
  rintro _ _ ⟨⟨rfl, _⟩, pod, rfl, running, ready⟩
  exact onOk pod running ready

theorem newEtcdClient_calm {ok : EtcdClient → World → Prop} (issued : permit world (.newEtcdClient node))
    (onOk : ok ⟨node, world.etcd.leader, []⟩ world) : wpE (calm scene) permit ok fail (newEtcdClient node) world := by
  refine ⟨issued, ?_⟩
  rintro answer _ ⟨⟨rfl, answered⟩, reported⟩
  cases answer with
  | error error => exact answered.elim
  | ok client =>
    obtain ⟨rfl, leads⟩ := answered
    have clean := reported client rfl
    obtain ⟨node, leaderID, errors⟩ := client
    cases leads
    cases clean
    exact onOk

theorem memberList_calm {ok : Nat × List PbMember → World → Prop} (issued : permit world (.memberList node))
    (onOk : ok (scene.clusterID, world.etcd.members) world) :
    wpE (calm scene) permit ok fail (memberList node) world := by
  refine ⟨issued, ?_⟩
  rintro answer _ ⟨⟨rfl, answered⟩, reported⟩
  cases answer with
  | error error => exact answered.elim
  | ok response =>
    have same := reported response rfl
    obtain ⟨clusterID, members⟩ := response
    cases same
    cases answered
    exact onOk

theorem exists_calm_answer (call : Call)
    (free : ∀ machine, call = .createMachine machine → machine.name ∉ world.machineNames) :
    ∃ answer next, calm scene world call answer next := by
  cases call with
  | reconcileKubeconfig => exact ⟨.ok .empty, world, ⟨rfl, trivial⟩, rfl⟩
  | getInfra ref => exact ⟨.ok (scene.infra ref), world, ⟨rfl, trivial⟩, rfl⟩
  | getOCNEConfig ns name => exact ⟨.ok (scene.configs ns name), world, ⟨rfl, trivial⟩, rfl⟩
  | now => exact ⟨scene.time, world, rfl, rfl⟩
  | generateName base =>
    obtain ⟨name, unused⟩ := Infinite.exists_notMem_finset world.machineNames.toFinset
    exact ⟨name, world, rfl, fun used => unused (mem_toFinset.mpr used)⟩
  | getPod name => exact ⟨.ok ⟨.running, [("Ready", .True)], []⟩, world, ⟨rfl, trivial⟩, _, rfl, rfl, rfl⟩
  | getAPIServerCertificateExpiry node => exact ⟨.ok (scene.expiry node), world, ⟨rfl, trivial⟩, rfl⟩
  | newEtcdClient node => exact ⟨.ok ⟨node, world.etcd.leader, []⟩, world, ⟨rfl, rfl, rfl⟩, by rintro _ ⟨⟩; rfl⟩
  | memberList node => exact ⟨.ok (scene.clusterID, world.etcd.members), world, ⟨rfl, rfl⟩, by rintro _ ⟨⟩; rfl⟩
  | alarmList node => exact ⟨.ok [], world, ⟨rfl, trivial⟩, rfl⟩
  | _ =>
    obtain ⟨answer, next, answered⟩ := exists_answer free
    exact ⟨answer, next, answered, trivial⟩

end Rules

section Stages

/-- The clusters up to what a pass writes on machines. -/
structure Same (owner : Owner) (start world : World) : Prop where
  nodes : world.nodes = start.nodes
  etcd : world.etcd = start.etcd
  fleet : fleet owner world.machines = fleet owner start.machines

theorem Same.refl (owner : Owner) (world : World) : Same owner world world := ⟨rfl, rfl, rfl⟩

theorem Same.patchMachine {owner : Owner} {start world : World} (same : Same owner start world) (name : String)
    {patch : MachinePatch} (kept : patch.ownerReferences = none) : Same owner start (world.patchMachine name patch) :=
  ⟨same.nodes, same.etcd, (fleet_patchMachine name kept).trans same.fleet⟩

variable {owner : Owner} {scene : Scene} {permit : World → Call → Prop} {world start : World}
variable (plain : Lenient permit)
include plain

def Scene.infraOf (scene : Scene) (machine : Machine) : InfraObject :=
  scene.infra { machine.infrastructureRef with ns := machine.ns }

def Scene.configOf (scene : Scene) (machine : Machine) : Option OCNEConfig :=
  machine.configRef.map fun ref => scene.configs machine.ns ref.name

variable {machines : List Machine}

omit plain in
/-- What is known about the head stands, since its name does not come again. -/
theorem known_cons {β : Type} {machine : Machine} {value : β} {found : String → β} {expected : Machine → β}
    (fresh : machine.name ∉ machines.map Machine.name) (first : value = expected machine)
    (known : ∀ other ∈ machines, found other.name = expected other) : ∀ other ∈ machine :: machines,
      (if other.name = machine.name then value else found other.name) = expected other := by
  intro other mem
  rcases mem_cons.mp mem with rfl | mem
  · rw [if_pos rfl, first]
  · have apart : other.name ≠ machine.name := fun same => fresh (same ▸ mem_map_of_mem mem)
    rw [if_neg apart, known other mem]

theorem getInfraResources_calm (apart : (machines.map Machine.name).Nodup) :
    wpE (calm scene) permit (fun found next => next = world ∧
        ∀ machine ∈ machines, found machine.name = some (scene.infraOf machine)) (fun _ _ => False)
      (getInfraResources machines) world := by
  induction machines with
  | nil => simp [getInfraResources]
  | cons machine rest ih =>
    rw [map_cons, nodup_cons] at apart
    simp only [getInfraResources, wpE_bind, wpE_attempt]
    refine ⟨plain _ _ rfl, reported ?_⟩
    refine wpE_then (ih apart.2) ?_
    rintro found _ ⟨rfl, known⟩
    exact ⟨rfl, known_cons apart.1 rfl known⟩

theorem getOCNEConfigs_calm (apart : (machines.map Machine.name).Nodup) :
    wpE (calm scene) permit (fun found next => next = world ∧
        (∀ machine ∈ machines, found machine.name = scene.configOf machine) ∧
        ∀ name, name ∉ machines.map Machine.name → found name = none) (fun _ _ => False)
      (getOCNEConfigs machines) world := by
  induction machines with
  | nil => simp [getOCNEConfigs]
  | cons machine rest ih =>
    rw [map_cons, nodup_cons] at apart
    unfold getOCNEConfigs
    split
    · rename_i none
      refine wpE_then (ih apart.2) ?_
      rintro found _ ⟨rfl, known, unknown⟩
      refine ⟨rfl, fun other mem => ?_, fun name absent => unknown name fun mem => absent (.tail _ mem)⟩
      rcases mem_cons.mp mem with rfl | mem
      · rw [unknown _ apart.1, Scene.configOf, none, Option.map_none]
      · exact known other mem
    · rename_i ref given
      simp only [wpE_bind, wpE_attempt]
      refine ⟨plain _ _ rfl, reported ?_⟩
      refine wpE_then (ih apart.2) ?_
      rintro found _ ⟨rfl, known, unknown⟩
      refine ⟨rfl, known_cons apart.1 (by simp [Scene.configOf, given]) known, fun name absent => ?_⟩
      rw [map_cons, mem_cons, not_or] at absent
      exact (if_neg absent.1).trans (unknown name absent.2)

theorem newPatchHelpers_calm :
    wpE (calm scene) permit (fun _ next => next = world) (fun _ _ => False) (newPatchHelpers machines) world := by
  induction machines with
  | nil => simp [newPatchHelpers]
  | cons machine rest ih =>
    simp only [newPatchHelpers, wpE_bind, wpE_adaptError]
    exact task_calm plain ih

structure Scene.Loads (scene : Scene) (owned : Machines) (controlPlane : ControlPlane) : Prop where
  ocnecp : controlPlane.ocnecp = scene.ocnecp
  machines : controlPlane.machines = owned
  time : controlPlane.reconciliationTime = scene.time
  infra : ∀ machine ∈ owned, controlPlane.infraResources machine.name = some (scene.infraOf machine)
  configs : ∀ machine ∈ owned, controlPlane.ocneConfigs machine.name = scene.configOf machine

theorem newControlPlane_calm (owned : Machines) :
    wpE (calm scene) permit (fun seen next => next = world ∧ scene.Loads owned seen) (fun _ _ => False)
      (newControlPlane scene.cluster scene.ocnecp owned) world := by
  simp only [newControlPlane, wpE_bind, wpE_pure]
  refine wpE_then (getInfraResources_calm plain owned.distinct) ?_
  rintro infra _ ⟨rfl, infraKnown⟩
  refine wpE_then (getOCNEConfigs_calm plain owned.distinct) ?_
  rintro configs _ ⟨rfl, configsKnown, _⟩
  refine wpE_then (newPatchHelpers_calm plain) ?_
  rintro _ _ rfl
  exact now_calm (plain _ _ rfl) ⟨rfl, rfl, rfl, rfl, infraKnown, configsKnown⟩

def Scene.Labels (scene : Scene) (machine : Machine) : Prop :=
  machine.labels.lookup machineControlPlaneNameLabel = some (mustFormatValue scene.ocnecp.name)

def Scene.MayLabel (scene : Scene) (permit : World → Call → Prop) : Prop := ∀ world name conditions,
  permit world (.patchMachine name ⟨some (mustFormatValue scene.ocnecp.name), conditions, none⟩)

section

variable (same : Same owner start world)
include same

omit plain in
theorem patchEach_calm (labels : scene.MayLabel permit)
    (labelled : ∀ machine ∈ machines, scene.Labels machine) : wpE (calm scene) permit (fun errors next => errors = [] ∧ Same owner start next) (fun _ _ => False)
      (patchEach machines) world := by
  induction machines generalizing world with
  | nil => exact ⟨rfl, same⟩
  | cons machine rest ih =>
    rw [forall_mem_cons] at labelled
    simp only [patchEach, show _ = _ from labelled.1, wpE_bind, wpE_attempt]
    refine patchMachine_calm (labels _ _ _) ?_
    exact ih (same.patchMachine machine.name rfl) labelled.2

omit plain in
theorem patchMachines_calm (labels : scene.MayLabel permit)
    (labelled : ∀ machine ∈ seen.machines, scene.Labels machine) : wpE (calm scene) permit (fun _ next => Same owner start next) (fun _ _ => False) seen.patchMachines world := by
  simp only [ControlPlane.patchMachines, wpE_bind]
  refine wpE_then (patchEach_calm same labels labelled) ?_
  rintro _ next ⟨rfl, kept⟩
  exact kept

theorem cleanupRemediation_calm :
    (cleanupRemediation machines).wp (calm scene) permit (fun errors next => errors = [] ∧ Same owner start next)
      world := by
  induction machines generalizing world with
  | nil => exact ⟨rfl, same⟩
  | cons machine rest ih =>
    unfold cleanupRemediation
    split
    · simp only [clearRemediation, wp_bind, wp_outcomes]
      refine task_calm plain ?_
      simp only [patchConditions, wp_pure]
      refine patchMachine_calm (plain _ _ rfl) ?_
      refine wp_mono (ih (same.patchMachine _ rfl)) ?_
      rintro errors next ⟨rfl, kept⟩
      exact ⟨rfl, kept⟩
    · exact ih same

theorem reconcileUnhealthyMachines_calm {runtime : Runtime}
    (unmarked : ∀ machine ∈ seen.machines, hasUnhealthyCondition machine = false) :
    wpE (calm scene) permit (fun outcome next => outcome = (.empty, withoutRemediations seen) ∧
        Same owner start next) (fun _ _ => False) (reconcileUnhealthyMachines runtime seen) world := by
  have none : (withoutRemediations seen).unhealthyMachines.oldest = none := by
    cases picked : (withoutRemediations seen).unhealthyMachines.oldest with
    | none => rfl
    | some machine =>
      obtain ⟨mem, unhealthy, _⟩ := oldest_unhealthy picked
      rw [unmarked machine mem] at unhealthy
      cases unhealthy
  simp only [reconcileUnhealthyMachines, wpE_bind, wpE_lift]
  refine wp_mono (cleanupRemediation_calm plain same) ?_
  rintro errors next ⟨rfl, kept⟩
  rw [remediateOldest, none]
  exact ⟨rfl, kept⟩

end

def Scene.noted (scene : Scene) (machine : Machine) (config : OCNEConfig) : OCNEConfig :=
  match machine.nodeRef with
  | none => config
  | some nodeName =>
    if (config.annotations.lookup machineCertificatesExpiryDateAnnotation).isSome then config
    else
      let expiry := scene.runtime.formatTime (scene.expiry nodeName)
      { config with annotations := config.annotations.insert machineCertificatesExpiryDateAnnotation expiry }

theorem reconcileExpiries_calm (distinct : (machines.map Machine.name).Nodup)
    (configs : String → Option OCNEConfig) : wpE (calm scene) permit (fun noted next => next = world ∧
        (∀ machine ∈ machines, noted machine.name = (configs machine.name).map (scene.noted machine)) ∧
        ∀ name, name ∉ machines.map Machine.name → noted name = configs name) (fun _ _ => False)
      (reconcileExpiries scene.runtime configs machines) world := by
  induction machines generalizing configs with
  | nil => simp [reconcileExpiries]
  | cons machine rest ih =>
    rw [map_cons, nodup_cons] at distinct
    have later : ∀ found : Option OCNEConfig, found = (configs machine.name).map (scene.noted machine) →
        wpE (calm scene) permit (fun noted next => next = world ∧
          (∀ other ∈ machine :: rest, noted other.name = (configs other.name).map (scene.noted other)) ∧
          ∀ name, name ∉ (machine :: rest).map Machine.name → noted name = configs name) (fun _ _ => False)
        (reconcileExpiries scene.runtime (fun name => if name = machine.name then found else configs name) rest)
        world := by
      rintro _ rfl
      refine wpE_then (ih distinct.2 _) ?_
      rintro noted _ ⟨rfl, known, others⟩
      refine ⟨rfl, fun other mem => ?_, fun name absent => ?_⟩
      · rcases mem_cons.mp mem with rfl | mem
        · rw [others _ distinct.1, if_pos rfl]
        · have apart : other.name ≠ machine.name := fun same => distinct.1 (same ▸ mem_map_of_mem mem)
          rw [known other mem, if_neg apart]
      · rw [map_cons, mem_cons, not_or] at absent
        rw [others name absent.2, if_neg absent.1]
    have skipped (same : configs machine.name = (configs machine.name).map (scene.noted machine)) := later _ same
    have unchanged : (fun name => if name = machine.name then configs machine.name else configs name) = configs := by
      funext name
      split
      · rename_i same
        rw [same]
      · rfl
    rw [unchanged] at skipped
    unfold reconcileExpiries
    split
    · rename_i config nodeName given onNode
      split
      · rename_i present
        exact skipped (by simp [given, Scene.noted, onNode, present])
      · rename_i absent
        simp only [noteExpiry, runStage, wpE_bind, wpE_adaptError, wpE_pure]
        refine ⟨plain _ _ rfl, reported (task_calm plain (task_calm plain ?_))⟩
        exact later _ (by simp [given, Scene.noted, onNode, absent])
    · rename_i lacks
      refine skipped ?_
      cases given : configs machine.name with
      | none => rfl
      | some config =>
        cases onNode : machine.nodeRef with
        | none => simp [Scene.noted, onNode]
        | some nodeName => exact (lacks config nodeName given onNode).elim

def Scene.comparedConfig (scene : Scene) (machine : Machine) : Option OCNEConfig :=
  if scene.ocnecp.initialized then (scene.configOf machine).map (scene.noted machine) else scene.configOf machine

theorem reconcileCertificateExpiries_calm (initialized : seen.ocnecp.initialized = scene.ocnecp.initialized)
    (staying : ∀ machine ∈ seen.machines, hasDeletionTimestamp machine = false)
    (configs : ∀ machine ∈ seen.machines, seen.ocneConfigs machine.name = scene.configOf machine) :
    wpE (calm scene) permit (fun after next => next = world ∧
        after = { seen with ocneConfigs := after.ocneConfigs } ∧
        ∀ machine ∈ seen.machines, after.ocneConfigs machine.name = scene.comparedConfig machine)
      (fun _ _ => False) (reconcileCertificateExpiries scene.runtime seen) world := by
  unfold reconcileCertificateExpiries
  split
  · rename_i empty
    have nothing : seen.machines.items = [] := eq_nil_of_length_eq_zero empty
    refine ⟨rfl, rfl, fun machine mem => ?_⟩
    change machine ∈ seen.machines.items at mem
    rw [nothing] at mem
    cases mem
  · rw [initialized]
    cases given : scene.ocnecp.initialized with
    | false =>
      simp only [Bool.not_false, if_true, wpE_pure]
      refine ⟨trivial, trivial, fun machine mem => ?_⟩
      rw [configs machine mem, Scene.comparedConfig, given]
      rfl
    | true =>
      simp only [Bool.not_true, Bool.false_eq_true, if_false, runStage, wpE_bind, wpE_adaptError, wpE_pure]
      refine task_calm plain ?_
      refine wpE_then (reconcileExpiries_calm plain (Machines.distinct _) _) ?_
      rintro noted _ ⟨rfl, known, _⟩
      refine ⟨rfl, trivial, fun machine mem => ?_⟩
      rw [known machine (mem_filter.mpr ⟨mem, by simp [staying machine mem]⟩), configs machine mem,
        Scene.comparedConfig, given]
      rfl

end Stages

end OcneProvider.Controller.Calm
