import Mathlib.Data.Finset.Max
import OcneProvider.Controller.Checkup
import OcneProvider.Data.Rolling

/-! What a pass in calm surroundings does to the machines: it creates one, deletes the one that comes first,
or leaves them as they are, by how many there are and whether one of them is outdated. -/

namespace OcneProvider.Controller.Turnover
open Api.Meta Api.Conditions Api.Bootstrap Api.Objects Api.Formats Collections Calls Clusters Filters Plane
open Scale Selection Reconcile Discipline Passes Bounds Quorum Calm Checkup
open Etcd.Workload Etcd.Reading Data.Rolling Effects.Program Effects.Fallible
open List hiding mem_filter

variable {old : Machines}

section Scenes

variable (scene : Scene)

def machines : Machines := scene.world.machines.filter (controlPlaneMachines scene.cluster.name)

def owner : Owner := ⟨scene.ocnecp, scene.cluster.name⟩

def labelled (machine : Machine) : Machine :=
  if (machine.labels.lookup machineControlPlaneNameLabel).any (mustEqualValue scene.ocnecp.name) then machine
  else { machine with
    labels := machine.labels.insert machineControlPlaneNameLabel (mustFormatValue scene.ocnecp.name) }

def plane (machine : Machine) : ControlPlane :=
  ⟨scene.ocnecp, scene.cluster, machines scene, scene.time, fun _ => scene.comparedConfig machine,
    fun _ => some (scene.infraOf machine)⟩

def outdated (machine : Machine) : Bool :=
  ((plane scene machine).needsRollout scene.runtime.codec (labelled scene machine) (scene.comparedConfig machine)).1

def item (machine : Machine) : Item String :=
  ⟨machine.name, outdated scene machine, hasAnnotationKey deleteMachineAnnotation machine⟩

def crew : Crew String := ((machines scene).items.map (item scene)).toFinset

/-- The spec can be used, all machines are the control plane's own and unmarked, and they are healthy, or reported so.
-/
structure Healthy : Prop where
  ready : scene.cluster.infrastructureReady = true
  endpoint : scene.cluster.endpointIsValid = true
  version : ∃ version, scene.runtime.parseTolerant scene.ocnecp.spec.version = .ok version
  release : ∃ version, parseMajorMinorPatchTolerant scene.ocnecp.spec.version = .ok version
  marshal : ∃ text, scene.runtime.codec.marshal scene.ocnecp.spec.controlPlaneConfig.clusterConfiguration = .ok text
  own : ∀ machine ∈ machines scene, ownedMachines scene.ocnecp.identity machine = true ∧ hasControllerRef machine = true
  unmarked : ∀ machine ∈ machines scene, hasUnhealthyCondition machine = false
  placed : Placed (machines scene) scene.world
  membered : scene.ocnecp.isEtcdManaged = true → Membered (machines scene) scene.world ∧
    LeaderKnown scene.world ((controlPlaneNodes scene.world).map Node.name)
  reported : scene.ocnecp.initialized = false → ∀ machine ∈ machines scene,
    Confirms (allMachineHealthConditions (plane scene machine)) machine

end Scenes

section Crews

variable {scene : Scene} {machine : Machine}

theorem mem_crew {item : Item String} : item ∈ crew scene ↔ ∃ machine ∈ machines scene, Turnover.item scene machine = item := by
  simp [crew]

theorem nodup_items : ((machines scene).items.map (item scene)).Nodup := by
  apply List.Nodup.of_map Item.name
  rw [map_map]
  exact (machines scene).distinct

theorem card_crew : (crew scene).card = (machines scene).len := by
  rw [crew, toFinset_card_of_nodup nodup_items, length_map]
  rfl

theorem crew_distinct : (crew scene).Distinct := by
  intro first isFirst second isSecond same
  obtain ⟨one, isOne, rfl⟩ := mem_crew.mp isFirst
  obtain ⟨other, isOther, rfl⟩ := mem_crew.mp isSecond
  rw [Machines.eq_of_name isOne isOther same]

theorem labelled_name (scene : Scene) (machine : Machine) : (labelled scene machine).name = machine.name := by
  unfold labelled
  split <;> rfl

end Crews

/-- The control plane as a pass sees it when it turns to the number of machines. -/
structure View (scene : Scene) (controlPlane : ControlPlane) : Prop where
  spec : controlPlane.ocnecp.spec = scene.ocnecp.spec
  seen : ∀ machine ∈ controlPlane.machines, ∃ original ∈ machines scene, ∃ conditions,
    machine = { labelled scene original with conditions := conditions }
  all : ∀ original ∈ machines scene, ∃ machine ∈ controlPlane.machines, machine.name = original.name
  confirmed : ∀ machine ∈ controlPlane.machines, Confirms (allMachineHealthConditions controlPlane) machine

structure Knows (scene : Scene) (controlPlane : ControlPlane) : Prop where
  time : controlPlane.reconciliationTime = scene.time
  infra : ∀ original ∈ machines scene, controlPlane.infraResources original.name = some (scene.infraOf original)
  configs : ∀ original ∈ machines scene, controlPlane.ocneConfigs original.name = scene.comparedConfig original

section Views

variable {scene : Scene} {seen : ControlPlane} {machine original : Machine}

variable (view : View scene seen)
include view

theorem View.len : seen.machines.len = (crew scene).card := by
  have same : (seen.machines.items.map Machine.name).Perm ((machines scene).items.map Machine.name) := by
    rw [perm_ext_iff_of_nodup seen.machines.distinct (machines scene).distinct]
    intro name
    simp only [mem_map]
    constructor
    · rintro ⟨machine, member, rfl⟩
      obtain ⟨original, mem, conditions, rfl⟩ := view.seen machine member
      exact ⟨original, mem, (labelled_name scene original).symm⟩
    · rintro ⟨original, mem, rfl⟩
      obtain ⟨machine, member, named⟩ := view.all original mem
      exact ⟨machine, member, named⟩
  rw [card_crew]
  simpa [Machines.len] using same.length_eq

omit view in
theorem matchesMachineSpec_congr (codec : Codec) (infraObj : Option InfraObject) (config : Option OCNEConfig)
    {first second : OCNEControlPlane} (spec : first.spec = second.spec) :
    matchesMachineSpec codec infraObj config first machine = matchesMachineSpec codec infraObj config second machine := by
  have reads : ∀ ocnecp, matchesMachineSpec codec infraObj config ocnecp machine =
      matchesMachineSpec codec infraObj config { (default : OCNEControlPlane) with spec := ocnecp.spec } machine :=
    fun _ => rfl
  rw [reads first, reads second, spec]

theorem View.needsRollout_eq (knows : Knows scene seen)
    (mem : original ∈ machines scene) (conditions : ConditionList) :
    (seen.needsRollout scene.runtime.codec { labelled scene original with conditions := conditions }
      (seen.ocneConfigs original.name)).1 = outdated scene original := by
  simp only [outdated, plane, ControlPlane.needsRollout, ControlPlane.isScheduledForRollout, view.spec, knows.time,
    knows.configs original mem, labelled_name, knows.infra original mem,
    matchesMachineSpec_congr _ _ _ view.spec]
  rfl

omit view in
theorem shows_labelled (conditions : ConditionList) :
    Shows original { labelled scene original with conditions := conditions } := by
  constructor <;>
  · unfold labelled
    split <;> rfl

theorem View.exists_original (member : machine ∈ seen.machines) :
    ∃ original ∈ machines scene, Shows original machine := by
  obtain ⟨original, mem, conditions, rfl⟩ := view.seen machine member
  exact ⟨original, mem, shows_labelled conditions⟩

theorem View.exists_machine (mem : original ∈ machines scene) :
    ∃ machine ∈ seen.machines, Shows original machine := by
  obtain ⟨machine, member, named⟩ := view.all original mem
  obtain ⟨other, otherPresent, shown⟩ := view.exists_original member
  have same : original = other := Machines.eq_of_name mem otherPresent (named.symm.trans shown.name)
  exact ⟨machine, member, same ▸ shown⟩

theorem View.staying (healthy : Healthy scene)
    (member : machine ∈ seen.machines) : hasDeletionTimestamp machine = false := by
  obtain ⟨original, mem, shown⟩ := view.exists_original member
  rw [shown.deletion]
  exact healthy.placed.staying original mem

/-- Among some machines of the view are exactly those that are outdated. -/
structure Outdated (scene : Scene) (controlPlane : ControlPlane) (old : Machines) : Prop where
  among : ∀ machine ∈ old, machine ∈ controlPlane.machines
  exactly : ∀ machine ∈ controlPlane.machines, ∀ original ∈ machines scene, machine.name = original.name →
    (machine ∈ old ↔ outdated scene original = true)

theorem View.needRollout (knows : Knows scene seen) (healthy : Healthy scene) :
    Outdated scene seen (seen.machinesNeedingRollout scene.runtime.codec).1 where
  among machine member := (mem_filter.mp (mem_filter.mp member).1).1
  exactly machine member original mem named := by
    obtain ⟨other, otherPresent, conditions, rfl⟩ := view.seen machine member
    obtain rfl : other = original :=
      Machines.eq_of_name otherPresent mem ((labelled_name scene other).symm.trans named)
    have staying := view.staying healthy member
    have verdict := view.needsRollout_eq knows mem conditions
    rw [← named] at verdict
    change _ ∈ ((seen.machines.filter _).filter _) ↔ _
    rw [mem_filter, mem_filter, staying, verdict]
    simp [member]

section

variable (exactly : Outdated scene seen old)
include exactly

theorem Outdated.hasOutdated_iff : 0 < old.len ↔ (crew scene).HasOutdated := by
  rw [Machines.len_pos]
  constructor
  · rintro ⟨machine, member⟩
    obtain ⟨original, present, shown⟩ := view.exists_original (exactly.among machine member)
    exact ⟨item scene original, mem_crew.mpr ⟨original, present, rfl⟩,
      (exactly.exactly machine (exactly.among machine member) original present shown.name).mp member⟩
  · rintro ⟨_, mem, isOutdated⟩
    obtain ⟨original, present, rfl⟩ := mem_crew.mp mem
    obtain ⟨machine, member, shown⟩ := view.exists_machine present
    exact ⟨machine, (exactly.exactly machine member original present shown.name).mpr isOutdated⟩

omit view in
theorem Outdated.priority_eq
    (member : machine ∈ seen.machines) (mem : original ∈ machines scene) (shown : Shows original machine) :
    priority old machine = (item scene original).rank := by
  have same := exactly.exactly machine member original mem shown.name
  change _ = (if hasAnnotationKey deleteMachineAnnotation original then 2 else 0) +
    if outdated scene original then 1 else 0
  rw [priority, shown.marked]
  by_cases isOutdated : outdated scene original = true
  · rw [if_pos (same.mpr isOutdated), if_pos isOutdated]
  · rw [if_neg fun isOld => isOutdated (same.mp isOld), if_neg isOutdated]

def First (scene : Scene) (name : String) : Prop :=
  ∃ item ∈ crew scene, item.name = name ∧ ∀ other ∈ crew scene, other.rank ≤ item.rank

theorem Outdated.first
    (eligible : Eligible seen old machine) : First scene machine.name := by
  obtain ⟨original, present, shown⟩ := view.exists_original eligible.present
  refine ⟨item scene original, mem_crew.mpr ⟨original, present, rfl⟩, shown.name.symm, fun other mem => ?_⟩
  obtain ⟨otherOriginal, otherPresent, rfl⟩ := mem_crew.mp mem
  obtain ⟨otherMachine, member, otherShown⟩ := view.exists_machine otherPresent
  have most := eligible.first otherMachine member
  rwa [exactly.priority_eq member otherPresent otherShown, exactly.priority_eq eligible.present present shown] at most

omit view in
theorem Outdated.exists_selected
    (member : machine ∈ seen.machines) (order : DomainOrder) :
    ∃ chosen ∈ seen.machines, selectMachineForScaleDown seen order old = .ok chosen ∧
      Eligible seen old chosen := by
  obtain ⟨top, isTop, highest⟩ := Finset.exists_max_image seen.machines.items.toFinset (priority old)
    ⟨machine, mem_toFinset.mpr member⟩
  have eligible : Eligible seen old top :=
    ⟨mem_toFinset.mp isTop, fun other mem => highest other (mem_toFinset.mpr mem)⟩
  have candidates : top ∈ candidatesForScaleDown seen old := (mem_candidates_iff exactly.among).mpr eligible
  obtain ⟨chosen, candidate, selected⟩ : ∃ chosen ∈ candidatesForScaleDown seen old,
      selectMachineForScaleDown seen order old = .ok chosen := exists_machineInFailureDomain candidates
  have isEligible := (mem_candidates_iff exactly.among).mp candidate
  exact ⟨chosen, isEligible.present, selected, isEligible⟩

end

theorem View.preflight (healthy : Healthy scene) (excludeFor : List Machine) :
    preflightChecks seen excludeFor = .empty := by
  have none : seen.hasDeletingMachine = false := by
    simp only [ControlPlane.hasDeletingMachine, decide_eq_false_iff_not, Machines.len_pos, not_exists, mem_filter, not_and]
    intro machine member
    simp [view.staying healthy member]
  have clear : machineErrors seen excludeFor = [] := by
    simp only [machineErrors, List.flatMap_eq_nil_iff, List.mem_filter, List.filterMap_eq_nil_iff]
    intro machine ⟨member, _⟩ type mem
    have holds := view.confirmed machine member type mem
    simp only [Api.Conditions.isTrue, hasStatus] at holds
    unfold preflightCheckCondition
    cases given : get machine.conditions type with
    | none => simp [given] at holds
    | some condition =>
      have status : condition.status = .True := by simpa [given] using holds
      simp [status]
  simp [preflightChecks, none, clear]

end Views

section Operations

variable {scene : Scene} {seen : ControlPlane} {machine : Machine} {world : World}
variable {permit : World → Call → Prop} (plain : Lenient permit)

def Grown (scene : Scene) (next : World) : Prop :=
  ∃ name, fleet (owner scene) next.machines = ⟨name, true, true, false⟩ ::ₘ fleet (owner scene) scene.world.machines

def Shrunk (scene : Scene) (next : World) : Prop :=
  ∃ machine ∈ machines scene,
    fleet (owner scene) next.machines = (fleet (owner scene) scene.world.machines).startDeletion machine.name ∨
    fleet (owner scene) next.machines = (fleet (owner scene) scene.world.machines).remove machine.name

include plain

variable (healthy : Healthy scene)
include healthy

section

variable (creates : ∀ later machine, machine.name ∉ later.machineNames → (owner scene).Fits machine → permit later (.createMachine machine))
include creates

theorem cloneConfigsAndGenerateMachine_calm (bootstrapSpec : OCNEConfigSpec)
    (failureDomain : Option String) (same : Same (owner scene) scene.world world) :
    wpE (calm scene) permit (fun _ next => Grown scene next) (fun _ _ => False)
      (cloneConfigsAndGenerateMachine scene.cluster scene.ocnecp scene.runtime.codec bootstrapSpec failureDomain)
      world := by
  obtain ⟨text, marshal⟩ := healthy.marshal
  simp only [cloneConfigsAndGenerateMachine, generateKubeadmConfig, generateMachine, wpE_bind, wpE_adaptError, wpE_attempt,
    wpE_mk, wp_pure, marshal, outcome]
  refine wpE_calm ((wpE_createFromTemplate _).mpr ⟨plain _ _ rfl, fun infraRef => ?_, False.elim⟩)
  refine generateName_calm (plain _ _ rfl) fun configName _ => ?_
  refine wpE_calm ((wpE_createOCNEConfig _).mpr ⟨plain _ _ rfl, fun uid => ?_, False.elim⟩)
  refine generateName_calm (plain _ _ rfl) fun name free => ?_
  let bootstrapRef : ObjectReference := ⟨bootstrapGroupVersion, "OCNEConfig", scene.ocnecp.ns, configName, uid⟩
  have fits : (owner scene).Fits (newMachine scene.cluster scene.ocnecp name infraRef bootstrapRef failureDomain text) :=
    newMachine_fits rfl name infraRef bootstrapRef failureDomain text
  refine wpE_calm ((wpE_createMachine _).mpr ⟨creates _ _ free fits, fun created unused => ?_, False.elim⟩)
  refine ⟨name, (fleet_addMachine (fits.created created) unused).trans ?_⟩
  rw [same.fleet]
  rfl

theorem scaleUpControlPlane_calm (view : View scene seen) (same : Same (owner scene) scene.world world) :
    wpE (calm scene) permit (fun _ next => Grown scene next) (fun _ _ => False)
      (scaleUpControlPlane scene.runtime scene.cluster scene.ocnecp seen) world := by
  simp only [scaleUpControlPlane, view.preflight healthy, Result.isZero, beq_self_eq_true, Bool.not_true,
    Bool.false_eq_true, if_false, wpE_bind, wpE_pure]
  exact cloneConfigsAndGenerateMachine_calm plain healthy creates _ _ same

end

omit healthy in
omit plain in
theorem len_le_nodes {machines : Machines} (placed : Placed machines world) :
    machines.len ≤ (controlPlaneNodes world).length := by
  have apart : (machines.items.map Machine.nodeRef).Nodup := by
    refine List.Nodup.map_on ?_ (List.Nodup.of_map _ machines.distinct)
    intro first isFirst second isSecond
    obtain ⟨node, _, onNode⟩ := placed.located first isFirst
    exact placed.distinct first isFirst second isSecond (by simp [onNode])
  have mem : machines.items.map Machine.nodeRef ⊆ (controlPlaneNodes world).map fun node => some node.name := by
    intro node isNode
    obtain ⟨machine, member, rfl⟩ := mem_map.mp isNode
    obtain ⟨node, present, onNode⟩ := placed.located machine member
    exact onNode ▸ mem_map_of_mem present
  simpa [Machines.len] using (apart.subperm mem).length_le

omit plain in
theorem View.exists_node (view : View scene seen)
    (member : machine ∈ seen.machines) : ∃ node, machine.nodeRef = some node := by
  obtain ⟨original, mem, shown⟩ := view.exists_original member
  obtain ⟨node, _, onNode⟩ := healthy.placed.located original mem
  exact ⟨node.name, shown.nodeRef.trans onNode⟩

/-- With two machines the member of one can be removed, whoever leads. -/
theorem removeFromEtcd_calm (managed : scene.ocnecp.isEtcdManaged = true)
    (view : View scene seen) (member : machine ∈ seen.machines) (many : 2 ≤ (machines scene).len)
    (same : Same (owner scene) scene.world world) :
    wpE (calm scene) permit (fun _ next => next.machines = world.machines) (fun _ _ => False)
      (removeFromEtcd seen machine) world := by
  have reads := reads_of_plain plain
  have nodes : controlPlaneNodes world = controlPlaneNodes scene.world := controlPlaneNodes_congr same.nodes
  have enough := many.trans (len_le_nodes healthy.placed)
  obtain ⟨membered, leader⟩ := healthy.membered managed
  obtain ⟨newest, picked⟩ := Machines.exists_newest member
  have able : Forwardable world machine seen.machines.newest := by
    refine ⟨fun _ => ?_, fun _ => ?_⟩
    · rw [nodes]
      simpa only [LeaderKnown, same.etcd] using leader
    · obtain ⟨original, mem, shown⟩ := view.exists_original (Machines.newest_mem picked)
      obtain ⟨node, onNode⟩ := view.exists_node healthy (Machines.newest_mem picked)
      refine ⟨newest, node, picked, onNode, ?_⟩
      rw [same.etcd]
      exact membered.listed original mem node (shown.nodeRef.symm.trans onNode)
  have removal : ∀ later : World, later.machines = world.machines → later.nodes = world.nodes →
      wpE (env False) permit (fun _ next => next.machines = world.machines) (fun _ _ => False)
        (removeEtcdMemberForMachine machine) later := by
    intro later machinesSame nodesSame
    obtain ⟨node, onNode⟩ := view.exists_node healthy member
    rw [removeEtcdMemberForMachine, onNode]
    refine removeMemberForNode_wp reads (fun _ _ _ => plain _ _ rfl) (fun _ => machinesSame) (fun _ _ _ _ => machinesSame)
      ?_ False.elim
    rintro (impossible | few) _
    · exact impossible
    · rw [controlPlaneNodes_congr nodesSame, nodes] at few
      omega
  simp only [removeFromEtcd, wpE_bind]
  refine wpE_calm (forwardEtcdLeadership_wp reads (fun _ _ => plain _ _ rfl) (fun _ => wpE_calm (removal world rfl rfl))
    (fun _ _ _ _ _ _ => wpE_calm (removal _ rfl rfl)) ?_ False.elim)
  rintro (impossible | unable) _
  · exact impossible
  · exact unable able

theorem deleteScaledDown_calm {original : Machine} (mem : original ∈ machines scene)
    (named : machine.name = original.name) (same : fleet (owner scene) world.machines = fleet (owner scene) scene.world.machines)
    (deletes : ∀ later, permit later (.deleteMachine machine.name)) :
    wpE (calm scene) permit (fun _ next => Shrunk scene next) (fun _ _ => False)
      (deleteScaledDown scene.runtime scene.ocnecp machine) world := by
  obtain ⟨version, parsed⟩ := healthy.version
  simp only [deleteScaledDown, wpE_bind, wpE_adaptError, wpE_mk, wp_pure, parsed, outcome, wpE_attempt]
  refine wpE_calm (removeMachineFromOCNEConfigMap_wp machine version (fun _ => plain _ _ rfl) ?_ False.elim)
  refine wpE_calm ((wpE_deleteMachine _).mpr ⟨deletes _, ⟨fun time => ?_, ?_⟩, False.elim⟩)
  · refine ⟨original, mem, .inl ?_⟩
    rw [fleet_startDeletion, same, named]
  · refine ⟨original, mem, .inr ?_⟩
    rw [fleet_removeMachine, same, named]

theorem scaleDownControlPlane_calm (view : View scene seen)
    (exactly : Outdated scene seen old) (many : 2 ≤ (machines scene).len)
    (same : Same (owner scene) scene.world world)
    (deletes : ∀ later name, First scene name → permit later (.deleteMachine name)) :
    wpE (calm scene) permit (fun _ next => Shrunk scene next) (fun _ _ => False)
      (scaleDownControlPlane scene.runtime scene.ocnecp seen old) world := by
  obtain ⟨first, isFirst⟩ : ∃ first, first ∈ seen.machines := by
    rw [← Machines.len_pos, view.len, card_crew]
    omega
  obtain ⟨chosen, mem, selected, eligible⟩ := exactly.exists_selected isFirst scene.runtime.order
  obtain ⟨original, isOriginal, shown⟩ := view.exists_original mem
  simp only [scaleDownControlPlane, wpE_bind, wpE_adaptError, wpE_mk, wp_pure, selected, outcome, view.preflight healthy,
    Result.isZero, beq_self_eq_true, Bool.not_true, Bool.false_eq_true, if_false]
  refine task_calm plain ?_
  have deletion : ∀ later : World, later.machines = world.machines → wpE (calm scene) permit
      (fun _ next => Shrunk scene next) (fun _ _ => False) (deleteScaledDown scene.runtime scene.ocnecp chosen) later :=
    fun later kept => deleteScaledDown_calm plain healthy isOriginal shown.name (by rw [kept, same.fleet])
      fun later => deletes later _ (exactly.first view eligible)
  have managed : seen.isEtcdManaged = scene.ocnecp.isEtcdManaged := by
    simp only [ControlPlane.isEtcdManaged, OCNEControlPlane.isEtcdManaged, view.spec]
  split
  · rename_i isManaged
    simp only [wpE_bind]
    exact wpE_then (removeFromEtcd_calm plain healthy (managed ▸ isManaged) view mem many same)
      fun _ later kept => deletion later kept
  · exact deletion world rfl

theorem updateOCNEConfigMap_calm : wpE (calm scene) permit (fun _ next => next = world) (fun _ _ => False)
      (updateOCNEConfigMap scene.ocnecp.spec) world := by
  obtain ⟨version, parsed⟩ := healthy.release
  simp only [updateOCNEConfigMap, runStage, parseVersion, wpE_bind, wpE_adaptError]
  refine task_calm plain ?_
  split
  · simp only [wpE_bind, wpE_adaptError, wpE_mk, wp_pure, parsed, outcome]
    refine task_calm plain ?_
    split
    · simp only [wpE_bind, wpE_adaptError]
      refine task_calm plain (task_calm plain (task_calm plain ?_))
      exact task_calm plain (task_calm plain (task_calm plain rfl))
    · simp only [wpE_bind, wpE_adaptError]
      refine task_calm plain (task_calm plain ?_)
      exact task_calm plain (task_calm plain rfl)
  · simp only [wpE_adaptError]
    exact task_calm plain rfl

theorem reconcileWorkload_calm :
    wpE (calm scene) permit (fun _ next => next = world) (fun _ _ => False)
      (reconcileWorkload seen scene.ocnecp) world := by
  obtain ⟨version, parsed⟩ := healthy.release
  simp only [reconcileWorkload, runStage, parseVersion, wpE_bind, wpE_attempt]
  refine task_calm plain ?_
  simp only [wpE_adaptError, wpE_mk, wp_pure, parsed, outcome]
  refine task_calm plain (task_calm plain (task_calm plain ?_))
  have last : wpE (calm scene) permit (fun _ next => next = world) (fun _ _ => False)
      (do
        if scene.ocnecp.spec.verrazzanoPlatformOperator && isTrue seen.ocnecp.conditions availableCondition then
          runTask .reconcileVerrazzanoPlatformOperator
        return .empty : Api Result) world := by
    split
    · simp only [wpE_bind, wpE_pure]
      exact task_calm plain rfl
    · exact rfl
  split
  · simp only [wpE_bind]
    exact task_calm plain last
  · exact last

end Operations

/-- A spec with `wanted` replicas, rolled out with a surge of none or one. -/
structure Rolls (spec : OCNEControlPlaneSpec) (wanted surge : Nat) : Prop where
  replicas : ∃ replicas, spec.replicas = some replicas ∧ replicas.toInt = wanted
  strategy : ∃ maxSurge, spec.rolloutStrategy = some ⟨rollingUpdateStrategyType, some ⟨some maxSurge⟩⟩ ∧
    maxSurge.intValue = surge
  positive : 1 ≤ wanted
  small : surge ≤ 1
  enough : surge = 0 → 3 ≤ wanted

/-- By how many machines there are and whether one is outdated. -/
def Allows (scene : Scene) (wanted surge : Nat) (world : World) (call : Call) : Prop :=
  match call with
  | .createMachine machine => (crew scene).MayGrow wanted surge ∧ (owner scene).Fits machine ∧
      machine.name ∉ world.machineNames
  | .deleteMachine name => (crew scene).MayShrink wanted surge ∧ First scene name
  | .patchMachine _ patch => patch.ownerReferences = none ∧
      (patch.controlPlaneName = none ∨ patch.controlPlaneName = some (mustFormatValue scene.ocnecp.name))
  | _ => True

section Choices

variable {scene : Scene} {seen : ControlPlane} {world : World} {wanted surge : Nat}

theorem allows_plain (world : World) (call : Call) (plain : isPlain call = true) : Allows scene wanted surge world call := by
  cases call with
  | createMachine machine => cases plain
  | deleteMachine name => cases plain
  | patchMachine name patch =>
    simp only [isPlain, Bool.and_eq_true, Option.isNone_iff_eq_none] at plain
    exact ⟨plain.1, .inl plain.2⟩
  | _ => trivial

theorem two_le_of_mayShrink (rolls : Rolls scene.ocnecp.spec wanted surge) (more : (crew scene).MayShrink wanted surge) :
    2 ≤ (machines scene).len := by
  have positive := rolls.positive
  have enough := rolls.enough
  rw [← card_crew]
  rcases more with ⟨_, full⟩ | ⟨_, more⟩ <;> omega

/-- As long as the sum does not overflow, it is compared as it should be. -/
theorem lt_maxNodes_iff {replicas : Int32} {maxSurge : IntOrString} {size : Nat} (count : replicas.toInt = wanted)
    (extra : maxSurge.intValue = surge) (fits : wanted + surge < 2 ^ 31) (few : size ≤ wanted + surge) :
    Int32.ofNat size < maxNodes replicas maxSurge ↔ size < wanted + surge := by
  rw [Int32.lt_iff_toInt_lt, Int32.toInt_ofNat_of_lt (by omega), toInt_maxNodes count extra fits]
  omega

theorem upgradeControlPlane_calm (rolls : Rolls scene.ocnecp.spec wanted surge) (healthy : Healthy scene)
    (few : (crew scene).card ≤ wanted + surge) (fits : wanted + surge < 2 ^ 31) (outdated : (crew scene).HasOutdated)
    (view : View scene seen) (exactly : Outdated scene seen old)
    (same : Same (owner scene) scene.world world) :
    wpE (calm scene) (Allows scene wanted surge) (fun _ next => Grown scene next ∨ Shrunk scene next) (fun _ _ => False)
      (upgradeControlPlane scene.runtime seen scene.cluster scene.ocnecp old) world := by
  have plain : Lenient (Allows scene wanted surge) := allows_plain
  obtain ⟨replicas, given, count⟩ := rolls.replicas
  obtain ⟨maxSurge, strategy, extra⟩ := rolls.strategy
  obtain ⟨version, parsed⟩ := healthy.version
  simp only [upgradeControlPlane, strategy, given, runStage, parseVersion, wpE_bind, wpE_adaptError, wpE_mk, wp_pure, parsed,
    outcome]
  refine task_calm plain (task_calm plain (task_calm plain
    (task_calm plain ?_)))
  refine wpE_then (updateOCNEConfigMap_calm plain healthy) ?_
  rintro _ _ rfl
  simp only [if_true, view.len, lt_maxNodes_iff count extra fits few]
  split
  · rename_i fewer
    refine wpE_then (scaleUpControlPlane_calm plain healthy (fun later machine free fitting => ?_) view same)
      fun _ _ => .inl
    exact ⟨.inl ⟨outdated, fewer⟩, fitting, free⟩
  · rename_i full
    have more : (crew scene).MayShrink wanted surge := .inl ⟨outdated, not_lt.mp full⟩
    refine wpE_then (scaleDownControlPlane_calm plain healthy view exactly (two_le_of_mayShrink rolls more) same
      fun later name first => ?_) fun _ _ => .inr
    exact ⟨more, first⟩

/-- Unless nothing is left to do, the pass creates a machine or deletes one. -/
theorem reconcileMachines_calm (rolls : Rolls scene.ocnecp.spec wanted surge) (healthy : Healthy scene)
    (nonempty : 1 ≤ (crew scene).card) (few : (crew scene).card ≤ wanted + surge)
    (fits : (crew scene).HasOutdated → wanted + surge < 2 ^ 31) (view : View scene seen)
    (knows : Knows scene seen) (same : Same (owner scene) scene.world world) :
    wpE (calm scene) (Allows scene wanted surge)
      (fun _ next => (crew scene).Finished wanted ∧ Same (owner scene) scene.world next ∨ Grown scene next ∨
        Shrunk scene next)
      (fun _ _ => False) (reconcileMachines scene.runtime seen scene.cluster scene.ocnecp) world := by
  have plain : Lenient (Allows scene wanted surge) := allows_plain
  obtain ⟨replicas, given, count⟩ := rolls.replicas
  have exactly := view.needRollout knows healthy
  have old := exactly.hasOutdated_iff view
  -- the comparison changes what the pass keeps of the configurations, which is not looked at again
  have next : View scene (seen.machinesNeedingRollout scene.runtime.codec).2 := ⟨view.spec, view.seen, view.all,
    view.confirmed⟩
  have len : (seen.machinesNeedingRollout scene.runtime.codec).2.machines.len = (crew scene).card := next.len
  unfold reconcileMachines
  simp only
  split
  · rename_i some
    have outdated := old.mp some
    have exactlyNext : Outdated scene (seen.machinesNeedingRollout scene.runtime.codec).2
        (seen.machinesNeedingRollout scene.runtime.codec).1 := ⟨exactly.among, exactly.exactly⟩
    exact wpE_then (upgradeControlPlane_calm rolls healthy few (fits outdated) outdated next exactlyNext same)
      fun _ _ => .inr
  · rename_i none
    have current : ¬ (crew scene).HasOutdated := fun outdated => none (old.mpr outdated)
    simp only [given, len, count]
    split
    · omega
    · split
      · rename_i fewer
        refine wpE_then (scaleUpControlPlane_calm plain healthy (fun later machine free fitting => ?_) next same)
          fun _ _ grown => .inr (.inl grown)
        exact ⟨.inr ⟨current, by omega⟩, fitting, free⟩
      · split
        · rename_i more
          have shrinks : (crew scene).MayShrink wanted surge := .inr ⟨current, by omega⟩
          have nothing : Outdated scene (seen.machinesNeedingRollout scene.runtime.codec).2
              ⟨[], nodup_nil⟩ := by
            refine ⟨fun machine member => absurd member not_mem_nil, fun machine member original mem named => ?_⟩
            refine ⟨fun member => absurd member not_mem_nil, fun isOutdated => ?_⟩
            exact absurd ⟨item scene original, mem_crew.mpr ⟨original, mem, rfl⟩, isOutdated⟩ current
          refine wpE_then (scaleDownControlPlane_calm plain healthy next nothing (two_le_of_mayShrink rolls shrinks) same
            fun later name first => ⟨shrinks, first⟩) fun _ _ shrunk => .inr (.inr shrunk)
        · refine wpE_then (reconcileWorkload_calm plain healthy) ?_
          rintro _ _ rfl
          exact .inl ⟨⟨current, by omega⟩, same⟩

end Choices

end OcneProvider.Controller.Turnover
