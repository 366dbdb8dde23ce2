import OcneProvider.Controller.Clusters
import OcneProvider.Controller.Mild
import OcneProvider.Controller.Selection

/-! What a pass may do to machines, whatever the answers to its calls: it adopts
machines that have no controller, or it creates or deletes one machine when all
machines of the control plane are its own and none is being deleted. -/

namespace OcneProvider.Controller.Discipline
open Api.Meta Api.Bootstrap Api.Objects Api.Formats Collections Calls Filters Plane
open Remediation Scale Selection Reconcile Mild Etcd.Workload Effects.Program Effects.Fallible
open List hiding mem_filter

/-- The machines first listed, the number of creations and deletions, and whether machines were adopted. -/
structure Ledger where
  listed : Option Machines
  operations : Nat
  adopting : Bool

def Ledger.empty : Ledger := ⟨none, 0, false⟩

def Ledger.record (ledger : Ledger) (call : Call) : call.Answer → Ledger :=
  match call with
  | .listMachines _ => fun answer => match answer with
    | .ok machines => { ledger with listed := ledger.listed.or (some machines) }
    | .error _ => ledger
  | .createMachine _ | .deleteMachine _ => fun _ => { ledger with operations := ledger.operations + 1 }
  | .patchMachine _ patch => fun _ => { ledger with adopting := ledger.adopting || patch.ownerReferences.isSome }
  | _ => fun _ => ledger

structure Owner where
  ocnecp : OCNEControlPlane
  clusterName : String

namespace Owner

variable (owner : Owner)

def isOwn (machine : Machine) : Bool :=
  controlPlaneMachines owner.clusterName machine && ownedMachines owner.ocnecp.identity machine

def size (listed : Machines) : Nat :=
  (listed.filter (controlPlaneMachines owner.clusterName)).len

/-- All listed control plane machines are its own and none is being deleted. -/
structure Settled (listed : Machines) : Prop where
  own : ∀ machine ∈ listed, controlPlaneMachines owner.clusterName machine = true →
    ownedMachines owner.ocnecp.identity machine = true ∧ hasControllerRef machine = true
  staying : ∀ machine ∈ listed, controlPlaneMachines owner.clusterName machine = true →
    hasDeletionTimestamp machine = false

def surge : Option IntOrString := do
  let strategy ← owner.ocnecp.spec.rolloutStrategy
  let rollingUpdate ← strategy.rollingUpdate
  if strategy.type = rollingUpdateStrategyType then rollingUpdate.maxSurge else none

/-- Fewer than wanted, or than a rollout may have. -/
def MayGrow (size : Nat) : Prop :=
  ∃ replicas, owner.ocnecp.spec.replicas = some replicas ∧
    ((size : Int) < replicas.toInt ∨
      ∃ maxSurge, owner.surge = some maxSurge ∧ Int32.ofNat size < maxNodes replicas maxSurge)

/-- By remediation, for a smaller number, or in a rollout. -/
def MayShrink (size : Nat) : Prop :=
  ∃ replicas, owner.ocnecp.spec.replicas = some replicas ∧
    ((1 < size ∧ replicas.toInt ≤ size) ∨ replicas.toInt < size ∨
      ∃ maxSurge, owner.surge = some maxSurge ∧ ¬ Int32.ofNat size < maxNodes replicas maxSurge)

structure Fits (machine : Machine) : Prop where
  version : machine.version = some owner.ocnecp.spec.version
  own : owner.isOwn machine = true
  controlled : hasControllerRef machine = true
  staying : hasDeletionTimestamp machine = false

variable {owner} in
theorem Fits.created {machine : Machine} (fits : owner.Fits machine) (created : Time) :
    owner.Fits { machine with creationTimestamp := created } :=
  ⟨fits.version, fits.own, fits.controlled, fits.staying⟩

structure MayCreate (listed : Machines) (machine : Machine) : Prop where
  settled : owner.Settled listed
  grow : owner.MayGrow (owner.size listed)
  fits : owner.Fits machine

structure MayDelete (listed : Machines) (name : String) : Prop where
  settled : owner.Settled listed
  shrink : owner.MayShrink (owner.size listed)
  own : ∃ machine ∈ listed, owner.isOwn machine = true ∧ machine.name = name

def Vets (runtime : Runtime) (machine : Machine) : Prop :=
  ∃ version, runtime.parseTolerant owner.ocnecp.spec.version = .ok version ∧
    checkAdoption runtime owner.ocnecp version machine = .ok true

/-- The control plane becomes controller of a listed machine that has none. -/
def MayAdopt (runtime : Runtime) (listed : Machines) (name : String) (refs : List OwnerReference) : Prop :=
  ∃ machine ∈ listed, adoptableControlPlaneMachines owner.clusterName machine = true ∧ machine.name = name ∧
    refs = upsertOwnerRef owner.ocnecp.newControllerRef owner.ocnecp.identity machine.ownerReferences ∧
    owner.Vets runtime machine

def Permits (runtime : Runtime) (ledger : Ledger) (call : Call) : Prop :=
  match call with
  | .createMachine machine => ledger.operations = 0 ∧ ledger.adopting = false ∧
      ∃ listed, ledger.listed = some listed ∧ owner.MayCreate listed machine
  | .deleteMachine name => ledger.operations = 0 ∧ ledger.adopting = false ∧
      ∃ listed, ledger.listed = some listed ∧ owner.MayDelete listed name
  | .patchMachine name patch => ∀ refs, patch.ownerReferences = some refs →
      ledger.operations = 0 ∧ ∃ listed, ledger.listed = some listed ∧ owner.MayAdopt runtime listed name refs
  | .listMachines clusterName => clusterName = owner.clusterName
  | _ => True

end Owner

/-- The machines seen by a pass that has found all of them its own. -/
structure Sees (owner : Owner) (listed : Machines) (controlPlane : ControlPlane) : Prop where
  spec : controlPlane.ocnecp.spec = owner.ocnecp.spec
  own : ∀ machine ∈ listed, controlPlaneMachines owner.clusterName machine = true →
    ownedMachines owner.ocnecp.identity machine = true ∧ hasControllerRef machine = true
  machines : Alike (listed.filter (controlPlaneMachines owner.clusterName)) controlPlane.machines

def Ledger.fresh (listed : Machines) : Ledger := ⟨some listed, 0, false⟩

section Sees

variable {owner : Owner} {listed : Machines} {plane after : ControlPlane}

variable (sees : Sees owner listed plane)
include sees

theorem Sees.kept (kept : Kept plane after) : Sees owner listed after where
  spec := by rw [kept.ocnecp, sees.spec]
  own := sees.own
  machines := sees.machines.trans kept.machines

theorem Sees.len : plane.machines.len = owner.size listed :=
  sees.machines.len

theorem Sees.settled (none : plane.hasDeletingMachine = false) : owner.Settled listed where
  own := sees.own
  staying machine mem isOwn := by
    have deleting := (sees.machines.filter (fun _ => rfl : ∀ machine,
      hasDeletionTimestamp (bare machine) = hasDeletionTimestamp machine)).len
    have zero : (plane.machines.filter hasDeletionTimestamp).len = 0 := by
      simpa [ControlPlane.hasDeletingMachine] using none
    rw [zero] at deleting
    have empty := eq_nil_of_length_eq_zero deleting.symm
    by_contra marked
    have found : machine ∈ ((listed.filter (controlPlaneMachines owner.clusterName)).filter hasDeletionTimestamp).items :=
      mem_filter.mpr ⟨mem_filter.mpr ⟨mem, isOwn⟩, by simpa using marked⟩
    rw [empty] at found
    exact not_mem_nil found

theorem Sees.exists_own {machine : Machine} (mem : machine ∈ plane.machines) :
    ∃ old ∈ listed, owner.isOwn old = true ∧ old.name = machine.name := by
  obtain ⟨old, found, same⟩ := sees.machines.exists_mem mem
  obtain ⟨present, isControlPlane⟩ := mem_filter.mp found
  refine ⟨old, present, ?_, by simpa [bare] using congrArg Machine.name same⟩
  simp [Owner.isOwn, isControlPlane, (sees.own old present isControlPlane).1]

end Sees

section Rules

variable {owner : Owner} {runtime : Runtime} {ledger : Ledger} {ε α : Type} {ok : α → Ledger → Prop} {fail : ε → Ledger → Prop}

abbrev track : Env signature Ledger := tracking Ledger.record

theorem permits_of_mild {call : Call} (mild : isMild call = true) : owner.Permits runtime ledger call := by
  cases call with
  | patchMachine name patch =>
    intro refs some
    simp [isMild, some] at mild
  | createMachine machine => simp [isMild] at mild
  | deleteMachine name => simp [isMild] at mild
  | listMachines clusterName => simp [isMild] at mild
  | _ => trivial

theorem record_of_mild {call : Call} (answer : call.Answer) (mild : isMild call = true) :
    ledger.record call answer = ledger := by
  cases call with
  | patchMachine name patch =>
    have none : patch.ownerReferences.isSome = false := by simpa [isMild] using mild
    simp [Ledger.record, none]
  | listMachines clusterName => simp [isMild] at mild
  | createMachine machine => simp [isMild] at mild
  | deleteMachine name => simp [isMild] at mild
  | _ => rfl

theorem track_mild {part : Try signature ε α} {post : α → Prop} (mild : MildE post part)
    (onOk : ∀ value, post value → ok value ledger) (onFail : ∀ error, fail error ledger) :
    wpE track (owner.Permits runtime) ok fail part ledger :=
  mild.tracking (fun _ => permits_of_mild) (fun _ answer => record_of_mild answer) onOk onFail

theorem track_listMachines {clusterName : String} {ok : Machines → Ledger → Prop} {fail : Err → Ledger → Prop}
    (same : clusterName = owner.clusterName)
    (onOk : ∀ machines, ok machines { ledger with listed := ledger.listed.or (some machines) })
    (onFail : ∀ error, fail error ledger) :
    wpE track (owner.Permits runtime) ok fail (listMachines clusterName) ledger := by
  refine ⟨same, fun answer next recorded => ?_⟩
  subst recorded
  cases answer with
  | ok machines => exact onOk machines
  | error error => exact onFail error

variable {ok : Unit → Ledger → Prop} {fail : Err → Ledger → Prop}

theorem track_runTask {task : Task} (onOk : ok () ledger) (onFail : ∀ error, fail error ledger) :
    wpE track (owner.Permits runtime) ok fail (runTask task) ledger :=
  track_mild ((mild_runTask task).mpr fun _ => trivial) (fun _ _ => onOk) onFail

variable (onOk : ok () { ledger with operations := ledger.operations + 1 })
  (onFail : ∀ error, fail error { ledger with operations := ledger.operations + 1 })
include onOk onFail

theorem counted (answer : Except Err Unit) :
    outcome ok fail answer { ledger with operations := ledger.operations + 1 } := by
  cases answer with
  | ok value => exact onOk
  | error error => exact onFail error

theorem track_createMachine {machine : Machine} (may : owner.Permits runtime ledger (.createMachine machine)) :
    wpE track (owner.Permits runtime) ok fail (createMachine machine) ledger :=
  ⟨may, fun answer _ recorded => recorded ▸ counted onOk onFail answer⟩

theorem track_deleteMachine {name : String} (may : owner.Permits runtime ledger (.deleteMachine name)) :
    wpE track (owner.Permits runtime) ok fail (deleteMachine name) ledger :=
  ⟨may, fun answer _ recorded => recorded ▸ counted onOk onFail answer⟩

end Rules

section Scaling

variable {owner : Owner} {listed : Machines} {plane : ControlPlane} {runtime : Runtime} {cluster : Cluster}

/-- The end of a pass: nothing is asked of its result. -/
abbrev Ends {α : Type} (runtime : Runtime) (owner : Owner) (part : Api α) (ledger : Ledger) : Prop :=
  wpE track (owner.Permits runtime) (fun _ _ => True) (fun _ _ => True) part ledger

theorem Ends.of_mild {α : Type} {part : Api α} {post : α → Prop} (mild : MildE post part) (ledger : Ledger) :
    Ends runtime owner part ledger :=
  track_mild mild (fun _ _ => trivial) (fun _ => trivial)

section

variable (same : cluster.name = owner.clusterName)
include same

theorem newMachine_fits (name : String)
    (infraRef bootstrapRef : ObjectReference) (failureDomain : Option String) (clusterConfig : String) :
    owner.Fits (newMachine cluster owner.ocnecp name infraRef bootstrapRef failureDomain clusterConfig) where
  version := rfl
  own := by
    have apart : clusterLabelName ≠ machineControlPlaneLabelName ∧ clusterLabelName ≠ machineControlPlaneNameLabel ∧
        machineControlPlaneLabelName ≠ machineControlPlaneNameLabel := by decide
    simp [Owner.isOwn, controlPlaneMachines, newMachine, controlPlaneMachineLabelsForCluster, ownedMachines,
      isOwnedByObject, refersTo_newControllerRef, apart, same]
  controlled := by simp [hasControllerRef, newMachine, getControllerOf, OCNEControlPlane.newControllerRef]
  staying := rfl

theorem cloneConfigsAndGenerateMachine_ends (codec : Codec)
    (spec : OCNEConfigSpec) (failureDomain : Option String) (settled : owner.Settled listed)
    (grow : owner.MayGrow (owner.size listed)) :
    Ends runtime owner (cloneConfigsAndGenerateMachine cluster owner.ocnecp codec spec failureDomain) (.fresh listed) := by
  have created : ∀ name infraRef bootstrapRef text, owner.Permits runtime (.fresh listed) (.createMachine
      (newMachine cluster owner.ocnecp name infraRef bootstrapRef failureDomain text)) :=
    fun name infraRef bootstrapRef text =>
      ⟨rfl, rfl, listed, rfl, settled, grow, newMachine_fits same name infraRef bootstrapRef failureDomain text⟩
  unfold Ends cloneConfigsAndGenerateMachine
  simp only [wpE_bind, wpE_adaptError, wpE_attempt]
  refine track_mild ((mild_createFromTemplate _).mpr fun _ => trivial) (fun infraRef _ => ?_) (fun _ => trivial)
  refine track_mild (generateKubeadmConfig_mild _ _ _) (fun bootstrapRef _ => ?_) (fun error => ?_)
  · simp only [wpE_bind, generateMachine, wpE_adaptError]
    refine track_mild ((mild_generateName _).mpr fun _ => trivial) (fun name _ => ?_) (fun error => ?_)
    · refine track_mild (mild_compute.mpr fun _ _ => trivial) (fun text _ => ?_) (fun error => ?_)
      · refine track_createMachine (by simp) (fun error => ?_) (created name infraRef bootstrapRef text)
        exact Ends.of_mild (abandonGeneration_mild _ _ fun _ => True) _
      · exact Ends.of_mild (abandonGeneration_mild _ _ fun _ => True) _
    · exact Ends.of_mild (abandonGeneration_mild _ _ fun _ => True) _
  · exact Ends.of_mild (abandonGeneration_mild _ _ fun _ => True) _

omit same in
theorem hasDeletingMachine_of_preflight {excludeFor : List Machine}
    (stable : (preflightChecks plane excludeFor).isZero = true) : plane.hasDeletingMachine = false := by
  unfold preflightChecks at stable
  split at stable
  · have none : plane.machines.items = [] := eq_nil_of_length_eq_zero ‹_›
    simp [ControlPlane.hasDeletingMachine, Machines.filter, Machines.len, none]
  · split at stable
    · exact absurd stable (by decide)
    · simpa using ‹¬ plane.hasDeletingMachine = true›

theorem scaleUpControlPlane_ends (sees : Sees owner listed plane) (grow : owner.MayGrow (owner.size listed)) :
    Ends runtime owner (scaleUpControlPlane runtime cluster owner.ocnecp plane) (.fresh listed) := by
  unfold Ends scaleUpControlPlane
  by_cases stable : (preflightChecks plane []).isZero = true
  · simp only [stable, Bool.not_true, Bool.false_eq_true, if_false, wpE_bind, wpE_pure]
    exact cloneConfigsAndGenerateMachine_ends same _ _ _
      (sees.settled (hasDeletingMachine_of_preflight stable)) grow
  · simp [stable]

theorem initializeControlPlane_ends (sees : Sees owner listed plane)
    (empty : plane.machines.len = 0) (grow : owner.MayGrow (owner.size listed)) :
    Ends runtime owner (initializeControlPlane runtime cluster owner.ocnecp plane) (.fresh listed) := by
  have settled : owner.Settled listed := by
    apply sees.settled
    have none : plane.machines.items = [] := eq_nil_of_length_eq_zero empty
    simp [ControlPlane.hasDeletingMachine, Machines.filter, Machines.len, none]
  unfold Ends initializeControlPlane
  simp only [wpE_bind]
  refine track_listMachines same (fun machines => ?_) (fun _ => trivial)
  split
  · simp
  · simp only [wpE_bind, wpE_pure]
    exact cloneConfigsAndGenerateMachine_ends same _ _ _ settled grow

end

theorem deleteScaledDown_ends {machine : Machine}
    (may : owner.Permits runtime (.fresh listed) (.deleteMachine machine.name)) :
    Ends runtime owner (deleteScaledDown runtime owner.ocnecp machine) (.fresh listed) := by
  unfold Ends deleteScaledDown
  simp only [wpE_bind, wpE_adaptError, wpE_attempt]
  refine track_mild (mild_compute.mpr fun _ _ => trivial) (fun version _ => ?_) (fun _ => trivial)
  refine track_mild (removeMachineFromOCNEConfigMap_mild machine version) (fun _ _ => ?_) (fun _ => trivial)
  refine track_deleteMachine (by simp) (fun error => ?_) may
  by_cases missing : error.is .notFound <;> simp [missing]

theorem scaleDownControlPlane_ends {outdated : Machines} (sees : Sees owner listed plane)
    (among : ∀ other ∈ outdated, other ∈ plane.machines) (shrink : owner.MayShrink (owner.size listed)) :
    Ends runtime owner (scaleDownControlPlane runtime owner.ocnecp plane outdated) (.fresh listed) := by
  unfold Ends scaleDownControlPlane
  simp only [wpE_bind, wpE_adaptError]
  refine track_mild (mild_compute.mpr fun machine selected => selected) (fun machine selected => ?_)
    (fun _ => trivial)
  by_cases stable : (preflightChecks plane [machine]).isZero = true
  · have may : owner.Permits runtime (.fresh listed) (.deleteMachine machine.name) :=
      ⟨rfl, rfl, listed, rfl, sees.settled (hasDeletingMachine_of_preflight stable), shrink,
        sees.exists_own (selectMachineForScaleDown_spec among selected).present⟩
    have finish : Ends runtime owner (deleteScaledDown runtime owner.ocnecp machine) (.fresh listed) :=
      deleteScaledDown_ends may
    simp only [stable, Bool.not_true, Bool.false_eq_true, if_false, wpE_bind, wpE_adaptError]
    refine track_runTask ?_ (fun _ => trivial)
    split
    · simp only [removeFromEtcd, wpE_bind]
      refine track_mild (forwardEtcdLeadership_mild _) (fun _ _ => ?_) (fun _ => trivial)
      exact track_mild (removeEtcdMemberForMachine_mild _) (fun _ _ => finish) (fun _ => trivial)
    · exact finish
  · simp [stable]

end Scaling

section Stages

variable {owner : Owner} {listed : Machines} {plane : ControlPlane} {runtime : Runtime} {cluster : Cluster}

theorem upgradeControlPlane_ends {outdated : Machines} (same : cluster.name = owner.clusterName)
    (sees : Sees owner listed plane) (among : ∀ other ∈ outdated, other ∈ plane.machines) :
    Ends runtime owner (upgradeControlPlane runtime plane cluster owner.ocnecp outdated) (.fresh listed) := by
  unfold Ends upgradeControlPlane
  split
  · rename_i strategy isStrategy
    split
    · rename_i rollingUpdate isRollingUpdate
      simp only [runStage, parseVersion, wpE_bind, wpE_adaptError]
      refine track_runTask ?_ (fun _ => trivial)
      refine track_mild (mild_compute.mpr fun _ _ => trivial) (fun _ _ => ?_) (fun _ => trivial)
      refine track_runTask ?_ (fun _ => trivial)
      refine track_runTask ?_ (fun _ => trivial)
      refine track_runTask ?_ (fun _ => trivial)
      refine track_mild (updateOCNEConfigMap_mild _) (fun _ _ => ?_) (fun _ => trivial)
      split
      · split
        · rename_i replicas isReplicas
          split
          · rename_i maxSurge isMaxSurge
            have surge : owner.surge = some maxSurge := by
              simp [Owner.surge, *]
            rw [sees.len]
            split
            · exact scaleUpControlPlane_ends same sees ⟨replicas, isReplicas, .inr ⟨maxSurge, surge, ‹_›⟩⟩
            · exact scaleDownControlPlane_ends sees among
                ⟨replicas, isReplicas, .inr (.inr ⟨maxSurge, surge, ‹_›⟩)⟩
          · simp
        · simp
      · simp
    · simp
  · simp

theorem reconcileMachines_ends (same : cluster.name = owner.clusterName) (sees : Sees owner listed plane) :
    Ends runtime owner (reconcileMachines runtime plane cluster owner.ocnecp) (.fresh listed) := by
  have seesStill : Sees owner listed (plane.machinesNeedingRollout runtime.codec).2 :=
    sees.kept ⟨rfl, rfl, rfl⟩
  have among : ∀ other ∈ (plane.machinesNeedingRollout runtime.codec).1,
      other ∈ (plane.machinesNeedingRollout runtime.codec).2.machines :=
    fun other mem => (mem_filter.mp (mem_filter.mp mem).1).1
  simp only [Ends, reconcileMachines]
  split
  · exact upgradeControlPlane_ends same seesStill among
  · split
    · rename_i replicas isReplicas
      have size := sees.len
      split
      · rename_i empty
        refine initializeControlPlane_ends same seesStill ?_ ⟨replicas, isReplicas, .inl ?_⟩
        · exact_mod_cast empty.2
        · rw [← size]
          exact empty.1
      · split
        · rename_i fewer
          refine scaleUpControlPlane_ends same seesStill ⟨replicas, isReplicas, .inl ?_⟩
          rw [← size]
          exact fewer.1
        · split
          · rename_i more
            refine scaleDownControlPlane_ends seesStill (fun other mem => absurd mem not_mem_nil)
              ⟨replicas, isReplicas, .inr (.inl ?_)⟩
            rw [← size]
            exact more
          · exact Ends.of_mild (reconcileWorkload_mild _ _) _
    · simp

/-- With an empty result nothing was deleted. -/
def Idle (listed : Machines) (verdict : Verdict) (ledger : Ledger) : Prop :=
  verdict.outcome = .ok .empty → ledger = .fresh listed

variable (machine : Machine)

theorem checkRemediation_mild : MildE (fun _ => plane.hasDeletingMachine = false ∧ ∃ replicas,
      plane.ocnecp.spec.replicas = some replicas ∧ 1 < plane.machines.len ∧
      replicas.toInt ≤ plane.machines.len) (checkRemediation plane machine) := by
  unfold checkRemediation
  split
  · rename_i replicas isReplicas
    split
    · simp
    · split
      · simp
      · split
        · simp
        · rename_i several enough none
          have passed : plane.hasDeletingMachine = false ∧ ∃ replicas,
              plane.ocnecp.spec.replicas = some replicas ∧ 1 < plane.machines.len ∧
              replicas.toInt ≤ plane.machines.len :=
            ⟨by simpa using none, replicas, isReplicas, by omega, by omega⟩
          split
          · simp only [checkQuorum, withinE_bind, withinE_adaptError]
            refine (canSafelyRemoveEtcdMember_mild _ _).mono fun safe _ => ?_
            cases safe with
            | true => simpa using passed
            | false => simp
          · simpa using passed
  · simp

theorem remediateEtcdMember_mild : MildE (fun _ => True) (remediateEtcdMember plane machine) := by
  unfold remediateEtcdMember
  split
  · simp only [withinE_bind, withinE_adaptError]
    exact (forwardEtcdLeadership_mild _).mono fun _ _ => removeEtcdMemberForMachine_mild _
  · simp

theorem deleteUnhealthyMachine_disciplined {machine : Machine}
    (may : owner.Permits runtime (.fresh listed) (.deleteMachine machine.name)) :
    wpE track (owner.Permits runtime) (Idle listed) (Idle listed) (deleteUnhealthyMachine runtime plane machine)
      (.fresh listed) := by
  simp only [deleteUnhealthyMachine, wpE_bind, wpE_adaptError]
  refine track_mild (mild_compute.mpr fun _ _ => trivial) (fun version _ => ?_) (fun _ => ?_)
  · refine track_mild (removeMachineFromOCNEConfigMap_mild machine version) (fun _ _ => ?_) (fun _ => ?_)
    · refine track_deleteMachine ?_ (fun error => ?_) may
      · simp [Idle, Result.empty]
      · simp [Idle, Verdict.failed]
    · simp [Idle]
  · simp [Idle]

theorem remediate_disciplined (sees : Sees owner listed plane) {machine : Machine}
    (mem : machine ∈ plane.machines) :
    wpE track (owner.Permits runtime) (Idle listed) (Idle listed) (remediate runtime plane machine)
      (.fresh listed) := by
  simp only [remediate, wpE_bind, wpE_adaptError]
  refine track_mild (checkRemediation_mild machine) (fun _ checked => ?_) (fun _ _ => rfl)
  obtain ⟨none, replicas, isReplicas, several, enough⟩ := checked
  have may : owner.Permits runtime (.fresh listed) (.deleteMachine machine.name) := by
    refine ⟨rfl, rfl, listed, rfl, sees.settled none, ⟨replicas, sees.spec ▸ isReplicas, .inl ?_⟩,
      sees.exists_own mem⟩
    rw [← sees.len]
    exact ⟨several, enough⟩
  refine track_runTask ?_ (fun _ _ => rfl)
  split
  · rw [wpE_bind]
    refine track_mild (remediateEtcdMember_mild machine) (fun _ _ => ?_) (fun _ _ => rfl)
    exact deleteUnhealthyMachine_disciplined may
  · exact deleteUnhealthyMachine_disciplined may

/-- A remediation with an empty result has changed nothing. -/
def Continues (owner : Owner) (listed : Machines) (outcome : Result × ControlPlane) (ledger : Ledger) : Prop :=
  outcome.1.isZero = true → ledger = .fresh listed ∧ Sees owner listed outcome.2

theorem patchVerdict_mild (verdict : Verdict) :
    MildE (fun outcome => verdict.outcome = .ok outcome.1 ∧ Kept plane outcome.2)
      (patchVerdict plane machine verdict) := by
  simp only [patchVerdict, withinE_bind, withinE_attempt]
  refine WithinE.run ((mild_patchMachine _ rfl).mpr fun _ => trivial) (fun _ _ => ?_) (fun _ => ?_)
  · simp only [mild_compute, withinE_pure]
    intro result isResult
    refine ⟨isResult, alike_of_map rfl fun other => ?_, rfl, rfl⟩
    split <;> rfl
  · simp

theorem remediateOldest_disciplined (sees : Sees owner listed plane) :
    wpE track (owner.Permits runtime) (Continues owner listed) (fun _ _ => True)
      (remediateOldest runtime plane) (.fresh listed) := by
  unfold remediateOldest
  split
  · exact fun _ => ⟨rfl, sees⟩
  · rename_i machine oldest
    have mem := (mem_filter.mp (Machines.oldest_mem oldest)).1
    split
    · exact fun _ => ⟨rfl, sees⟩
    · have finish : ∀ verdict ledger, Idle listed verdict ledger →
          wpE track (owner.Permits runtime) (Continues owner listed) (fun _ _ => True)
            (patchVerdict plane machine verdict) ledger := by
        intro verdict ledger idle
        refine track_mild (patchVerdict_mild machine verdict) (fun outcome after zero => ?_) (fun _ => trivial)
        refine ⟨idle ?_, sees.kept after.2⟩
        rw [after.1]
        simpa [Result.isZero] using zero
      simp only [wpE_bind, wpE_lift, verdictOf, wp_bind, wp_outcomes]
      refine track_runTask ?_ (fun _ => trivial)
      exact wpE_mono (remediate_disciplined sees mem) finish finish

theorem withoutRemediations_kept :
    Kept plane (withoutRemediations plane) := by
  refine ⟨alike_of_map rfl fun machine => ?_, rfl, rfl⟩
  unfold withoutRemediation
  split <;> rfl

theorem reconcileUnhealthyMachines_disciplined (sees : Sees owner listed plane) :
    wpE track (owner.Permits runtime) (Continues owner listed) (fun _ _ => True)
      (reconcileUnhealthyMachines runtime plane) (.fresh listed) := by
  simp only [reconcileUnhealthyMachines, wpE_bind]
  refine track_mild ((withinE_lift _).mpr (cleanupRemediation_mild _)) (fun errors _ => ?_) (fun _ => trivial)
  refine track_mild (failIfAny_mild errors () (fun _ => True) trivial) (fun _ _ => ?_) (fun _ => trivial)
  exact remediateOldest_disciplined (sees.kept withoutRemediations_kept)

theorem reconcileOwned_ends (same : cluster.name = owner.clusterName) {owned : Machines}
    (sees : ∀ plane : ControlPlane, plane.ocnecp = owner.ocnecp → plane.machines = owned →
      Sees owner listed plane) :
    Ends runtime owner (reconcileOwned runtime cluster owner.ocnecp owned) (.fresh listed) := by
  unfold Ends reconcileOwned
  simp only [wpE_bind]
  refine track_mild (newControlPlane_mild _ _ _) (fun plane built => ?_) (fun _ => trivial)
  have first : Sees owner listed (labelMachines plane) :=
    (sees plane built.1 built.2.2).kept (labelMachines_kept plane)
  refine track_mild (reconcileControlPlaneConditions_mild _) (fun inspected kept => ?_) (fun _ => trivial)
  have second := first.kept kept
  refine track_mild (reconcileEtcdMembers_mild _ _) (fun _ _ => ?_) (fun _ => trivial)
  refine wpE_mono (reconcileUnhealthyMachines_disciplined second)
    (fun outcome ledger continues => ?_) (fun _ _ _ => trivial)
  by_cases zero : outcome.1.isZero = true
  · obtain ⟨rfl, third⟩ := continues zero
    simp only [zero, Bool.not_true, Bool.false_eq_true, if_false, wpE_bind]
    refine track_mild (reconcileCertificateExpiries_mild _ _) (fun noted kept => ?_) (fun _ => trivial)
    exact reconcileMachines_ends same (third.kept kept)
  · simp [zero]

end Stages

section Adoption

variable {owner : Owner} {listed : Machines} {runtime : Runtime} {cluster : Cluster}

/-- The ledgers of a pass that does no more than adopt. -/
def Adopts (listed : Machines) (ledger : Ledger) : Prop :=
  ledger.listed = some listed ∧ ledger.operations = 0

theorem adoptMachine_disciplined {machine : Machine} {ledger : Ledger} (adopts : Adopts listed ledger)
    (mem : machine ∈ listed) (adoptable : adoptableControlPlaneMachines owner.clusterName machine = true)
    (vetted : owner.Vets runtime machine) :
    wpE track (owner.Permits runtime) (fun _ => Adopts listed) (fun _ => Adopts listed)
      (adoptMachine owner.ocnecp machine) ledger := by
  unfold adoptMachine
  split
  · simp only [wpE_bind]
    refine track_mild ((mild_getOCNEConfig _ _).mpr fun _ => trivial) (fun _ _ => ?_) (fun _ => adopts)
    refine track_runTask ?_ (fun _ => adopts)
    refine track_runTask ?_ (fun _ => adopts)
    split
    · simpa using adopts
    · split
      · simpa using adopts
      · refine ⟨?_, fun answer next recorded => ?_⟩
        · intro refs some
          exact ⟨adopts.2, listed, adopts.1, machine, mem, adoptable, rfl,
            (Option.some.inj some).symm, vetted⟩
        · subst recorded
          cases answer <;> exact adopts
  · simpa using adopts

theorem adoptEach_disciplined {machines : List Machine} {ledger : Ledger} (adopts : Adopts listed ledger)
    (members : ∀ machine ∈ machines, machine ∈ listed ∧
      adoptableControlPlaneMachines owner.clusterName machine = true)
    (vetted : ∀ machine ∈ machines, owner.Vets runtime machine) :
    Ends runtime owner (adoptEach owner.ocnecp machines) ledger := by
  induction machines generalizing ledger with
  | nil => simp [Ends, adoptEach]
  | cons machine rest ih =>
    simp only [Ends, adoptEach, wpE_bind]
    have first := members machine mem_cons_self
    refine wpE_mono (adoptMachine_disciplined adopts first.1 first.2 (vetted machine mem_cons_self)) (fun _ next adoptsStill => ?_) (fun _ _ _ => trivial)
    exact ih adoptsStill (fun other mem => members other (mem_cons_of_mem _ mem))
      fun other mem => vetted other (mem_cons_of_mem _ mem)

theorem checkAdoption_of_checkAdoptions {ocnecp : OCNEControlPlane} {version : Version} {machines : List Machine}
    (checked : checkAdoptions runtime ocnecp version machines = .ok true) {machine : Machine}
    (mem : machine ∈ machines) : checkAdoption runtime ocnecp version machine = .ok true := by
  induction machines with
  | nil => cases mem
  | cons first rest ih =>
    obtain ⟨adoptable, passed, checked⟩ := bind_eq_ok.mp checked
    cases adoptable with
    | false => cases checked
    | true =>
      rcases mem_cons.mp mem with rfl | later
      · exact passed
      · exact ih checked later

theorem adoptMachines_ends {machines : Machines} (members : ∀ machine ∈ machines, machine ∈ listed ∧
      adoptableControlPlaneMachines owner.clusterName machine = true) :
    Ends runtime owner (adoptMachines runtime owner.ocnecp machines.items machines.items) (.fresh listed) := by
  simp only [Ends, adoptMachines, adoptUndeleted, wpE_bind, wpE_adaptError, parseVersion]
  refine track_mild ((mild_getControlPlaneUncached).mpr fun _ => trivial) (fun deletionTimestamp _ => ?_)
    (fun _ => trivial)
  split
  · simp
  · simp only [wpE_bind, wpE_adaptError]
    refine track_mild (mild_compute.mpr fun _ parsed => parsed) (fun version parsed => ?_) (fun _ => trivial)
    refine track_mild (mild_compute.mpr fun _ result => result) (fun checked result => ?_) (fun _ => trivial)
    split
    · rename_i passed
      refine adoptEach_disciplined ⟨rfl, rfl⟩ members fun machine mem => ⟨version, parsed, ?_⟩
      exact checkAdoption_of_checkAdoptions (passed ▸ result) mem
    · simp

theorem sees_listed (none : ¬ 0 < ((listed.filter (controlPlaneMachines owner.clusterName)).filter
      (adoptableControlPlaneMachines owner.clusterName)).len)
    (all : ((listed.filter (controlPlaneMachines owner.clusterName)).filter
      (ownedMachines owner.ocnecp.identity)).len = (listed.filter (controlPlaneMachines owner.clusterName)).len)
    {plane : ControlPlane} (ocnecp : plane.ocnecp = owner.ocnecp)
    (machines : plane.machines = (listed.filter (controlPlaneMachines owner.clusterName)).filter
      (ownedMachines owner.ocnecp.identity)) : Sees owner listed plane := by
  have owned := length_filter_eq_length_iff.mp all
  refine ⟨by rw [ocnecp], fun machine mem isControlPlane => ⟨?_, ?_⟩, ?_⟩
  · exact owned machine (mem_filter.mpr ⟨mem, isControlPlane⟩)
  · by_contra uncontrolled
    apply none
    have found : machine ∈ (listed.filter (controlPlaneMachines owner.clusterName)).filter
        (adoptableControlPlaneMachines owner.clusterName) := by
      simpa [mem, isControlPlane, adoptableControlPlaneMachines] using uncontrolled
    exact length_pos_of_mem found
  · rw [machines]
    congr 1
    exact filter_eq_self.mpr owned

/-- Whatever the answers, a pass only issues calls that its owner permits. -/
theorem reconcile_disciplined (same : cluster.name = owner.clusterName) :
    Ends runtime owner (reconcile runtime cluster owner.ocnecp) .empty := by
  simp only [Ends, reconcile, wpE_bind]
  refine track_runTask ?_ (fun _ => trivial)
  split
  · simp
  · simp only [wpE_bind]
    refine track_runTask ?_ (fun _ => trivial)
    split
    · simp
    · simp only [wpE_bind]
      refine track_mild ((mild_reconcileKubeconfig).mpr fun _ => trivial) (fun result _ => ?_) (fun _ => trivial)
      split
      · simp
      · simp only [wpE_bind]
        refine track_listMachines same (fun listed => ?_) (fun _ => trivial)
        rw [same]
        split
        · simp only [wpE_bind, wpE_pure]
          refine adoptMachines_ends fun machine mem => ?_
          obtain ⟨found, adoptable⟩ := mem_filter.mp mem
          exact ⟨(mem_filter.mp found).1, adoptable⟩
        · rename_i none
          simp only [wpE_bind]
          refine track_runTask ?_ (fun _ => trivial)
          split
          · simp
          · rename_i all
            exact reconcileOwned_ends same fun plane ocnecp machines =>
              sees_listed none (not_not.mp all) ocnecp machines

end Adoption

end OcneProvider.Controller.Discipline
