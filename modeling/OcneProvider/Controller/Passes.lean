import OcneProvider.Controller.Clusters
import OcneProvider.Controller.Discipline
import OcneProvider.Controller.Fleets

/-! A pass changes the machines of a cluster as a pass of a fleet may: at every
moment of a run it has adopted machines, or created or deleted at most one. -/

namespace OcneProvider.Controller.Passes
open Api.Meta Api.Conditions Api.Objects Collections Calls Clusters Plane Reconcile Discipline
open Fleets Effects.Program

def member (owner : Owner) (machine : Machine) : Member :=
  ⟨machine.name, ownedMachines owner.ocnecp.identity machine, hasControllerRef machine,
    hasDeletionTimestamp machine⟩

def fleet (owner : Owner) (machines : Machines) : Fleet :=
  ↑((machines.filter (controlPlaneMachines owner.clusterName)).items.map (member owner))

section Views

variable {owner : Owner} {machines : Machines} {world : World}

theorem mem_fleet {seen : Member} : seen ∈ fleet owner machines ↔
    ∃ machine ∈ machines, controlPlaneMachines owner.clusterName machine = true ∧ member owner machine = seen := by
  simp [fleet, and_assoc]

theorem fleet_distinct (owner : Owner) (machines : Machines) : (fleet owner machines).Distinct := by
  have names : (fleet owner machines).map Member.name =
      ↑((machines.filter (controlPlaneMachines owner.clusterName)).items.map Machine.name) := by
    simp [fleet, Function.comp_def, member]
  unfold Fleet.Distinct
  rw [names]
  exact Multiset.coe_nodup.mpr (machines.filter _).distinct

theorem card_fleet : (fleet owner machines).card = owner.size machines := by
  simp [fleet, Owner.size, Machines.len]

theorem countP_fleet (p : Member → Bool) :
    (fleet owner machines).countP (p · = true) =
      machines.items.countP fun machine => controlPlaneMachines owner.clusterName machine && p (member owner machine) := by
  simp [fleet, Machines.filter, List.countP_filter, List.countP_map, Function.comp_def, Bool.and_comm]

theorem settled_fleet (settled : owner.Settled machines) : (fleet owner machines).Settled where
  owned seen mem := by
    obtain ⟨machine, found, isControlPlane, rfl⟩ := mem_fleet.mp mem
    exact (settled.own machine found isControlPlane).1
  controlled seen mem := by
    obtain ⟨machine, found, isControlPlane, rfl⟩ := mem_fleet.mp mem
    exact (settled.own machine found isControlPlane).2
  kept seen mem := by
    obtain ⟨machine, found, isControlPlane, rfl⟩ := mem_fleet.mp mem
    exact settled.staying machine found isControlPlane

theorem fleet_of_lists {mem : Machines} (lists : world.Lists owner.clusterName mem) :
    fleet owner mem = fleet owner world.machines := by
  have nodup : ∀ machines : Machines, machines.items.Nodup := fun machines => List.Nodup.of_map _ machines.distinct
  apply Multiset.coe_eq_coe.mpr
  apply List.Perm.map
  apply (List.perm_ext_iff_of_nodup (nodup _) (nodup _)).mpr
  intro machine
  simp only [mem_items, mem_filter, lists machine]
  constructor
  · exact fun found => ⟨found.1.1, found.2⟩
  · rintro ⟨found, isControlPlane⟩
    have labelled : machine.labels.lookup clusterLabelName = some owner.clusterName := by
      simp only [controlPlaneMachines, Bool.and_eq_true, beq_iff_eq] at isControlPlane
      exact isControlPlane.1
    exact ⟨⟨found, labelled⟩, isControlPlane⟩

variable {patch : MachinePatch} (name : String)

theorem fleet_updateMachine (change : Machine → Machine)
    (named : ∀ machine, (change machine).name = machine.name) (effect : Member → Member)
    (labelled : ∀ machine, controlPlaneMachines owner.clusterName (change machine) =
      controlPlaneMachines owner.clusterName machine)
    (shown : ∀ machine, member owner (change machine) = effect (member owner machine)) :
    fleet owner (world.updateMachine name change named).machines =
      (fleet owner world.machines).map fun seen => if seen.name = name then effect seen else seen := by
  have kept : (fun machine => controlPlaneMachines owner.clusterName
      (if machine.name = name then change machine else machine)) = controlPlaneMachines owner.clusterName := by
    funext machine
    split
    · exact labelled machine
    · rfl
  have seen : ∀ machine, member owner (if machine.name = name then change machine else machine) =
      if (member owner machine).name = name then effect (member owner machine) else member owner machine := by
    intro machine
    change _ = if machine.name = name then _ else _
    split
    · exact shown machine
    · rfl
  simp [fleet, World.updateMachine, Machines.modify, Machines.filter, List.filter_map, Function.comp_def, kept, seen]

theorem fleet_startDeletion (time : Time) :
    fleet owner (world.startDeletion name time).machines = (fleet owner world.machines).startDeletion name := by
  refine fleet_updateMachine name _ _ (fun seen => { seen with deleting := true }) (fun _ => rfl) fun machine => ?_
  cases deleted : machine.deletionTimestamp <;>
    simp [member, Machine.startDeletion, deleted, hasDeletionTimestamp, ownedMachines, hasControllerRef]

theorem fleet_removeMachine :
    fleet owner (world.removeMachine name).machines = (fleet owner world.machines).remove name := by
  unfold fleet Fleet.remove
  rw [Multiset.filter_coe, List.filter_map]
  simp only [World.removeMachine, Machines.filter, List.filter_filter, Function.comp_def, member, Bool.and_comm]
  rfl

theorem fleet_addMachine {machine : Machine} (fits : owner.Fits machine) (free : machine.name ∉ world.machineNames) :
    fleet owner (world.addMachine machine free).machines =
      ⟨machine.name, true, true, false⟩ ::ₘ fleet owner world.machines := by
  have own := fits.own
  simp only [Owner.isOwn, Bool.and_eq_true] at own
  simp [fleet, World.addMachine, Machines.filter, own.1, member, own.2, fits.controlled, fits.staying]

theorem controlPlaneMachines_applyPatch (clusterName : String) (machine : Machine) :
    controlPlaneMachines clusterName (Machine.applyPatch patch machine) = controlPlaneMachines clusterName machine := by
  have apart : clusterLabelName ≠ machineControlPlaneNameLabel ∧
      machineControlPlaneLabelName ≠ machineControlPlaneNameLabel := by decide
  cases named : patch.controlPlaneName <;> simp [controlPlaneMachines, Machine.applyPatch, named, apart]

theorem fleet_patchMachine (kept : patch.ownerReferences = none) :
    fleet owner (world.patchMachine name patch).machines = fleet owner world.machines := by
  refine (fleet_updateMachine name _ _ id (controlPlaneMachines_applyPatch owner.clusterName)
    fun machine => ?_).trans ?_
  · simp [member, Machine.applyPatch, kept, ownedMachines, hasControllerRef, hasDeletionTimestamp]
  · simp

theorem owned_upsertOwnerRef (ocnecp : OCNEControlPlane) (refs : List OwnerReference) :
    isOwnedByObject (upsertOwnerRef ocnecp.newControllerRef ocnecp.identity refs) ocnecp.identity = true ∧
      (getControllerOf (upsertOwnerRef ocnecp.newControllerRef ocnecp.identity refs)).isSome = true := by
  have controller : ocnecp.newControllerRef.controller = some true := rfl
  induction refs with
  | nil => simp [upsertOwnerRef, isOwnedByObject, getControllerOf, refersTo_newControllerRef, controller]
  | cons existing rest ih =>
    unfold upsertOwnerRef
    split
    · simp [isOwnedByObject, getControllerOf, refersTo_newControllerRef, controller]
    · obtain ⟨owned, controlled⟩ := ih
      simp only [isOwnedByObject, getControllerOf, List.any_cons, List.find?_isSome, List.mem_cons] at owned controlled ⊢
      refine ⟨by simp [owned], ?_⟩
      obtain ⟨ref, found, is⟩ := controlled
      exact ⟨ref, .inr found, is⟩

theorem fleet_adopt {refs : List OwnerReference} (name : String) (adopted : patch.ownerReferences =
      some (upsertOwnerRef owner.ocnecp.newControllerRef owner.ocnecp.identity refs)) :
    fleet owner (world.patchMachine name patch).machines = (fleet owner world.machines).adopt (· = name) := by
  obtain ⟨owned, controlled⟩ := owned_upsertOwnerRef owner.ocnecp refs
  refine (fleet_updateMachine name _ _ (fun seen => { seen with owned := true, controlled := true })
    (controlPlaneMachines_applyPatch owner.clusterName) fun machine => ?_).trans ?_
  · simp [member, Machine.applyPatch, adopted, ownedMachines, hasControllerRef, hasDeletionTimestamp, owned, controlled]
  · simp [Fleet.adopt]

end Views

section Stages

variable {owner : Owner} {runtime : Runtime} {start : Fleet} {world next : World} {ledger : Ledger} {mayFail : Prop}

/-- How far a pass that found the machines of `start` has come. -/
structure Stage (owner : Owner) (start : Fleet) (world : World) (ledger : Ledger) : Prop where
  listed : ∀ listed, ledger.listed = some listed → fleet owner listed = start
  unlisted : ledger.listed = none → ledger.operations = 0 ∧ ledger.adopting = false
  untouched : ledger.operations = 0 → ledger.adopting = false → fleet owner world.machines = start
  adopted : ledger.operations = 0 → ∃ names : String → Bool,
    (∀ seen ∈ start, names seen.name = true → seen.controlled = false) ∧
      fleet owner world.machines = start.adopt names
  passed : Fleet.Pass owner.MayGrow owner.MayShrink start (fleet owner world.machines)
  once : ledger.operations ≤ 1

theorem Stage.initial (owner : Owner) (world : World) : Stage owner (fleet owner world.machines) world .empty where
  listed := by simp [Ledger.empty]
  unlisted _ := ⟨rfl, rfl⟩
  untouched _ _ := rfl
  adopted _ := ⟨fun _ => false, by simp, by simp⟩
  passed := Fleet.Pass.refl _
  once := Nat.zero_le 1

variable (stage : Stage owner start world ledger)
include stage

theorem Stage.keep
    (same : fleet owner next.machines = fleet owner world.machines) : Stage owner start next ledger where
  listed := stage.listed
  unlisted := stage.unlisted
  untouched := by rw [same]; exact stage.untouched
  adopted := by rw [same]; exact stage.adopted
  passed := by rw [same]; exact stage.passed
  once := stage.once

theorem Stage.list {machines : Machines} (lists : world.Lists owner.clusterName machines) :
    Stage owner start world { ledger with listed := ledger.listed.or (some machines) } where
  listed listed found := by
    cases earlier : ledger.listed with
    | some first =>
      simp only [earlier, Option.some_or, Option.some.injEq] at found
      exact found ▸ stage.listed first earlier
    | none =>
      simp only [earlier, Option.none_or, Option.some.injEq] at found
      obtain ⟨idle, plain⟩ := stage.unlisted earlier
      rw [← found, fleet_of_lists lists, stage.untouched idle plain]
  unlisted := by simp
  untouched := stage.untouched
  adopted := stage.adopted
  passed := stage.passed
  once := stage.once

theorem Stage.operate (idle : ledger.operations = 0) (known : ledger.listed ≠ none)
    (passed : Fleet.Pass owner.MayGrow owner.MayShrink start (fleet owner next.machines)) :
    Stage owner start next { ledger with operations := ledger.operations + 1 } where
  listed := stage.listed
  unlisted unknown := absurd unknown known
  untouched := by simp
  adopted := by simp
  passed := passed
  once := by simp [idle]

theorem Stage.adopt (idle : ledger.operations = 0) (known : ledger.listed ≠ none) (names : String → Bool)
    (free : ∀ seen ∈ start, names seen.name = true → seen.controlled = false)
    (adopted : fleet owner next.machines = start.adopt names) :
    Stage owner start next { ledger with adopting := true } where
  listed := stage.listed
  unlisted unknown := absurd unknown known
  untouched := by simp
  adopted _ := ⟨names, free, adopted⟩
  passed := adopted ▸ .adopt names free
  once := by simp [idle]

theorem Stage.settled {mem : Machines} (known : ledger.listed = some mem) (settled : owner.Settled mem) :
    start.Settled ∧ start.card = owner.size mem := by
  rw [← stage.listed mem known]
  exact ⟨settled_fleet settled, card_fleet⟩

theorem stage_createMachine {machine : Machine} {answer : Except Err Unit}
    (may : owner.Permits runtime ledger (.createMachine machine))
    (answered : env mayFail world (.createMachine machine) answer next) :
    Stage owner start next { ledger with operations := ledger.operations + 1 } := by
  obtain ⟨idle, plain, mem, known, create⟩ := may
  obtain ⟨settled, size⟩ := stage.settled known create.settled
  have untouched := stage.untouched idle plain
  have added : ∀ created free, next = world.addMachine { machine with creationTimestamp := created } free →
      Fleet.Pass owner.MayGrow owner.MayShrink start (fleet owner next.machines) := by
    intro created free changed
    rw [changed, fleet_addMachine (create.fits.created created), untouched]
    exact .create _ settled (size ▸ create.grow)
  apply stage.operate idle (by simp [known])
  cases answer with
  | ok value =>
    obtain ⟨created, free, changed⟩ := answered
    exact added created free changed
  | error error =>
    obtain ⟨_, rfl | ⟨created, free, changed⟩⟩ := answered
    · exact stage.passed
    · exact added created free changed

omit stage in
theorem deleted_fleet (owner : Owner) {name : String} {answer : Except Err Unit}
    (answered : env mayFail world (.deleteMachine name) answer next) :
    fleet owner next.machines = fleet owner world.machines ∨
      fleet owner next.machines = (fleet owner world.machines).startDeletion name ∨
      fleet owner next.machines = (fleet owner world.machines).remove name := by
  have changed : (∃ time, next = world.startDeletion name time) ∨ next = world.removeMachine name →
      fleet owner next.machines = (fleet owner world.machines).startDeletion name ∨
        fleet owner next.machines = (fleet owner world.machines).remove name := by
    rintro (⟨time, rfl⟩ | rfl)
    · exact .inl (fleet_startDeletion name time)
    · exact .inr (fleet_removeMachine name)
  cases answer with
  | ok value => exact .inr (changed answered)
  | error error =>
    obtain ⟨_, rfl | happened⟩ := answered
    · exact .inl rfl
    · exact .inr (changed happened)

variable {call : Call} {name : String} {answer : call.Answer}

theorem stage_deleteMachine {answer : Except Err Unit} (may : owner.Permits runtime ledger (.deleteMachine name))
    (answered : env mayFail world (.deleteMachine name) answer next) :
    Stage owner start next { ledger with operations := ledger.operations + 1 } := by
  obtain ⟨idle, plain, mem, known, delete⟩ := may
  obtain ⟨settled, size⟩ := stage.settled known delete.settled
  have shrink : owner.MayShrink start.card := size ▸ delete.shrink
  have untouched := stage.untouched idle plain
  apply stage.operate idle (by simp [known])
  rcases deleted_fleet owner answered with same | started | removed
  · rw [same]
    exact stage.passed
  · rw [started, untouched]
    exact .startDeletion name settled shrink
  · rw [removed, untouched]
    exact .remove name settled shrink

theorem stage_adopt {patch : MachinePatch} {refs : List OwnerReference} {answer : Except Err Unit}
    (patched : patch.ownerReferences = some refs) (may : owner.Permits runtime ledger (.patchMachine name patch))
    (answered : env mayFail world (.patchMachine name patch) answer next) :
    Stage owner start next { ledger with adopting := true } := by
  obtain ⟨idle, mem, known, machine, found, adoptable, named, rfl, _⟩ := may refs patched
  simp only [adoptableControlPlaneMachines, Bool.and_eq_true, Bool.not_eq_true'] at adoptable
  obtain ⟨names, free, adopted⟩ := stage.adopted idle
  have present : member owner machine ∈ start := by
    rw [← stage.listed mem known]
    exact mem_fleet.mpr ⟨machine, found, adoptable.1, rfl⟩
  -- The names of the machines are apart, so the name stands for the mem machine.
  have freeName : ∀ seen ∈ start, seen.name = name → seen.controlled = false := by
    intro seen other same
    have apart : start.Distinct := stage.listed mem known ▸ fleet_distinct owner mem
    have this : seen = member owner machine :=
      Multiset.inj_on_of_nodup_map apart seen other _ present (by rw [same]; exact named.symm)
    rw [this]
    exact adoptable.2
  have changed : next = world.patchMachine name patch → Stage owner start next { ledger with adopting := true } := by
    intro changed
    refine stage.adopt idle (by simp [known]) (fun other => names other || other = name) ?_ ?_
    · intro seen other either
      rcases Bool.or_eq_true_iff.mp either with earlier | here
      · exact free seen other earlier
      · exact freeName seen other (by simpa using here)
    · rw [changed, fleet_adopt name patched, adopted, Fleet.adopt_adopt]
  cases answer with
  | ok value => exact changed answered
  | error error =>
    obtain ⟨_, rfl | happened⟩ := answered
    · exact stage.adopt idle (by simp [known]) names free adopted
    · exact changed happened

omit stage in
theorem env_machines (other : match call with
      | .createMachine _ | .patchMachine _ _ | .deleteMachine _ => False
      | _ => True) (answered : env mayFail world call answer next) : next.machines = world.machines := by
  cases call with
  | memberRemove node id =>
    cases answer with
    | ok value =>
      obtain ⟨leader, _, rfl⟩ := answered
      rfl
    | error error =>
      obtain ⟨_, rfl | ⟨leader, _, rfl⟩⟩ := answered <;> rfl
  | moveLeader node id =>
    cases answer with
    | ok value =>
      obtain rfl := answered
      rfl
    | error error =>
      obtain ⟨_, rfl | rfl⟩ := answered <;> rfl
  | createMachine machine => exact other.elim
  | patchMachine name patch => exact other.elim
  | deleteMachine name => exact other.elim
  | _ => rw [env_unchanged rfl answered]

theorem stage_call
    (may : owner.Permits runtime ledger call) (answered : env mayFail world call answer next) :
    Stage owner start next (ledger.record call answer) := by
  cases call with
  | createMachine machine => exact stage_createMachine stage may answered
  | deleteMachine name => exact stage_deleteMachine stage may answered
  | patchMachine name patch =>
    cases patched : patch.ownerReferences with
    | some refs =>
      have stage := stage_adopt stage patched may answered
      simpa [Ledger.record, patched] using stage
    | none =>
      have same : fleet owner next.machines = fleet owner world.machines := by
        have changed : next = world.patchMachine name patch →
            fleet owner next.machines = fleet owner world.machines :=
          fun changed => changed ▸ fleet_patchMachine name patched
        cases answer with
        | ok value => exact changed answered
        | error error =>
          obtain ⟨_, rfl | happened⟩ := answered
          · rfl
          · exact changed happened
      simpa [Ledger.record, patched] using stage.keep same
  | listMachines clusterName =>
    obtain rfl : clusterName = owner.clusterName := may
    cases answer with
    | ok machines =>
      obtain ⟨rfl, lists⟩ := answered
      exact stage.list lists
    | error error =>
      obtain ⟨rfl, _⟩ := answered
      exact stage
  | _ => exact stage.keep (by rw [env_machines trivial answered])

end Stages

section Runs

variable {owner : Owner} {runtime : Runtime} {cluster : Cluster} {world next : World} {mayFail : Prop}
variable {trace : List (Event signature World)} {rest : Prog signature (Except Err Result)}

def isOperation : Call → Bool
  | .createMachine _ | .deleteMachine _ => true
  | _ => false

theorem operations_follow (ledger : Ledger) :
    (follow Ledger.record ledger trace).operations =
      ledger.operations + trace.countP fun event => isOperation event.request := by
  induction trace generalizing ledger with
  | nil => rfl
  | cons event trace ih =>
    change (follow Ledger.record (ledger.record event.request event.answer) trace).operations = _
    rw [ih, List.countP_cons]
    obtain ⟨before, request, answer, after⟩ := event
    cases request with
    | listMachines clusterName => cases answer <;> simp [Ledger.record, isOperation]
    | createMachine machine => exact Nat.add_right_comm _ 1 _
    | deleteMachine name => exact Nat.add_right_comm _ 1 _
    | _ => simp [Ledger.record, isOperation]

structure Passed (owner : Owner) (world : World) (trace : List (Event signature World)) (next : World) : Prop where
  changed : Fleet.Pass owner.MayGrow owner.MayShrink (fleet owner world.machines) (fleet owner next.machines)
  once : (trace.countP fun event => isOperation event.request) ≤ 1
  settled : ∀ event ∈ trace, isOperation event.request = true →
    fleet owner event.before.machines = fleet owner world.machines ∧ (fleet owner world.machines).Settled
  deletes : ∀ event ∈ trace, ∀ name, event.request = .deleteMachine name →
    owner.MayShrink (fleet owner world.machines).card ∧
      (fleet owner event.after.machines = fleet owner world.machines ∨
        fleet owner event.after.machines = (fleet owner world.machines).startDeletion name ∨
        fleet owner event.after.machines = (fleet owner world.machines).remove name)

/-- A run of a pass is a pass of the fleet. -/
theorem reconcile_passed (same : cluster.name = owner.clusterName)
    (run : Run (env mayFail) (reconcile runtime cluster owner.ocnecp).run world trace rest next) :
    Passed owner world trace next := by
  have disciplined : Ends runtime owner (reconcile runtime cluster owner.ocnecp) .empty := reconcile_disciplined same
  obtain ⟨stage, _, events⟩ := tracking_run (Stage owner (fleet owner world.machines)) run disciplined
    (fun _ _ _ _ _ may answered stage => stage_call stage may answered)
    (Stage.initial owner world)
  refine ⟨stage.passed, ?_, ?_, ?_⟩
  · have once := stage.once
    rw [operations_follow] at once
    simpa [Ledger.empty] using once
  · intro event occurred op
    obtain ⟨ledger, may, stage, _⟩ := events event occurred
    obtain ⟨before, request, answer, after⟩ := event
    cases request with
    | createMachine machine =>
      obtain ⟨idle, plain, mem, known, create⟩ := may
      exact ⟨stage.untouched idle plain, (stage.settled known create.settled).1⟩
    | deleteMachine name =>
      obtain ⟨idle, plain, mem, known, delete⟩ := may
      exact ⟨stage.untouched idle plain, (stage.settled known delete.settled).1⟩
    | _ => simp [isOperation] at op
  · intro event occurred name deletes
    obtain ⟨ledger, may, stage, answered⟩ := events event occurred
    obtain ⟨before, request, answer, after⟩ := event
    obtain rfl : request = .deleteMachine name := deletes
    obtain ⟨idle, plain, mem, known, delete⟩ := may
    obtain ⟨_, size⟩ := stage.settled known delete.settled
    refine ⟨size ▸ delete.shrink, ?_⟩
    have left := deleted_fleet owner answered
    rwa [stage.untouched idle plain] at left

end Runs

end OcneProvider.Controller.Passes
