import OcneProvider.Controller.Turnover

/-! A whole pass in calm surroundings: it comes to its end without an error, and what its calls have done
to the machines by then. -/

namespace OcneProvider.Controller.Rounds
open Api.Conditions Api.Bootstrap Api.Objects Api.Formats Collections Calls Clusters Plane
open Health Remediation Scale Reconcile Discipline Passes Quorum Calm Checkup Turnover
open Effects.Fallible

variable {loaded : ControlPlane}

section Seeing

variable {scene : Scene} {original machine : Machine} {before after : Machines}

/-- Health conditions may be better, and the unhealthy mark is the same. -/
structure Finds (scene : Scene) (original machine : Machine) : Prop where
  rest : ∃ conditions, machine = { labelled scene original with conditions := conditions }
  unhealthy : hasUnhealthyCondition machine = hasUnhealthyCondition original

theorem finds_labelled : Finds scene original (labelled scene original) := by
  refine ⟨⟨(labelled scene original).conditions, rfl⟩, ?_⟩
  unfold labelled
  split <;> rfl

theorem Finds.improves {renewed : Machine} (finds : Finds scene original machine) (improves : Improves machine renewed) :
    Finds scene original renewed where
  rest := by
    obtain ⟨conditions, rfl⟩ := finds.rest
    exact ⟨renewed.conditions, improves.rest⟩
  unhealthy := by
    have marks : machineHealthCheckSucceededCondition ∉ healthTypes ∧ machineOwnerRemediatedCondition ∉ healthTypes := by
      decide
    rw [← finds.unhealthy]
    simp only [hasUnhealthyCondition, Api.Conditions.isFalse, hasStatus, improves.others _ marks.1, improves.others _ marks.2]

theorem Finds.withoutRemediation (finds : Finds scene original machine) :
    Finds scene original (withoutRemediation machine) where
  rest := by
    obtain ⟨conditions, rfl⟩ := finds.rest
    unfold Remediation.withoutRemediation
    split
    · exact ⟨_, rfl⟩
    · exact ⟨conditions, rfl⟩
  unhealthy := by rw [hasUnhealthyCondition_withoutRemediation, finds.unhealthy]

theorem confirms_withoutRemediation {types : List ConditionType} (inside : types ⊆ healthTypes)
    (confirms : Confirms types machine) : Confirms types (withoutRemediation machine) := by
  have apart : machineOwnerRemediatedCondition ∉ healthTypes := by decide
  intro type mem
  unfold Remediation.withoutRemediation
  split
  · rw [isTrue_delete_other]
    · exact confirms type mem
    · rintro rfl
      exact apart (inside mem)
  · exact confirms type mem

theorem Finds.looked (finds : Finds scene original machine) : scene.infraOf machine = scene.infraOf original ∧
    scene.configOf machine = scene.configOf original ∧ scene.comparedConfig machine = scene.comparedConfig original := by
  obtain ⟨conditions, rfl⟩ := finds.rest
  refine ⟨?_, ?_, ?_⟩
  · unfold labelled
    split <;> rfl
  · unfold labelled
    split <;> rfl
  · unfold labelled
    split <;> rfl

end Seeing

/-- The machines that a pass has in hand are those of the scene. -/
structure Holds (scene : Scene) (found : Machines) : Prop where
  back : ∀ machine ∈ found, ∃ original ∈ machines scene, Finds scene original machine
  forth : ∀ original ∈ machines scene, ∃ machine ∈ found, Finds scene original machine

section Holding

variable {scene : Scene} {found next : Machines}

theorem Finds.shown {original machine : Machine} (finds : Finds scene original machine) : Shows original machine := by
  obtain ⟨conditions, rfl⟩ := finds.rest
  exact shows_labelled conditions

variable (holds : Holds scene found)
include holds

theorem Holds.showing : Showing (machines scene) found where
  back machine mem := by
    obtain ⟨original, present, finds⟩ := holds.back machine mem
    exact ⟨original, present, finds.shown⟩
  forth original present := by
    obtain ⟨machine, mem, finds⟩ := holds.forth original present
    exact ⟨machine, mem, finds.shown⟩

theorem Holds.map {change : Machine → Machine} (items : next.items = found.items.map change)
    (kept : ∀ original machine, Finds scene original machine → Finds scene original (change machine)) :
    Holds scene next where
  back machine mem := by
    change machine ∈ next.items at mem
    rw [items] at mem
    obtain ⟨before, isBefore, rfl⟩ := List.mem_map.mp mem
    obtain ⟨original, present, finds⟩ := holds.back before isBefore
    exact ⟨original, present, kept original before finds⟩
  forth original present := by
    obtain ⟨machine, mem, finds⟩ := holds.forth original present
    refine ⟨change machine, ?_, kept original machine finds⟩
    change change machine ∈ next.items
    rw [items]
    exact List.mem_map_of_mem mem

theorem Holds.improved (improved : Improved found next) : Holds scene next where
  back machine mem := by
    obtain ⟨before, isBefore, improves⟩ := improved.exists_before mem
    obtain ⟨original, present, finds⟩ := holds.back before isBefore
    exact ⟨original, present, finds.improves improves⟩
  forth original present := by
    obtain ⟨machine, mem, finds⟩ := holds.forth original present
    obtain ⟨renewed, isRenewed, improves⟩ := improved.exists_after mem
    exact ⟨renewed, isRenewed, finds.improves improves⟩

theorem Holds.unmarked (healthy : Healthy scene) : ∀ machine ∈ found, hasUnhealthyCondition machine = false := by
  intro machine mem
  obtain ⟨original, present, finds⟩ := holds.back machine mem
  rw [finds.unhealthy]
  exact healthy.unmarked original present

end Holding

section Pass

variable {scene : Scene} {wanted surge : Nat}

theorem lookup_labelled (machine : Machine) :
    (labelled scene machine).labels.lookup machineControlPlaneNameLabel = some (mustFormatValue scene.ocnecp.name) := by
  unfold labelled
  split
  · rename_i carried
    cases given : machine.labels.lookup machineControlPlaneNameLabel with
    | none => simp [given] at carried
    | some value => simpa [given, mustEqualValue] using carried
  · simp

theorem labelMachines_machines (ocnecp : loaded.ocnecp = scene.ocnecp) :
    (labelMachines loaded).machines = loaded.machines.modify (labelled scene) (labelled_name scene) := by
  simp only [labelMachines, ocnecp]
  rfl

theorem holds_labelMachines {owned : Machines} (loads : scene.Loads owned loaded)
    (own : ∀ machine, machine ∈ owned ↔ machine ∈ machines scene) : Holds scene (labelMachines loaded).machines := by
  rw [labelMachines_machines loads.ocnecp, loads.machines]
  constructor
  · intro machine mem
    obtain ⟨original, present, rfl⟩ := List.mem_map.mp mem
    exact ⟨original, (own original).mp present, finds_labelled⟩
  · intro original present
    exact ⟨labelled scene original, List.mem_map_of_mem ((own original).mpr present), finds_labelled⟩

theorem wellReported_labelMachines {owned : Machines} (loads : scene.Loads owned loaded)
    (own : ∀ machine, machine ∈ owned ↔ machine ∈ machines scene) (healthy : Healthy scene)
    (nonempty : 1 ≤ (crew scene).card) : WellReported (labelMachines loaded) scene.world := by
  have holds := holds_labelMachines loads own
  have managed : (labelMachines loaded).isEtcdManaged = scene.ocnecp.isEtcdManaged :=
    congrArg OCNEControlPlane.isEtcdManaged loads.ocnecp
  refine ⟨healthy.placed.showing holds.showing, fun isManaged => ?_, ?_, fun uninitialized machine mem => ?_⟩
  · exact (healthy.membered (managed ▸ isManaged)).1.showing holds.showing
  · rw [card_crew] at nonempty
    obtain ⟨original, present⟩ := Machines.len_pos.mp nonempty
    obtain ⟨machine, mem, _⟩ := holds.forth original present
    exact ⟨machine, mem⟩
  · rw [labelMachines_machines loads.ocnecp, loads.machines] at mem
    obtain ⟨original, present, rfl⟩ := List.mem_map.mp mem
    have uninitialized : scene.ocnecp.initialized = false := loads.ocnecp ▸ uninitialized
    have reported := healthy.reported uninitialized original ((own original).mp present)
    have types : allMachineHealthConditions (labelMachines loaded) = allMachineHealthConditions (plane scene original) := by
      simp only [allMachineHealthConditions, managed]
      rfl
    rw [types]
    unfold labelled
    split <;> exact reported

theorem allMachineHealthConditions_inside (seen : ControlPlane) :
    allMachineHealthConditions seen ⊆ healthTypes := by
  unfold allMachineHealthConditions
  cases seen.isEtcdManaged <;> decide

/-- The machines of the scene, found healthy, with what was read for them. -/
structure Attended (scene : Scene) (controlPlane : ControlPlane) : Prop where
  ocnecp : controlPlane.ocnecp = { scene.ocnecp with conditions := controlPlane.ocnecp.conditions }
  time : controlPlane.reconciliationTime = scene.time
  holds : Holds scene controlPlane.machines
  infra : ∀ original ∈ machines scene, controlPlane.infraResources original.name = some (scene.infraOf original)
  configs : ∀ original ∈ machines scene, controlPlane.ocneConfigs original.name = scene.configOf original
  confirmed : ∀ machine ∈ controlPlane.machines, Confirms (allMachineHealthConditions controlPlane) machine

section Attending

variable {seen : ControlPlane}

theorem Attended.of_tended {owned : Machines} (loads : scene.Loads owned loaded)
    (own : ∀ machine, machine ∈ owned ↔ machine ∈ machines scene) (tended : Tended (labelMachines loaded) seen)
    (confirmed : ∀ machine ∈ seen.machines, Confirms (allMachineHealthConditions (labelMachines loaded)) machine) :
    Attended scene seen where
  ocnecp := by
    rw [← loads.ocnecp, tended.rest]
    rfl
  time := by
    rw [tended.rest]
    exact loads.time
  holds := (holds_labelMachines loads own).improved tended.machines
  infra original present := by
    rw [tended.rest]
    exact loads.infra original ((own original).mpr present)
  configs original present := by
    rw [tended.rest]
    exact loads.configs original ((own original).mpr present)
  confirmed machine mem := by
    rw [tended.rest]
    exact confirmed machine mem

variable (attended : Attended scene seen)
include attended

theorem Attended.withoutRemediations : Attended scene (withoutRemediations seen) where
  ocnecp := attended.ocnecp
  time := attended.time
  holds := attended.holds.map rfl fun _ _ finds => finds.withoutRemediation
  infra := attended.infra
  configs := attended.configs
  confirmed machine mem := by
    obtain ⟨before, isBefore, rfl⟩ := List.mem_map.mp mem
    exact confirms_withoutRemediation (allMachineHealthConditions_inside _) (attended.confirmed before isBefore)

theorem Attended.managed : seen.isEtcdManaged = scene.ocnecp.isEtcdManaged := by
  rw [ControlPlane.isEtcdManaged, attended.ocnecp]
  rfl

theorem Attended.membered {world : World} (healthy : Healthy scene)
    (same : Same (owner scene) scene.world world) (managed : seen.isEtcdManaged = true) :
    Membered seen.machines world := by
  obtain ⟨mem, owned⟩ := (healthy.membered (attended.managed ▸ managed)).1.showing attended.holds.showing
  exact ⟨by rwa [same.etcd], by rwa [same.etcd]⟩

theorem Attended.configs_found :
    ∀ machine ∈ seen.machines, seen.ocneConfigs machine.name = scene.configOf machine := by
  intro machine mem
  obtain ⟨original, present, finds⟩ := attended.holds.back machine mem
  rw [finds.shown.name, finds.looked.2.1]
  exact attended.configs original present

theorem Attended.view (configs : String → Option OCNEConfig) :
    View scene { seen with ocneConfigs := configs } where
  spec := by
    rw [attended.ocnecp]
  seen machine mem := by
    obtain ⟨original, present, finds⟩ := attended.holds.back machine mem
    exact ⟨original, present, finds.rest⟩
  all original present := by
    obtain ⟨machine, mem, finds⟩ := attended.holds.forth original present
    exact ⟨machine, mem, finds.shown.name⟩
  confirmed := attended.confirmed

theorem Attended.knows {configs : String → Option OCNEConfig}
    (compared : ∀ machine ∈ seen.machines, configs machine.name = scene.comparedConfig machine) :
    Knows scene { seen with ocneConfigs := configs } where
  time := attended.time
  infra := attended.infra
  configs original present := by
    obtain ⟨machine, mem, finds⟩ := attended.holds.forth original present
    rw [← finds.shown.name, ← finds.looked.2.2]
    exact compared machine mem

end Attending

/-- What a pass has made of the machines. -/
abbrev Turned (scene : Scene) (wanted : Nat) (next : World) : Prop :=
  (crew scene).Finished wanted ∧ Same (owner scene) scene.world next ∨ Grown scene next ∨ Shrunk scene next

theorem mem_listed {mem : Machines} (lists : scene.world.Lists scene.cluster.name mem) (machine : Machine) :
    machine ∈ mem.filter (controlPlaneMachines scene.cluster.name) ↔ machine ∈ machines scene := by
  simp only [machines, mem_filter, lists machine, controlPlaneMachines, Bool.and_eq_true, beq_iff_eq]
  tauto

variable (rolls : Rolls scene.ocnecp.spec wanted surge) (healthy : Healthy scene) (nonempty : 1 ≤ (crew scene).card)
  (few : (crew scene).card ≤ wanted + surge) (fits : (crew scene).HasOutdated → wanted + surge < 2 ^ 31)
include rolls healthy nonempty few fits

theorem reconcileOwned_calm {owned : Machines} (own : ∀ machine, machine ∈ owned ↔ machine ∈ machines scene) :
    wpE (calm scene) (Allows scene wanted surge) (fun _ next => Turned scene wanted next) (fun _ _ => False)
      (reconcileOwned scene.runtime scene.cluster scene.ocnecp owned) scene.world := by
  have plain : Lenient (Allows scene wanted surge) := allows_plain
  simp only [reconcileOwned, wpE_bind]
  refine wpE_then (newControlPlane_calm plain owned) ?_
  rintro loaded _ ⟨rfl, loads⟩
  have well := wellReported_labelMachines loads own healthy nonempty
  have carried : ∀ machine ∈ (labelMachines loaded).machines, scene.Labels machine := by
    intro machine mem
    rw [labelMachines_machines loads.ocnecp] at mem
    obtain ⟨original, _, rfl⟩ := List.mem_map.mp mem
    exact lookup_labelled original
  refine wpE_then (reconcileControlPlaneConditions_calm plain well (Same.refl (owner scene) _)
    (fun _ _ _ => ⟨rfl, .inr rfl⟩) carried) ?_
  rintro tended next ⟨same, improved, confirmed⟩
  have attended := Attended.of_tended loads own improved confirmed
  have parsed : ∃ version, scene.runtime.parseTolerant tended.ocnecp.spec.version = .ok version := by
    rw [attended.ocnecp]
    exact healthy.version
  refine wpE_then (reconcileEtcdMembers_calm plain parsed (attended.membered healthy same) same) fun _ next same => ?_
  refine wpE_then (reconcileUnhealthyMachines_calm plain same (attended.holds.unmarked healthy)) ?_
  rintro _ next ⟨rfl, same⟩
  simp only [Result.isZero, beq_self_eq_true, Bool.not_true, Bool.false_eq_true, if_false, wpE_bind]
  have cleared := attended.withoutRemediations
  have initialized : (withoutRemediations tended).ocnecp.initialized = scene.ocnecp.initialized := by
    rw [cleared.ocnecp]
  refine wpE_then (reconcileCertificateExpiries_calm plain initialized
    (healthy.placed.showing cleared.holds.showing).staying cleared.configs_found) ?_
  rintro compared _ ⟨rfl, rest, configs⟩
  rw [rest]
  exact reconcileMachines_calm rolls healthy nonempty few fits (cleared.view _) (cleared.knows configs) same

/-- No machine is left to be adopted, and all that the pass lists are its own. -/
theorem reconcile_calm : wpE (calm scene) (Allows scene wanted surge) (fun _ next => Turned scene wanted next) (fun _ _ => False)
      (reconcile scene.runtime scene.cluster scene.ocnecp) scene.world := by
  have plain : Lenient (Allows scene wanted surge) := allows_plain
  simp only [reconcile, healthy.ready, healthy.endpoint, Bool.not_true, Bool.false_eq_true, if_false, wpE_bind]
  refine task_calm plain (task_calm plain ?_)
  refine ⟨plain _ _ rfl, reported ?_⟩
  simp only [Result.isZero, beq_self_eq_true, Bool.not_true, Bool.false_eq_true, if_false, wpE_bind]
  refine wpE_calm ((wpE_listMachines _).mpr ⟨plain _ _ rfl, fun listed lists => ?_, False.elim⟩)
  have members := mem_listed lists
  generalize listed.filter (controlPlaneMachines scene.cluster.name) = mine at members ⊢
  have own : ∀ machine ∈ mine, ownedMachines scene.ocnecp.identity machine = true ∧ hasControllerRef machine = true :=
    fun machine mem => healthy.own machine ((members machine).mp mem)
  have settled : ¬ 0 < (mine.filter (adoptableControlPlaneMachines scene.cluster.name)).len := by
    rw [Machines.len_pos]
    rintro ⟨machine, mem⟩
    obtain ⟨present, adoptable⟩ := mem_filter.mp mem
    simp [adoptableControlPlaneMachines, (own machine present).2] at adoptable
  have all : (mine.filter (ownedMachines scene.ocnecp.identity)).items = mine.items :=
    List.filter_eq_self.mpr fun machine mem => (own machine mem).1
  simp only [settled, if_false, wpE_bind]
  refine task_calm plain ?_
  have none : ¬ (mine.filter (ownedMachines scene.ocnecp.identity)).len ≠ mine.len := by
    rw [Machines.len, all]
    exact fun differs => differs rfl
  rw [if_neg none]
  refine reconcileOwned_calm rolls healthy nonempty few fits fun machine => ?_
  rw [mem_filter, members]
  exact ⟨And.left, fun present => ⟨present, (healthy.own machine present).1⟩⟩

end Pass

end OcneProvider.Controller.Rounds
