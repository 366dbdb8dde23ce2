import OcneProvider.Controller.Rounds

/-! Rollouts as a whole: passes in calm surroundings, with everything settling between them, replace the
outdated machines one by one and come to an end. -/

namespace OcneProvider.Controller.Settling
open Api.Meta Api.Bootstrap Api.Objects Api.Formats Collections Calls Clusters Plane Health
open Reconcile Mild Discipline Passes Calm Turnover Rounds
open Data.Rolling Effects.Program Effects.Fallible
open List hiding mem_filter

def within (scene : Scene) (world : World) : Scene := { scene with world := world }

section Touching

variable {scene : Scene} {before after later : Machine}

/-- Conditions, and the name of the control plane as a label. -/
def Touched (scene : Scene) (before after : Machine) : Prop :=
  ∃ conditions, after = { before with conditions := conditions } ∨
    after = { before with
      labels := before.labels.insert machineControlPlaneNameLabel (mustFormatValue scene.ocnecp.name)
      conditions := conditions }

theorem Touched.refl (scene : Scene) (machine : Machine) : Touched scene machine machine :=
  ⟨machine.conditions, .inl rfl⟩

theorem Touched.trans (first : Touched scene before after) (second : Touched scene after later) :
    Touched scene before later := by
  obtain ⟨_, rfl | rfl⟩ := first
  · obtain ⟨conditions, rfl | rfl⟩ := second
    · exact ⟨conditions, .inl rfl⟩
    · exact ⟨conditions, .inr rfl⟩
  · obtain ⟨conditions, rfl | rfl⟩ := second
    · exact ⟨conditions, .inr rfl⟩
    · exact ⟨conditions, .inr (by simp only [Finmap.insert_insert])⟩

theorem Touched.applyPatch {patch : MachinePatch} (machine : Machine) (owner : patch.ownerReferences = none)
    (label : patch.controlPlaneName = none ∨ patch.controlPlaneName = some (mustFormatValue scene.ocnecp.name)) :
    Touched scene machine (Machine.applyPatch patch machine) := by
  refine ⟨patch.conditions, ?_⟩
  rcases label with none | some
  · exact .inl (by simp [Machine.applyPatch, owner, none])
  · exact .inr (by simp [Machine.applyPatch, owner, some])

variable (touched : Touched scene before after)
include touched

theorem Touched.name : after.name = before.name := by
  obtain ⟨_, rfl | rfl⟩ := touched <;> rfl

theorem Touched.deletion : hasDeletionTimestamp after = hasDeletionTimestamp before := by
  obtain ⟨_, rfl | rfl⟩ := touched <;> rfl

theorem Touched.controlPlaneMachines (clusterName : String) :
    controlPlaneMachines clusterName after = controlPlaneMachines clusterName before := by
  have apart : clusterLabelName ≠ machineControlPlaneNameLabel ∧
      machineControlPlaneLabelName ≠ machineControlPlaneNameLabel := by decide
  obtain ⟨_, rfl | rfl⟩ := touched
  · rfl
  · simp [Collections.controlPlaneMachines, apart]

omit touched in
theorem insert_carried {labels : StringMap} {key value : String} (carried : labels.lookup key = some value) :
    labels.insert key value = labels := by
  apply Finmap.ext_lookup
  intro other
  by_cases same : other = key
  · rw [same, Finmap.lookup_insert, carried]
  · rw [Finmap.lookup_insert_of_ne _ same]

theorem labelled_touched : labelled scene after = { labelled scene before with conditions := after.conditions } := by
  obtain ⟨conditions, rfl | rfl⟩ := touched
  · unfold labelled
    split <;> rfl
  · unfold labelled
    rw [if_pos (by simp [mustEqualValue])]
    split
    next carried => rw [insert_carried (by simpa [Option.any_eq_true, mustEqualValue] using carried)]
    next => rfl

/-- What a pass writes on a machine does not change what it finds about it. -/
theorem item_touched (world : World) : item (within scene world) after = item scene before := by
  have config : scene.comparedConfig after = scene.comparedConfig before := by
    obtain ⟨conditions, rfl | rfl⟩ := touched <;> rfl
  have infra : scene.infraOf after = scene.infraOf before := by
    obtain ⟨conditions, rfl | rfl⟩ := touched <;> rfl
  have annotated : hasAnnotationKey deleteMachineAnnotation after = hasAnnotationKey deleteMachineAnnotation before := by
    obtain ⟨conditions, rfl | rfl⟩ := touched <;> rfl
  have verdict : outdated (within scene world) after = outdated scene before := by
    unfold outdated
    have same : labelled (within scene world) after = labelled scene after := rfl
    rw [same, labelled_touched touched]
    change ((plane (within scene world) after).needsRollout scene.runtime.codec _ (scene.comparedConfig after)).1 = _
    have planes : plane (within scene world) after = { plane scene before with machines := machines (within scene world) } := by
      change ControlPlane.mk _ _ _ _ (fun _ => scene.comparedConfig after) (fun _ => some (scene.infraOf after)) = _
      rw [config, infra]
      rfl
    rw [planes, config]
    rfl
  unfold item
  rw [touched.name, verdict, annotated]

end Touching

/-- The machines of two worlds are the same up to what a pass writes on them. -/
def Alike (scene : Scene) (first second : World) : Prop :=
  List.Forall₂ (Touched scene) first.machines.items second.machines.items

section Worlds

variable {scene : Scene} {first second third world next : World} {wanted surge : Nat}

theorem Alike.refl (scene : Scene) (world : World) : Alike scene world world :=
  forall₂_same.mpr fun machine _ => Touched.refl scene machine

theorem Alike.trans (one : Alike scene first second) (two : Alike scene second third) : Alike scene first third :=
  Data.Pairs.trans one two fun _ _ _ => Touched.trans

theorem Alike.of_machines (same : second.machines = first.machines) : Alike scene first second := by
  unfold Alike
  rw [same]
  exact Alike.refl scene first

theorem Alike.patchMachine (world : World) (name : String) {patch : MachinePatch} (owner : patch.ownerReferences = none)
    (label : patch.controlPlaneName = none ∨ patch.controlPlaneName = some (mustFormatValue scene.ocnecp.name)) :
    Alike scene world (world.patchMachine name patch) := by
  refine Data.Pairs.map_right fun machine _ => ?_
  split
  · exact Touched.applyPatch machine owner label
  · exact Touched.refl scene machine

theorem alike_quiet {call : Call} {answer : call.Answer} (allows : Allows scene wanted surge world call)
    (quiet : isOperation call = false) (answered : env False world call answer next) : Alike scene world next := by
  cases call with
  | createMachine machine => cases quiet
  | deleteMachine name => cases quiet
  | patchMachine name patch =>
    cases answer with
    | ok value =>
      obtain rfl := answered
      exact Alike.patchMachine world name allows.1 allows.2
    | error error => exact answered.1.elim
  | _ => exact Alike.of_machines (env_machines trivial answered)

theorem Alike.exists_before (alike : Alike scene first second) {machine : Machine} (mem : machine ∈ second.machines) :
    ∃ before ∈ first.machines, Touched scene before machine :=
  Data.Pairs.exists_left alike mem

theorem Alike.exists_after (alike : Alike scene first second) {machine : Machine} (mem : machine ∈ first.machines) :
    ∃ after ∈ second.machines, Touched scene machine after :=
  Data.Pairs.exists_right alike mem

end Worlds

def Staying (scene : Scene) : Prop := ∀ machine ∈ machines scene, hasDeletionTimestamp machine = false

/-- Some machines are gone or being deleted, and some were added. -/
structure Turns (scene : Scene) (world : World) (gone added : String → Prop) : Prop where
  old : ∀ original ∈ machines scene, ¬ gone original.name →
    ∃ machine ∈ machines (within scene world), Touched scene original machine
  new : ∀ name, added name → (∀ original ∈ machines scene, original.name ≠ name) ∧
    ∃ machine ∈ machines (within scene world), machine.name = name ∧ hasDeletionTimestamp machine = false
  back : ∀ machine ∈ machines (within scene world), hasDeletionTimestamp machine = false →
    added machine.name ∨ ∃ original ∈ machines scene, ¬ gone original.name ∧ Touched scene original machine

section Turning

variable {scene : Scene} {before after world : World}

theorem mem_machines_within {machine : Machine} : machine ∈ machines (within scene world) ↔
    machine ∈ world.machines ∧ controlPlaneMachines scene.cluster.name machine = true :=
  mem_filter

theorem mem_machines {machine : Machine} : machine ∈ machines scene ↔
    machine ∈ scene.world.machines ∧ controlPlaneMachines scene.cluster.name machine = true :=
  mem_filter

theorem Touched.mem_within {old machine : Machine} (touched : Touched scene old machine)
    (mem : old ∈ machines scene) (member : machine ∈ world.machines) : machine ∈ machines (within scene world) :=
  mem_machines_within.mpr ⟨member, (touched.controlPlaneMachines _).trans (mem_machines.mp mem).2⟩

theorem Touched.mem_scene {old machine : Machine} (touched : Touched scene old machine)
    (member : machine ∈ machines (within scene world)) (mem : old ∈ scene.world.machines) : old ∈ machines scene :=
  mem_machines.mpr ⟨mem, (touched.controlPlaneMachines _).symm.trans (mem_machines_within.mp member).2⟩

theorem turns_of_alike (alike : Alike scene scene.world world) : Turns scene world (fun _ => False) fun _ => False where
  old original mem _ := by
    obtain ⟨machine, member, touched⟩ := alike.exists_after (mem_machines.mp mem).1
    exact ⟨machine, touched.mem_within mem member, touched⟩
  new _ never := never.elim
  back machine member _ := by
    obtain ⟨original, mem, touched⟩ := alike.exists_before (mem_machines_within.mp member).1
    exact .inr ⟨original, touched.mem_scene member mem, not_false, touched⟩

theorem turns_of_created {created : Machine} {free : created.name ∉ before.machineNames}
    (early : Alike scene scene.world before) (fits : (owner scene).Fits created)
    (late : Alike scene (before.addMachine created free) world) :
    Turns scene world (fun _ => False) (· = created.name) where
  old original mem _ := by
    obtain ⟨kept, isKept, touched⟩ := early.exists_after (mem_machines.mp mem).1
    obtain ⟨machine, member, again⟩ := late.exists_after (mem_cons_of_mem _ isKept)
    have whole := touched.trans again
    exact ⟨machine, whole.mem_within mem member, whole⟩
  new name named := by
    subst named
    refine ⟨fun original mem same => ?_, ?_⟩
    · obtain ⟨kept, isKept, touched⟩ := early.exists_after (mem_machines.mp mem).1
      exact free (same ▸ touched.name ▸ mem_map_of_mem isKept)
    · obtain ⟨machine, member, touched⟩ := late.exists_after (mem_cons_self)
      have own := fits.own
      simp only [Owner.isOwn, Bool.and_eq_true] at own
      refine ⟨machine, mem_machines_within.mpr ⟨member, (touched.controlPlaneMachines _).trans own.1⟩, touched.name, ?_⟩
      rw [touched.deletion]
      exact fits.staying
  back machine member _ := by
    obtain ⟨kept, isKept, touched⟩ := late.exists_before (mem_machines_within.mp member).1
    rcases mem_cons.mp isKept with rfl | isKept
    · exact .inl touched.name
    · obtain ⟨original, mem, earlier⟩ := early.exists_before isKept
      have whole := earlier.trans touched
      exact .inr ⟨original, whole.mem_scene member mem, not_false, whole⟩

theorem turns_of_deleted {name : String} (early : Alike scene scene.world before)
    (deleted : (∃ time, after = before.startDeletion name time) ∨ after = before.removeMachine name)
    (late : Alike scene after world) : Turns scene world (· = name) fun _ => False := by
  -- the other machines are left as they are, and the one of the name does not stay
  have others : ∀ machine ∈ before.machines, machine.name ≠ name → machine ∈ after.machines := by
    intro machine member apart
    rcases deleted with ⟨time, rfl⟩ | rfl
    · exact mem_map.mpr ⟨machine, member, if_neg apart⟩
    · exact mem_filter.mpr ⟨member, by simpa using apart⟩
  have left : ∀ machine ∈ after.machines, hasDeletionTimestamp machine = false →
      machine ∈ before.machines ∧ machine.name ≠ name := by
    intro machine member staying
    rcases deleted with ⟨time, rfl⟩ | rfl
    · obtain ⟨kept, isKept, rfl⟩ := mem_map.mp member
      by_cases same : kept.name = name
      · rw [if_pos same] at staying
        simp [hasDeletionTimestamp, Machine.startDeletion] at staying
      · rw [if_neg same]
        exact ⟨isKept, same⟩
    · obtain ⟨member, apart⟩ := mem_filter.mp member
      exact ⟨member, by simpa using apart⟩
  constructor
  · intro old mem stays
    obtain ⟨kept, isKept, touched⟩ := early.exists_after (mem_machines.mp mem).1
    obtain ⟨machine, member, again⟩ := late.exists_after (others kept isKept (touched.name ▸ stays))
    have whole := touched.trans again
    exact ⟨machine, whole.mem_within mem member, whole⟩
  · intro _ never
    exact never.elim
  · intro machine member staying
    obtain ⟨kept, isKept, touched⟩ := late.exists_before (mem_machines_within.mp member).1
    obtain ⟨isKept, apart⟩ := left kept isKept (touched.deletion ▸ staying)
    obtain ⟨old, mem, earlier⟩ := early.exists_before isKept
    have whole := earlier.trans touched
    exact .inr ⟨old, whole.mem_scene member mem, earlier.name ▸ apart, whole⟩

end Turning

/-- Until the next pass the spec stays, deletions are completed, and all machines become healthy; new ones are up to
date and not marked. -/
structure Settles (scene : Scene) (world : World) (next : Scene) : Prop where
  spec : next.ocnecp.spec = scene.ocnecp.spec
  healthy : Healthy next
  completed : ∀ name, (∃ machine ∈ machines next, machine.name = name) ↔
    ∃ machine ∈ machines (within scene world), machine.name = name ∧ hasDeletionTimestamp machine = false
  old : ∀ original ∈ machines scene, ∀ before ∈ machines (within scene world), ∀ machine ∈ machines next,
    before.name = original.name → machine.name = original.name → item next machine = item (within scene world) before
  new : ∀ machine ∈ machines next, (∀ original ∈ machines scene, original.name ≠ machine.name) →
    item next machine = .new machine.name

section Settled

variable {scene next : Scene} {world : World} {gone added : String → Prop}

theorem Settles.mem_crew_iff (settles : Settles scene world next) (turns : Turns scene world gone added)
    (staying : Staying scene) (thing : Item String) :
    thing ∈ crew next ↔ thing ∈ crew scene ∧ ¬ gone thing.name ∨ added thing.name ∧ thing = .new thing.name := by
  constructor
  · intro mem
    obtain ⟨machine, member, rfl⟩ := mem_crew.mp mem
    obtain ⟨before, found, named, stays⟩ := (settles.completed machine.name).mp ⟨machine, member, rfl⟩
    rcases turns.back before found stays with isAdded | ⟨old, present, isKept, touched⟩
    · rw [named] at isAdded
      exact .inr ⟨isAdded, settles.new machine member (turns.new _ isAdded).1⟩
    · have same : item next machine = item scene old :=
        (settles.old old present before found machine member touched.name
          (named.symm.trans touched.name)).trans (item_touched touched world)
      rw [same]
      exact .inl ⟨mem_crew.mpr ⟨old, present, rfl⟩, isKept⟩
  · rintro (⟨mem, isKept⟩ | ⟨isAdded, isNew⟩)
    · obtain ⟨old, present, rfl⟩ := mem_crew.mp mem
      obtain ⟨before, found, touched⟩ := turns.old old present isKept
      obtain ⟨machine, member, named⟩ := (settles.completed old.name).mpr
        ⟨before, found, touched.name, touched.deletion.trans (staying old present)⟩
      refine mem_crew.mpr ⟨machine, member, ?_⟩
      exact (settles.old old present before found machine member touched.name named).trans (item_touched touched world)
    · obtain ⟨free, found⟩ := turns.new _ isAdded
      obtain ⟨machine, member, named⟩ := (settles.completed thing.name).mpr found
      refine mem_crew.mpr ⟨machine, member, ?_⟩
      rw [settles.new machine member (named ▸ free), named]
      exact isNew.symm

/-- The surroundings may leave all that stays as it is. -/
theorem settles_of_turns (turns : Turns scene world gone fun _ => False)
    (staying : Staying scene) (spec : next.ocnecp.spec = scene.ocnecp.spec) (healthy : Healthy next)
    (left : ∀ original ∈ machines scene, ¬ gone original.name → ∃ machine ∈ machines next, machine.name = original.name)
    (kept : ∀ machine ∈ machines next, ∃ original ∈ machines scene, machine.name = original.name ∧
      ¬ gone original.name ∧ item next machine = item scene original) : Settles scene world next where
  spec := spec
  healthy := healthy
  completed name := by
    constructor
    · rintro ⟨machine, member, rfl⟩
      obtain ⟨original, mem, named, stays, _⟩ := kept machine member
      obtain ⟨before, found, touched⟩ := turns.old original mem stays
      exact ⟨before, found, touched.name.trans named.symm, touched.deletion.trans (staying original mem)⟩
    · rintro ⟨before, found, rfl, stays⟩
      obtain added | ⟨original, mem, isKept, touched⟩ := turns.back before found stays
      · exact added.elim
      · obtain ⟨machine, member, named⟩ := left original mem isKept
        exact ⟨machine, member, named.trans touched.name.symm⟩
  old original mem before found machine member beforeNamed named := by
    obtain ⟨other, otherPresent, otherNamed, stays, same⟩ := kept machine member
    obtain rfl : other = original := Machines.eq_of_name otherPresent mem (otherNamed.symm.trans named)
    obtain ⟨touchedMachine, isFound, touched⟩ := turns.old other mem stays
    obtain rfl : touchedMachine = before := Machines.eq_of_name isFound found (touched.name.trans beforeNamed.symm)
    rw [same, item_touched touched world]
  new machine member free := by
    obtain ⟨original, mem, named, _⟩ := kept machine member
    exact absurd named.symm (free original mem)

theorem settles_self (healthy : Healthy scene)
    (turns : Turns scene world (fun _ => False) fun _ => False) : Settles scene world scene :=
  settles_of_turns turns healthy.placed.staying rfl healthy (fun old mem _ => ⟨old, mem, rfl⟩)
    fun machine member => ⟨machine, member, rfl, not_false, rfl⟩

end Settled

structure Rolling (wanted surge : Nat) (scene : Scene) : Prop where
  rolls : Rolls scene.ocnecp.spec wanted surge
  healthy : Healthy scene
  nonempty : 1 ≤ (crew scene).card
  few : (crew scene).card ≤ wanted + surge
  fits : (crew scene).HasOutdated → wanted + surge < 2 ^ 31

theorem Rolling.pass {wanted surge : Nat} {scene : Scene} (rolling : Rolling wanted surge scene) :
    wpE (calm scene) (Allows scene wanted surge) (fun _ next => Turned scene wanted next) (fun _ _ => False)
      (reconcile scene.runtime scene.cluster scene.ocnecp) scene.world :=
  reconcile_calm rolling.rolls rolling.healthy rolling.nonempty rolling.few rolling.fits

theorem Rolling.exists_run {wanted surge : Nat} {scene : Scene} (rolling : Rolling wanted surge scene) :
    ∃ trace result world, Run (calm scene) (reconcile scene.runtime scene.cluster scene.ocnecp).run scene.world trace
      (.done (.ok result)) world := by
  obtain ⟨trace, outcome, world, run, held⟩ := exists_finished_run rolling.pass fun world call allows =>
    exists_calm_answer call fun machine creates => by
      subst creates
      exact allows.2.2
  cases outcome with
  | ok result => exact ⟨trace, result, world, run⟩
  | error error => exact held.elim

def deletions (trace : List (Event signature World)) : List String :=
  trace.filterMap fun event => match event.request with
    | .deleteMachine name => some name
    | _ => none

section Rounds

variable {scene next : Scene} {world : World} {wanted surge : Nat} {trace : List (Event signature World)}
variable {outcome : Except Err Result}

theorem deletions_eq :
    deletions trace = deletions (trace.filter fun event => isOperation event.request) := by
  unfold deletions
  rw [filterMap_filter]
  congr 1
  funext event
  cases event.request <;> rfl

theorem fleet_alike {first second : World} (alike : Alike scene first second) :
    fleet (owner scene) second.machines = fleet (owner scene) first.machines := by
  have same : ∀ before after, Touched scene before after →
      (controlPlaneMachines (owner scene).clusterName before = true ↔
        controlPlaneMachines (owner scene).clusterName after = true) := by
    intro before after touched
    rw [touched.controlPlaneMachines]
  have shown : ∀ before after, Touched scene before after → member (owner scene) before = member (owner scene) after := by
    rintro before _ ⟨_, rfl | rfl⟩ <;> rfl
  have alike := rel_map shown (rel_filter same alike)
  rw [forall₂_eq_eq_eq] at alike
  exact congrArg Multiset.ofList alike.symm

section

variable (same : fleet (owner scene) world.machines = fleet (owner scene) scene.world.machines)
include same

/-- A machine that is there and stays cannot have been deleted without a trace. -/
theorem not_shrunk (staying : Staying scene) : ¬ Shrunk scene world := by
  rintro ⟨machine, mem, changed⟩
  have seen : member (owner scene) machine ∈ fleet (owner scene) scene.world.machines :=
    mem_fleet.mpr ⟨machine, (mem_machines.mp mem).1, (mem_machines.mp mem).2, rfl⟩
  rcases changed with started | removed
  · rw [same.symm.trans started] at seen
    obtain ⟨other, _, shown⟩ := Multiset.mem_map.mp seen
    split at shown
    · have deleting := congrArg Fleets.Member.deleting shown
      rw [member, staying machine mem] at deleting
      cases deleting
    · rename_i apart
      exact apart (congrArg Fleets.Member.name shown)
  · rw [same.symm.trans removed] at seen
    exact (Multiset.mem_filter.mp seen).2 rfl

theorem not_grown : ¬ Grown scene world := by
  rintro ⟨name, added⟩
  have size := congrArg Multiset.card (same.symm.trans added)
  rw [Multiset.card_cons] at size
  omega

end

theorem crew_kept (settles : Settles scene world next) (staying : Staying scene)
    (turns : Turns scene world (fun _ => False) fun _ => False) : crew next = crew scene := by
  ext thing
  rw [settles.mem_crew_iff turns staying]
  simp

theorem crew_grown {name : String} (settles : Settles scene world next) (staying : Staying scene)
    (turns : Turns scene world (fun _ => False) (· = name)) : crew next = insert (.new name) (crew scene) := by
  ext thing
  rw [settles.mem_crew_iff turns staying, Finset.mem_insert, not_false_eq_true, and_true, or_comm]
  refine or_congr_left ⟨?_, ?_⟩
  · rintro ⟨rfl, isNew⟩
    exact isNew
  · rintro rfl
    exact ⟨rfl, rfl⟩

theorem crew_shrunk {first : Item String} (settles : Settles scene world next) (staying : Staying scene)
    (present : first ∈ crew scene)
    (turns : Turns scene world (· = first.name) fun _ => False) : crew next = (crew scene).erase first := by
  ext thing
  rw [settles.mem_crew_iff turns staying, Finset.mem_erase, and_comm]
  simp only [false_and, or_false]
  refine and_congr_left fun mem => not_congr ⟨fun named => ?_, fun same => same ▸ rfl⟩
  exact crew_distinct mem present named

/-- What a pass does to the machines, and what it is asked for by then. -/
inductive Acts (scene : Scene) (wanted surge : Nat) (world : World) : List String → Prop
  | grow (name : String) (fewer : (crew scene).MayGrow wanted surge)
      (turns : Turns scene world (fun _ => False) (· = name)) : Acts scene wanted surge world []
  | shrink (first : Item String) (present : first ∈ crew scene) (highest : ∀ other ∈ crew scene, other.rank ≤ first.rank)
      (more : (crew scene).MayShrink wanted surge) (turns : Turns scene world (· = first.name) fun _ => False) :
      Acts scene wanted surge world [first.name]
  | rest (finished : (crew scene).Finished wanted) (turns : Turns scene world (fun _ => False) fun _ => False) :
      Acts scene wanted surge world []

theorem pass_acts (rolling : Rolling wanted surge scene)
    (run : Run (calm scene) (reconcile scene.runtime scene.cluster scene.ocnecp).run scene.world trace (.done outcome) world) :
    Acts scene wanted surge world (deletions trace) := by
  have valid := rolling.pass
  have allows := (wp_run run valid).2
  have turned := wp_done run valid
  have passed : Passed (owner scene) scene.world trace world := reconcile_passed rfl (run.mono fun _ _ _ _ => And.left)
  have result : Turned scene wanted world := by
    cases outcome with
    | ok _ => exact turned
    | error _ => exact turned.elim
  rw [deletions_eq]
  rcases run.keeps_but_once (Alike.refl scene) (fun _ _ _ => Alike.trans)
      (fun event member quiet answered => alike_quiet (allows event member) quiet answered.1) passed.once with
    ⟨none, alike⟩ | ⟨event, member, only, early, answered, late⟩
  · rw [none]
    have same := fleet_alike alike
    rcases result with ⟨done, _⟩ | grown | shrunk
    · exact .rest done (turns_of_alike alike)
    · exact absurd grown (not_grown same)
    · exact absurd shrunk (not_shrunk same rolling.healthy.placed.staying)
  · have may := allows event member
    have loud : isOperation event.request = true := by
      have mem : event ∈ trace.filter fun event => isOperation event.request := only ▸ mem_singleton_self event
      exact (List.mem_filter.mp mem).2
    rw [only]
    obtain ⟨before, request, answer, after⟩ := event
    dsimp only at early late answered may loud
    cases request with
    | createMachine machine =>
      obtain ⟨mayGrow, fitting, _⟩ := may
      cases answer with
      | error error => exact answered.1.1.elim
      | ok value =>
        obtain ⟨created, free, rfl⟩ := answered.1
        exact .grow _ mayGrow (turns_of_created early (fitting.created created) late)
    | deleteMachine name =>
      obtain ⟨mayShrink, first, present, rfl, highest⟩ := may
      cases answer with
      | error error => exact answered.1.1.elim
      | ok value => exact .shrink first present highest mayShrink (turns_of_deleted early answered.1 late)
    | _ => cases loud

theorem Acts.step {removed : List String} (acts : Acts scene wanted surge world removed) (settles : Settles scene world next)
    (staying : Staying scene) :
    (crew scene).Step wanted surge removed (crew next) := by
  cases acts with
  | grow name fewer turns =>
    rw [crew_grown settles staying turns]
    refine .grow name (fun thing mem => ?_) fewer
    obtain ⟨old, present, rfl⟩ := mem_crew.mp mem
    exact (turns.new name rfl).1 old present
  | shrink first present highest more turns =>
    rw [crew_shrunk settles staying present turns]
    exact .shrink first present highest more
  | rest done turns =>
    rw [crew_kept settles staying turns]
    exact .rest done

theorem quiet_of_finished (rolling : Rolling wanted surge scene)
    (run : Run (calm scene) (reconcile scene.runtime scene.cluster scene.ocnecp).run scene.world trace (.done outcome) world)
    (done : (crew scene).Finished wanted) : ∀ event ∈ trace, isOperation event.request = false := by
  intro event mem
  have may := (wp_run run rolling.pass).2 event mem
  cases call : event.request with
  | createMachine machine =>
    rw [call] at may
    exact absurd may.1 done.not_mayGrow
  | deleteMachine name =>
    rw [call] at may
    exact absurd may.1 done.not_mayShrink
  | _ => rfl

end Rounds

/-- A rollout: passes without an end, with what happens between them. -/
structure Rollout (wanted surge : Nat) (scenes : Nat → Scene) (traces : Nat → List (Event signature World)) : Prop where
  rolls : Rolls (scenes 0).ocnecp.spec wanted surge
  healthy : Healthy (scenes 0)
  nonempty : 1 ≤ (machines (scenes 0)).len
  few : (machines (scenes 0)).len ≤ wanted + surge
  round : ∀ round, ∃ outcome world,
    Run (calm (scenes round)) (reconcile (scenes round).runtime (scenes round).cluster (scenes round).ocnecp).run
      (scenes round).world (traces round) (.done outcome) world ∧ Settles (scenes round) world (scenes (round + 1))

/-- No sum overflows that a rollout depends on. -/
def Fits (wanted surge : Nat) (scene : Scene) : Prop :=
  (∃ machine ∈ machines scene, outdated scene machine = true) → wanted + surge < 2 ^ 31

section Rollouts

variable {wanted surge : Nat} {scenes : Nat → Scene} {traces : Nat → List (Event signature World)}

theorem hasOutdated_iff (scene : Scene) :
    (crew scene).HasOutdated ↔ ∃ machine ∈ machines scene, outdated scene machine = true := by
  constructor
  · rintro ⟨_, mem, isOutdated⟩
    obtain ⟨machine, present, rfl⟩ := mem_crew.mp mem
    exact ⟨machine, present, isOutdated⟩
  · rintro ⟨machine, present, isOutdated⟩
    exact ⟨item scene machine, mem_crew.mpr ⟨machine, present, rfl⟩, isOutdated⟩

theorem Rollout.rolling (rollout : Rollout wanted surge scenes traces) (fits : Fits wanted surge (scenes 0)) (round : Nat) :
    Rolling wanted surge (scenes round) := by
  induction round with
  | zero =>
    have nonempty := rollout.nonempty
    have few := rollout.few
    rw [← card_crew] at nonempty few
    exact ⟨rollout.rolls, rollout.healthy, nonempty, few, fun isOutdated => fits ((hasOutdated_iff _).mp isOutdated)⟩
  | succ round ih =>
    obtain ⟨outcome, world, run, settles⟩ := rollout.round round
    have step := (pass_acts ih run).step settles ih.healthy.placed.staying
    refine ⟨settles.spec ▸ ih.rolls, settles.healthy, ?_, step.card_le ih.few, fun isOutdated => ih.fits (step.hasOutdated isOutdated)⟩
    exact step.nonempty ih.nonempty ih.rolls.positive fun none => (by decide : 2 ≤ 3).trans (ih.rolls.enough none)

theorem Rollout.rounds (rollout : Rollout wanted surge scenes traces) (fits : Fits wanted surge (scenes 0)) :
    Rounds wanted surge (fun round => crew (scenes round)) fun round => deletions (traces round) where
  step round := by
    have rolling := rollout.rolling fits round
    obtain ⟨outcome, world, run, settles⟩ := rollout.round round
    exact (pass_acts rolling run).step settles rolling.healthy.placed.staying
  small := rollout.rolls.small
  few := (rollout.rolling fits 0).few
  distinct := crew_distinct

def outdatedCount (scene : Scene) : Nat :=
  (machines scene).items.countP (outdated scene)

def markedCount (scene : Scene) : Nat :=
  (machines scene).items.countP fun machine => !outdated scene machine && hasAnnotationKey deleteMachineAnnotation machine

theorem card_special (scene : Scene) : (crew scene).special.card = outdatedCount scene + markedCount scene := by
  have mem : (crew scene).special = (((machines scene).items.map (item scene)).filter (0 < ·.rank)).toFinset := by
    ext thing
    simp [Crew.special, crew]
  rw [mem, toFinset_card_of_nodup (nodup_items.filter _), ← countP_eq_length_filter, countP_map]
  unfold outdatedCount markedCount
  generalize (machines scene).items = items
  induction items with
  | nil => rfl
  | cons machine items ih =>
    rw [countP_cons, countP_cons, countP_cons, ih]
    cases isOutdated : outdated scene machine with
    | true => simp [item, Item.rank, isOutdated]; omega
    | false =>
      cases isMarked : hasAnnotationKey deleteMachineAnnotation machine with
      | true => simp [item, Item.rank, isOutdated, isMarked]; omega
      | false => simp [item, Item.rank, isOutdated, isMarked]

theorem budget_le (scene : Scene) :
    (crew scene).budget wanted ≤ outdatedCount scene + markedCount scene + ((machines scene).len - wanted) := by
  unfold Crew.budget
  rw [card_special, card_crew]
  split <;> omega

/-- Unless the number of machines overflows, every rollout ends with as many machines as wanted, all up to date and
left alone, every outdated one deleted once, and not too many others. -/
theorem rollout_converges (rollout : Rollout wanted surge scenes traces) (fits : Fits wanted surge (scenes 0)) :
    (∃ last, ∀ round ≥ last, (machines (scenes round)).len = wanted ∧
      (∀ machine ∈ machines (scenes round), outdated (scenes round) machine = false) ∧
      (∀ event ∈ traces round, isOperation event.request = false) ∧
      ∀ machine ∈ machines (scenes 0), outdated (scenes 0) machine = true →
        (removedBefore (fun round => deletions (traces round)) round).count machine.name = 1) ∧
    (∀ round, (removedBefore (fun round => deletions (traces round)) round).length ≤
      outdatedCount (scenes 0) + markedCount (scenes 0) + ((machines (scenes 0)).len - wanted)) ∧
    ∀ round, ∃ trace result world,
      Run (calm (scenes round)) (reconcile (scenes round).runtime (scenes round).cluster (scenes round).ocnecp).run
        (scenes round).world trace (.done (.ok result)) world := by
  have rounds := rollout.rounds fits
  refine ⟨⟨(crew (scenes 0)).remaining wanted surge, fun round enough => ?_⟩, fun round => ?_, fun round => ?_⟩
  · have rolling := rollout.rolling fits round
    have finished := rounds.finished_of_remaining_le enough
    obtain ⟨outcome, world, run, _⟩ := rollout.round round
    refine ⟨card_crew.symm.trans finished.2, fun machine present => ?_, ?_, fun machine present isOutdated => ?_⟩
    · exact Bool.eq_false_of_not_eq_true fun isOutdated => finished.1 ((hasOutdated_iff _).mpr ⟨machine, present, isOutdated⟩)
    · exact quiet_of_finished rolling run finished
    · exact rounds.count_removedBefore (mem_crew.mpr ⟨machine, present, rfl⟩) isOutdated finished
  · have paid := rounds.length_removedBefore_le round
    have bound : (crew (scenes 0)).budget wanted ≤ _ := budget_le (scenes 0)
    omega
  · exact (rollout.rolling fits round).exists_run

end Rollouts

private def surging (replicas : Int32) : OCNEControlPlane :=
  { (default : OCNEControlPlane) with
    name := "plane"
    initialized := true
    spec := { (default : OCNEControlPlaneSpec) with
      version := "1.25.7"
      replicas := some replicas
      rolloutStrategy := some ⟨rollingUpdateStrategyType, some ⟨some (.int 1)⟩⟩ } }

private def onOwnNode (name version : String) : Machine :=
  { Bounds.labelledMachine name version [(surging 1).newControllerRef] with nodeRef := some name }

private def staged (replicas : Int32) (machines : Machines) (etcd : EtcdCluster) : Scene where
  runtime := default
  cluster := readyCluster
  ocnecp := surging replicas
  world :=
    { machines := machines
      nodes := machines.items.map fun machine =>
        ⟨machine.name, (∅ : StringMap).insert Etcd.Workload.labelNodeRoleControlPlane "", [], []⟩
      etcd := etcd }
  time := 0
  infra _ := ⟨∅, ∅⟩
  configs _ _ := default
  expiry _ := 0
  clusterID := 0

private def oldAndNew (replicas : Int32) : Scene :=
  staged replicas ⟨[onOwnNode "a" "1.24.8", onOwnNode "b" "1.25.7"], by decide⟩ ⟨[⟨1, "a"⟩, ⟨2, "b"⟩], 1, by decide⟩

private def onlyNew (replicas : Int32) : Scene :=
  staged replicas ⟨[onOwnNode "b" "1.25.7"], by decide⟩ ⟨[⟨2, "b"⟩], 2, by decide⟩

private def onlyOld (replicas : Int32) : Scene :=
  staged replicas ⟨[onOwnNode "a" "1.24.8"], by decide⟩ ⟨[⟨1, "a"⟩], 1, by decide⟩

private theorem staged_healthy {replicas : Int32} {items : Machines} {etcd : EtcdCluster}
    (sound : ∀ machine ∈ machines (staged replicas items etcd),
      ownedMachines (surging replicas).identity machine = true ∧ hasControllerRef machine = true ∧
      hasUnhealthyCondition machine = false ∧ hasDeletionTimestamp machine = false ∧
      (∃ node ∈ Etcd.Reading.controlPlaneNodes (staged replicas items etcd).world, machine.nodeRef = some node.name) ∧
      ∀ node ∈ machine.nodeRef, Etcd.Reading.memberNamed etcd.members node ≠ none)
    (nodes : ∀ node ∈ Etcd.Reading.controlPlaneNodes (staged replicas items etcd).world,
      (∃ machine ∈ machines (staged replicas items etcd), machine.nodeRef = some node.name) ∧
      nodeHasUnreachableTaint node = false ∧ nodeReadyUnknown node = false)
    (apart : ∀ first ∈ machines (staged replicas items etcd), ∀ second ∈ machines (staged replicas items etcd),
      first.nodeRef ≠ none → first.nodeRef = second.nodeRef → first = second)
    (members : ∀ member ∈ etcd.members, ∃ machine ∈ machines (staged replicas items etcd), machine.nodeRef = some member.name)
    (leader : ∃ member ∈ etcd.members, member.id = etcd.leader ∧
      member.name ∈ (Etcd.Reading.controlPlaneNodes (staged replicas items etcd).world).map Node.name) :
    Healthy (staged replicas items etcd) where
  ready := rfl
  endpoint := rfl
  version := ⟨⟨1, 25, 7⟩, by change (default : Runtime).parseTolerant "1.25.7" = _; decide⟩
  release := ⟨⟨1, 25, 7⟩, by change parseMajorMinorPatchTolerant "1.25.7" = _; decide⟩
  marshal := ⟨"", rfl⟩
  own machine member := ⟨(sound machine member).1, (sound machine member).2.1⟩
  unmarked machine member := (sound machine member).2.2.1
  placed := ⟨fun machine member => (sound machine member).2.2.2.2.1, fun node mem => (nodes node mem).1, apart,
    fun machine member => (sound machine member).2.2.2.1, fun node mem => (nodes node mem).2⟩
  membered _ := ⟨⟨fun machine member => (sound machine member).2.2.2.2.2, members⟩, leader⟩
  reported uninitialized := by cases uninitialized

private theorem oldAndNew_healthy : Healthy (oldAndNew 1) :=
  staged_healthy (by decide +kernel) (by decide) (by decide) (by decide) (by decide)

private theorem onlyNew_healthy : Healthy (onlyNew 1) :=
  staged_healthy (by decide +kernel) (by decide) (by decide) (by decide) (by decide)

private theorem onlyOld_healthy : Healthy (onlyOld 2147483647) :=
  staged_healthy (by decide +kernel) (by decide) (by decide) (by decide) (by decide)

private theorem surging_rolls {replicas : Int32} {wanted : Nat} (count : replicas.toInt = wanted) (positive : 1 ≤ wanted) :
    Rolls (surging replicas).spec wanted 1 where
  replicas := ⟨replicas, rfl, count⟩
  strategy := ⟨.int 1, rfl, rfl⟩
  positive := positive
  small := le_rfl
  enough none := by cases none

private def reporting : (call : Call) → call.Answer
  | .getPod _ => .ok ⟨.running, [("Ready", .True)], []⟩
  | call => plainly call

/-- A pass that only writes on machines. -/
private def isIdle (name : String) : Call → Bool
  | .createMachine _ | .deleteMachine _ | .generateName _ => false
  | .patchMachine _ patch => patch.ownerReferences.isNone && patch.controlPlaneName == some (mustFormatValue name)
  | _ => true

private def stuckTrace : List (Event signature World) :=
  (reconcile default (onlyOld 2147483647).cluster (surging 2147483647)).run.trace (serve reporting)
    (onlyOld 2147483647).world

private theorem stuckTrace_idle : ∀ event ∈ stuckTrace, isIdle "plane" event.request = true := by
  apply all_eq_true.mp
  decide +kernel

private theorem reporting_calm (replicas : Int32) (items : Machines) (etcd : EtcdCluster) (world : World) (call : Call)
    (idle : isIdle "plane" call = true) :
    calm (staged replicas items etcd) world call (serve reporting world call).1 (serve reporting world call).2 := by
  cases call with
  | createMachine machine => cases idle
  | deleteMachine name => cases idle
  | generateName base => cases idle
  | listMachines clusterName =>
    refine ⟨⟨rfl, fun machine => ?_⟩, trivial⟩
    rw [mem_filter, decide_eq_true_iff]
  | getPod name => exact ⟨⟨rfl, trivial⟩, _, rfl, rfl, rfl⟩
  | newEtcdClient node => exact ⟨⟨rfl, rfl, rfl⟩, by rintro _ ⟨⟩; rfl⟩
  | memberList node => exact ⟨⟨rfl, rfl⟩, by rintro _ ⟨⟩; rfl⟩
  | memberRemove node id => exact ⟨⟨world.etcd.leader, fun _ => rfl, rfl⟩, trivial⟩
  | now => exact ⟨rfl, rfl⟩
  | patchMachine name patch => exact ⟨rfl, trivial⟩
  | moveLeader node id => exact ⟨rfl, trivial⟩
  | getInfra ref => exact ⟨⟨rfl, trivial⟩, rfl⟩
  | getOCNEConfig ns name => exact ⟨⟨rfl, trivial⟩, rfl⟩
  | getAPIServerCertificateExpiry node => exact ⟨⟨rfl, trivial⟩, rfl⟩
  | alarmList node => exact ⟨⟨rfl, trivial⟩, rfl⟩
  | reconcileKubeconfig => exact ⟨⟨rfl, trivial⟩, rfl⟩
  | listNodes label => exact ⟨⟨rfl, rfl⟩, trivial⟩
  | _ => exact ⟨⟨rfl, trivial⟩, trivial⟩

private theorem allows_idle (scene : Scene) (world : World) {call : Call} (idle : isIdle scene.ocnecp.name call = true) :
    Allows scene 0 0 world call ∧ isOperation call = false := by
  cases call with
  | createMachine machine => cases idle
  | deleteMachine name => cases idle
  | generateName base => cases idle
  | patchMachine name patch =>
    simp only [isIdle, Bool.and_eq_true, Option.isNone_iff_eq_none, beq_iff_eq] at idle
    exact ⟨⟨idle.1, .inr idle.2⟩, rfl⟩
  | _ => exact ⟨trivial, rfl⟩

/-- With the most replicas and one outdated machine the sum overflows, and every pass tries to delete the machine,
which etcd cannot spare. -/
theorem overflow_stops_rollout : ∃ wanted surge scenes traces, Rollout wanted surge scenes traces ∧
    ∀ round, (machines (scenes round)).len < wanted := by
  have answered : ∀ world call, isIdle "plane" call = true →
      calm (onlyOld 2147483647) world call (serve reporting world call).1 (serve reporting world call).2 :=
    reporting_calm 2147483647 _ _
  have run := exec_run_of (S := signature) (serve reporting) (fun call => isIdle "plane" call = true)
    (reconcile default (onlyOld 2147483647).cluster (surging 2147483647)).run (onlyOld 2147483647).world answered
    stuckTrace_idle
  have alike : Alike (onlyOld 2147483647) (onlyOld 2147483647).world _ :=
    run.keeps (Alike.refl _) (fun _ _ _ => Alike.trans) fun event member happened => by
      obtain ⟨allows, quiet⟩ := allows_idle (onlyOld 2147483647) event.before (stuckTrace_idle event member)
      exact alike_quiet allows quiet happened.1
  have size : (machines (onlyOld 2147483647)).len < 2147483647 := by decide
  refine ⟨2147483647, 1, fun _ => onlyOld 2147483647, fun _ => stuckTrace, ?_, fun _ => size⟩
  exact ⟨surging_rolls (by decide) (by decide), onlyOld_healthy, by decide, by decide,
    fun _ => ⟨_, _, run, settles_self onlyOld_healthy (turns_of_alike alike)⟩⟩

private def handing : Nat → Scene
  | 0 => oldAndNew 1
  | _ + 1 => onlyNew 1

private theorem handing_rolling (round : Nat) : Rolling 1 1 (handing round) := by
  have sizes : (machines (oldAndNew 1)).len = 2 ∧ (machines (onlyNew 1)).len = 1 := by decide
  cases round with
  | zero =>
    have size : (crew (oldAndNew 1)).card = 2 := card_crew.trans sizes.1
    exact ⟨surging_rolls (by decide) le_rfl, oldAndNew_healthy, by change 1 ≤ (crew (oldAndNew 1)).card; omega,
      size.le, fun _ => by decide⟩
  | succ round =>
    have size : (crew (onlyNew 1)).card = 1 := card_crew.trans sizes.2
    exact ⟨surging_rolls (by decide) le_rfl, onlyNew_healthy, size.ge, size.le.trans (by decide), fun _ => by decide⟩

private theorem handing_settles {round : Nat} {world : World} {removed : List String}
    (acts : Acts (handing round) 1 1 world removed) : Settles (handing round) world (handing (round + 1)) := by
  cases round with
  | zero =>
    have outdated : (crew (oldAndNew 1)).HasOutdated := (hasOutdated_iff _).mpr (by decide)
    have size : (crew (oldAndNew 1)).card = 2 := card_crew.trans (by decide)
    cases acts with
    | grow name fewer turns =>
      rcases fewer with ⟨_, fewer⟩ | ⟨current, _⟩
      · change (crew (oldAndNew 1)).card < 2 at fewer
        omega
      · exact absurd outdated current
    | rest done turns => exact absurd outdated done.1
    | shrink first mem highest more turns =>
      obtain ⟨machine, member, rfl⟩ := mem_crew.mp mem
      have oldest : ∀ machine ∈ machines (oldAndNew 1), 1 ≤ (item (oldAndNew 1) machine).rank → machine.name = "a" := by
        decide +kernel
      have named : machine.name = "a" := by
        refine oldest machine member ?_
        exact highest (item (oldAndNew 1) (onOwnNode "a" "1.24.8")) (mem_crew.mpr ⟨_, .head _, rfl⟩)
      change Turns (oldAndNew 1) world (· = machine.name) _ at turns
      rw [named] at turns
      exact settles_of_turns turns oldAndNew_healthy.placed.staying rfl onlyNew_healthy (by decide) (by decide)
  | succ round =>
    have done : (crew (onlyNew 1)).Finished 1 := by
      refine ⟨fun outdated => ?_, card_crew.trans (by decide)⟩
      exact absurd ((hasOutdated_iff _).mp outdated) (by decide)
    cases acts with
    | grow name fewer turns => exact absurd fewer done.not_mayGrow
    | shrink first mem highest more turns => exact absurd more done.not_mayShrink
    | rest done turns => exact settles_self onlyNew_healthy turns

theorem outdated_machine_replaced : ∃ traces, Rollout 1 1 handing traces ∧
    ∃ last, ∀ round ≥ last, (removedBefore (fun round => deletions (traces round)) round).count "a" = 1 := by
  choose traces result world run using fun round => (handing_rolling round).exists_run
  have rollout : Rollout 1 1 handing traces :=
    ⟨(handing_rolling 0).rolls, oldAndNew_healthy, by decide, by decide,
      fun round => ⟨_, _, run round, handing_settles (pass_acts (handing_rolling round) (run round))⟩⟩
  obtain ⟨last, settled⟩ := (rollout_converges rollout fun _ => by decide).1
  exact ⟨traces, rollout, last, fun round later => (settled round later).2.2.2 (onOwnNode "a" "1.24.8") (.head _) (by decide)⟩

end OcneProvider.Controller.Settling
