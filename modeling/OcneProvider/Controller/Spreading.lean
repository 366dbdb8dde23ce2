import OcneProvider.Controller.Clusters
import OcneProvider.Controller.Discipline
import OcneProvider.Data.Balance

/-! How machines are spread over the failure domains: machines that are added and taken away, in any order
and however ties are broken, leave the numbers of the domains within one of each other. -/

namespace OcneProvider.Controller.Spreading
open Api.Meta Api.Conditions Api.Bootstrap Api.Objects Collections Calls Clusters Filters Plane Health Scale
open Selection Mild Discipline
open Data.Sorted Data.Balance Effects.Program Effects.Fallible

/-- Calls that create and delete machines only as stated. -/
def Asks (creates : Machine → Prop) (deletes : String → Prop) : Call → Prop
  | .createMachine machine => creates machine
  | .deleteMachine name => deletes name
  | _ => True

section Asking

variable {creates : Machine → Prop} {deletes : String → Prop} (runtime : Runtime) (cluster : Cluster)
variable (ocnecp : OCNEControlPlane) (controlPlane : ControlPlane)

theorem asks_of_mild {ε α : Type} {part : Try signature ε α} {post : α → Prop} (mild : MildE post part) :
    WithinE (Asks creates deletes) post part := by
  refine within_widen mild fun call isMild => ?_
  cases call with
  | createMachine machine => cases isMild
  | deleteMachine name => cases isMild
  | _ => trivial

theorem asks_of_run {α : Type} {part : Api α} (within : WithinE (Asks creates deletes) (fun _ => True) part)
    {world next : World} {trace : List (Event signature World)} {rest : Prog signature (Except Err α)}
    (run : Run (env True) part.run world trace rest next) : ∀ event ∈ trace, Asks creates deletes event.request :=
  Prog.Within.events within run

theorem cloneConfigsAndGenerateMachine_asks (codec : Codec) (spec : OCNEConfigSpec) (failureDomain : Option String) :
    WithinE (Asks (fun machine => machine.failureDomain = failureDomain) deletes) (fun _ => True)
      (cloneConfigsAndGenerateMachine cluster ocnecp codec spec failureDomain) := by
  have abandoned (error : Err) (refs : List ObjectReference) : WithinE
      (Asks (fun machine => machine.failureDomain = failureDomain) deletes) (fun _ => True)
      (abandonGeneration error refs : Api Unit) := asks_of_mild (abandonGeneration_mild error refs _)
  have generated (infraRef bootstrapRef : ObjectReference) : WithinE
      (Asks (fun machine => machine.failureDomain = failureDomain) deletes) (fun _ => True)
      (generateMachine cluster ocnecp codec infraRef bootstrapRef failureDomain) := by
    refine withinE_bind.mpr ((withinE_lift _).mpr ⟨trivial, fun name => ?_⟩)
    refine withinE_bind.mpr (withinE_adaptError.mpr fun text _ => ?_)
    exact withinE_adaptError.mpr ⟨rfl, fun _ _ _ => trivial⟩
  refine withinE_bind.mpr (withinE_adaptError.mpr ⟨trivial, fun _ infraRef _ => ?_⟩)
  refine withinE_bind.mpr (withinE_attempt.mpr ?_)
  have configured := generateKubeadmConfig_mild cluster ocnecp spec
  refine (asks_of_mild configured).run (fun bootstrapRef _ => ?_) fun error => abandoned _ _
  refine withinE_bind.mpr (withinE_attempt.mpr ?_)
  exact (generated infraRef bootstrapRef).run (fun _ _ => withinE_pure.mpr trivial) fun error => abandoned _ _

theorem scaleUpControlPlane_asks :
    WithinE (Asks (fun machine => machine.failureDomain = controlPlane.nextFailureDomainForScaleUp runtime) fun _ => False)
      (fun _ => True) (scaleUpControlPlane runtime cluster ocnecp controlPlane) := by
  have cloned : WithinE (Asks (fun machine => machine.failureDomain = controlPlane.nextFailureDomainForScaleUp runtime)
      fun _ => False) (fun _ => True) (cloneConfigsAndGenerateMachine cluster ocnecp runtime.codec
        controlPlane.joinControlPlaneConfig (controlPlane.nextFailureDomainForScaleUp runtime)) :=
    cloneConfigsAndGenerateMachine_asks cluster ocnecp _ _ _
  unfold scaleUpControlPlane
  simp only
  split
  · exact withinE_pure.mpr trivial
  · exact withinE_bind.mpr (cloned.mono fun _ _ => withinE_pure.mpr trivial)

/-- The selected machine, if none is being deleted. -/
def Selected (outdated : Machines) (name : String) : Prop :=
  ∃ machine, selectMachineForScaleDown controlPlane runtime.order outdated = .ok machine ∧ machine.name = name ∧
    controlPlane.hasDeletingMachine = false

theorem scaleDownControlPlane_asks (outdated : Machines) :
    WithinE (Asks (fun _ => False) (Selected runtime controlPlane outdated)) (fun _ => True)
      (scaleDownControlPlane runtime ocnecp controlPlane outdated) := by
  refine withinE_bind.mpr (withinE_adaptError.mpr fun machine selected => ?_)
  simp only
  split
  · exact withinE_pure.mpr trivial
  · rename_i stable
    have still : controlPlane.hasDeletingMachine = false := hasDeletingMachine_of_preflight (by simpa using stable)
    have deletion : WithinE (Asks (fun _ => False) (Selected runtime controlPlane outdated)) (fun _ => True)
        (deleteScaledDown runtime ocnecp machine) := by
      refine withinE_bind.mpr (withinE_adaptError.mpr fun version _ => ?_)
      refine withinE_bind.mpr ?_
      refine (asks_of_mild (removeMachineFromOCNEConfigMap_mild machine version)).mono fun _ _ => ?_
      refine withinE_bind.mpr (withinE_attempt.mpr ?_)
      have asked : WithinE (Asks (fun _ => False) (Selected runtime controlPlane outdated)) (fun _ => True)
          (deleteMachine machine.name) := ⟨⟨machine, selected, rfl, still⟩, fun _ _ _ => trivial⟩
      refine asked.run (fun _ _ => withinE_pure.mpr trivial) fun error => ?_
      simp only
      split
      · exact withinE_pure.mpr trivial
      · exact withinE_throw _ _
    refine withinE_bind.mpr (withinE_adaptError.mpr ?_)
    refine (asks_of_mild ((mild_runTask _).mpr fun _ => trivial)).mono fun _ _ => ?_
    split
    · refine withinE_bind.mpr ?_
      have removed : MildE (fun _ => True) (removeFromEtcd controlPlane machine) :=
        withinE_bind.mpr ((forwardEtcdLeadership_mild _).mono fun _ _ => removeEtcdMemberForMachine_mild _)
      exact (asks_of_mild removed).mono fun _ _ => deletion
    · exact deletion

end Asking

/-- What counts of a machine where machines are spread. -/
structure Seen where
  name : String
  domain : Option String
  current : Bool
  marked : Bool

section Spread

variable (codec : Codec) (controlPlane : ControlPlane)

def isCurrent (machine : Machine) : Bool :=
  !(controlPlane.needsRollout codec machine (controlPlane.ocneConfigs machine.name)).1

def seen (machine : Machine) : Seen :=
  ⟨machine.name, machine.failureDomain, isCurrent codec controlPlane machine,
    hasAnnotationKey deleteMachineAnnotation machine⟩

def spread : Multiset Seen := (controlPlane.machines.items.map (seen codec controlPlane) : List Seen)

def domains : Set String := { id | id ∈ controlPlane.cluster.failureDomains.filterControlPlane.getIDs }

def machineCount (id : String) : Nat := domainSize controlPlane (some id)

def currentCount (id : String) : Nat :=
  controlPlane.machines.items.countP fun machine => machine.failureDomain == some id && isCurrent codec controlPlane machine

/-- All machines are in the failure domains, and none is to be deleted first. -/
structure Placed : Prop where
  inside : ∀ machine ∈ controlPlane.machines, inControlPlaneDomains controlPlane machine = true
  unmarked : ∀ machine ∈ controlPlane.machines, hasAnnotationKey deleteMachineAnnotation machine = false

end Spread

/-- A scale-up or scale-down, and the control plane a later pass finds: the same domains, and verdicts on machines
that stay. -/
inductive Step (codec : Codec) (before after : ControlPlane) : Prop
  | scaleUp {runtime : Runtime} {cluster : Cluster} {ocnecp : OCNEControlPlane} {world next : World}
      {trace : List (Event signature World)} {rest : Prog signature (Except Err Result)} {event : Event signature World}
      {machine : Machine} {current : Bool} (shared : runtime.codec = codec)
      (run : Run (env True) (scaleUpControlPlane runtime cluster ocnecp before).run world trace rest next)
      (asked : event ∈ trace) (request : event.request = .createMachine machine)
      (fixed : domains after = domains before)
      (grown : spread codec after = ⟨machine.name, machine.failureDomain, current, false⟩ ::ₘ spread codec before)
  | scaleDown {runtime : Runtime} {ocnecp : OCNEControlPlane} {world next : World}
      {trace : List (Event signature World)} {rest : Prog signature (Except Err Result)} {event : Event signature World}
      {gone : Seen} (shared : runtime.codec = codec)
      (run : Run (env True) (scaleDownControlPlane runtime ocnecp before (before.machinesNeedingRollout codec).1).run
        world trace rest next)
      (asked : event ∈ trace) (request : event.request = .deleteMachine gone.name)
      (fixed : domains after = domains before) (shrunk : spread codec before = gone ::ₘ spread codec after)

section Counts

variable {codec : Codec} {plane before after : ControlPlane}

theorem mem_spread {view : Seen} :
    view ∈ spread codec plane ↔ ∃ machine ∈ plane.machines, seen codec plane machine = view := by
  simp only [spread, Multiset.mem_coe, List.mem_map]
  rfl

theorem currentCount_eq (id : String) :
    currentCount codec plane id =
      (spread codec plane).countP fun view => view.domain = some id ∧ view.current = true := by
  simp only [currentCount, spread, Multiset.coe_countP, List.countP_map]
  apply List.countP_congr
  intro machine _
  rw [Bool.and_eq_true, beq_iff_eq]
  exact decide_eq_true_iff.symm

theorem machineCount_of_current (current : ∀ machine ∈ plane.machines, isCurrent codec plane machine = true)
    (id : String) : machineCount plane id = currentCount codec plane id := by
  apply List.countP_congr
  intro machine mem
  simp [current machine mem]

theorem inside_iff {machine : Machine} : inControlPlaneDomains plane machine = true ↔
    ∃ id ∈ domains plane, machine.failureDomain = some id := by
  simp only [inControlPlaneDomains, inFailureDomains, List.any_map, List.any_eq_true, Function.comp_apply, beq_iff_eq]
  rfl

/-- All that is seen of the machines is in the failure domains and not marked. -/
def Sound (places : Set String) (views : Multiset Seen) : Prop :=
  ∀ view ∈ views, (∃ id ∈ places, view.domain = some id) ∧ view.marked = false

theorem placed_iff :
    Placed plane ↔ Sound (domains plane) (spread codec plane) := by
  constructor
  · intro placed view mem
    obtain ⟨machine, present, rfl⟩ := mem_spread.mp mem
    exact ⟨inside_iff.mp (placed.inside machine present), placed.unmarked machine present⟩
  · intro sound
    constructor
    · intro machine present
      exact inside_iff.mpr (sound _ (mem_spread.mpr ⟨machine, present, rfl⟩)).1
    · intro machine present
      exact (sound _ (mem_spread.mpr ⟨machine, present, rfl⟩)).2

end Counts

section Steps

variable {codec : Codec} {runtime : Runtime} {plane before after : ControlPlane}

theorem nextFailureDomain_spec (shared : runtime.codec = codec) (nonempty : (domains plane).Nonempty) :
    ∃ id ∈ domains plane, plane.nextFailureDomainForScaleUp runtime = some id ∧
      ∀ other ∈ domains plane, currentCount codec plane id ≤ currentCount codec plane other := by
  subst shared
  obtain ⟨id, mem⟩ := nonempty
  have counted : ∀ id, (plane.upToDateMachines runtime.codec).1.items.countP (·.failureDomain == some id) =
      currentCount runtime.codec plane id := fun id => List.countP_filter
  have some : plane.cluster.failureDomains.filterControlPlane.entries ≠ [] := by
    intro none
    simp [domains, FailureDomains.getIDs, none] at mem
  obtain ⟨picked, isListed, chosen, least⟩ := pickFewest_spec mem
  refine ⟨picked, isListed, ?_, fun other otherListed => ?_⟩
  · simp only [ControlPlane.nextFailureDomainForScaleUp, if_neg some]
    exact chosen
  · have fewer := least other otherListed
    rwa [counted, counted] at fewer

theorem mem_machinesNeedingRollout {machine : Machine} : machine ∈ (plane.machinesNeedingRollout codec).1 ↔
    machine ∈ plane.machines ∧ hasDeletionTimestamp machine = false ∧
      isCurrent codec plane machine = false := by
  change machine ∈ ((plane.machines.filter _).filter _) ↔ _
  simp [isCurrent, and_assoc]

theorem isCurrent_of_settled (still : plane.hasDeletingMachine = false)
    (fresh : ∀ machine, machine ∉ (plane.machinesNeedingRollout codec).1) :
    ∀ machine ∈ plane.machines, isCurrent codec plane machine = true := by
  intro machine mem
  have staying : hasDeletionTimestamp machine = false := by
    by_contra deleting
    have some : plane.hasDeletingMachine = true := decide_eq_true
      (Machines.len_pos.mpr ⟨machine, mem_filter.mpr ⟨mem, by simpa using deleting⟩⟩)
    rw [still] at some
    cases some
  by_contra outdated
  exact fresh machine (mem_machinesNeedingRollout.mpr ⟨mem, staying, by simpa using outdated⟩)

/-- A deleted machine is outdated, or all are up to date and its failure domain has most. -/
theorem selected_spec {name : String} (placed : Placed plane)
    (selected : Selected runtime plane (plane.machinesNeedingRollout codec).1 name) :
    ∃ machine ∈ plane.machines, machine.name = name ∧ (isCurrent codec plane machine = false ∨
      ∃ id, machine.failureDomain = some id ∧ ∀ other ∈ domains plane,
        currentCount codec plane other ≤ currentCount codec plane id) := by
  obtain ⟨machine, chosen, named, still⟩ := selected
  have among : ∀ other ∈ (plane.machinesNeedingRollout codec).1, other ∈ plane.machines :=
    fun other old => (mem_machinesNeedingRollout.mp old).1
  have level : ∀ other ∈ plane.machines, priority (plane.machinesNeedingRollout codec).1 other =
      if other ∈ (plane.machinesNeedingRollout codec).1 then 1 else 0 :=
    fun other mem => priority_of_unmarked (placed.unmarked other mem)
  have eligible := selectMachineForScaleDown_spec among chosen
  refine ⟨machine, eligible.present, named, ?_⟩
  by_cases exist : ∃ other, other ∈ (plane.machinesNeedingRollout codec).1
  · obtain ⟨other, old⟩ := exist
    have most := eligible.first other (among other old)
    rw [level other (among other old), level machine eligible.present, if_pos old] at most
    by_cases isOld : machine ∈ (plane.machinesNeedingRollout codec).1
    · exact .inl (mem_machinesNeedingRollout.mp isOld).2.2
    · rw [if_neg isOld] at most
      omega
  · have fresh : ∀ other, other ∉ (plane.machinesNeedingRollout codec).1 := fun other old => exist ⟨other, old⟩
    have current := isCurrent_of_settled still fresh
    -- all machines can be chosen, so that the domain is a fullest of all
    have candidates : ∀ other ∈ plane.machines,
        other ∈ candidatesForScaleDown plane (plane.machinesNeedingRollout codec).1 := by
      intro other mem
      refine (mem_candidates_iff among).mpr ⟨mem, fun third thirdPresent => ?_⟩
      rw [level other mem, level third thirdPresent, if_neg (fresh third), if_neg (fresh other)]
    obtain ⟨candidate, domain, _⟩ := machineInFailureDomain_spec chosen
    obtain ⟨found, isCandidate, picked, ⟨outside, _⟩ | most⟩ :=
      failureDomainWithMostMachines_spec plane runtime.order candidate
    · rw [placed.inside found ((mem_candidates_iff among).mp isCandidate).present] at outside
      cases outside
    · obtain ⟨id, isDomain, same⟩ := inside_iff.mp (placed.inside machine eligible.present)
      refine .inr ⟨id, same, fun other otherDomain => ?_⟩
      rw [← machineCount_of_current current, ← machineCount_of_current current]
      by_cases occupied : ∃ third ∈ plane.machines, third.failureDomain = some other
      · obtain ⟨third, mem, there⟩ := occupied
        have fewer := (most third (candidates third mem)).2
        rw [← picked, ← domain, same, there] at fewer
        exact fewer
      · have none : machineCount plane other = 0 := by
          apply List.countP_eq_zero.mpr
          intro third mem there
          exact occupied ⟨third, mem, by simpa using there⟩
        omega

theorem Step.fixed (step : Step codec before after) : domains after = domains before := by
  cases step with
  | scaleUp shared run asked request fixed grown => exact fixed
  | scaleDown shared run asked request fixed shrunk => exact fixed

variable (nonempty : (domains before).Nonempty)
include nonempty

theorem Step.placed (step : Step codec before after) (placed : Placed before) : Placed after := by
  rw [placed_iff] at placed ⊢
  rw [step.fixed]
  cases step with
  | scaleUp shared run asked request fixed grown =>
    have created := asks_of_run (scaleUpControlPlane_asks _ _ _ before) run _ asked
    rw [request] at created
    obtain ⟨id, isDomain, next, _⟩ := nextFailureDomain_spec shared nonempty
    intro view mem
    rw [grown, Multiset.mem_cons] at mem
    rcases mem with rfl | mem
    · exact ⟨⟨id, isDomain, created.trans next⟩, rfl⟩
    · exact placed view mem
  | scaleDown shared run asked request fixed shrunk =>
    intro view mem
    apply placed view
    rw [shrunk]
    exact Multiset.mem_cons_of_mem mem

theorem Step.balanced (step : Step codec before after) (placed : Placed before)
    (balanced : Balanced (domains before) (currentCount codec before)) :
    Balanced (domains after) (currentCount codec after) := by
  rw [step.fixed]
  cases step with
  | @scaleUp runtime cluster ocnecp world next trace rest event machine current shared run asked request fixed grown =>
    have created := asks_of_run (scaleUpControlPlane_asks _ _ _ before) run _ asked
    rw [request] at created
    obtain ⟨id, isDomain, picked, least⟩ := nextFailureDomain_spec shared nonempty
    have domain : machine.failureDomain = some id := created.trans picked
    have count : ∀ place, currentCount codec after place = currentCount codec before place +
        if id = place ∧ current = true then 1 else 0 := by
      intro place
      rw [currentCount_eq, currentCount_eq, grown, Multiset.countP_cons, domain]
      simp only [Option.some.injEq]
    cases current with
    | false => exact (balanced_congr fun place _ => by simp [count place]).mpr balanced
    | true =>
      apply balanced.add least
      · simp [count id]
      · intro place apart
        simp [count place, Ne.symm apart]
  | @scaleDown runtime ocnecp world next trace rest event gone shared run asked request fixed shrunk =>
    have deleted := asks_of_run (scaleDownControlPlane_asks _ _ before _) run _ asked
    rw [request] at deleted
    obtain ⟨machine, mem, named, kind⟩ := selected_spec placed deleted
    have isGone : seen codec before machine = gone := by
      obtain ⟨other, otherPresent, rfl⟩ := mem_spread.mp (shrunk ▸ Multiset.mem_cons_self gone _)
      rw [Machines.eq_of_name mem otherPresent named]
    have count : ∀ place, currentCount codec before place = currentCount codec after place +
        if machine.failureDomain = some place ∧ isCurrent codec before machine = true then 1 else 0 := by
      intro place
      rw [currentCount_eq, currentCount_eq, shrunk, Multiset.countP_cons, ← isGone]
      rfl
    rcases kind with outdated | ⟨id, domain, most⟩
    · exact (balanced_congr fun place _ => by simp [count place, outdated]).mpr balanced
    · cases current : isCurrent codec before machine with
      | false => exact (balanced_congr fun place _ => by simp [count place, current]).mpr balanced
      | true =>
        apply balanced.remove most
        · simp [count id, domain, current]
        · intro place apart
          simp [count place, domain, Ne.symm apart]

abbrev Reaches (codec : Codec) : ControlPlane → ControlPlane → Prop :=
  Relation.ReflTransGen (Step codec)

theorem reaches_balanced (reaches : Reaches codec before after)
    (placed : Placed before) : domains after = domains before ∧ Placed after ∧
      (Balanced (domains before) (currentCount codec before) → Balanced (domains before) (currentCount codec after)) := by
  induction reaches with
  | refl => exact ⟨rfl, placed, id⟩
  | tail _ step ih =>
    obtain ⟨fixed, middlePlaced, kept⟩ := ih
    have stillNonempty := fixed.symm ▸ nonempty
    refine ⟨step.fixed.trans fixed, step.placed stillNonempty middlePlaced, fun balanced => ?_⟩
    have later := step.balanced stillNonempty middlePlaced (fixed.symm ▸ kept balanced)
    rwa [step.fixed, fixed] at later

end Steps

/-- Scaling keeps the up to date machines of two failure domains within one of each other, and all machines if they
are up to date. -/
theorem failure_domains_stay_balanced (codec : Codec) {start after : ControlPlane}
    (nonempty : (domains start).Nonempty) (placed : Placed start) (reaches : Reaches codec start after) :
    (Balanced (domains start) (currentCount codec start) → Balanced (domains start) (currentCount codec after)) ∧
      ((∀ machine ∈ start.machines, isCurrent codec start machine = true) →
        (∀ machine ∈ after.machines, isCurrent codec after machine = true) →
        Balanced (domains start) (machineCount start) → Balanced (domains start) (machineCount after)) := by
  obtain ⟨_, _, kept⟩ := reaches_balanced nonempty reaches placed
  refine ⟨kept, fun current stillCurrent balanced => ?_⟩
  have before := (balanced_congr fun id _ => machineCount_of_current current id).mp balanced
  exact (balanced_congr fun id _ => machineCount_of_current stillCurrent id).mpr (kept before)

private def healthyMachine (name domain : String) : Machine :=
  { (default : Machine) with
    name := name
    version := some ""
    failureDomain := some domain
    conditions := healthTypes.map trueCondition }

private def twoDomains : Cluster :=
  { (default : Cluster) with failureDomains := ⟨[("east", true), ("west", true)], by decide⟩ }

private def planeOf (machines : Machines) : ControlPlane :=
  ⟨default, twoDomains, machines, 0, fun _ => none, fun _ => none⟩

private def onePlane : ControlPlane := planeOf ⟨[healthyMachine "first" "east"], by decide⟩

private def twoPlane : ControlPlane := planeOf ⟨[healthyMachine "-" "west", healthyMachine "first" "east"], by decide⟩

private theorem scaleUp_step : Step (default : Runtime).codec onePlane twoPlane := by
  have created : ((scaleUpControlPlane default twoDomains default onePlane).run.trace (serve plainly) default).any
      (fun event => match event.request with
        | .createMachine machine => machine.name == "-" && machine.failureDomain == some "west"
        | _ => false) = true := by decide
  obtain ⟨event, asked, creates⟩ := List.any_eq_true.mp created
  split at creates
  · rename_i machine request
    obtain ⟨name, domain⟩ := Bool.and_eq_true_iff.mp creates
    have grown : spread (default : Runtime).codec twoPlane =
        ⟨machine.name, machine.failureDomain, true, false⟩ ::ₘ spread (default : Runtime).codec onePlane := by
      rw [eq_of_beq name, eq_of_beq domain]
      rfl
    exact .scaleUp rfl (serve_run plainly _ default) asked request rfl grown
  · cases creates

/-- A second machine goes to the failure domain that has none. -/
theorem second_machine_balances : ∃ start after, (domains start).Nonempty ∧ Placed start ∧
    Reaches (default : Runtime).codec start after ∧ start.machines.len = 1 ∧ after.machines.len = 2 ∧
    Balanced (domains start) (machineCount after) := by
  have nonempty : (domains onePlane).Nonempty := ⟨"east", List.mem_cons_self⟩
  have placed : Placed onePlane := ⟨by decide, by decide⟩
  have reaches : Reaches (default : Runtime).codec onePlane twoPlane := .single scaleUp_step
  refine ⟨onePlane, twoPlane, nonempty, placed, reaches, rfl, rfl, ?_⟩
  have balanced : ∀ first ∈ twoDomains.failureDomains.filterControlPlane.getIDs,
      ∀ second ∈ twoDomains.failureDomains.filterControlPlane.getIDs,
        machineCount onePlane first ≤ machineCount onePlane second + 1 := by decide
  exact (failure_domains_stay_balanced _ nonempty placed reaches).2 (by decide) (by decide) balanced

end OcneProvider.Controller.Spreading
