import OcneProvider.Controller.Passes

/-! Runs of passes with anything that others do between them: how many machines
there are, how many a deletion leaves, and how many are being deleted at once. -/

namespace OcneProvider.Controller.Bounds
open Api.Meta Api.Bootstrap Api.Objects Collections Calls Clusters Plane Reconcile Discipline
open Passes Fleets Effects.Program

/-- What others may do to a machine; `deletions` tells whether they may delete it. -/
structure Evolves (deletions : Prop) (before after : Machine) : Prop where
  name : after.name = before.name
  clusterLabel : after.labels.lookup clusterLabelName = before.labels.lookup clusterLabelName
  controlPlaneLabel :
    after.labels.lookup machineControlPlaneLabelName = before.labels.lookup machineControlPlaneLabelName
  ownerReferences : after.ownerReferences = before.ownerReferences
  deletion : after.deletionTimestamp = before.deletionTimestamp ∨ deletions ∧ after.deletionTimestamp.isSome

/-- A pass with one of the specs, finished or cut off, or a change by others: health, outdating, deletions, nodes and
etcd members. -/
inductive Moves (specs : OCNEControlPlaneSpec → Prop) (deletions : Prop) (owner : Owner) (world : World) : World → Prop
  | pass {runtime : Runtime} {cluster : Cluster} {ocnecp : OCNEControlPlane} {trace : List (Event signature World)}
      {rest : Prog signature (Except Err Result)} {next : World} (named : cluster.name = owner.clusterName)
      (name : ocnecp.name = owner.ocnecp.name) (spec : specs ocnecp.spec)
      (run : Run (env True) (reconcile runtime cluster ocnecp).run world trace rest next) :
      Moves specs deletions owner world next
  | event {next : World}
      (evolves : ∀ after ∈ next.machines, ∃ before ∈ world.machines, Evolves deletions before after) :
      Moves specs deletions owner world next

/-- The spec is the same in every pass. -/
abbrev Step (deletions : Prop) (owner : Owner) : World → World → Prop :=
  Moves (· = owner.ocnecp.spec) deletions owner

abbrev Reaches (deletions : Prop) (owner : Owner) : World → World → Prop :=
  Relation.ReflTransGen (Step deletions owner)

section Steps

variable {owner : Owner} {deletions : Prop} {world next : World}

theorem fleet_congr {ocnecp : OCNEControlPlane} (name : ocnecp.name = owner.ocnecp.name) :
    fleet ⟨ocnecp, owner.clusterName⟩ = fleet owner := by
  have identity : ocnecp.identity = owner.ocnecp.identity := by simp [OCNEControlPlane.identity, name]
  have same : member ⟨ocnecp, owner.clusterName⟩ = member owner := by
    funext machine
    simp only [member, identity]
  funext machines
  simp only [fleet, same]

theorem guards_congr {ocnecp : OCNEControlPlane} (spec : ocnecp.spec = owner.ocnecp.spec) :
    (Owner.mk ocnecp owner.clusterName).MayGrow = owner.MayGrow ∧
      (Owner.mk ocnecp owner.clusterName).MayShrink = owner.MayShrink := by
  constructor
  · funext size
    simp only [Owner.MayGrow, Owner.surge, spec]
  · funext size
    simp only [Owner.MayShrink, Owner.surge, spec]

theorem pass_passed {runtime : Runtime} {cluster : Cluster} {ocnecp : OCNEControlPlane}
    {trace : List (Event signature World)} {rest : Prog signature (Except Err Result)} {mayFail : Prop}
    (named : cluster.name = owner.clusterName) (name : ocnecp.name = owner.ocnecp.name)
    (spec : ocnecp.spec = owner.ocnecp.spec)
    (run : Run (env mayFail) (reconcile runtime cluster ocnecp).run world trace rest next) :
    Passed owner world trace next := by
  have passed : Passed ⟨ocnecp, owner.clusterName⟩ world trace next := reconcile_passed named run
  obtain ⟨changed, once, settled, deletes⟩ := passed
  rw [fleet_congr name, (guards_congr spec).1, (guards_congr spec).2] at changed
  rw [fleet_congr name] at settled
  rw [fleet_congr name, (guards_congr spec).2] at deletes
  exact ⟨changed, once, settled, deletes⟩

theorem Evolves.controlPlaneMachines {before after : Machine} (evolves : Evolves deletions before after)
    (clusterName : String) : controlPlaneMachines clusterName after = controlPlaneMachines clusterName before := by
  simp only [Collections.controlPlaneMachines, evolves.clusterLabel, evolves.controlPlaneLabel]

theorem event_fleet (evolves : ∀ after ∈ next.machines, ∃ before ∈ world.machines, Evolves deletions before after) :
    Fleet.Event deletions (fleet owner world.machines) (fleet owner next.machines) := by
  intro seen mem
  obtain ⟨after, found, isControlPlane, rfl⟩ := mem_fleet.mp mem
  obtain ⟨before, earlier, evolved⟩ := evolves after found
  rw [evolved.controlPlaneMachines] at isControlPlane
  refine ⟨_, mem_fleet.mpr ⟨before, earlier, isControlPlane, rfl⟩, evolved.name, ?_, ?_, ?_⟩
  · simp [member, ownedMachines, evolved.ownerReferences]
  · simp [member, hasControllerRef, evolved.ownerReferences]
  · rcases evolved.deletion with same | ⟨may, deleted⟩
    · exact .inl (by simp [member, hasDeletionTimestamp, same])
    · exact .inr ⟨may, deleted⟩

end Steps

section Counts

variable (owner : Owner) (world : World)

def ownedCount : Nat := world.machines.items.countP owner.isOwn

def claimedCount : Nat :=
  world.machines.items.countP fun machine => controlPlaneMachines owner.clusterName machine &&
    (ownedMachines owner.ocnecp.identity machine || !hasControllerRef machine)

def stayingCount : Nat :=
  world.machines.items.countP fun machine => owner.isOwn machine && !hasDeletionTimestamp machine

def deletingCount : Nat :=
  world.machines.items.countP fun machine => owner.isOwn machine && hasDeletionTimestamp machine

theorem ownedCount_eq : ownedCount owner world = (fleet owner world.machines).countP (·.owned = true) :=
  (countP_fleet Member.owned).symm

theorem claimedCount_eq : claimedCount owner world = (fleet owner world.machines).countP (Fleet.claimed · = true) :=
  (countP_fleet Fleet.claimed).symm

theorem stayingCount_eq : stayingCount owner world = (fleet owner world.machines).countP (Fleet.staying · = true) := by
  rw [countP_fleet]
  simp only [stayingCount, Owner.isOwn, Bool.and_assoc]
  rfl

theorem ownedCount_le : ownedCount owner world ≤ claimedCount owner world := by
  rw [ownedCount_eq, claimedCount_eq]
  exact Fleet.countP_owned_le_claimed

theorem deletingCount_le : deletingCount owner world ≤ (fleet owner world.machines).countP (·.deleting = true) := by
  rw [countP_fleet Member.deleting]
  apply List.countP_mono_left
  intro machine _ both
  simp only [Owner.isOwn, Bool.and_eq_true] at both
  simp only [member, Bool.and_eq_true]
  exact ⟨both.1.1, both.2⟩

end Counts

/-- A spec with `wanted` replicas, rolled out with a surge of none or one. -/
structure Valid (owner : Owner) (wanted surge : Nat) : Prop where
  replicas : ∃ replicas, owner.ocnecp.spec.replicas = some replicas ∧ replicas.toInt = wanted
  strategy : ∃ maxSurge, owner.ocnecp.spec.rolloutStrategy =
    some ⟨rollingUpdateStrategyType, some ⟨some maxSurge⟩⟩ ∧ maxSurge.intValue = surge
  positive : 1 ≤ wanted
  fits : wanted + 1 < 2 ^ 31
  few : surge ≤ 1
  enough : surge = 0 → 3 ≤ wanted

section Guards

variable {owner : Owner} {wanted surge size : Nat}

theorem toInt_maxNodes {replicas : Int32} {maxSurge : IntOrString} (count : replicas.toInt = wanted)
    (extra : maxSurge.intValue = surge) (fits : wanted + surge < 2 ^ 31) :
    (maxNodes replicas maxSurge).toInt = wanted + surge := by
  have small : (Int32.ofInt maxSurge.intValue).toInt = surge := by
    rw [extra, Int32.toInt_ofInt_of_le] <;> omega
  rw [maxNodes, Int32.toInt_add, count, small, Int.bmod_eq_of_le] <;> omega

variable (valid : Valid owner wanted surge)
include valid

theorem Valid.lt_maxNodes_iff (small : size ≤ wanted + surge)
    {replicas : Int32} {maxSurge : IntOrString} (count : owner.ocnecp.spec.replicas = some replicas)
    (extra : owner.surge = some maxSurge) :
    Int32.ofNat size < maxNodes replicas maxSurge ↔ size < wanted + surge := by
  obtain ⟨other, same, replicasCount⟩ := valid.replicas
  obtain ⟨given, strategy, surgeCount⟩ := valid.strategy
  obtain rfl : other = replicas := Option.some.inj (same.symm.trans count)
  obtain rfl : given = maxSurge := by
    simpa [Owner.surge, strategy] using extra
  have fits := valid.fits
  have few := valid.few
  rw [Int32.lt_iff_toInt_lt, Int32.toInt_ofNat_of_lt (by omega), toInt_maxNodes replicasCount surgeCount (by omega)]
  omega

theorem Valid.lt_of_mayGrow (small : size ≤ wanted + surge) (grow : owner.MayGrow size) : size < wanted + surge := by
  obtain ⟨replicas, given, fewer | ⟨maxSurge, extra, below⟩⟩ := grow
  · obtain ⟨other, same, count⟩ := valid.replicas
    obtain rfl : other = replicas := Option.some.inj (same.symm.trans given)
    omega
  · exact (valid.lt_maxNodes_iff small given extra).mp below

theorem Valid.le_of_mayShrink (small : size ≤ wanted + surge)
    (shrink : owner.MayShrink size) : max 1 (wanted - 1) + 1 ≤ size := by
  obtain ⟨replicas, given, shrinks⟩ := shrink
  obtain ⟨other, same, count⟩ := valid.replicas
  obtain rfl : other = replicas := Option.some.inj (same.symm.trans given)
  have positive := valid.positive
  have enough := valid.enough
  rcases shrinks with ⟨several, atLeast⟩ | more | ⟨maxSurge, extra, full⟩
  · omega
  · omega
  · rw [valid.lt_maxNodes_iff small given extra] at full
    omega

end Guards

section Results

variable {owner : Owner} {wanted surge : Nat} {start world next : World}

section

variable (valid : Valid owner wanted surge)
include valid

theorem claimedCount_step (step : Step True owner world next)
    (few : claimedCount owner world ≤ wanted + surge) : claimedCount owner next ≤ wanted + surge := by
  rw [claimedCount_eq] at few ⊢
  cases step with
  | pass named name spec run =>
    exact (pass_passed named name spec run).changed.countP_claimed_le
      (fun size small grow => valid.lt_of_mayGrow small grow) few
  | event evolves =>
    exact ((event_fleet evolves).countP_claimed_le (fleet_distinct owner next.machines)).trans few

theorem claimedCount_reaches (few : claimedCount owner start ≤ wanted + surge)
    (reaches : Reaches True owner start world) : claimedCount owner world ≤ wanted + surge := by
  induction reaches with
  | refl => exact few
  | tail _ step ih => exact claimedCount_step valid step ih

theorem stayingCount_of_deletion {trace : List (Event signature World)}
    (passed : Passed owner world trace next) (few : claimedCount owner world ≤ wanted + surge)
    {event : Event signature World} (occurs : event ∈ trace) {name : String}
    (deletes : event.request = .deleteMachine name) : max 1 (wanted - 1) ≤ stayingCount owner event.after := by
  obtain ⟨shrink, left⟩ := passed.deletes event occurs name deletes
  obtain ⟨_, settled⟩ := passed.settled event occurs (by rw [deletes]; rfl)
  have apart := fleet_distinct owner world.machines
  rw [claimedCount_eq, settled.countP_claimed] at few
  have size := valid.le_of_mayShrink few shrink
  rw [stayingCount_eq]
  rcases left with same | started | removed
  · rw [same, settled.countP_staying]
    omega
  · have most := settled.card_le_startDeletion apart name
    rw [started]
    omega
  · have most := settled.card_le_remove apart name
    rw [removed]
    omega

end

/-- The machines stay within replicas and surge as long as adoptable ones are counted, and every deletion leaves
enough. -/
theorem machines_within_surge (valid : Valid owner wanted surge) (few : claimedCount owner start ≤ wanted + surge)
    (reaches : Reaches True owner start world) :
    ownedCount owner world ≤ wanted + surge ∧
      ∀ {runtime : Runtime} {cluster : Cluster} {ocnecp : OCNEControlPlane} {trace : List (Event signature World)}
        {rest : Prog signature (Except Err Result)} {next : World}, cluster.name = owner.clusterName →
        ocnecp.name = owner.ocnecp.name → ocnecp.spec = owner.ocnecp.spec →
        Run (env True) (reconcile runtime cluster ocnecp).run world trace rest next →
        ∀ event ∈ trace, ∀ name, event.request = .deleteMachine name →
          max 1 (wanted - 1) ≤ stayingCount owner event.after := by
  have bounded := claimedCount_reaches valid few reaches
  refine ⟨(ownedCount_le owner world).trans bounded, ?_⟩
  intro runtime cluster ocnecp trace rest next named name spec run event occurs deleted deletes
  exact stayingCount_of_deletion valid (pass_passed named name spec run) bounded occurs deletes

end Results

private def replicated (replicas : Int32) : OCNEControlPlane :=
  { (default : OCNEControlPlane) with
    name := "plane"
    spec := { (default : OCNEControlPlaneSpec) with
      version := "v1.25.7"
      replicas := some replicas
      rolloutStrategy := some ⟨rollingUpdateStrategyType, some ⟨some (.int 1)⟩⟩ } }

def labelledMachine (name version : String) (refs : List OwnerReference) : Machine :=
  { (default : Machine) with
    name := name
    version := some version
    labels := ((∅ : StringMap).insert clusterLabelName "cluster").insert machineControlPlaneLabelName ""
    ownerReferences := refs
    conditions := Health.healthTypes.map Api.Conditions.trueCondition
    configRef := some { (default : ObjectReference) with kind := "OCNEConfig" } }

private def oneReplica : Owner := ⟨replicated 1, "cluster"⟩

private def ownMachine (name : String) : Machine :=
  labelledMachine name "v1.25.7" [oneReplica.ocnecp.newControllerRef]

private def twoMachines : World :=
  { (default : World) with machines := ⟨[ownMachine "a", ownMachine "b"], by decide⟩ }

private def threeMachines : World :=
  { (default : World) with
    machines := ⟨[ownMachine "a", ownMachine "b", labelledMachine "c" "v1.25.7" []], by decide⟩ }

private theorem oneReplica_valid : Valid oneReplica 1 1 where
  replicas := ⟨1, rfl, rfl⟩
  strategy := ⟨.int 1, rfl, rfl⟩
  positive := le_rfl
  fits := by decide
  few := le_rfl
  enough := by simp

private def deletesFirst (event : Event signature World) : Bool :=
  match event.request with
  | .deleteMachine name => name == "a"
  | _ => false

/-- One of two machines is deleted, and the other stays. -/
theorem scale_down_within_surge : ∃ trace rest next event,
    Run (env True) (reconcile default readyCluster oneReplica.ocnecp).run twoMachines trace rest next ∧
      event ∈ trace ∧ event.request = .deleteMachine "a" ∧ ownedCount oneReplica next ≤ 1 + 1 ∧
      max 1 (1 - 1) ≤ stayingCount oneReplica event.after := by
  have run := serve_run plainly (reconcile default readyCluster oneReplica.ocnecp).run twoMachines
  have deletion : ((reconcile default readyCluster oneReplica.ocnecp).run.trace (serve plainly) twoMachines).any
      deletesFirst = true := by decide +kernel
  obtain ⟨event, occurs, deletes⟩ := List.any_eq_true.mp deletion
  have request : event.request = .deleteMachine "a" := by
    unfold deletesFirst at deletes
    split at deletes
    next name request => rw [request, eq_of_beq deletes]
    next => cases deletes
  have few : claimedCount oneReplica twoMachines ≤ 1 + 1 := by decide
  have later := machines_within_surge oneReplica_valid few (.single (.pass rfl rfl rfl run))
  have leaves := (machines_within_surge oneReplica_valid few .refl).2 rfl rfl rfl run event occurs "a" request
  exact ⟨_, _, _, event, run, occurs, request, later.1, leaves⟩

/-- A pass adopts a machine even if a rollout may have no more. -/
theorem adoption_exceeds_surge : ∃ owner wanted surge start next, Valid owner wanted surge ∧
    ownedCount owner start ≤ wanted + surge ∧ Step True owner start next ∧
    wanted + surge < ownedCount owner next := by
  have run := serve_run plainly (reconcile default readyCluster oneReplica.ocnecp).run threeMachines
  exact ⟨oneReplica, 1, 1, threeMachines, _, oneReplica_valid, by decide, .pass rfl rfl rfl run, by decide +kernel⟩

section Deletions

variable {owner : Owner} {start world next : World}

variable {specs : OCNEControlPlaneSpec → Prop}

/-- How many machines are being deleted depends on the name of the control plane only, not on its spec. -/
theorem deleting_step (few : (fleet owner world.machines).countP (·.deleting = true) ≤ 1)
    (step : Moves specs False owner world next) : (fleet owner next.machines).countP (·.deleting = true) ≤ 1 := by
  cases step with
  | @pass _ _ ocnecp trace _ _ named name _ run =>
    have passed : Passed ⟨ocnecp, owner.clusterName⟩ world trace next := reconcile_passed named run
    have changed := passed.changed
    rw [fleet_congr name] at changed
    exact changed.countP_deleting_le (fleet_distinct owner world.machines) few
  | event evolves =>
    exact ((event_fleet evolves).countP_deleting_le (fleet_distinct owner next.machines)).trans few

theorem deleting_reaches (none : ∀ machine ∈ start.machines, controlPlaneMachines owner.clusterName machine = true →
      machine.deletionTimestamp = none) (reaches : Relation.ReflTransGen (Moves specs False owner) start world) :
    (fleet owner world.machines).countP (·.deleting = true) ≤ 1 := by
  induction reaches with
  | refl =>
    have zero : (fleet owner start.machines).countP (·.deleting = true) = 0 := by
      apply Multiset.countP_eq_zero.mpr
      intro seen mem
      obtain ⟨machine, found, isControlPlane, rfl⟩ := mem_fleet.mp mem
      simp [member, hasDeletionTimestamp, none machine found isControlPlane]
    omega
  | tail _ step ih => exact deleting_step ih step

/-- A pass creates or deletes at most one machine, and none during a deletion; so with no other deletions, at most one
machine is ever being deleted, also if the spec is edited between passes. -/
theorem one_operation_at_a_time (owner : Owner) :
    (∀ (runtime : Runtime) (cluster : Cluster) (world : World) (trace : List (Event signature World))
      (rest : Prog signature (Except Err Result)) (next : World), cluster.name = owner.clusterName →
      Run (env True) (reconcile runtime cluster owner.ocnecp).run world trace rest next →
      (trace.countP fun event => isOperation event.request) ≤ 1 ∧
        ∀ event ∈ trace, isOperation event.request = true →
          ∀ machine ∈ event.before.machines, owner.isOwn machine = true → machine.deletionTimestamp = none) ∧
    ∀ start world : World, (∀ machine ∈ start.machines, controlPlaneMachines owner.clusterName machine = true →
      machine.deletionTimestamp = none) → Relation.ReflTransGen (Moves (fun _ => True) False owner) start world →
        deletingCount owner world ≤ 1 := by
  constructor
  · intro runtime cluster world trace rest next named run
    have passed := reconcile_passed named run
    refine ⟨passed.once, fun event occurs op machine found own => ?_⟩
    obtain ⟨same, settled⟩ := passed.settled event occurs op
    simp only [Owner.isOwn, Bool.and_eq_true] at own
    have seen : member owner machine ∈ fleet owner world.machines := by
      rw [← same]
      exact mem_fleet.mpr ⟨machine, found, own.1, rfl⟩
    simpa [member, hasDeletionTimestamp] using settled.kept _ seen
  · intro start world none reaches
    exact (deletingCount_le owner world).trans (deleting_reaches none reaches)

end Deletions

/-- The replicas are raised while a machine that was one too many is being deleted. -/
theorem edited_spec_deletes_one : ∃ first rest middle second rest' last,
    Run (env True) (reconcile default readyCluster (replicated 1)).run twoMachines first rest middle ∧
      Run (env True) (reconcile default readyCluster (replicated 3)).run middle second rest' last ∧
      deletingCount oneReplica last = 1 := by
  have first := serve_run plainly (reconcile default readyCluster (replicated 1)).run twoMachines
  have second := serve_run plainly (reconcile default readyCluster (replicated 3)).run
    ((reconcile default readyCluster (replicated 1)).run.exec (serve plainly) twoMachines).2
  have deletes : Moves (fun _ => True) False oneReplica _ _ := .pass rfl rfl trivial first
  have name : (replicated 3).name = oneReplica.ocnecp.name := rfl
  have waits : Moves (fun _ => True) False oneReplica _ _ := .pass rfl name trivial second
  have reaches := (Relation.ReflTransGen.single deletes).tail waits
  have most := (one_operation_at_a_time oneReplica).2 _ _ (by decide) reaches
  have least : 1 ≤ deletingCount oneReplica
      ((reconcile default readyCluster (replicated 3)).run.exec (serve plainly)
        ((reconcile default readyCluster (replicated 1)).run.exec (serve plainly) twoMachines).2).2 := by
    decide +kernel
  exact ⟨_, _, _, _, _, _, first, second, le_antisymm most least⟩

end OcneProvider.Controller.Bounds
