import Mathlib.Data.Int.Order.Basic
import Mathlib.Data.String.Basic
import OcneProvider.Api.Objects

/-! Collections of machines, the filters used on them, and the choice of failure
domains. A collection lists its machines in the order in which a run iterates
over the map, which can be any. -/

namespace OcneProvider.Controller.Collections
open Api.Meta Api.Conditions Api.Objects Data.Sorted List

structure Machines where
  items : List Machine
  distinct : (items.map Machine.name).Nodup

instance : Inhabited Machines := ⟨[], List.nodup_nil⟩

instance : Membership Machine Machines := ⟨fun machines machine => machine ∈ machines.items⟩

instance (machine : Machine) (machines : Machines) : Decidable (machine ∈ machines) :=
  inferInstanceAs (Decidable (machine ∈ machines.items))

instance (machines : Machines) (holds : Machine → Prop) [DecidablePred holds] :
    Decidable (∀ machine ∈ machines, holds machine) :=
  inferInstanceAs (Decidable (∀ machine ∈ machines.items, holds machine))

instance (machines : Machines) (holds : Machine → Prop) [DecidablePred holds] :
    Decidable (∃ machine ∈ machines, holds machine) :=
  inferInstanceAs (Decidable (∃ machine ∈ machines.items, holds machine))

def Machines.len (machines : Machines) : Nat :=
  machines.items.length

def Machines.filter (machines : Machines) (keep : Machine → Bool) : Machines where
  items := machines.items.filter keep
  distinct := machines.distinct.sublist (List.filter_sublist.map _)

def Machines.modify (machines : Machines) (change : Machine → Machine)
    (named : ∀ machine, (change machine).name = machine.name) : Machines where
  items := machines.items.map change
  distinct := by
    rw [List.map_map, show Machine.name ∘ change = Machine.name from funext named]
    exact machines.distinct

def byCreationTimestamp (machine : Machine) : Lex (Int × String) :=
  toLex (machine.creationTimestamp, machine.name)

def Machines.sortedByCreationTimestamp (machines : Machines) : List Machine :=
  stable byCreationTimestamp machines.items

def Machines.oldest (machines : Machines) : Option Machine :=
  machines.sortedByCreationTimestamp.head?

def Machines.newest (machines : Machines) : Option Machine :=
  machines.sortedByCreationTimestamp.getLast?

def machineControlPlaneLabelName : String := "cluster.x-k8s.io/control-plane"

def machineControlPlaneNameLabel : String := "cluster.x-k8s.io/control-plane-name"

def deleteMachineAnnotation : String := "cluster.x-k8s.io/delete-machine"

def machineHealthCheckSucceededCondition : ConditionType := "HealthCheckSucceeded"

def machineOwnerRemediatedCondition : ConditionType := "OwnerRemediated"

def hasControllerRef (machine : Machine) : Bool :=
  (getControllerOf machine.ownerReferences).isSome

def inFailureDomains (failureDomains : List (Option String)) (machine : Machine) : Bool :=
  failureDomains.any (machine.failureDomain == ·)

def ownedMachines (owner : ObjectIdentity) (machine : Machine) : Bool :=
  isOwnedByObject machine.ownerReferences owner

def controlPlaneMachines (clusterName : String) (machine : Machine) : Bool :=
  machine.labels.lookup clusterLabelName == some clusterName &&
    (machine.labels.lookup machineControlPlaneLabelName).isSome

def adoptableControlPlaneMachines (clusterName : String) (machine : Machine) : Bool :=
  controlPlaneMachines clusterName machine && !hasControllerRef machine

def hasDeletionTimestamp (machine : Machine) : Bool :=
  machine.deletionTimestamp.isSome

def hasUnhealthyCondition (machine : Machine) : Bool :=
  isFalse machine.conditions machineHealthCheckSucceededCondition &&
    isFalse machine.conditions machineOwnerRemediatedCondition

def shouldRolloutAfter (reconciliationTime : Time) (rolloutAfter : Option Time) (machine : Machine) : Bool :=
  match rolloutAfter with
  | none => false
  | some deadline => machine.creationTimestamp < deadline && deadline < reconciliationTime

/-- A number of days as a duration, which wraps around at 64 bits. -/
def days (count : Int32) : Duration :=
  (count.toInt * (24 * 3600 * 1000000000)).bmod (2 ^ 64)

def shouldRolloutBefore (reconciliationTime : Time) (rolloutBefore : Option RolloutBefore)
    (machine : Machine) : Bool :=
  match rolloutBefore.bind RolloutBefore.certificatesExpiryDays, machine.certificatesExpiryDate with
  | some count, some expiry => reconciliationTime + days count > expiry
  | _, _ => false

def hasAnnotationKey (key : String) (machine : Machine) : Bool :=
  (machine.annotations.lookup key).isSome

def matchesKubernetesVersion (version : String) (machine : Machine) : Bool :=
  machine.version == some version

structure FailureDomainAggregation where
  id : String
  count : Nat
  deriving DecidableEq

def pick (failureDomains : FailureDomains) (machines : Machines) : List FailureDomainAggregation :=
  failureDomains.getIDs.map fun id =>
    ⟨id, machines.items.countP (·.failureDomain == some id)⟩

/-- The sorting of failure domains by counts is not stable. -/
structure DomainOrder where
  ascending : Sorting FailureDomainAggregation.count
  descending : Sorting fun domain : FailureDomainAggregation => -(domain.count : Int)

instance : Inhabited DomainOrder :=
  ⟨.insertion _, .insertion _⟩

def pickMost (order : DomainOrder) (failureDomains : FailureDomains)
    (groupMachines machines : Machines) : Option String :=
  ((order.descending.sort (pick failureDomains groupMachines)).find? fun domain =>
    machines.items.any (·.failureDomain == some domain.id)).map FailureDomainAggregation.id

def pickFewest (order : DomainOrder) (failureDomains : FailureDomains) (machines : Machines) :
    Option String :=
  (order.ascending.sort (pick failureDomains machines)).head?.map FailureDomainAggregation.id

section Lemmas

variable {machines : Machines} {machine other : Machine}

@[simp] theorem mem_items : machine ∈ machines.items ↔ machine ∈ machines := Iff.rfl

@[simp] theorem mem_filter {keep : Machine → Bool} :
    machine ∈ machines.filter keep ↔ machine ∈ machines ∧ keep machine = true :=
  List.mem_filter

theorem Machines.eq_of_name (mem : machine ∈ machines) (otherMember : other ∈ machines)
    (same : machine.name = other.name) : machine = other :=
  inj_on_of_nodup_map machines.distinct mem otherMember same

theorem Machines.len_pos : 0 < machines.len ↔ ∃ other, other ∈ machines :=
  length_pos_iff_exists_mem

theorem mem_sortedByCreationTimestamp : machine ∈ machines.sortedByCreationTimestamp ↔ machine ∈ machines :=
  (stable_perm _).mem_iff

theorem Machines.oldest_mem (picked : machines.oldest = some machine) : machine ∈ machines :=
  mem_sortedByCreationTimestamp.mp (mem_of_head? picked)

theorem Machines.newest_mem (picked : machines.newest = some machine) : machine ∈ machines :=
  mem_sortedByCreationTimestamp.mp (mem_of_getLast? picked)

theorem Machines.oldest_le (picked : machines.oldest = some machine) (mem : other ∈ machines) :
    byCreationTimestamp machine ≤ byCreationTimestamp other :=
  rank_head?_le (stable_sorted _ _) picked (mem_sortedByCreationTimestamp.mpr mem)

theorem Machines.le_newest (picked : machines.newest = some machine) (mem : other ∈ machines) :
    byCreationTimestamp other ≤ byCreationTimestamp machine :=
  le_rank_getLast? (stable_sorted _ _) picked (mem_sortedByCreationTimestamp.mpr mem)

variable (mem : machine ∈ machines)
include mem

theorem Machines.eq_of_byCreationTimestamp (otherMember : other ∈ machines)
    (same : byCreationTimestamp machine = byCreationTimestamp other) : machine = other := by
  have keys := Prod.ext_iff.mp (toLex.injective same)
  exact Machines.eq_of_name mem otherMember keys.2

theorem Machines.sorted_ne_nil : machines.sortedByCreationTimestamp ≠ [] :=
  ne_nil_of_mem (mem_sortedByCreationTimestamp.mpr mem)

theorem Machines.exists_oldest : ∃ found, machines.oldest = some found :=
  ⟨_, head?_eq_some_head (Machines.sorted_ne_nil mem)⟩

theorem Machines.exists_newest : ∃ found, machines.newest = some found :=
  ⟨_, getLast?_eq_some_getLast (Machines.sorted_ne_nil mem)⟩

end Lemmas

end OcneProvider.Controller.Collections
