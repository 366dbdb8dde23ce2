import OcneProvider.Controller.Scale

/-! The choice of the machine to delete: that there is one, and when it can be
the newest machine of the control plane. -/

namespace OcneProvider.Controller.Selection
open Api.Meta Api.Objects Collections Plane Scale Data.Sorted
open List hiding mem_filter

section Pools

variable {plane : ControlPlane} {order : DomainOrder} {machines : Machines} {machine : Machine}

def inControlPlaneDomains (controlPlane : ControlPlane) (machine : Machine) : Bool :=
  inFailureDomains (controlPlane.cluster.failureDomains.filterControlPlane.getIDs.map some) machine

def domainSize (controlPlane : ControlPlane) (domain : Option String) : Nat :=
  controlPlane.machines.items.countP (·.failureDomain == domain)

theorem inFailureDomains_single {domain : Option String} :
    inFailureDomains [domain] machine = true ↔ machine.failureDomain = domain := by
  simp [inFailureDomains]

theorem inControlPlaneDomains_congr {other : Machine} (same : other.failureDomain = machine.failureDomain) :
    inControlPlaneDomains plane other = inControlPlaneDomains plane machine := by
  simp only [inControlPlaneDomains, inFailureDomains, same]

theorem mem_pick (inside : inControlPlaneDomains plane machine = true) :
    ∃ id, machine.failureDomain = some id ∧ ⟨id, domainSize plane (some id)⟩ ∈
      pick plane.cluster.failureDomains.filterControlPlane plane.machines := by
  simp only [inControlPlaneDomains, inFailureDomains, any_map, any_eq_true, Function.comp_apply,
    beq_iff_eq] at inside
  obtain ⟨id, mem, same⟩ := inside
  exact ⟨id, same, mem_map.mpr ⟨id, mem, rfl⟩⟩

theorem eq_of_mem_pick {domain : FailureDomainAggregation}
    (mem : domain ∈ pick plane.cluster.failureDomains.filterControlPlane plane.machines) :
    domain.count = domainSize plane (some domain.id) := by
  obtain ⟨id, _, rfl⟩ := mem_map.mp mem
  rfl

theorem pickMost_spec (nonempty : machine ∈ machines)
    (inside : ∀ other ∈ machines, inControlPlaneDomains plane other = true) :
    ∃ found ∈ machines, pickMost order plane.cluster.failureDomains.filterControlPlane plane.machines
        machines = found.failureDomain ∧
      ∀ other ∈ machines, domainSize plane other.failureDomain ≤ domainSize plane found.failureDomain := by
  let domains := pick plane.cluster.failureDomains.filterControlPlane plane.machines
  let occupied := fun domain : FailureDomainAggregation =>
    machines.items.any (·.failureDomain == some domain.id)
  have sorted_mem : ∀ domain, domain ∈ order.descending.sort domains ↔ domain ∈ domains :=
    fun domain => (order.descending.perm domains).mem_iff
  have counted : ∀ other ∈ machines, ∃ domain ∈ order.descending.sort domains, occupied domain = true ∧
      other.failureDomain = some domain.id := by
    intro other present
    obtain ⟨id, same, listed⟩ := mem_pick (inside other present)
    exact ⟨_, (sorted_mem _).mpr listed, any_eq_true.mpr ⟨other, present, by simp [same]⟩, same⟩
  obtain ⟨domain, listed, holds, _⟩ := counted machine nonempty
  obtain ⟨picked, found⟩ := Option.isSome_iff_exists.mp (find?_isSome.mpr ⟨domain, listed, holds⟩)
  have held : occupied picked = true := find?_some found
  obtain ⟨mem, present, is⟩ := any_eq_true.mp held
  have same : mem.failureDomain = some picked.id := by simpa using is
  refine ⟨mem, present, ?_, fun other otherPresent => ?_⟩
  · change ((order.descending.sort domains).find? occupied).map FailureDomainAggregation.id = _
    rw [found, same]
    rfl
  · obtain ⟨domain, listed, holds, otherSame⟩ := counted other otherPresent
    have least := rank_find?_le (order.descending.sorted domains) found listed holds
    have size := eq_of_mem_pick ((sorted_mem domain).mp listed)
    have pickedSize := eq_of_mem_pick ((sorted_mem picked).mp (mem_of_find?_eq_some found))
    rw [otherSame, same, ← size, ← pickedSize]
    omega

theorem pickFewest_spec {failureDomains : FailureDomains} {id : String}
    (nonempty : id ∈ failureDomains.getIDs) :
    ∃ picked ∈ failureDomains.getIDs, pickFewest order failureDomains machines = some picked ∧
      ∀ other ∈ failureDomains.getIDs, machines.items.countP (·.failureDomain == some picked) ≤
        machines.items.countP (·.failureDomain == some other) := by
  let domain : String → FailureDomainAggregation := fun id => ⟨id, machines.items.countP (·.failureDomain == some id)⟩
  have sorted_mem : ∀ id ∈ failureDomains.getIDs, domain id ∈ order.ascending.sort (pick failureDomains machines) :=
    fun id mem => (order.ascending.perm _).mem_iff.mpr (mem_map_of_mem mem)
  cases first : (order.ascending.sort (pick failureDomains machines)).head? with
  | none =>
    rw [head?_eq_none_iff] at first
    have mem := sorted_mem id nonempty
    rw [first] at mem
    exact absurd mem not_mem_nil
  | some found =>
    obtain ⟨picked, mem, rfl⟩ := mem_map.mp ((order.ascending.perm _).mem_iff.mp (mem_of_head? first))
    refine ⟨picked, mem, ?_, fun other otherListed => ?_⟩
    · simp only [pickFewest, first, Option.map_some]
    · exact rank_head?_le (order.ascending.sorted _) first (sorted_mem other otherListed)

/-- The domain has one of the machines to choose from. -/
theorem failureDomainWithMostMachines_spec (plane : ControlPlane) (order : DomainOrder) (nonempty : machine ∈ machines) :
    ∃ found ∈ machines, plane.failureDomainWithMostMachines order machines = found.failureDomain ∧
      ((inControlPlaneDomains plane found = false ∧
          ∀ other ∈ machines, inControlPlaneDomains plane other = false →
            byCreationTimestamp found ≤ byCreationTimestamp other) ∨
        (∀ other ∈ machines, inControlPlaneDomains plane other = true ∧
          domainSize plane other.failureDomain ≤ domainSize plane found.failureDomain)) := by
  unfold ControlPlane.failureDomainWithMostMachines
  simp only
  split
  · rename_i found picked
    obtain ⟨mem, outside⟩ := mem_filter.mp (Machines.oldest_mem picked)
    refine ⟨found, mem, rfl, .inl ⟨by simpa [inControlPlaneDomains] using outside, ?_⟩⟩
    intro other otherPresent otherOutside
    exact Machines.oldest_le picked (mem_filter.mpr ⟨otherPresent,
      by simpa [inControlPlaneDomains] using otherOutside⟩)
  · rename_i none
    have inside : ∀ other ∈ machines, inControlPlaneDomains plane other = true := by
      intro other mem
      by_contra outside
      have outsider : other ∈ machines.filter (!inControlPlaneDomains plane ·) :=
        mem_filter.mpr ⟨mem, by simpa using outside⟩
      obtain ⟨oldest, picked⟩ := Machines.exists_oldest outsider
      exact absurd (none.symm.trans picked) (by simp)
    obtain ⟨found, mem, picked, most⟩ := pickMost_spec nonempty inside
    exact ⟨found, mem, picked, .inr fun other otherPresent => ⟨inside other otherPresent, most other otherPresent⟩⟩

theorem exists_machineInFailureDomain (nonempty : machine ∈ machines) :
    ∃ chosen ∈ machines, plane.machineInFailureDomainWithMostMachines order machines = .ok chosen := by
  obtain ⟨found, mem, domain, _⟩ := failureDomainWithMostMachines_spec plane order nonempty
  obtain ⟨chosen, picked⟩ := Machines.exists_oldest (mem_filter.mpr ⟨mem, inFailureDomains_single.mpr domain.symm⟩)
  refine ⟨chosen, (mem_filter.mp (Machines.oldest_mem picked)).1, ?_⟩
  simp only [ControlPlane.machineInFailureDomainWithMostMachines, picked]

theorem machineInFailureDomain_spec
    (chosen : plane.machineInFailureDomainWithMostMachines order machines = .ok machine) :
    machine ∈ machines ∧ machine.failureDomain = plane.failureDomainWithMostMachines order machines ∧
      ∀ other ∈ machines, other.failureDomain = machine.failureDomain →
        byCreationTimestamp machine ≤ byCreationTimestamp other := by
  unfold ControlPlane.machineInFailureDomainWithMostMachines at chosen
  simp only at chosen
  split at chosen
  · rename_i found picked
    obtain rfl : found = machine := by simpa using chosen
    obtain ⟨mem, inside⟩ := mem_filter.mp (Machines.oldest_mem picked)
    have domain := inFailureDomains_single.mp inside
    refine ⟨mem, domain, fun other otherPresent same => ?_⟩
    exact Machines.oldest_le picked (mem_filter.mpr ⟨otherPresent, inFailureDomains_single.mpr (same.trans domain)⟩)
  · simp at chosen

/-- The oldest of one failure domain is chosen: that of the oldest outside the domains of the control plane, or else
one with most machines. -/
theorem oldest_of_domain_chosen (plane : ControlPlane) (order : DomainOrder) (candidates : Machines)
    (nonempty : 0 < candidates.len) :
    ∃ chosen ∈ candidates, plane.machineInFailureDomainWithMostMachines order candidates = .ok chosen ∧
      (∀ other ∈ candidates, other.failureDomain = chosen.failureDomain →
        byCreationTimestamp chosen ≤ byCreationTimestamp other) ∧
      ((∃ outsider ∈ candidates, inControlPlaneDomains plane outsider = false) →
        ∃ oldest ∈ candidates, inControlPlaneDomains plane oldest = false ∧
          (∀ other ∈ candidates, inControlPlaneDomains plane other = false →
            byCreationTimestamp oldest ≤ byCreationTimestamp other) ∧
          chosen.failureDomain = oldest.failureDomain) ∧
      ((∀ other ∈ candidates, inControlPlaneDomains plane other = true) →
        ∀ other ∈ candidates, domainSize plane other.failureDomain ≤
          domainSize plane chosen.failureDomain) := by
  obtain ⟨candidate, mem⟩ := Machines.len_pos.mp nonempty
  obtain ⟨chosen, present, success⟩ : ∃ chosen ∈ candidates,
      plane.machineInFailureDomainWithMostMachines order candidates = .ok chosen :=
    exists_machineInFailureDomain mem
  obtain ⟨_, domain, oldest⟩ := machineInFailureDomain_spec success
  obtain ⟨found, isFound, same, cases⟩ := failureDomainWithMostMachines_spec plane order mem
  refine ⟨chosen, present, success, oldest, ?_, ?_⟩
  · rintro ⟨outsider, isOutsider, outside⟩
    rcases cases with ⟨foundOutside, first⟩ | inside
    · exact ⟨found, isFound, foundOutside, first, domain.trans same⟩
    · rw [(inside outsider isOutsider).1] at outside
      cases outside
  · intro inside other isOther
    rcases cases with ⟨foundOutside, _⟩ | most
    · rw [inside found isFound] at foundOutside
      cases foundOutside
    · rw [domain, same]
      exact (most other isOther).2

end Pools

section Newest

variable {plane : ControlPlane} {outdated : Machines} {machine : Machine}

/-- Annotated machines come first, then outdated ones. -/
def priority (outdated : Machines) (machine : Machine) : Nat :=
  (if hasAnnotationKey deleteMachineAnnotation machine then 2 else 0) + if machine ∈ outdated then 1 else 0

/-- The machines to choose from are those of the highest priority. -/
structure Eligible (controlPlane : ControlPlane) (outdated : Machines) (machine : Machine) : Prop where
  present : machine ∈ controlPlane.machines
  first : ∀ other ∈ controlPlane.machines, priority outdated other ≤ priority outdated machine

/-- It is the only one to choose from outside the failure domains, or all are inside and it is the only one in its
domain, which has as many machines as any other. -/
structure NewestAlone (controlPlane : ControlPlane) (outdated : Machines) (machine : Machine) : Prop where
  newest : controlPlane.machines.newest = some machine
  eligible : Eligible controlPlane outdated machine
  alone :
    (inControlPlaneDomains controlPlane machine = false ∧
      ∀ other, Eligible controlPlane outdated other → other ≠ machine →
        inControlPlaneDomains controlPlane other = true) ∨
    (inControlPlaneDomains controlPlane machine = true ∧
      ∀ other, Eligible controlPlane outdated other → other ≠ machine →
        inControlPlaneDomains controlPlane other = true ∧ other.failureDomain ≠ machine.failureDomain ∧
          domainSize controlPlane other.failureDomain ≤ domainSize controlPlane machine.failureDomain)

theorem eligible_iff {level : Nat} {top : Machine} (mem : top ∈ plane.machines)
    (reaches : priority outdated top = level)
    (bound : ∀ other ∈ plane.machines, priority outdated other ≤ level) :
    Eligible plane outdated machine ↔ machine ∈ plane.machines ∧ priority outdated machine = level := by
  constructor
  · intro eligible
    have atLeast := eligible.first top mem
    have atMost := bound machine eligible.present
    exact ⟨eligible.present, by omega⟩
  · rintro ⟨here, same⟩
    exact ⟨here, fun other otherPresent => same ▸ bound other otherPresent⟩

theorem priority_le_three : priority outdated machine ≤ 3 := by
  unfold priority
  split_ifs <;> omega

theorem priority_eq_three_iff : priority outdated machine = 3 ↔
    machine ∈ outdated ∧ hasAnnotationKey deleteMachineAnnotation machine = true := by
  unfold priority
  split_ifs <;> simp_all

theorem priority_eq_two_iff : priority outdated machine = 2 ↔
    machine ∉ outdated ∧ hasAnnotationKey deleteMachineAnnotation machine = true := by
  unfold priority
  split_ifs <;> simp_all

theorem priority_of_unmarked (unmarked : hasAnnotationKey deleteMachineAnnotation machine = false) :
    priority outdated machine = if machine ∈ outdated then 1 else 0 := by
  simp [priority, unmarked]

variable (among : ∀ other ∈ outdated, other ∈ plane.machines)
include among

/-- The code goes through the four groups of machines in turn. -/
theorem mem_candidates_iff : machine ∈ candidatesForScaleDown plane outdated ↔ Eligible plane outdated machine := by
  simp only [candidatesForScaleDown, ControlPlane.machineWithDeleteAnnotation, Machines.len_pos, mem_filter]
  split
  · rename_i both
    obtain ⟨top, isOutdated, annotated⟩ := both
    rw [mem_filter, eligible_iff (among top isOutdated) (priority_eq_three_iff.mpr ⟨isOutdated, annotated⟩)
      (fun _ _ => priority_le_three), priority_eq_three_iff]
    exact ⟨fun found => ⟨among machine found.1, found⟩, And.right⟩
  · rename_i notBoth
    split
    · rename_i one
      obtain ⟨top, mem, annotated⟩ := one
      have fresh : ∀ other, hasAnnotationKey deleteMachineAnnotation other = true → other ∉ outdated :=
        fun other marked old => notBoth ⟨other, old, marked⟩
      have bound : ∀ other ∈ plane.machines, priority outdated other ≤ 2 := by
        intro other _
        have most : priority outdated other ≤ 3 := priority_le_three
        have notThree : priority outdated other ≠ 3 := fun three => notBoth ⟨other, priority_eq_three_iff.mp three⟩
        omega
      rw [mem_filter, eligible_iff mem (priority_eq_two_iff.mpr ⟨fresh top annotated, annotated⟩) bound,
        priority_eq_two_iff]
      exact ⟨fun found => ⟨found.1, fresh machine found.2, found.2⟩, fun found => ⟨found.1, found.2.2⟩⟩
    · rename_i unmarked
      have plain : ∀ other ∈ plane.machines, priority outdated other = if other ∈ outdated then 1 else 0 := by
        intro other mem
        refine priority_of_unmarked ?_
        by_contra marked
        exact unmarked ⟨other, mem, by simpa using marked⟩
      split
      · rename_i one
        obtain ⟨top, old⟩ := Machines.len_pos.mp one
        have reaches : priority outdated top = 1 := by rw [plain top (among top old), if_pos old]
        have bound : ∀ other ∈ plane.machines, priority outdated other ≤ 1 := by
          intro other mem
          rw [plain other mem]
          split_ifs <;> omega
        rw [eligible_iff (among top old) reaches bound]
        constructor
        · exact fun isOld => ⟨among machine isOld, by rw [plain machine (among machine isOld), if_pos isOld]⟩
        · rintro ⟨here, level⟩
          by_contra current
          rw [plain machine here, if_neg current] at level
          cases level
      · rename_i none
        have current : ∀ other, other ∉ outdated := fun other old => none (Machines.len_pos.mpr ⟨other, old⟩)
        refine ⟨fun here => ⟨here, fun other mem => ?_⟩, fun eligible => eligible.present⟩
        rw [plain other mem, if_neg (current other)]
        exact Nat.zero_le _

theorem selectMachineForScaleDown_spec {order : DomainOrder}
    (selected : selectMachineForScaleDown plane order outdated = .ok machine) : Eligible plane outdated machine :=
  (mem_candidates_iff among).mp (machineInFailureDomain_spec selected).1

theorem newestAlone_of_selected {order : DomainOrder}
    (selected : selectMachineForScaleDown plane order outdated = .ok machine)
    (newest : plane.machines.newest = some machine) : NewestAlone plane outdated machine := by
  obtain ⟨candidate, domain, oldest⟩ := machineInFailureDomain_spec selected
  have eligible := (mem_candidates_iff among).mp candidate
  have unique : ∀ other ∈ candidatesForScaleDown plane outdated,
      byCreationTimestamp machine ≤ byCreationTimestamp other → other = machine := by
    intro other otherCandidate older
    have mem := ((mem_candidates_iff among).mp otherCandidate).present
    exact Machines.eq_of_byCreationTimestamp mem eligible.present
      (le_antisymm (Machines.le_newest newest mem) older)
  obtain ⟨found, foundCandidate, chosen, cases⟩ := failureDomainWithMostMachines_spec plane order candidate
  obtain rfl : found = machine := by
    have same := domain.trans chosen
    exact unique found foundCandidate (oldest found foundCandidate same.symm)
  refine ⟨newest, eligible, ?_⟩
  rcases cases with ⟨outside, first⟩ | inside
  · refine .inl ⟨outside, fun other otherEligible differs => ?_⟩
    have otherCandidate := (mem_candidates_iff among).mpr otherEligible
    by_contra otherOutside
    exact differs (unique other otherCandidate (first other otherCandidate (by simpa using otherOutside)))
  · refine .inr ⟨(inside found candidate).1, fun other otherEligible differs => ?_⟩
    have otherCandidate := (mem_candidates_iff among).mpr otherEligible
    refine ⟨(inside other otherCandidate).1, fun same => ?_, (inside other otherCandidate).2⟩
    exact differs (unique other otherCandidate (oldest other otherCandidate same))

omit among in
theorem oldest_of_only {machines : Machines} (mem : machine ∈ machines)
    (only : ∀ other ∈ machines, other = machine) : machines.oldest = some machine := by
  obtain ⟨oldest, picked⟩ := Machines.exists_oldest mem
  rw [picked, only oldest (Machines.oldest_mem picked)]

omit among in
theorem selected_of_domain {order : DomainOrder} (candidate : machine ∈ candidatesForScaleDown plane outdated)
    (only : ∀ other ∈ candidatesForScaleDown plane outdated, other.failureDomain = machine.failureDomain →
      other = machine)
    (chosen : plane.failureDomainWithMostMachines order (candidatesForScaleDown plane outdated) =
      machine.failureDomain) : selectMachineForScaleDown plane order outdated = .ok machine := by
  have picked : ((candidatesForScaleDown plane outdated).filter
      (inFailureDomains [machine.failureDomain])).oldest = some machine := by
    apply oldest_of_only
    · exact mem_filter.mpr ⟨candidate, inFailureDomains_single.mpr rfl⟩
    · intro other mem
      obtain ⟨otherCandidate, same⟩ := mem_filter.mp mem
      exact only other otherCandidate (inFailureDomains_single.mp same)
  simp only [selectMachineForScaleDown, ControlPlane.machineInFailureDomainWithMostMachines, chosen, picked]

omit among in
theorem selected_outside (candidate : machine ∈ candidatesForScaleDown plane outdated)
    (outside : inControlPlaneDomains plane machine = false)
    (others : ∀ other ∈ candidatesForScaleDown plane outdated, other ≠ machine →
      inControlPlaneDomains plane other = true) (order : DomainOrder) :
    selectMachineForScaleDown plane order outdated = .ok machine := by
  refine selected_of_domain candidate (fun other otherCandidate same => ?_) ?_
  · by_contra differs
    have conflict := others other otherCandidate differs
    rw [inControlPlaneDomains_congr same, outside] at conflict
    simp at conflict
  · have first : ((candidatesForScaleDown plane outdated).filter
        (!inControlPlaneDomains plane ·)).oldest = some machine := by
      apply oldest_of_only
      · exact mem_filter.mpr ⟨candidate, by simpa using outside⟩
      · intro other mem
        obtain ⟨otherCandidate, otherOutside⟩ := mem_filter.mp mem
        by_contra differs
        simp [others other otherCandidate differs] at otherOutside
    unfold inControlPlaneDomains at first
    simp only [ControlPlane.failureDomainWithMostMachines, first]

omit among in
/-- Of domains with equal counts any can be chosen. -/
theorem exists_chosen_domain {machines : Machines} (present : machine ∈ machines)
    (most : ∀ other ∈ machines, inControlPlaneDomains plane other = true ∧
      domainSize plane other.failureDomain ≤ domainSize plane machine.failureDomain) :
    ∃ order, plane.failureDomainWithMostMachines order machines = machine.failureDomain := by
  obtain ⟨id, same, listed⟩ := mem_pick (most machine present).1
  have none : (machines.filter (!inControlPlaneDomains plane ·)).oldest = none := by
    cases picked : (machines.filter (!inControlPlaneDomains plane ·)).oldest with
    | none => rfl
    | some other =>
      obtain ⟨otherPresent, outside⟩ := mem_filter.mp (Machines.oldest_mem picked)
      simp [(most other otherPresent).1] at outside
  unfold inControlPlaneDomains at none
  refine ⟨{ (default : DomainOrder) with
    descending := Sorting.preferring _ ⟨id, domainSize plane (some id)⟩ }, ?_⟩
  simp only [ControlPlane.failureDomainWithMostMachines, none, pickMost]
  rw [Sorting.preferring_find? listed]
  · exact same.symm
  · exact any_eq_true.mpr ⟨machine, present, by simp [same]⟩
  · intro domain mem occupied
    obtain ⟨other, otherPresent, is⟩ := any_eq_true.mp occupied
    have size := eq_of_mem_pick mem
    have larger := (most other otherPresent).2
    rw [same, beq_iff_eq.mp is] at larger
    simp only [size]
    omega

theorem exists_selected
    (alone : NewestAlone plane outdated machine) :
    ∃ order, selectMachineForScaleDown plane order outdated = .ok machine := by
  have candidate := (mem_candidates_iff among).mpr alone.eligible
  rcases alone.alone with ⟨outside, others⟩ | ⟨inside, others⟩
  · exact ⟨default, selected_outside candidate outside
      (fun other otherCandidate => others other ((mem_candidates_iff among).mp otherCandidate)) default⟩
  · have most : ∀ other ∈ candidatesForScaleDown plane outdated,
        inControlPlaneDomains plane other = true ∧
          domainSize plane other.failureDomain ≤ domainSize plane machine.failureDomain := by
      intro other otherCandidate
      by_cases is : other = machine
      · rw [is]
        exact ⟨inside, le_rfl⟩
      · have apart := others other ((mem_candidates_iff among).mp otherCandidate) is
        exact ⟨apart.1, apart.2.2⟩
    obtain ⟨order, chosen⟩ := exists_chosen_domain candidate most
    refine ⟨order, selected_of_domain candidate (fun other otherCandidate same => ?_) chosen⟩
    by_contra differs
    exact (others other ((mem_candidates_iff among).mp otherCandidate) differs).2.1 same

end Newest

private def placed (name : String) (age : Time) (domain : Option String) : Machine :=
  { (default : Machine) with name := name, creationTimestamp := age, failureDomain := domain }

private def partlyOutside : ControlPlane where
  ocnecp := default
  cluster := { (default : Cluster) with failureDomains := ⟨[("east", true), ("west", false)], by decide⟩ }
  machines := ⟨[placed "a" 2 (some "east"), placed "b" 1 (some "gone"), placed "c" 3 (some "gone")], by decide⟩
  reconciliationTime := 0
  ocneConfigs _ := none
  infraResources _ := none

theorem outsider_chosen : 0 < partlyOutside.machines.len ∧ ∃ chosen ∈ partlyOutside.machines,
    partlyOutside.machineInFailureDomainWithMostMachines default partlyOutside.machines = .ok chosen ∧
      chosen.failureDomain = some "gone" := by
  have nonempty : 0 < partlyOutside.machines.len := by decide
  have gone : ∀ machine ∈ partlyOutside.machines, inControlPlaneDomains partlyOutside machine = false →
      machine.failureDomain = some "gone" := by decide
  obtain ⟨chosen, present, success, _, outside, _⟩ :=
    oldest_of_domain_chosen partlyOutside default partlyOutside.machines nonempty
  obtain ⟨oldest, isOldest, isOutside, _, same⟩ := outside (by decide)
  exact ⟨nonempty, chosen, present, success, same.trans (gone oldest isOldest isOutside)⟩

end OcneProvider.Controller.Selection
