import OcneProvider.Controller.Aggregation
import OcneProvider.Controller.Clusters
import OcneProvider.Controller.EtcdScan

/-! When the condition of the etcd cluster is true, and when that is unfounded: no list of members
was obtained, or a machine is being deleted. -/

namespace OcneProvider.Controller.EtcdHealth
open Api.Meta Api.Conditions Api.Objects Collections Calls Plane Health Aggregation Mild EtcdScan Etcd.Workload
open Effects.Answers List

variable {list : List Member} {plane : ControlPlane}

variable (given : (call : Call) → call.Answer) (machines : Machines)

section Sums

@[mk_iff passing_def]
structure Passing (standings : List (Option (ConditionStatus × ConditionSeverity))) (previous : Bool) : Prop where
  clear : some (.False, .Error) ∉ standings ∧ some (.False, .Warning) ∉ standings
  favoured : (∃ severity, some (.True, severity) ∈ standings) ∨
    (∀ severity, some (.Unknown, severity) ∉ standings) ∧ previous = true

theorem told_iff_mem_standings {machines : Machines} {errors : List String} (how : ConditionStatus × ConditionSeverity) :
    Told machines (etcdClusterInput errors) how ↔
      some how ∈ machines.items.map standing ∨ how = (.False, .Error) ∧ errors ≠ [] := by
  simp [Told, Reports, etcdClusterInput, standing]
  rfl

theorem etcdCluster_isTrue_iff (now : Time) (errors : List String) (conditions : ConditionList) :
    isTrue (aggregateFromMachinesToKCP now machines (etcdClusterInput errors) conditions) etcdClusterHealthyCondition =
      true ↔ errors = [] ∧ Passing (machines.items.map standing) (isTrue conditions etcdClusterHealthyCondition) := by
  have sum : isTrue (aggregateFromMachinesToKCP now machines (etcdClusterInput errors) conditions)
    etcdClusterHealthyCondition = _ := isTrue_aggregate machines (etcdClusterInput errors) now conditions
  classical
  simp only [sum, sumState, passing_def, told_iff_mem_standings]
  generalize machines.items.map standing = standings
  split_ifs <;> grind [etcdClusterInput]

end Sums

section Conclusion

variable (nodes : List String)

def expectedMembers : List Member := (firstAnswer given machines nodes).getD []

def sharedID : Option Nat := firstID given machines (expectedMembers given machines nodes) nodes

def told (machine : Machine) : Option (ConditionStatus × ConditionSeverity) :=
  ((reported given machines (expectedMembers given machines nodes) (sharedID given machines nodes) nodes machine).map
    state).or (standing machine)

/-- Every machine with a node has a member, and every member a machine. -/
structure Matched (list : List Member) : Prop where
  listed : ∀ machine ∈ machines, isListed list machine = true
  owned : ∀ member ∈ list, machines.items.any (hasNode member.name) = true

variable {given machines nodes} {found : Inspection}

theorem scanned_told (scanned : Scanned given machines nodes ⟨machines, [], none, none⟩ found) :
    found.members = firstAnswer given machines nodes ∧ (found.ocnecpErrors = [] ↔ AllOwned machines nodes) ∧
      Alike machines found.machines ∧ found.machines.items.map standing = machines.items.map (told given machines nodes) := by
  have members : found.members = firstAnswer given machines nodes := by simpa using scanned.members
  have known : ∀ list, found.members = some list → expectedMembers given machines nodes = list := by
    intro list isList
    rw [expectedMembers, ← members, isList]
    rfl
  have clusterID := scanned.clusterID _ known
  refine ⟨members, by simpa using scanned.errors, scanned.alike, ?_⟩
  obtain ⟨change, items, changed⟩ := scanned.machines _ none known
  rw [items, map_map]
  refine map_congr_left fun machine mem => ?_
  rw [Function.comp_apply, (changed machine mem).2, clusterID]
  simp [told, sharedID]

theorem Matched.alike {others : Machines} (alike : Alike machines others) :
    Matched others list ↔ Matched machines list := by
  have ignores : ∀ present : Machines, Matched present list ↔
      (∀ machine ∈ present.items.map bare, isListed list machine = true) ∧
        ∀ member ∈ list, (present.items.map bare).any (hasNode member.name) = true := by
    intro present
    rw [forall_mem_map]
    simp only [any_map]
    exact ⟨fun matched => ⟨matched.listed, matched.owned⟩, fun ⟨mem, owned⟩ => ⟨mem, owned⟩⟩
  rw [ignores, ignores, alike]

theorem standings_compare (now : Time) (known : found.members = some list) :
    (compareMachinesAndMembers now found).1.items.map standing = found.machines.items.map fun machine =>
      if isListed list machine then standing machine else some (.False, .Error) := by
  simp only [compareMachinesAndMembers, known, Machines.modify, map_map]
  refine map_congr_left fun machine _ => ?_
  rw [Function.comp_apply]
  split
  · rfl
  · exact standing_set now machine rfl

theorem compare_isTrue_iff (found : Inspection) (now : Time) (conditions : ConditionList) :
    isTrue (aggregateFromMachinesToKCP now (compareMachinesAndMembers now found).1
        (etcdClusterInput (compareMachinesAndMembers now found).2) conditions) etcdClusterHealthyCondition = true ↔
      found.ocnecpErrors = [] ∧ (∀ list, found.members = some list → Matched found.machines list) ∧
      Passing (found.machines.items.map standing) (isTrue conditions etcdClusterHealthyCondition) := by
  rw [etcdCluster_isTrue_iff]
  cases known : found.members with
  | none => simp [compareMachinesAndMembers, known]
  | some list =>
    rw [standings_compare now known]
    have errors : (compareMachinesAndMembers now found).2 = [] ↔ found.ocnecpErrors = [] ∧
        ∀ member ∈ list, found.machines.items.any (hasNode member.name) = true := by
      simp [compareMachinesAndMembers, known, filter_eq_nil_iff]
    rw [errors]
    by_cases mem : ∀ machine ∈ found.machines, isListed list machine = true
    · have same : (found.machines.items.map fun machine =>
          if isListed list machine then standing machine else some (.False, .Error)) =
          found.machines.items.map standing :=
        map_congr_left fun machine member => if_pos (mem machine member)
      rw [same, and_assoc]
      refine and_congr_right fun _ => and_congr_left fun _ => ?_
      exact ⟨fun owned other isList => by cases isList; exact ⟨mem, owned⟩, fun matched => (matched list rfl).owned⟩
    · have unlisted : some (.False, .Error) ∈ found.machines.items.map fun machine =>
          if isListed list machine then standing machine else some (.False, .Error) := by
        obtain ⟨machine, missing⟩ := not_forall.mp mem
        obtain ⟨member, missing⟩ := Classical.not_imp.mp missing
        exact mem_map.mpr ⟨machine, member, if_neg missing⟩
      constructor
      · exact fun found => absurd unlisted found.2.clear.1
      · exact fun found => absurd (found.2.1 list rfl).listed mem

theorem conclude_isTrue_iff
    (scanned : Scanned given plane.machines nodes ⟨plane.machines, [], none, none⟩ found) :
    isTrue (concludeInspection plane found).ocnecp.conditions etcdClusterHealthyCondition = true ↔
      AllOwned plane.machines nodes ∧
      (∀ list, firstAnswer given plane.machines nodes = some list → Matched plane.machines list) ∧
      Passing (plane.machines.items.map (told given plane.machines nodes))
        (isTrue plane.ocnecp.conditions etcdClusterHealthyCondition) := by
  obtain ⟨members, errors, alike, standings⟩ := scanned_told scanned
  have sum := compare_isTrue_iff found plane.reconciliationTime plane.ocnecp.conditions
  rw [errors, members, standings] at sum
  simp only [Matched.alike alike] at sum
  exact sum

theorem result_updateManagedEtcdConditions {found : List Node} (mem : result given getControlPlaneNodes = .ok found) :
    result given (updateManagedEtcdConditions plane) =
      ((found.map Node.name).foldlM (fun found nodeName =>
        result given (inspectNode plane.reconciliationTime found nodeName))
        ⟨plane.machines, [], none, none⟩).map (concludeInspection plane) := by
  unfold updateManagedEtcdConditions
  rw [result_bind, result_attempt, mem]
  change result given ((found.map Node.name).foldlM (inspectNode plane.reconciliationTime) _ >>=
    fun found => (pure (concludeInspection plane found) : Api ControlPlane)) = _
  rw [result_bind, result_foldlM]
  rfl

abbrev Concluded (given : (call : Call) → call.Answer) (controlPlane : ControlPlane) (nodes : List Node)
    (found : Inspection) : Prop :=
  Scanned given controlPlane.machines (nodes.map Node.name) ⟨controlPlane.machines, [], none, none⟩ found

theorem concluded_of_result {after : ControlPlane} {nodes : List Node}
    (mem : result given getControlPlaneNodes = .ok nodes)
    (gave : result given (updateManagedEtcdConditions plane) = .ok after) :
    ∃ found, Concluded given plane nodes found ∧ after = concludeInspection plane found := by
  rw [result_updateManagedEtcdConditions mem] at gave
  cases inspected : (nodes.map Node.name).foldlM (fun found nodeName =>
      result given (inspectNode plane.reconciliationTime found nodeName))
      ⟨plane.machines, [], none, none⟩ with
  | error error => rw [inspected] at gave; cases gave
  | ok found =>
    rw [inspected] at gave
    cases gave
    exact ⟨found, scanned_nodes (Alike.refl plane.machines) inspected, rfl⟩

/-- The inspection ends unless a member that agrees with the list is not in it, whatever conditions there are. -/
theorem exists_concluded {nodes : List Node}
    (mem : result given getControlPlaneNodes = .ok nodes) (alike : Alike machines plane.machines)
    (named : AllNamed given machines (expectedMembers given machines (nodes.map Node.name)) (nodes.map Node.name)) :
    ∃ found, Scanned given machines (nodes.map Node.name) ⟨plane.machines, [], none, none⟩ found ∧
      result given (updateManagedEtcdConditions plane) = .ok (concludeInspection plane found) := by
  have expected : ∀ list, (Inspection.mk plane.machines [] none none).members.or
      (firstAnswer given machines (nodes.map Node.name)) = some list →
      AllNamed given machines list (nodes.map Node.name) := by
    intro list isFirst
    rw [Option.none_or] at isFirst
    rwa [expectedMembers, isFirst] at named
  have start : Alike machines (Inspection.mk plane.machines [] none none).machines := alike
  obtain ⟨found, inspected⟩ := exists_scan start plane.reconciliationTime expected
  refine ⟨found, scanned_nodes start inspected, ?_⟩
  rw [result_updateManagedEtcdConditions mem, inspected]
  rfl

theorem allNamed_of_scanned (scanned : Scanned given machines nodes ⟨machines, [], none, none⟩ found) :
    AllNamed given machines (expectedMembers given machines nodes) nodes := by
  refine scanned.named _ fun list known => ?_
  rw [(scanned_told scanned).1] at known
  rw [expectedMembers, known]
  rfl

/-- A list of members was obtained that names the nodes of the machines, and none of these is being deleted. -/
def Sound (given : (call : Call) → call.Answer) (machines : Machines) : Prop :=
  ∃ nodes, result given getControlPlaneNodes = .ok nodes ∧ ∃ node ∈ nodes, ∃ list,
    answerOf given machines node.name = some list ∧
    (∀ member ∈ list, ∃ machine ∈ machines, machine.nodeRef = some member.name) ∧
    ∀ machine ∈ machines, ∀ nodeName, machine.nodeRef = some nodeName →
      (∃ member ∈ list, member.name = nodeName) ∧ machine.deletionTimestamp = none

section Standings

variable (given) (machines) (nodes)

/-- The node's list of members has the names of the first one, the node among them without alarms, and the first
cluster id. -/
def Agreeing (nodeName : String) : Prop :=
  ∃ current member, asked given nodeName = .ok current ∧
    memberEqual (expectedMembers given machines nodes) current = true ∧ memberForName current nodeName = some member ∧
    alarmTexts member = [] ∧ ∀ known ∈ sharedID given machines nodes, known = member.clusterID

open Classical in
/-- How the machine of a node stands, by the answers of the node. -/
noncomputable def stood (machine : Machine) (nodeName : String) : ConditionStatus × ConditionSeverity :=
  if hasDeletionTimestamp machine then (.False, .Info)
  else if Unreachable given nodeName then (.Unknown, .None)
  else if Agreeing given machines nodes nodeName then (.True, .None)
  else (.False, .Error)

variable {given machines nodes} {machine : Machine} {nodeName : String}

theorem told_unvisited (unvisited : visited machines nodes machine = false) :
    told given machines nodes machine = standing machine := by
  simp [told, reported, unvisited]

theorem visited_or (mem : machine ∈ machines) :
    visited machines nodes machine = false ∨ ∃ nodeName ∈ nodes, machineOn machines nodeName = some machine := by
  cases visits : visited machines nodes machine with
  | false => exact .inl rfl
  | true =>
    obtain ⟨nodeName, here, isOn⟩ := any_eq_true.mp visits
    obtain ⟨other, found, same⟩ := Option.any_eq_true _ _ |>.mp isOn
    obtain rfl : other = machine := Machines.eq_of_name (machineOn_mem found).1 mem (by simpa using same)
    exact .inr ⟨nodeName, here, found⟩

theorem agreeing_iff {current : List Member} {member : Member} (same : asked given nodeName = .ok current)
    (equal : memberEqual (expectedMembers given machines nodes) current = true)
    (isMember : memberForName current nodeName = some member) : Agreeing given machines nodes nodeName ↔
      alarmTexts member = [] ∧ (sharedID given machines nodes).getD member.clusterID = member.clusterID := by
  unfold Agreeing
  cases sharedID given machines nodes <;> simp [same, equal, isMember]

variable (named : AllNamed given machines (expectedMembers given machines nodes) nodes)
include named

theorem told_eq_stood
    (here : nodeName ∈ nodes) (found : machineOn machines nodeName = some machine) :
    told given machines nodes machine = some (stood given machines nodes machine nodeName) := by
  have visits : visited machines nodes machine = true := any_eq_true.mpr ⟨nodeName, here, by simp [found]⟩
  simp only [told, reported, visits, if_true, (machineOn_mem found).2, Option.bind_some, verdict, stood]
  cases deletion : hasDeletionTimestamp machine with
  | true => rfl
  | false =>
    rcases asked_cases given nodeName with ⟨lost, message, same⟩ | ⟨reached, ⟨message, same⟩ | ⟨current, same⟩⟩
    · simp [same, lost, state, memberInspectionFailed, unknownCondition]
    · simp [same, reached, Agreeing, state, memberUnhealthy, falseCondition]
    · have isAnswer : answerOf given machines nodeName = some current := by
        simp [answerOf, found, deletion, same, Except.toOption]
      simp only [same, reached, Bool.false_eq_true, if_false]
      cases equal : memberEqual (expectedMembers given machines nodes) current with
      | false =>
        obtain ⟨message, unequal⟩ := inspectMember_unequal equal nodeName
        simp [unequal, Agreeing, same, equal, Except.map, Except.toOption, state, memberUnhealthy, falseCondition]
      | true =>
        obtain ⟨member, isMember⟩ := Option.isSome_iff_exists.mp (named nodeName here current isAnswer equal)
        rw [inspectMember_named equal isMember, agreeing_iff same equal isMember]
        by_cases calm : alarmTexts member = []
        · by_cases alike : (sharedID given machines nodes).getD member.clusterID = member.clusterID
          · simp [calm, alike, Except.map, Except.toOption, state, memberHealthy, trueCondition]
          · simp [calm, alike, Except.map, Except.toOption, state, memberUnhealthy, falseCondition]
        · simp [calm, Except.map, Except.toOption, state, memberUnhealthy, falseCondition]

theorem mem_told
    {how : Option (ConditionStatus × ConditionSeverity)} : how ∈ machines.items.map (told given machines nodes) ↔
      (∃ nodeName ∈ nodes, ∃ machine, machineOn machines nodeName = some machine ∧
        some (stood given machines nodes machine nodeName) = how) ∨
      ∃ machine ∈ machines, visited machines nodes machine = false ∧ standing machine = how := by
  rw [mem_map]
  constructor
  · rintro ⟨machine, mem, rfl⟩
    rcases visited_or mem with unvisited | ⟨nodeName, here, found⟩
    · exact .inr ⟨machine, mem, unvisited, (told_unvisited unvisited).symm⟩
    · exact .inl ⟨nodeName, here, machine, found, (told_eq_stood named here found).symm⟩
  · rintro (⟨nodeName, here, machine, found, rfl⟩ | ⟨machine, mem, unvisited, rfl⟩)
    · exact ⟨machine, (machineOn_mem found).1, told_eq_stood named here found⟩
    · exact ⟨machine, mem, told_unvisited unvisited⟩

end Standings

/-- No machine is faulted, and the condition becomes true or stays so. -/
structure Undisputed (given : (call : Call) → call.Answer) (machines : Machines) (nodes : List String)
    (previous : Bool) : Prop where
  agreed : ∀ nodeName ∈ nodes, ∀ machine, machineOn machines nodeName = some machine →
    hasDeletionTimestamp machine = false → Unreachable given nodeName ∨ Agreeing given machines nodes nodeName
  calm : ∀ machine ∈ machines, visited machines nodes machine = false →
    standing machine ≠ some (.False, .Error) ∧ standing machine ≠ some (.False, .Warning)
  favoured : (∃ nodeName ∈ nodes, ∃ machine, machineOn machines nodeName = some machine ∧
      hasDeletionTimestamp machine = false ∧ Agreeing given machines nodes nodeName) ∨
    (∃ machine ∈ machines, visited machines nodes machine = false ∧ ∃ severity, standing machine = some (.True, severity)) ∨
    (∀ nodeName ∈ nodes, ∀ machine, machineOn machines nodeName = some machine →
      hasDeletionTimestamp machine = false → ¬ Unreachable given nodeName) ∧
      (∀ machine ∈ machines, visited machines nodes machine = false →
        ∀ severity, standing machine ≠ some (.Unknown, severity)) ∧ previous = true

theorem Agreeing.reached {nodeName : String} (agrees : Agreeing given machines nodes nodeName) :
    ¬ Unreachable given nodeName := by
  obtain ⟨current, _, same, _⟩ := agrees
  rcases asked_cases given nodeName with ⟨_, message, failed⟩ | ⟨reached, _⟩
  · cases same.symm.trans failed
  · exact reached

theorem Undisputed.named {previous : Bool} (undisputed : Undisputed given machines nodes previous) :
    AllNamed given machines (expectedMembers given machines nodes) nodes := by
  intro nodeName here current answered equal
  cases found : machineOn machines nodeName with
  | none => simp [answerOf, found] at answered
  | some machine =>
    cases staying : hasDeletionTimestamp machine with
    | true => simp [answerOf, found, staying] at answered
    | false =>
      simp only [answerOf, found, staying, Bool.false_eq_true, if_false] at answered
      rcases undisputed.agreed nodeName here machine found staying with lost | ⟨_, member, same, _, isMember, _⟩
      · rcases asked_cases given nodeName with ⟨_, message, failed⟩ | ⟨reached, _⟩
        · simp [failed, Except.toOption] at answered
        · exact absurd lost reached
      · obtain rfl : _ = current := by simpa [same, Except.toOption] using answered
        simp [isMember]

theorem stood_eq_iff {machine : Machine} {nodeName : String} {how : ConditionStatus × ConditionSeverity} :
    stood given machines nodes machine nodeName = how ↔
      hasDeletionTimestamp machine = true ∧ (.False, .Info) = how ∨ hasDeletionTimestamp machine = false ∧
        (Unreachable given nodeName ∧ (.Unknown, .None) = how ∨ ¬ Unreachable given nodeName ∧
          (Agreeing given machines nodes nodeName ∧ (.True, .None) = how ∨
            ¬ Agreeing given machines nodes nodeName ∧ (.False, .Error) = how)) := by
  unfold stood
  split_ifs <;> simp_all

theorem passing_iff {previous : Bool} (named : AllNamed given machines (expectedMembers given machines nodes) nodes) :
    Passing (machines.items.map (told given machines nodes)) previous ↔ Undisputed given machines nodes previous := by
  constructor
  · rintro ⟨⟨noErrors, noWarnings⟩, favoured⟩
    simp only [mem_told named, Option.some.injEq, stood_eq_iff, Prod.mk.injEq, reduceCtorEq, false_and, and_false,
      true_and, and_true, false_or, or_false] at noErrors noWarnings favoured
    constructor
    case agreed => grind
    case calm => grind
    case favoured =>
      rcases favoured with ⟨severity, ⟨nodeName, here, machine, found, staying, _, agrees, _⟩ |
        ⟨machine, mem, unvisited, same⟩⟩ | ⟨unknown, previous⟩
      · exact .inl ⟨nodeName, here, machine, found, staying, agrees⟩
      · exact .inr (.inl ⟨machine, mem, unvisited, severity, same⟩)
      · refine .inr (.inr ⟨fun nodeName here machine found staying lost => ?_, fun machine mem unvisited severity same => ?_,
          previous⟩)
        · exact unknown .None (.inl ⟨nodeName, here, machine, found, staying, lost, rfl⟩)
        · exact unknown severity (.inr ⟨machine, mem, unvisited, same⟩)
  · rintro ⟨agreed, calm, favoured⟩
    constructor <;> simp only [mem_told named, Option.some.injEq, stood_eq_iff, Prod.mk.injEq, reduceCtorEq, false_and,
      and_false, true_and, and_true, false_or, or_false]
    case clear => grind
    case favoured =>
      rcases favoured with ⟨nodeName, here, machine, found, staying, agrees⟩ |
        ⟨machine, mem, unvisited, severity, same⟩ | ⟨reached, known, previous⟩
      · exact .inl ⟨.None, .inl ⟨nodeName, here, machine, found, staying, agrees.reached, agrees, rfl⟩⟩
      · exact .inl ⟨severity, .inr ⟨machine, mem, unvisited, same⟩⟩
      · refine .inr ⟨?_, previous⟩
        rintro severity (⟨nodeName, here, machine, found, staying, lost, _⟩ | ⟨machine, mem, unvisited, same⟩)
        · exact reached nodeName here machine found staying lost
        · exact known machine mem unvisited severity same

/-- Nothing wrong is found, although no list was obtained or a machine with a node is being deleted. -/
structure Misled (given : (call : Call) → call.Answer) (controlPlane : ControlPlane) (nodes : List String) : Prop where
  owned : AllOwned controlPlane.machines nodes
  matched : ∀ list, firstAnswer given controlPlane.machines nodes = some list → Matched controlPlane.machines list
  undisputed : Undisputed given controlPlane.machines nodes
    (isTrue controlPlane.ocnecp.conditions etcdClusterHealthyCondition)
  flawed : firstAnswer given controlPlane.machines nodes = none ∨
    ∃ machine ∈ controlPlane.machines, machine.nodeRef.isSome = true ∧ machine.deletionTimestamp.isSome = true

theorem Misled.not_sound {nodes : List Node}
    (misled : Misled given plane (nodes.map Node.name)) (mem : result given getControlPlaneNodes = .ok nodes) :
    ¬ Sound given plane.machines := by
  rintro ⟨others, listedToo, node, present, list, answered, _, staying⟩
  cases mem.symm.trans listedToo
  rcases misled.flawed with unanswered | ⟨machine, member, hasNode, deleting⟩
  · have none := findSome?_eq_none_iff.mp unanswered node.name (mem_map_of_mem present)
    cases none.symm.trans answered
  · obtain ⟨nodeName, isNode⟩ := Option.isSome_iff_exists.mp hasNode
    rw [(staying machine member nodeName isNode).2] at deleting
    cases deleting

theorem sound_of_matched {nodes : List Node} (mem : result given getControlPlaneNodes = .ok nodes) (answered : firstAnswer given machines (nodes.map Node.name) = some list)
    (matched : Matched machines list) (staying : ∀ machine ∈ machines, machine.nodeRef.isSome = true →
      machine.deletionTimestamp = none) : Sound given machines := by
  obtain ⟨nodeName, present, isAnswer⟩ := exists_of_findSome?_eq_some answered
  obtain ⟨node, member, rfl⟩ := mem_map.mp present
  refine ⟨nodes, mem, node, member, list, isAnswer, fun member inList => ?_, fun machine inMachines nodeName isNode => ?_⟩
  · obtain ⟨machine, inMachines, named⟩ := any_eq_true.mp (matched.owned member inList)
    exact ⟨machine, inMachines, by simpa [hasNode] using named⟩
  · have isMember := matched.listed machine inMachines
    simp only [isListed, isNode, Option.all_some, any_eq_true, beq_iff_eq] at isMember
    exact ⟨isMember, staying machine inMachines (by rw [isNode]; rfl)⟩

/-- The condition of the etcd cluster is sound unless the inspection is misled. -/
theorem etcdClusterHealthy_sound_iff (given : (call : Call) → call.Answer) (plane : ControlPlane) :
    (∀ after, result given (updateManagedEtcdConditions plane) = .ok after →
      isTrue after.ocnecp.conditions etcdClusterHealthyCondition = true → Sound given plane.machines) ↔
    ¬ ∃ nodes, result given getControlPlaneNodes = .ok nodes ∧ Misled given plane (nodes.map Node.name) := by
  constructor
  · rintro sound ⟨nodes, listed, misled⟩
    have named := misled.undisputed.named
    obtain ⟨found, concluded, returned⟩ := exists_concluded listed (Alike.refl _) named
    have healthy := (conclude_isTrue_iff concluded).mpr
      ⟨misled.owned, misled.matched, (passing_iff named).mpr misled.undisputed⟩
    exact misled.not_sound listed (sound _ returned healthy)
  · intro unmisled after returned healthy
    cases listed : result given getControlPlaneNodes with
    | error error =>
      simp only [updateManagedEtcdConditions, result_bind, result_attempt, listed] at returned
      cases returned
      cases (hasStatus_set _ _ _ .True).symm.trans healthy
    | ok nodes =>
      obtain ⟨found, concluded, rfl⟩ := concluded_of_result listed returned
      obtain ⟨owned, matched, passing⟩ := (conclude_isTrue_iff concluded).mp healthy
      by_contra unsound
      refine unmisled ⟨nodes, listed, owned, matched, (passing_iff (allNamed_of_scanned concluded)).mp passing, ?_⟩
      cases answered : firstAnswer given plane.machines (nodes.map Node.name) with
      | none => exact .inl rfl
      | some list =>
        right
        by_contra staying
        refine unsound (sound_of_matched listed answered (matched list answered) fun machine member isNode => ?_)
        by_contra deleting
        exact staying ⟨machine, member, isNode, Option.isSome_iff_ne_none.mpr deleting⟩

end Conclusion

private def named (name : String) : Node := ⟨name, ∅, [], []⟩

private def answering (nodes : List String) (reachable : Bool) (members : List PbMember) : (call : Call) → call.Answer
  | .listNodes label => if label = labelNodeRoleControlPlane then .ok (nodes.map named) else .ok []
  | .newEtcdClient node => if reachable then .ok ⟨node, 0, []⟩ else .error (errorf "unreachable")
  | .memberList _ => .ok (0, members)
  | call => Clusters.plainly call

private def linked (name node : String) (deletion : Option Time) (conditions : ConditionList) : Machine :=
  { (default : Machine) with
    name := name, nodeRef := some node, deletionTimestamp := deletion, conditions := conditions }

private def owning (machines : Machines) : ControlPlane where
  ocnecp := default
  cluster := default
  machines := machines
  reconciliationTime := 0
  ocneConfigs _ := none
  infraResources _ := none

private def oneDeleting : ControlPlane :=
  owning ⟨[linked "a" "x" none [], linked "b" "y" (some 0) []], by decide⟩

private def oneStale : ControlPlane :=
  owning ⟨[linked "a" "x" none [], linked "b" "y" none [memberHealthy]], by decide⟩

/-- The condition is true while a machine is being deleted, and without any list if a machine that is not inspected
was healthy. -/
theorem etcdClusterHealthy_unsound :
    (∃ given plane after, result given (updateManagedEtcdConditions plane) = .ok after ∧
      isTrue after.ocnecp.conditions etcdClusterHealthyCondition = true ∧
      (∃ machine ∈ plane.machines, machine.nodeRef = some "y" ∧ machine.deletionTimestamp.isSome = true) ∧
      ¬ Sound given plane.machines) ∧
    ∃ given plane after, result given (updateManagedEtcdConditions plane) = .ok after ∧
      isTrue after.ocnecp.conditions etcdClusterHealthyCondition = true ∧
      (∀ nodeName, answerOf given plane.machines nodeName = none) ∧ ¬ Sound given plane.machines := by
  have second : linked "b" "y" (some 0) [] ∈ oneDeleting.machines := mem_cons_of_mem _ mem_cons_self
  have silent : ∀ nodeName, answerOf (answering ["x"] false []) oneStale.machines nodeName = none := by
    intro nodeName
    have failed : ∃ condition, asked (answering ["x"] false []) nodeName = .error condition := ⟨_, rfl⟩
    obtain ⟨condition, failed⟩ := failed
    unfold answerOf
    cases machineOn oneStale.machines nodeName <;> simp [failed, Except.toOption]
  constructor
  · refine ⟨answering ["x", "y"] true [⟨1, "x"⟩, ⟨2, "y"⟩], oneDeleting, _, rfl, by decide, ⟨_, second, rfl, rfl⟩, ?_⟩
    rintro ⟨_, _, _, _, _, _, _, staying⟩
    cases (staying _ second "y" rfl).2
  · refine ⟨answering ["x"] false [], oneStale, _, rfl, by decide, silent, ?_⟩
    rintro ⟨_, _, node, _, list, answered, _⟩
    cases (silent node.name).symm.trans answered

end OcneProvider.Controller.EtcdHealth
