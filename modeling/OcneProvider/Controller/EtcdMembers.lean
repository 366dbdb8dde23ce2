import OcneProvider.Controller.EtcdHealth

/-! Whether the inspection of the etcd members comes to its end, and that every machine it looks at then has
its condition from this inspection. -/

namespace OcneProvider.Controller.EtcdMembers
open Api.Meta Api.Conditions Api.Objects Collections Calls Plane Health Mild EtcdScan EtcdHealth Etcd.Workload
open Effects.Answers

/-- The machine of a node, or every machine if the nodes cannot be listed. -/
def LookedAt (given : (call : Call) → call.Answer) (machines : Machines) (machine : Machine) : Prop :=
  ∀ nodes, result given getControlPlaneNodes = .ok nodes →
    ∃ node ∈ nodes, machineOn machines node.name = some machine

/-- What the condition is then does not depend on those before. -/
def SetByCall (given : (call : Call) → call.Answer) (controlPlane : ControlPlane) (machine : Machine) : Prop :=
  ∃ told, ∀ machines, Alike controlPlane.machines machines →
    ∃ after, result given (updateManagedEtcdConditions { controlPlane with machines := machines }) = .ok after ∧
      ∃ changed ∈ after.machines, changed.name = machine.name ∧ standing changed = some told

variable {given : (call : Call) → call.Answer} {machines others : Machines} {nodes : List String} {found : Inspection}

theorem exists_reported {expected : List Member} (clusterID : Option Nat) {machine : Machine} {nodeName : String}
    (named : AllNamed given machines expected nodes) (mem : nodeName ∈ nodes)
    (isMachine : machineOn machines nodeName = some machine) :
    ∃ condition, reported given machines expected clusterID nodes machine = some condition := by
  have visits : visited machines nodes machine = true :=
    List.any_eq_true.mpr ⟨nodeName, mem, by simp [isMachine]⟩
  rw [reported, if_pos visits, (machineOn_mem isMachine).2, Option.bind_some, verdict]
  split
  next => exact ⟨_, rfl⟩
  next staying =>
    cases answer : asked given nodeName with
    | error condition => exact ⟨condition, rfl⟩
    | ok current =>
      have isAnswer : answerOf given machines nodeName = some current := by
        simp [answerOf, isMachine, staying, answer, Except.toOption]
      obtain ⟨report, compared⟩ := exists_inspectMember clusterID (named nodeName mem current isAnswer)
      exact ⟨report.1, by simp [compared, Except.map, Except.toOption]⟩

def concluded (members : Option (List Member)) (machine : Machine) (told : ConditionStatus × ConditionSeverity) :
    ConditionStatus × ConditionSeverity :=
  match members with
  | none => told
  | some list => if isListed list machine then told else (.False, .Error)

theorem concluded_bare (members : Option (List Member)) (machine : Machine)
    (told : ConditionStatus × ConditionSeverity) :
    concluded members (bare machine) told = concluded members machine told := rfl

theorem reported_bare (expected : List Member) (clusterID : Option Nat) (machine : Machine) :
    reported given machines expected clusterID nodes (bare machine) =
      reported given machines expected clusterID nodes machine := rfl

variable {controlPlane : ControlPlane} (now : Time) {error : Err}

theorem exists_compared {machine : Machine} (mem : machine ∈ found.machines)
    {told : ConditionStatus × ConditionSeverity} (stands : standing machine = some told) :
    ∃ changed ∈ (compareMachinesAndMembers now found).1, changed.name = machine.name ∧
      standing changed = some (concluded found.members machine told) := by
  cases known : found.members with
  | none =>
    simp only [compareMachinesAndMembers, known]
    exact ⟨machine, mem, rfl, stands⟩
  | some list =>
    simp only [compareMachinesAndMembers, known, concluded]
    refine ⟨_, List.mem_map_of_mem mem, ?_⟩
    split
    · exact ⟨rfl, stands⟩
    · exact ⟨rfl, standing_set now machine rfl⟩

theorem exists_changed (scanned : Scanned given machines nodes ⟨others, [], none, none⟩ found)
    {expected : List Member} (known : ∀ list, found.members = some list → expected = list) {machine : Machine}
    (member : machine ∈ others) {condition : Condition}
    (reports : reported given machines expected found.clusterID nodes machine = some condition) :
    ∃ changed ∈ (compareMachinesAndMembers now found).1, changed.name = machine.name ∧
      standing changed = some (concluded found.members machine (state condition)) := by
  obtain ⟨change, items, changes⟩ := scanned.machines expected none known
  obtain ⟨same, stands⟩ := changes machine member
  rw [Option.or_none, reports, Option.map_some, Option.some_or] at stands
  have there : change machine ∈ found.machines := by
    change change machine ∈ found.machines.items
    rw [items]
    exact List.mem_map_of_mem member
  obtain ⟨changed, mem, name, told⟩ := exists_compared now there stands
  have sameName : (change machine).name = machine.name := by simpa [bare] using congrArg Machine.name same
  refine ⟨changed, mem, name.trans sameName, ?_⟩
  rw [told, ← concluded_bare, same, concluded_bare]

theorem setByCall_of_named {list : List Node}
    (mem : result given getControlPlaneNodes = .ok list) (named : AllNamed given controlPlane.machines
      (expectedMembers given controlPlane.machines (list.map Node.name)) (list.map Node.name))
    {machine : Machine} (lookedAt : LookedAt given controlPlane.machines machine) :
    SetByCall given controlPlane machine := by
  obtain ⟨node, present, isMachine⟩ := lookedAt list mem
  have member : machine ∈ controlPlane.machines := (machineOn_mem isMachine).1
  let expected := expectedMembers given controlPlane.machines (list.map Node.name)
  let clusterID := firstID given controlPlane.machines expected (list.map Node.name)
  obtain ⟨condition, reports⟩ := exists_reported clusterID named (List.mem_map_of_mem present) isMachine
  refine ⟨concluded (firstAnswer given controlPlane.machines (list.map Node.name)) machine (state condition), ?_⟩
  intro machines alike
  have start : Alike controlPlane.machines ({ controlPlane with machines := machines } : ControlPlane).machines := alike
  obtain ⟨found, scanned, gave⟩ := exists_concluded mem start named
  have members : found.members = firstAnswer given controlPlane.machines (list.map Node.name) := by
    simpa using scanned.members
  have known : ∀ other, found.members = some other → expected = other := by
    intro other isOther
    rw [members] at isOther
    simp only [expected, expectedMembers, isOther, Option.getD_some]
  have sameID : found.clusterID = clusterID := by simpa using scanned.clusterID expected known
  obtain ⟨counterpart, there, same⟩ := Alike.exists_mem (Eq.symm alike) member
  have alsoReports : reported given controlPlane.machines expected found.clusterID (list.map Node.name) counterpart =
      some condition := by
    rw [sameID, ← reported_bare, same, reported_bare]
    exact reports
  obtain ⟨changed, isChanged, name, told⟩ :=
    exists_changed controlPlane.reconciliationTime scanned known there alsoReports
  have sameName : counterpart.name = machine.name := by simpa [bare] using congrArg Machine.name same
  refine ⟨_, gave, changed, isChanged, name.trans sameName, ?_⟩
  rw [told, members, ← concluded_bare, same, concluded_bare]

theorem exists_unlisted (unlisted : result given getControlPlaneNodes = .error error) :
    ∃ after, result given (updateManagedEtcdConditions controlPlane) = .ok after ∧
      after.machines = setConditionOfAll controlPlane.reconciliationTime controlPlane.machines
        (memberInspectionFailed "Failed to get the node which is hosting the etcd member") := by
  simp only [updateManagedEtcdConditions, result_bind, result_attempt, unlisted]
  exact ⟨_, rfl, rfl⟩

theorem setByCall_of_unlisted (unlisted : result given getControlPlaneNodes = .error error) {machine : Machine}
    (mem : machine ∈ controlPlane.machines) : SetByCall given controlPlane machine := by
  refine ⟨(.Unknown, .None), fun machines alike => ?_⟩
  obtain ⟨counterpart, there, same⟩ := Alike.exists_mem (Eq.symm alike) mem
  have sameName : counterpart.name = machine.name := by simpa [bare] using congrArg Machine.name same
  obtain ⟨after, gave, written⟩ := exists_unlisted unlisted
  refine ⟨after, gave, ?_⟩
  rw [written]
  exact ⟨_, List.mem_map_of_mem there, sameName, standing_set _ counterpart rfl⟩

/-- The inspection ends, and sets the condition of every machine it looks at. -/
def Completes (given : (call : Call) → call.Answer) (controlPlane : ControlPlane) : Prop :=
  (∃ after, result given (updateManagedEtcdConditions controlPlane) = .ok after) ∧
    ∀ machine ∈ controlPlane.machines, LookedAt given controlPlane.machines machine →
      SetByCall given controlPlane machine

/-- The inspection ends unless a member lists the names of the first list and is not among them. -/
theorem inspection_completes_iff (given : (call : Call) → call.Answer) (controlPlane : ControlPlane) :
    Completes given controlPlane ↔ ∀ nodes, result given getControlPlaneNodes = .ok nodes →
      AllNamed given controlPlane.machines
        (expectedMembers given controlPlane.machines (nodes.map Node.name)) (nodes.map Node.name) := by
  constructor
  · rintro ⟨⟨after, returned⟩, -⟩ nodes listed
    obtain ⟨found, concluded, rfl⟩ := concluded_of_result listed returned
    exact allNamed_of_scanned concluded
  · intro named
    cases listed : result given getControlPlaneNodes with
    | error error =>
      obtain ⟨after, returned, -⟩ := exists_unlisted listed
      exact ⟨⟨after, returned⟩, fun machine member _ => setByCall_of_unlisted listed member⟩
    | ok nodes =>
      obtain ⟨found, -, returned⟩ := exists_concluded listed (Alike.refl _) (named nodes listed)
      refine ⟨⟨_, returned⟩, fun machine _ lookedAt => ?_⟩
      exact setByCall_of_named listed (named nodes listed) lookedAt

private def unnamedMember : (call : Call) → call.Answer
  | .listNodes label => if label = labelNodeRoleControlPlane then .ok [⟨"x", ∅, [], []⟩] else .ok []
  | .newEtcdClient node => .ok ⟨node, 0, []⟩
  | .memberList _ => .ok (0, [⟨1, ""⟩])
  | call => Clusters.plainly call

private def onlyMachine : ControlPlane where
  ocnecp := default
  cluster := default
  machines := ⟨[{ (default : Machine) with name := "a", nodeRef := some "x" }], by decide⟩
  reconciliationTime := 0
  ocneConfigs _ := none
  infraResources _ := none

/-- A member that is not in its own list is dereferenced all the same. -/
theorem unnamed_member_panics :
    result unnamedMember (updateManagedEtcdConditions onlyMachine) = .error nilPointerDereference ∧
    ¬ Completes unnamedMember onlyMachine := by
  have panics : result unnamedMember (updateManagedEtcdConditions onlyMachine) = .error nilPointerDereference := rfl
  refine ⟨panics, ?_⟩
  rintro ⟨⟨after, returned⟩, -⟩
  cases panics.symm.trans returned

end OcneProvider.Controller.EtcdMembers
