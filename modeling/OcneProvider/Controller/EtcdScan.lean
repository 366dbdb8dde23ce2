import OcneProvider.Controller.Mild
import OcneProvider.Effects.Answers

/-! The inspection of the etcd members node by node, as a function of the answers to its calls: what
it compares all members with, and how each machine stands in the end. -/

namespace OcneProvider.Controller.EtcdScan
open Api.Meta Api.Conditions Api.Objects Collections Calls Health Mild Etcd.Workload
open Effects.Fallible Effects.Answers List

variable {condition : Condition} {clusterID : Option Nat} {nodes : List String} {others : Machines}
  {original : Machine}

variable (given : (call : Call) → call.Answer) (machines : Machines)

def asked (nodeName : String) : Except Condition (List Member) :=
  value given (getCurrentEtcdMembers nodeName)

def machineOn (nodeName : String) : Option Machine :=
  (machines.items.filter (hasNode nodeName)).getLast?

def answerOf (nodeName : String) : Option (List Member) :=
  match machineOn machines nodeName with
  | none => none
  | some machine => if hasDeletionTimestamp machine then none else (asked given nodeName).toOption

def firstAnswer (nodes : List String) : Option (List Member) :=
  nodes.findSome? (answerOf given machines)

def alarmTexts (member : Member) : List String :=
  (member.alarms.filter (· ≠ .ok)).map AlarmType.text

def comparedID (expected current : List Member) (nodeName : String) : Option Nat :=
  if memberEqual expected current then
    (memberForName current nodeName).bind fun member =>
      if alarmTexts member = [] then some member.clusterID else none
  else none

def firstID (expected : List Member) (nodes : List String) : Option Nat :=
  nodes.findSome? fun nodeName => (answerOf given machines nodeName).bind (comparedID expected · nodeName)

theorem result_inspectNode (now : Time) (found : Inspection) (nodeName : String) :
    result given (inspectNode now found nodeName) = match machineOn found.machines nodeName with
      | none => .ok { found with ocnecpErrors := found.ocnecpErrors ++
          if hasProvisioningMachine found.machines then []
          else ["Control plane node " ++ nodeName ++ " does not have a corresponding machine"] }
      | some machine =>
        if hasDeletionTimestamp machine then
          .ok { found with machines := setMachineCondition now found.machines machine.name memberDeleting }
        else match asked given nodeName with
          | .error condition =>
            .ok { found with machines := setMachineCondition now found.machines machine.name condition }
          | .ok current => (inspectMember (found.members.getD current) current found.clusterID nodeName).map
              fun (condition, clusterID) => ⟨setMachineCondition now found.machines machine.name condition,
                found.ocnecpErrors, clusterID, some (found.members.getD current)⟩ := by
  change result given (match machineOn found.machines nodeName with | none => _ | some machine => _ : Api Inspection) = _
  cases machineOn found.machines nodeName with
  | none => cases hasProvisioningMachine found.machines <;> simp
  | some machine =>
    cases deleting : hasDeletionTimestamp machine with
    | true => simp [deleting]
    | false =>
      simp only [deleting, Bool.false_eq_true, if_false, result_bind, result_lift]
      change result given (match asked given nodeName with | .error condition => _ | .ok current => _ : Api Inspection) = _
      cases asked given nodeName with
      | error condition => rfl
      | ok current =>
        simp only [result_bind, result_mk, value_pure]
        cases inspectMember (found.members.getD current) current found.clusterID nodeName <;> rfl

section Standing

/-- What the sum of the conditions of the machines looks at. -/
def state (condition : Condition) : ConditionStatus × ConditionSeverity :=
  (condition.status, condition.severity)

def standing (machine : Machine) : Option (ConditionStatus × ConditionSeverity) :=
  (get machine.conditions machineEtcdMemberHealthyCondition).map state

theorem standing_set (now : Time) (machine : Machine) (type : condition.type = machineEtcdMemberHealthyCondition) :
    standing { machine with conditions := set now machine.conditions condition } = some (state condition) := by
  obtain ⟨time, found⟩ := get_set_same now machine.conditions condition
  rw [standing, ← type, found]
  rfl

/-- The same machines, with what is newly reported on some of them. -/
def Renewed (reported : Machine → Option Condition) (before after : Machines) : Prop :=
  ∃ change : Machine → Machine, after.items = before.items.map change ∧ ∀ machine ∈ before,
    bare (change machine) = bare machine ∧
      standing (change machine) = ((reported machine).map state).or (standing machine)

variable {before middle after : Machines} {reported later : Machine → Option Condition}

theorem Renewed.refl (machines : Machines) : Renewed (fun _ => none) machines machines :=
  ⟨id, by simp, fun _ _ => ⟨rfl, rfl⟩⟩

theorem Renewed.congr (renewed : Renewed reported before after)
    (same : ∀ machine ∈ before, reported machine = later machine) : Renewed later before after := by
  obtain ⟨change, items, changed⟩ := renewed
  refine ⟨change, items, fun machine member => ?_⟩
  rw [← same machine member]
  exact changed machine member

theorem Renewed.alike (renewed : Renewed reported before after) : Alike before after := by
  obtain ⟨change, items, changed⟩ := renewed
  unfold Alike
  rw [items, map_map]
  exact map_congr_left fun machine member => (changed machine member).1

theorem Renewed.trans (first : Renewed reported before middle) (second : Renewed later middle after)
    (ignores : ∀ machine, later (bare machine) = later machine) :
    Renewed (fun machine => (later machine).or (reported machine)) before after := by
  obtain ⟨change, items, changed⟩ := first
  obtain ⟨next, nextItems, nextChanged⟩ := second
  refine ⟨next ∘ change, by rw [nextItems, items, map_map], fun machine member => ?_⟩
  have there : change machine ∈ middle := by
    change change machine ∈ middle.items
    rw [items]
    exact mem_map_of_mem member
  obtain ⟨same, stands⟩ := changed machine member
  obtain ⟨nextSame, nextStands⟩ := nextChanged (change machine) there
  refine ⟨nextSame.trans same, ?_⟩
  rw [Function.comp_apply, nextStands, stands, ← ignores (change machine), same, ignores]
  cases reports : later machine <;> simp [reports]

theorem renewed_setMachineCondition (now : Time) (machines : Machines) (name : String)
    (type : condition.type = machineEtcdMemberHealthyCondition) :
    Renewed (fun machine => if machine.name = name then some condition else none) machines
      (setMachineCondition now machines name condition) := by
  refine ⟨_, rfl, fun machine _ => ?_⟩
  by_cases same : machine.name = name
  · simpa [same, bare] using standing_set now machine type
  · simp [same]

end Standing

section Reports

/-- No connection to the member on a node can be made. -/
def Unreachable (nodeName : String) : Prop := ∃ error, result given (newEtcdClient nodeName) = .error error

theorem asked_cases (nodeName : String) :
    (Unreachable given nodeName ∧ ∃ message, asked given nodeName = .error (memberInspectionFailed message)) ∨
    ¬ Unreachable given nodeName ∧ ((∃ message, asked given nodeName = .error (memberUnhealthy message)) ∨
      ∃ current, asked given nodeName = .ok current) := by
  have connected : value given (forFirstAvailableNode [nodeName]).run = (result given (newEtcdClient nodeName)).mapError
      fun error => (aggregate [error]).wrap "could not establish a connection to any etcd node" := by
    change result given (connectFirst [] [nodeName]) = _
    unfold connectFirst
    rw [result_bind, result_attempt]
    cases result given (newEtcdClient nodeName) <;> rfl
  unfold Unreachable asked getCurrentEtcdMembers
  rw [value_bind, connected]
  cases result given (newEtcdClient nodeName) with
  | error error => exact .inl ⟨⟨error, rfl⟩, _, rfl⟩
  | ok client =>
    refine .inr ⟨by simp, ?_⟩
    simp only [mapError_ok]
    split
    · exact .inl ⟨_, rfl⟩
    · rw [value_bind]
      cases value given (members client).run with
      | error error => exact .inl ⟨_, rfl⟩
      | ok list => exact .inr ⟨list, rfl⟩

theorem asked_error {nodeName : String} (failed : asked given nodeName = .error condition) :
    condition.type = machineEtcdMemberHealthyCondition := by
  rcases asked_cases given nodeName with ⟨_, message, same⟩ | ⟨_, ⟨message, same⟩ | ⟨current, same⟩⟩ <;>
    cases same.symm.trans failed <;> rfl

section Members

variable {expected current : List Member} {nodeName : String}

theorem inspectMember_unequal (unequal : memberEqual expected current = false) (nodeName : String) :
    ∃ message, ∀ clusterID, inspectMember expected current clusterID nodeName =
      .ok (memberUnhealthy message, clusterID) := by
  simp [inspectMember, unequal]

theorem inspectMember_unnamed (equal : memberEqual expected current = true)
    (unnamed : memberForName current nodeName = none) :
    inspectMember expected current clusterID nodeName = .error nilPointerDereference := by
  simp [inspectMember, equal, unnamed]

variable {member : Member}

theorem inspectMember_named (equal : memberEqual expected current = true)
    (named : memberForName current nodeName = some member) (clusterID : Option Nat) :
    inspectMember expected current clusterID nodeName =
      if alarmTexts member ≠ [] then
        .ok (memberUnhealthy ("Etcd member reports alarms: " ++ ", ".intercalate (alarmTexts member)), clusterID)
      else .ok (if clusterID.getD member.clusterID ≠ member.clusterID then
        memberUnhealthy ("etcd member has cluster ID " ++ toString member.clusterID ++
          ", but all previously seen etcd members have cluster ID " ++ toString (clusterID.getD member.clusterID))
        else memberHealthy, some (clusterID.getD member.clusterID)) := by
  simp only [inspectMember, equal, named, Bool.not_true, Bool.false_eq_true, if_false]
  change (if alarmTexts member ≠ [] then _ else _) = _
  split
  · rfl
  · split <;> rfl

/-- Which cluster id is known from then on; later ones do not change the report. -/
structure Inspected (expected current : List Member) (clusterID : Option Nat) (nodeName : String)
    (condition : Condition) (next : Option Nat) : Prop where
  type : condition.type = machineEtcdMemberHealthyCondition
  known : next = clusterID.or (comparedID expected current nodeName)
  later : ∀ other, (inspectMember expected current (next.or other) nodeName).map Prod.fst = .ok condition

theorem inspectMember_spec {next : Option Nat}
    (result : inspectMember expected current clusterID nodeName = .ok (condition, next)) :
    Inspected expected current clusterID nodeName condition next := by
  cases equal : memberEqual expected current with
  | false =>
    obtain ⟨message, same⟩ := inspectMember_unequal equal nodeName
    rw [same] at result
    cases result
    exact ⟨rfl, by simp [comparedID, equal], fun other => by rw [same]; rfl⟩
  | true =>
    cases named : memberForName current nodeName with
    | none =>
      rw [inspectMember_unnamed equal named] at result
      cases result
    | some member =>
      have same := inspectMember_named equal named
      rw [same] at result
      by_cases calm : alarmTexts member = []
      · rw [if_neg (not_not.mpr calm)] at result
        cases result
        refine ⟨?_, ?_, fun other => ?_⟩
        · split <;> rfl
        · cases clusterID <;> simp [comparedID, equal, named, calm]
        · rw [same, if_neg (not_not.mpr calm)]
          rfl
      · rw [if_pos calm] at result
        cases result
        refine ⟨rfl, by simp [comparedID, equal, named, calm], fun other => ?_⟩
        rw [same, if_pos calm]
        rfl

end Members

/-- What is reported once it is known what members are compared with. -/
def verdict (expected : List Member) (clusterID : Option Nat) (machine : Machine) (nodeName : String) :
    Option Condition :=
  if hasDeletionTimestamp machine then some memberDeleting
  else match asked given nodeName with
  | .error condition => some condition
  | .ok current => ((inspectMember expected current clusterID nodeName).map Prod.fst).toOption

def visited (nodes : List String) (machine : Machine) : Bool :=
  nodes.any fun nodeName => (machineOn machines nodeName).any (·.name == machine.name)

def reported (expected : List Member) (clusterID : Option Nat) (nodes : List String) (machine : Machine) :
    Option Condition :=
  if visited machines nodes machine then machine.nodeRef.bind (verdict given expected clusterID machine) else none

/-- Every node has a machine, or one of them may still be linked to a machine. -/
def AllOwned (nodes : List String) : Prop :=
  ∀ nodeName ∈ nodes, machineOn machines nodeName = none → hasProvisioningMachine machines = true

/-- The members that are asked and agree on the list of members are in it. -/
def AllNamed (expected : List Member) (nodes : List String) : Prop :=
  ∀ nodeName ∈ nodes, ∀ current, answerOf given machines nodeName = some current →
    memberEqual expected current = true → (memberForName current nodeName).isSome = true

/-- What an inspection of nodes adds; what members are compared with may become known later. -/
structure Scanned (nodes : List String) (before after : Inspection) : Prop where
  members : after.members = before.members.or (firstAnswer given machines nodes)
  clusterID : ∀ expected, (∀ list, after.members = some list → expected = list) →
    after.clusterID = before.clusterID.or (firstID given machines expected nodes)
  errors : after.ocnecpErrors = [] ↔ before.ocnecpErrors = [] ∧ AllOwned machines nodes
  named : ∀ expected, (∀ list, after.members = some list → expected = list) → AllNamed given machines expected nodes
  machines : ∀ expected other, (∀ list, after.members = some list → expected = list) →
    Renewed (reported given machines expected (after.clusterID.or other) nodes) before.machines after.machines

variable {given machines} {before middle after : Inspection} {first second : List String}

theorem reported_append (expected : List Member) (machine : Machine) :
    reported given machines expected clusterID (first ++ second) machine =
      (reported given machines expected clusterID second machine).or
        (reported given machines expected clusterID first machine) := by
  unfold reported
  rw [visited, any_append]
  change (if (visited machines first machine || visited machines second machine) = true then _ else _) = _
  cases visited machines first machine <;> cases visited machines second machine <;> simp

theorem Scanned.refl (found : Inspection) : Scanned given machines [] found found where
  members := by simp [firstAnswer]
  clusterID := by simp [firstID]
  errors := by simp [AllOwned]
  named := by simp [AllNamed]
  machines _ _ _ := (Renewed.refl found.machines).congr fun _ _ => by simp [reported, visited]

theorem Scanned.trans (scanned : Scanned given machines first before middle)
    (later : Scanned given machines second middle after) : Scanned given machines (first ++ second) before after where
  members := by
    rw [later.members, scanned.members, Option.or_assoc]
    simp only [firstAnswer, findSome?_append]
  clusterID expected known := by
    have earlier : ∀ list, middle.members = some list → expected = list :=
      fun list found => known list (by rw [later.members, found]; rfl)
    rw [later.clusterID expected known, scanned.clusterID expected earlier, Option.or_assoc]
    simp only [firstID, findSome?_append]
  errors := by
    rw [later.errors, scanned.errors, and_assoc]
    simp only [AllOwned, forall_mem_append]
  named expected known := by
    refine forall_mem_append.mpr ⟨scanned.named expected fun list found => ?_, later.named expected known⟩
    exact known list (by rw [later.members, found]; rfl)
  machines expected other known := by
    have earlier : ∀ list, middle.members = some list → expected = list :=
      fun list found => known list (by rw [later.members, found]; rfl)
    have renewed := scanned.machines expected ((firstID given machines expected second).or other) earlier
    rw [← Option.or_assoc, ← later.clusterID expected known] at renewed
    exact (renewed.trans (later.machines expected other known) fun _ => rfl).congr
      fun machine _ => (reported_append expected machine).symm

theorem Scanned.alike (scanned : Scanned given machines nodes before after) : Alike before.machines after.machines := by
  refine (scanned.machines (after.members.getD []) none ?_).alike
  intro list found
  rw [found]
  rfl

theorem machineOn_alike (alike : Alike machines others) (nodeName : String) :
    (machineOn others nodeName).map bare = (machineOn machines nodeName).map bare := by
  have same : ((others.filter (hasNode nodeName)).items.map bare).getLast? =
      ((machines.filter (hasNode nodeName)).items.map bare).getLast? :=
    congrArg getLast? (alike.filter fun _ => rfl)
  rwa [getLast?_map, getLast?_map] at same

theorem hasProvisioningMachine_alike (alike : Alike machines others) :
    hasProvisioningMachine others = hasProvisioningMachine machines := by
  have ignores : ∀ list : Machines, hasProvisioningMachine list = (list.items.map bare).any (·.nodeRef.isNone) := by
    intro list
    rw [any_map]
    rfl
  rw [ignores, ignores, alike]

theorem machineOn_mem {nodeName : String} {machine : Machine} (found : machineOn machines nodeName = some machine) :
    machine ∈ machines ∧ machine.nodeRef = some nodeName := by
  have member := List.mem_of_getLast? found
  rw [List.mem_filter] at member
  exact ⟨member.1, by simpa [hasNode] using member.2⟩

theorem hasDeletionTimestamp_of_bare {first second : Machine} (same : bare first = bare second) :
    hasDeletionTimestamp first = hasDeletionTimestamp second := by
  change hasDeletionTimestamp (bare first) = hasDeletionTimestamp (bare second)
  rw [same]

section

variable {nodeName : String} (isOriginal : machineOn machines nodeName = some original)
include isOriginal

theorem exists_machineOn (alike : Alike machines others) :
    ∃ machine, machineOn others nodeName = some machine ∧ bare machine = bare original := by
  have same := machineOn_alike alike nodeName
  rw [isOriginal, Option.map_some] at same
  exact Option.map_eq_some_iff.mp same

theorem answerOf_staying {machine : Machine} (same : bare machine = bare original)
    (staying : hasDeletionTimestamp machine = false) :
    answerOf given machines nodeName = (asked given nodeName).toOption := by
  simp [answerOf, isOriginal, ← hasDeletionTimestamp_of_bare same, staying]

theorem renewed_report {machine : Machine} {expected : List Member} (now : Time)
    (found : machineOn others nodeName = some machine) (same : bare machine = bare original)
    (type : condition.type = machineEtcdMemberHealthyCondition)
    (reports : verdict given expected clusterID machine nodeName = some condition) :
    Renewed (reported given machines expected clusterID [nodeName]) others
      (setMachineCondition now others machine.name condition) := by
  obtain ⟨member, node⟩ := machineOn_mem found
  refine (renewed_setMachineCondition now others machine.name type).congr fun other mem => ?_
  have name : machine.name = original.name := by simpa [bare] using congrArg Machine.name same
  by_cases isMachine : other.name = machine.name
  · obtain rfl : other = machine := Machines.eq_of_name mem member isMachine
    simp [reported, visited, isOriginal, name, node, reports]
  · have apart : ¬ original.name = other.name := fun equal => isMachine (equal.symm.trans name.symm)
    simp [reported, visited, isOriginal, isMachine, apart]

omit isOriginal in
theorem scanned_unanswered (unanswered : answerOf given machines nodeName = none)
    (members : after.members = before.members) (clusterID : after.clusterID = before.clusterID)
    (errors : after.ocnecpErrors = [] ↔ before.ocnecpErrors = [] ∧ AllOwned machines [nodeName])
    (renewed : ∀ expected clusterID, Renewed (reported given machines expected clusterID [nodeName])
      before.machines after.machines) : Scanned given machines [nodeName] before after where
  members := by simp [firstAnswer, unanswered, members]
  clusterID _ _ := by simp [firstID, unanswered, clusterID]
  errors := errors
  named := by simp [AllNamed, unanswered]
  machines expected _ _ := renewed expected _

theorem scanned_answered {machine : Machine} {current : List Member} (now : Time)
    (found : machineOn before.machines nodeName = some machine) (same : bare machine = bare original)
    (staying : hasDeletionTimestamp machine = false) (answer : asked given nodeName = .ok current)
    (compared : inspectMember (before.members.getD current) current before.clusterID nodeName =
      .ok (condition, clusterID)) :
    Scanned given machines [nodeName] before ⟨setMachineCondition now before.machines machine.name condition,
      before.ocnecpErrors, clusterID, some (before.members.getD current)⟩ := by
  have facts := inspectMember_spec compared
  have isAnswer : answerOf given machines nodeName = some current := by
    rw [answerOf_staying isOriginal same staying, answer]
    rfl
  constructor
  case members => cases before.members <;> simp [firstAnswer, isAnswer]
  case clusterID =>
    intro expected known
    rw [known _ rfl, facts.known]
    simp [firstID, isAnswer]
  case errors => simp [AllOwned, isOriginal]
  case named =>
    intro expected known
    simp only [AllNamed, mem_singleton, forall_eq, isAnswer, Option.some.injEq, forall_eq', known _ rfl]
    intro equal
    by_contra unnamed
    rw [inspectMember_unnamed equal (by simpa using unnamed)] at compared
    cases compared
  case machines =>
    intro expected other known
    refine renewed_report isOriginal now found same facts.type ?_
    rw [known _ rfl]
    simp [verdict, staying, answer, facts.later other, Except.toOption]

end

variable (alike : Alike machines before.machines)
include alike

theorem scanned_node {nodeName : String} {now : Time}
    (inspected : result given (inspectNode now before nodeName) = .ok after) :
    Scanned given machines [nodeName] before after := by
  rw [result_inspectNode] at inspected
  cases isOriginal : machineOn machines nodeName with
  | none =>
    have same := machineOn_alike alike nodeName
    rw [isOriginal, Option.map_none, Option.map_eq_none_iff] at same
    simp only [same, Except.ok.injEq] at inspected
    subst inspected
    refine scanned_unanswered (by simp [answerOf, isOriginal]) rfl rfl ?_ fun _ _ => ?_
    · rw [hasProvisioningMachine_alike alike]
      cases provisioning : hasProvisioningMachine machines <;> simp [AllOwned, isOriginal, provisioning]
    · exact (Renewed.refl before.machines).congr fun _ _ => by simp [reported, visited, isOriginal]
  | some original =>
    obtain ⟨machine, found, same⟩ := exists_machineOn isOriginal alike
    have deletion := hasDeletionTimestamp_of_bare same
    have owned : AllOwned machines [nodeName] := by simp [AllOwned, isOriginal]
    simp only [found] at inspected
    split at inspected
    · rename_i deleting
      cases inspected
      refine scanned_unanswered (by simp [answerOf, isOriginal, ← deletion, deleting]) rfl rfl (by simp [owned]) fun _ _ => ?_
      exact renewed_report isOriginal now found same rfl (by simp [verdict, deleting])
    · rename_i notDeleting
      have staying : hasDeletionTimestamp machine = false := by simpa using notDeleting
      cases answer : asked given nodeName with
      | error condition =>
        simp only [answer, Except.ok.injEq] at inspected
        subst inspected
        have unanswered : answerOf given machines nodeName = none := by
          rw [answerOf_staying isOriginal same staying, answer]
          rfl
        refine scanned_unanswered unanswered rfl rfl (by simp [owned]) fun _ _ => ?_
        exact renewed_report isOriginal now found same (asked_error given answer) (by simp [verdict, staying, answer])
      | ok current =>
        simp only [answer] at inspected
        cases compared : inspectMember (before.members.getD current) current before.clusterID nodeName with
        | error error =>
          rw [compared] at inspected
          cases inspected
        | ok report =>
          rw [compared] at inspected
          cases inspected
          exact scanned_answered isOriginal now found same staying answer compared

theorem scanned_nodes {now : Time}
    (inspected : nodes.foldlM (fun found nodeName => result given (inspectNode now found nodeName)) before = .ok after) :
    Scanned given machines nodes before after := by
  induction nodes generalizing before with
  | nil =>
    cases inspected
    exact Scanned.refl _
  | cons nodeName rest ih =>
    obtain ⟨middle, step, inspected⟩ := bind_eq_ok.mp inspected
    have scanned := scanned_node alike step
    exact scanned.trans (ih (alike.trans scanned.alike) inspected)

omit alike in
theorem exists_inspectMember {expected current : List Member} {nodeName : String} (clusterID : Option Nat)
    (named : memberEqual expected current = true → (memberForName current nodeName).isSome = true) :
    ∃ report, inspectMember expected current clusterID nodeName = .ok report := by
  cases equal : memberEqual expected current with
  | false =>
    obtain ⟨message, same⟩ := inspectMember_unequal equal nodeName
    exact ⟨_, same clusterID⟩
  | true =>
    obtain ⟨member, found⟩ := Option.isSome_iff_exists.mp (named equal)
    rw [inspectMember_named equal found]
    split
    · exact ⟨_, rfl⟩
    · exact ⟨_, rfl⟩

theorem exists_inspection {nodeName : String} (now : Time)
    (named : ∀ current, answerOf given machines nodeName = some current →
      memberEqual (before.members.getD current) current = true → (memberForName current nodeName).isSome = true) :
    ∃ after, result given (inspectNode now before nodeName) = .ok after := by
  rw [result_inspectNode]
  cases found : machineOn before.machines nodeName with
  | none => exact ⟨_, rfl⟩
  | some machine =>
    obtain ⟨original, isOriginal, same⟩ := exists_machineOn found alike.symm
    cases deleting : hasDeletionTimestamp machine with
    | true => exact ⟨_, if_pos deleting⟩
    | false =>
      cases answer : asked given nodeName with
      | error condition => simp [deleting]
      | ok current =>
        have isAnswer : answerOf given machines nodeName = some current := by
          rw [answerOf_staying isOriginal same.symm deleting, answer]
          rfl
        obtain ⟨report, compared⟩ := exists_inspectMember before.clusterID (named current isAnswer)
        simp [deleting, compared, Except.map]

theorem exists_scan (now : Time)
    (named : ∀ expected, before.members.or (firstAnswer given machines nodes) = some expected →
      AllNamed given machines expected nodes) :
    ∃ after, nodes.foldlM (fun found nodeName => result given (inspectNode now found nodeName)) before = .ok after := by
  induction nodes generalizing before with
  | nil => exact ⟨before, rfl⟩
  | cons nodeName rest ih =>
    have first : ∀ current, answerOf given machines nodeName = some current →
        memberEqual (before.members.getD current) current = true → (memberForName current nodeName).isSome = true := by
      intro current isAnswer
      refine named _ ?_ nodeName mem_cons_self current isAnswer
      cases before.members <;> simp [firstAnswer, isAnswer]
    obtain ⟨middle, step⟩ := exists_inspection alike now first
    have scanned := scanned_node alike step
    rw [foldlM_cons, step]
    refine ih (alike.trans scanned.alike) fun expected known other member => named expected ?_ other (mem_cons_of_mem _ member)
    rw [scanned.members, Option.or_assoc] at known
    change before.members.or (findSome? _ ([nodeName] ++ rest)) = some expected
    rw [findSome?_append]
    exact known

end Reports

end OcneProvider.Controller.EtcdScan
