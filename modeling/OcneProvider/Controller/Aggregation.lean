import OcneProvider.Api.Merge
import OcneProvider.Controller.Health

/-! The sum of the conditions of machines against the generic merge of the same conditions: they agree
unless machines report info, or False without a severity, and nothing that comes before. -/

namespace OcneProvider.Controller.Aggregation
open Api.Meta Api.Conditions Api.Objects Api.Merge Data.Sorted Collections Health List

/-- Those of the machines, and one for each error of the control plane. -/
def sources (machines : Machines) (input : AggregateInput) : List (Option Condition × Getter) :=
  (machines.items.flatMap fun machine => input.machineConditions.map fun type =>
    (get machine.conditions type, ⟨"Machine", machine.name⟩)) ++
  input.ocnecpErrors.map fun text =>
    (some (falseCondition input.condition input.unhealthyReason .Error text), ⟨"OCNEControlPlane", ""⟩)

def Reports (machines : Machines) (types : List ConditionType) (state : State) : Prop :=
  ∃ machine ∈ machines, ∃ type ∈ types, ∃ condition, get machine.conditions type = some condition ∧
    stateOf condition = state

/-- A state that is reported; an error of the control plane is one of its own. -/
def Told (machines : Machines) (input : AggregateInput) (state : State) : Prop :=
  Reports machines input.machineConditions state ∨ state = (.False, .Error) ∧ input.ocnecpErrors ≠ []

variable {machines : Machines} {input : AggregateInput} {state : State}

theorem told_iff_mem_present :
    Told machines input state ↔ ∃ localized ∈ present (sources machines input), stateOf localized.condition = state := by
  simp only [Told, Reports, present, sources, mem_filterMap, mem_append, mem_flatMap, mem_map]
  constructor
  · rintro (⟨machine, mem, type, among, condition, found, same⟩ | ⟨rfl, errors⟩)
    · exact ⟨⟨condition, _⟩, ⟨_, .inl ⟨machine, mem, type, among, rfl⟩, by simp [found]; rfl⟩, same⟩
    · obtain ⟨text, mem⟩ := exists_mem_of_ne_nil _ errors
      exact ⟨_, ⟨_, .inr ⟨text, mem, rfl⟩, rfl⟩, rfl⟩
  · rintro ⟨localized, ⟨source, ⟨machine, mem, type, among, rfl⟩ | ⟨text, mem, rfl⟩, found⟩, same⟩
    · obtain ⟨condition, read, rfl⟩ := Option.map_eq_some_iff.mp found
      exact .inl ⟨machine, mem, type, among, condition, read, same⟩
    · cases found
      exact .inr ⟨same.symm, ne_nil_of_mem mem⟩

theorem machinesReporting_ne_nil {types : List ConditionType} {told : Condition → Bool} :
    machinesReporting machines types told ≠ [] ↔
      ∃ machine ∈ machines, ∃ type ∈ types, ∃ condition, get machine.conditions type = some condition ∧
        told condition = true := by
  rw [machinesReporting, ← length_pos_iff, length_insertionSort, length_map, length_pos_iff, ne_eq, filter_eq_nil_iff]
  simp [Option.any_eq_true]

theorem reporting_severity_ne_nil (types : List ConditionType) (severity : ConditionSeverity) :
    machinesReporting machines types (hasSeverity severity) ≠ [] ↔ Reports machines types (.False, severity) := by
  rw [machinesReporting_ne_nil]
  simp [Reports, hasSeverity, stateOf]

theorem reporting_status_ne_nil (types : List ConditionType) (status : ConditionStatus) :
    machinesReporting machines types (·.status == status) ≠ [] ↔
      ∃ severity, Reports machines types (status, severity) := by
  rw [machinesReporting_ne_nil]
  simp only [Reports, stateOf, beq_iff_eq, Prod.mk.injEq]
  constructor
  · rintro ⟨machine, mem, type, among, condition, found, same⟩
    exact ⟨condition.severity, machine, mem, type, among, condition, found, same, rfl⟩
  · rintro ⟨_, machine, mem, type, among, condition, found, same, _⟩
    exact ⟨machine, mem, type, among, condition, found, same⟩

/-- The sum writes this condition whatever was there, or with none leaves everything. -/
def Writes (machines : Machines) (input : AggregateInput) (written : Option Condition) : Prop :=
  ∀ now conditions, aggregateFromMachinesToKCP now machines input conditions =
    written.elim conditions (set now conditions)

theorem Writes.unique {first second : Option Condition} (writes : Writes machines input first)
    (other : Writes machines input second) : first.map stateOf = second.map stateOf := by
  have same := (writes 0 []).symm.trans (other 0 [])
  cases first with
  | none =>
    cases second with
    | none => rfl
    | some condition => cases same
  | some condition =>
    cases second with
    | none => cases same
    | some another =>
      have equal := congrArg (map stateOf) same
      exact congrArg head? equal

section States

variable (machines) (input)

open Classical in
/-- Which of the states told the sum has. -/
noncomputable def sumState : Option State :=
  if Told machines input (.False, .Error) then some (.False, .Error)
  else if Told machines input (.False, .Warning) then some (.False, .Warning)
  else if ∃ severity, Told machines input (.True, severity) then some (.True, .None)
  else if ∃ severity, Told machines input (.Unknown, severity) then some (.Unknown, .None)
  else none

open Classical in
/-- Which of them the merge has. -/
noncomputable def mergeState : Option State :=
  if Told machines input (.False, .Error) then some (.False, .Error)
  else if Told machines input (.False, .Warning) then some (.False, .Warning)
  else if Told machines input (.False, .Info) then some (.False, .Info)
  else if ∃ severity, Told machines input (.True, severity) then some (.True, .None)
  else if ∃ severity, Told machines input (.Unknown, severity) then some (.Unknown, .None)
  else if Told machines input (.False, .None) then some (.False, .None)
  else none

theorem exists_written : ∃ written, Writes machines input written ∧
    (∀ condition ∈ written, condition.type = input.condition) ∧ written.map stateOf = sumState machines input := by
  have errors : ∀ text, input.ocnecpErrors ++ (if machinesReporting machines input.machineConditions
      (hasSeverity .Error) = [] then [] else [text]) ≠ [] ↔ Told machines input (.False, .Error) := by
    intro text
    rw [Told, ← reporting_severity_ne_nil]
    split <;> simp [*]
  have told : ∀ state, state ≠ (.False, .Error) →
      (Reports machines input.machineConditions state ↔ Told machines input state) := by
    intro state other
    simp [Told, other]
  have typed {condition : Condition} (same : condition.type = input.condition) :
      ∀ other ∈ some condition, other.type = input.condition := by
    rintro _ ⟨⟩
    exact same
  classical
  unfold Writes aggregateFromMachinesToKCP sumState
  simp (disch := simp) only [errors, reporting_severity_ne_nil, reporting_status_ne_nil, told]
  by_cases error : Told machines input (.False, .Error)
  · simp only [error, if_true]
    exact ⟨_, fun _ _ => rfl, typed rfl, rfl⟩
  by_cases warning : Told machines input (.False, .Warning)
  · simp only [error, warning, if_false, if_true]
    exact ⟨_, fun _ _ => rfl, typed rfl, rfl⟩
  by_cases held : ∃ severity, Told machines input (.True, severity)
  · simp only [error, warning, held, if_false, if_true]
    exact ⟨_, fun _ _ => rfl, typed rfl, rfl⟩
  by_cases unknown : ∃ severity, Told machines input (.Unknown, severity)
  · simp only [error, warning, held, unknown, if_false, if_true]
    exact ⟨_, fun _ _ => rfl, typed rfl, rfl⟩
  · simp only [error, warning, held, unknown, if_false]
    exact ⟨none, fun _ _ => rfl, by simp, rfl⟩

theorem isTrue_aggregate (now : Time) (conditions : ConditionList) :
    isTrue (aggregateFromMachinesToKCP now machines input conditions) input.condition =
      (sumState machines input).elim (isTrue conditions input.condition) (·.1 == .True) := by
  obtain ⟨written, writes, typed, same⟩ := exists_written machines input
  rw [writes now conditions, ← same]
  cases written with
  | none => rfl
  | some condition =>
    rw [← typed condition rfl]
    exact hasStatus_set now conditions condition .True

theorem told_priority (told : Told machines input state) :
    (Told machines input (.False, .Error) ∧ mergePriority state = 0) ∨
    (Told machines input (.False, .Warning) ∧ mergePriority state = 1) ∨
    (Told machines input (.False, .Info) ∧ mergePriority state = 2) ∨
    ((∃ severity, Told machines input (.True, severity)) ∧ mergePriority state = 3) ∨
    ((∃ severity, Told machines input (.Unknown, severity)) ∧ mergePriority state = 4) ∨
    (Told machines input (.False, .None) ∧ mergePriority state = 99) := by
  obtain ⟨rfl, rank⟩ | ⟨rfl, rank⟩ | ⟨rfl, rank⟩ | ⟨_, rfl, rank⟩ | ⟨_, rfl, rank⟩ | ⟨rfl, rank⟩ :=
    mergePriority_cases state <;> grind

variable (runtime : Runtime) (options : MergeOptions) (target : ConditionType)

theorem stateOf_merge_of_told (told : Told machines input state)
    (least : ∀ other, Told machines input other → mergePriority state ≤ mergePriority other) :
    (merge runtime (sources machines input) target options).map stateOf = some (merged state) := by
  obtain ⟨leading, mem, rfl⟩ := told_iff_mem_present.mp told
  apply stateOf_merge runtime mem
  intro other among
  exact least _ (told_iff_mem_present.mpr ⟨other, among, rfl⟩)

theorem stateOf_merge_sources :
    (merge runtime (sources machines input) target options).map stateOf = mergeState machines input := by
  have first {state : State} (told : Told machines input state)
      (least : ∀ other, Told machines input other → mergePriority state ≤ mergePriority other) :=
    stateOf_merge_of_told machines input runtime options target told least
  have priority (other : State) (told : Told machines input other) := told_priority machines input told
  unfold mergeState
  split_ifs with error warning info held unknown bare
  · exact first error fun _ _ => Nat.zero_le _
  · exact first warning fun other told => show 1 ≤ mergePriority other by grind
  · exact first info fun other told => show 2 ≤ mergePriority other by grind
  · exact first held.choose_spec fun other told => show 3 ≤ mergePriority other by grind
  · exact first unknown.choose_spec fun other told => show 4 ≤ mergePriority other by grind
  · exact first bare fun other told => show 99 ≤ mergePriority other by grind
  · rw [merge_eq_none, Option.map_none]
    apply eq_nil_iff_forall_not_mem.mpr
    intro localized mem
    grind [told_iff_mem_present.mpr ⟨localized, mem, rfl⟩]

end States

/-- The status and severity are those of the merge, and none is written only where there is nothing to merge. -/
def FollowsMerge (runtime : Runtime) (options : MergeOptions) (machines : Machines) (input : AggregateInput) : Prop :=
  ∃ written, Writes machines input written ∧ (∀ condition ∈ written, condition.type = input.condition) ∧
    written.map stateOf = (merge runtime (sources machines input) input.condition options).map stateOf

theorem followsMerge_iff (runtime : Runtime) (options : MergeOptions) :
    FollowsMerge runtime options machines input ↔ sumState machines input = mergeState machines input := by
  obtain ⟨written, writes, typed, same⟩ := exists_written machines input
  rw [FollowsMerge, stateOf_merge_sources, ← same]
  constructor
  · rintro ⟨other, otherWrites, -, merges⟩
    rw [writes.unique otherWrites, merges]
  · exact fun merges => ⟨written, writes, typed, merges⟩

/-- The sum agrees with the merge if an error or a warning is told, and otherwise unless info or only False without a
severity is. -/
theorem aggregation_follows_merge_iff (runtime : Runtime) (options : MergeOptions) (machines : Machines)
    (input : AggregateInput) :
    FollowsMerge runtime options machines input ↔
      Told machines input (.False, .Error) ∨ Told machines input (.False, .Warning) ∨
      ¬ Told machines input (.False, .Info) ∧
        (Told machines input (.False, .None) → (∃ severity, Told machines input (.True, severity)) ∨
          ∃ severity, Told machines input (.Unknown, severity)) := by
  rw [followsMerge_iff]
  unfold sumState mergeState
  split_ifs <;> simp_all

private def inOrder : Runtime where
  groups := .insertion _
  conditions := .insertion _
  sprintf := id

private def noCounter : MergeOptions := ⟨[], false, false, 0⟩

private def leavingAndStaying : Machines :=
  ⟨[{ (default : Machine) with name := "leaving", conditions := [memberDeleting] },
    { (default : Machine) with name := "staying", conditions := [memberHealthy] }], by decide⟩

/-- The machine that is being deleted reports info, and yet the sum is True. -/
theorem info_passed_over :
    isTrue (aggregateFromMachinesToKCP 0 leavingAndStaying (etcdClusterInput []) []) etcdClusterHealthyCondition =
      true ∧
    (merge inOrder (sources leavingAndStaying (etcdClusterInput [])) etcdClusterHealthyCondition noCounter).map stateOf =
      some (.False, .Info) ∧
    ¬ FollowsMerge inOrder noCounter leavingAndStaying (etcdClusterInput []) := by
  have healthy : isTrue (aggregateFromMachinesToKCP 0 leavingAndStaying (etcdClusterInput []) [])
    etcdClusterHealthyCondition = true := by decide
  have info : (merge inOrder (sources leavingAndStaying (etcdClusterInput [])) etcdClusterHealthyCondition
    noCounter).map stateOf = some (.False, .Info) := by decide
  refine ⟨healthy, info, fun follows => ?_⟩
  rw [followsMerge_iff, ← stateOf_merge_sources _ _ inOrder noCounter etcdClusterHealthyCondition, info] at follows
  have sum := isTrue_aggregate leavingAndStaying (etcdClusterInput []) 0 []
  rw [follows] at sum
  cases healthy.symm.trans sum

end OcneProvider.Controller.Aggregation
