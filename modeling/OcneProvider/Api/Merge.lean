import Mathlib.Data.Bool.Basic
import Mathlib.Data.String.Basic
import OcneProvider.Api.Conditions

/-! Merging conditions into one: the conditions are grouped by status and severity, and the group with the
highest priority gives the status and severity of the result. -/

namespace OcneProvider.Api.Merge
open Meta Conditions Data.Sorted List

structure Getter where
  kind : String
  name : String

structure LocalizedCondition where
  condition : Condition
  getter : Getter

abbrev State := ConditionStatus × ConditionSeverity

def stateOf (condition : Condition) : State := (condition.status, condition.severity)

structure ConditionGroup where
  state : State
  conditions : List LocalizedCondition

/-- The last number is for a status False without a severity. -/
def mergePriority : State → Nat
  | (.False, .Error) => 0
  | (.False, .Warning) => 1
  | (.False, .Info) => 2
  | (.True, _) => 3
  | (.Unknown, _) => 4
  | (.False, .None) => 99

/-- Ready first, then by type, then by the name of the source. -/
def rankInGroup (localized : LocalizedCondition) : Bool ×ₗ String ×ₗ String :=
  toLex (localized.condition.type != readyCondition, toLex (localized.condition.type, localized.getter.name))

/-- How sorting orders what is equal, and what formatting without arguments makes of a text. -/
structure Runtime where
  groups : Sorting fun group : ConditionGroup => mergePriority group.state
  conditions : Sorting rankInGroup
  sprintf : String → String

structure MergeOptions where
  conditionTypes : List ConditionType
  addSourceRef : Bool
  addStepCounter : Bool
  stepCounter : Nat

def addToGroups (localized : LocalizedCondition) : List ConditionGroup → List ConditionGroup
  | [] => [⟨stateOf localized.condition, [localized]⟩]
  | group :: rest =>
    if group.state = stateOf localized.condition then
      { group with conditions := group.conditions ++ [localized] } :: rest
    else group :: addToGroups localized rest

def present (conditions : List (Option Condition × Getter)) : List LocalizedCondition :=
  conditions.filterMap fun source => source.1.map fun condition => ⟨condition, source.2⟩

def groupsOf (conditions : List LocalizedCondition) : List ConditionGroup :=
  conditions.foldl (fun groups localized => addToGroups localized groups) []

variable (runtime : Runtime)

def getConditionGroups (conditions : List (Option Condition × Getter)) : List ConditionGroup :=
  match runtime.groups.sort (groupsOf (present conditions)) with
  | [] => []
  | top :: rest => { top with conditions := runtime.conditions.sort top.conditions } :: rest

def getFirstCondition (groups : List ConditionGroup) (priority : List ConditionType) : Option LocalizedCondition :=
  match groups with
  | [] => none
  | top :: _ =>
    match top.conditions with
    | [] => none
    | [only] => some only
    | first :: rest =>
      (priority.findSome? fun type => (first :: rest).find? (·.condition.type == type)).or (some first)

def localizeReason (reason : String) (source : Getter) : String :=
  if '@' ∈ reason.toList then reason else reason ++ " @ " ++ source.kind ++ "/" ++ source.name

def getFirstReason (groups : List ConditionGroup) (order : List ConditionType) (addSourceRef : Bool) : String :=
  match getFirstCondition groups order with
  | none => ""
  | some first =>
    if addSourceRef then localizeReason first.condition.reason first.getter else first.condition.reason

def getReason (groups : List ConditionGroup) (options : MergeOptions) : String :=
  getFirstReason groups options.conditionTypes options.addSourceRef

def trueGroup (groups : List ConditionGroup) : Option ConditionGroup :=
  groups.find? (·.state == (.True, .None))

def getStepCounterMessage (groups : List ConditionGroup) (total : Nat) : String :=
  toString (((trueGroup groups).map (·.conditions.length)).getD 0) ++ " of " ++ toString total ++ " completed"

def getFirstMessage (groups : List ConditionGroup) (order : List ConditionType) : String :=
  match getFirstCondition groups order with
  | none => ""
  | some first => first.condition.message

def getMessage (groups : List ConditionGroup) (options : MergeOptions) : String :=
  if options.addStepCounter then getStepCounterMessage groups options.stepCounter
  else getFirstMessage groups options.conditionTypes

def merge (conditions : List (Option Condition × Getter)) (targetCondition : ConditionType)
    (options : MergeOptions) : Option Condition :=
  match getConditionGroups runtime conditions with
  | [] => none
  | top :: rest =>
    let reason := getReason (top :: rest) options
    let message := getMessage (top :: rest) options
    match top.state with
    | (.True, _) => some (trueCondition targetCondition)
    | (.False, severity) => some (falseCondition targetCondition reason severity (runtime.sprintf message))
    | (.Unknown, _) => some (unknownCondition targetCondition reason (runtime.sprintf message))

section Priority

theorem mem_states_addToGroups {localized : LocalizedCondition} {groups : List ConditionGroup} {state : State} :
    state ∈ (addToGroups localized groups).map ConditionGroup.state ↔
      state ∈ groups.map ConditionGroup.state ∨ state = stateOf localized.condition := by
  induction groups with
  | nil => simp [addToGroups]
  | cons group rest ih =>
    rw [addToGroups]
    split
    next same =>
      simp only [map_cons, mem_cons]
      rw [← same]
      tauto
    next other =>
      rw [map_cons, mem_cons, ih, map_cons, mem_cons, or_assoc]

theorem mem_states_groupsOf {conditions : List LocalizedCondition} {state : State} :
    state ∈ (groupsOf conditions).map ConditionGroup.state ↔
      ∃ localized ∈ conditions, stateOf localized.condition = state := by
  suffices held : ∀ groups : List ConditionGroup,
      state ∈ (conditions.foldl (fun groups localized => addToGroups localized groups) groups).map ConditionGroup.state ↔
        state ∈ groups.map ConditionGroup.state ∨ ∃ localized ∈ conditions, stateOf localized.condition = state by
    simpa [groupsOf] using held []
  induction conditions with
  | nil => simp
  | cons first rest ih =>
    intro groups
    rw [foldl_cons, ih, mem_states_addToGroups, exists_mem_cons_iff, or_assoc, eq_comm]

/-- The state that a merged condition has for the state of its first group. -/
def merged : State → State
  | (.True, _) => (.True, .None)
  | (.False, severity) => (.False, severity)
  | (.Unknown, _) => (.Unknown, .None)

theorem mergePriority_cases (state : State) :
    (state = (.False, .Error) ∧ mergePriority state = 0) ∨ (state = (.False, .Warning) ∧ mergePriority state = 1) ∨
    (state = (.False, .Info) ∧ mergePriority state = 2) ∨
    (∃ severity, state = (.True, severity) ∧ mergePriority state = 3) ∨
    (∃ severity, state = (.Unknown, severity) ∧ mergePriority state = 4) ∨
    (state = (.False, .None) ∧ mergePriority state = 99) := by
  obtain ⟨status, severity⟩ := state
  cases status <;> cases severity <;> simp [mergePriority]

theorem merged_eq_of_mergePriority {first second : State} (same : mergePriority first = mergePriority second) :
    merged first = merged second := by
  obtain ⟨status, severity⟩ := first
  obtain ⟨otherStatus, otherSeverity⟩ := second
  revert same
  cases status <;> cases severity <;> cases otherStatus <;> cases otherSeverity <;> decide

theorem states_getConditionGroups (conditions : List (Option Condition × Getter)) :
    (getConditionGroups runtime conditions).map ConditionGroup.state =
      (runtime.groups.sort (groupsOf (present conditions))).map ConditionGroup.state := by
  rw [getConditionGroups]
  split
  next none => rw [none]
  next top rest some => rw [some]; rfl

variable {conditions : List (Option Condition × Getter)} {target : ConditionType} {options : MergeOptions}
  {top : ConditionGroup} {rest : List ConditionGroup}

theorem mem_states_getConditionGroups {state : State} :
    state ∈ (getConditionGroups runtime conditions).map ConditionGroup.state ↔
      ∃ localized ∈ present conditions, stateOf localized.condition = state := by
  rw [states_getConditionGroups, ← mem_states_groupsOf]
  exact ((runtime.groups.perm _).map _).mem_iff

theorem topGroup_spec (groups : getConditionGroups runtime conditions = top :: rest) :
    (∃ leading ∈ present conditions, stateOf leading.condition = top.state) ∧
      ∀ other ∈ present conditions, mergePriority top.state ≤ mergePriority (stateOf other.condition) := by
  have states : (top :: rest).map ConditionGroup.state =
      (runtime.groups.sort (groupsOf (present conditions))).map ConditionGroup.state := by
    rw [← groups, states_getConditionGroups]
  have sorted : ((top :: rest).map ConditionGroup.state).Pairwise (mergePriority · ≤ mergePriority ·) := by
    rw [states, pairwise_map]
    exact runtime.groups.sorted _
  constructor
  · apply (mem_states_getConditionGroups runtime).mp
    rw [groups]
    exact mem_cons_self
  · intro other mem
    have listed := (mem_states_getConditionGroups runtime).mpr ⟨other, mem, rfl⟩
    rw [groups] at listed
    exact rank_head?_le sorted rfl listed

theorem stateOf_merge_of_groups (groups : getConditionGroups runtime conditions = top :: rest) :
    (merge runtime conditions target options).map stateOf = some (merged top.state) := by
  obtain ⟨⟨status, severity⟩, members⟩ := top
  rw [merge, groups]
  cases status <;> rfl

theorem stateOf_merge {leading : LocalizedCondition} (mem : leading ∈ present conditions)
    (least : ∀ other ∈ present conditions,
      mergePriority (stateOf leading.condition) ≤ mergePriority (stateOf other.condition)) :
    (merge runtime conditions target options).map stateOf = some (merged (stateOf leading.condition)) := by
  cases groups : getConditionGroups runtime conditions with
  | nil =>
    have listed := (mem_states_getConditionGroups runtime).mpr ⟨leading, mem, rfl⟩
    rw [groups] at listed
    exact absurd listed not_mem_nil
  | cons top rest =>
    obtain ⟨⟨found, among, same⟩, first⟩ := topGroup_spec runtime groups
    have equal : mergePriority top.state = mergePriority (stateOf leading.condition) :=
      le_antisymm (first leading mem) (same ▸ least found among)
    rw [stateOf_merge_of_groups runtime groups, merged_eq_of_mergePriority equal]

theorem merge_eq_none (absent : present conditions = []) : merge runtime conditions target options = none := by
  cases groups : getConditionGroups runtime conditions with
  | nil => rw [merge, groups]
  | cons top rest =>
    obtain ⟨⟨leading, mem, -⟩, -⟩ := topGroup_spec runtime groups
    rw [absent] at mem
    exact absurd mem not_mem_nil

end Priority

end OcneProvider.Api.Merge
