import OcneProvider.Api.Summary
import OcneProvider.Data.Printf

/-! The message of a merged condition: the message of the condition selected from the first group, after it was formatted
once more. -/

namespace OcneProvider.Api.Messages
open Meta Conditions Merge Summary Data Data.Sorted

variable {runtime : Runtime}

variable {sources : List (Option Condition × Getter)} {top : ConditionGroup}

theorem getFirstCondition_spec (rest : List ConditionGroup) (order : List ConditionType)
    (nonempty : top.conditions ≠ []) :
    ∃ selected ∈ top.conditions, getFirstCondition (top :: rest) order = some selected := by
  unfold getFirstCondition
  split
  next none => cases none
  next first _ same =>
    obtain ⟨rfl, rfl⟩ := List.cons.inj same
    split
    next none => exact absurd none nonempty
    next only single => exact ⟨only, single ▸ List.mem_singleton_self only, rfl⟩
    next leading others _ mem =>
      rw [mem]
      cases found : order.findSome? fun type => (leading :: others).find? (·.condition.type == type) with
      | none => exact ⟨leading, List.mem_cons_self, rfl⟩
      | some selected =>
        obtain ⟨type, -, chosen⟩ := List.exists_of_findSome?_eq_some found
        exact ⟨selected, List.mem_of_find?_eq_some chosen, rfl⟩

theorem exists_selected {rest : List ConditionGroup}
    (groups : getConditionGroups runtime sources = top :: rest) (order : List ConditionType) :
    ∃ selected ∈ present sources, Merge.stateOf selected.condition = top.state ∧
      getFirstCondition (getConditionGroups runtime sources) order = some selected := by
  obtain ⟨⟨leading, isLeading, state⟩, -⟩ := topGroup_spec runtime groups
  have members : top.conditions.Perm ((present sources).filter (Merge.stateOf ·.condition = top.state)) :=
    perm_of_mem_groups runtime (groups ▸ List.mem_cons_self)
  have nonempty : top.conditions ≠ [] :=
    List.ne_nil_of_mem (members.mem_iff.mpr (List.mem_filter.mpr ⟨isLeading, decide_eq_true state⟩))
  obtain ⟨selected, mem, first⟩ := getFirstCondition_spec rest order nonempty
  obtain ⟨isPresent, same⟩ := List.mem_filter.mp (members.mem_iff.mp mem)
  exact ⟨selected, isPresent, of_decide_eq_true same, groups ▸ first⟩

theorem message_merge {target : ConditionType} {options : MergeOptions}
    {result : Condition} (merged : merge runtime sources target options = some result)
    (off : options.addStepCounter = false) (notTrue : result.status ≠ .True) :
    ∃ selected ∈ present sources, selected.condition.status = result.status ∧
      getFirstCondition (getConditionGroups runtime sources) options.conditionTypes = some selected ∧
      result.message = runtime.sprintf selected.condition.message := by
  cases groups : getConditionGroups runtime sources with
  | nil =>
    rw [merge, groups] at merged
    cases merged
  | cons top rest =>
    obtain ⟨selected, isPresent, state, first⟩ := exists_selected groups options.conditionTypes
    rw [groups] at first
    have message : getMessage (top :: rest) options = selected.condition.message := by
      simp only [getMessage, off, Bool.false_eq_true, if_false, getFirstMessage, first]
    obtain ⟨⟨status, severity⟩, members⟩ := top
    rw [merge, groups] at merged
    cases status with
    | True =>
      obtain rfl := Option.some.inj merged
      exact absurd rfl notTrue
    | False =>
      obtain rfl := Option.some.inj merged
      exact ⟨selected, isPresent, congrArg Prod.fst state, first, congrArg runtime.sprintf message⟩
    | Unknown =>
      obtain rfl := Option.some.inj merged
      exact ⟨selected, isPresent, congrArg Prod.fst state, first, congrArg runtime.sprintf message⟩

/-- A condition that the reason and the message of the merged one are taken from. -/
structure Selected (runtime : Runtime) (sources : List (Option Condition × Getter)) (settings : Settings)
    (result : Condition) (selected : LocalizedCondition) : Prop where
  isPresent : selected ∈ present sources
  status : selected.condition.status = result.status
  first : getFirstCondition (getConditionGroups runtime sources) settings.toMergeOptions.conditionTypes = some selected

theorem message_eq_iff (format : runtime.sprintf = Printf.sprintf)
    {target : ConditionType} {settings : Settings} {result : Condition}
    (merged : merge runtime sources target settings.toMergeOptions = some result)
    (off : settings.addStepCounter = false) (notTrue : result.status ≠ .True) :
    ∃ selected, Selected runtime sources settings result selected ∧
      (result.message = selected.condition.message ↔ '%' ∉ selected.condition.message.toList) := by
  obtain ⟨selected, isPresent, status, first, message⟩ := message_merge merged off notTrue
  refine ⟨selected, ⟨isPresent, status, first⟩, ?_⟩
  rw [message, format]
  exact Printf.sprintf_eq_self_iff _

/-- Without a step counter, the message is that of the selected condition exactly if it has no percent sign. -/
theorem merged_message_eq_iff (format : runtime.sprintf = Printf.sprintf) :
    (∀ source options result, (summarySettings options source.conditions).addStepCounter = false →
      summary runtime source options = some result → result.status ≠ .True →
      ∃ selected, Selected runtime (summarized source options) (summarySettings options source.conditions) result selected ∧
        (result.message = selected.condition.message ↔ '%' ∉ selected.condition.message.toList)) ∧
    ∀ sources target options result, (aggregateSettings options sources.length).addStepCounter = false →
      aggregate runtime sources target options = some result → result.status ≠ .True →
      ∃ selected, Selected runtime (aggregated sources) (aggregateSettings options sources.length) result selected ∧
        (result.message = selected.condition.message ↔ '%' ∉ selected.condition.message.toList) := by
  constructor
  · intro source options result off merged notTrue
    exact message_eq_iff format merged off notTrue
  · intro sources target options result off merged notTrue
    exact message_eq_iff format merged off notTrue

private def formatting : Runtime where
  groups := .insertion _
  conditions := .insertion _
  sprintf := Printf.sprintf

private def machine (message : String) : Source :=
  ⟨⟨"Machine", "cp-0"⟩, [falseCondition "InfrastructureReady" "DiskPressure" .Warning message]⟩

private def summarizedAs (message : String) : Condition := falseCondition readyCondition "DiskPressure" .Warning message

theorem plain_message_kept : ∃ selected,
    Selected formatting (summarized (machine "disk is full") []) (summarySettings [] (machine "disk is full").conditions)
      (summarizedAs "disk is full") selected ∧
    ((summarizedAs "disk is full").message = selected.condition.message ↔ '%' ∉ selected.condition.message.toList) :=
  (merged_message_eq_iff rfl).1 _ _ _ rfl (by decide) (by decide)

theorem percent_message_changed :
    summary formatting (machine "disk is 100% used") [] = some (summarizedAs "disk is 100%!u(MISSING)sed") ∧
    (getFirstCondition (getConditionGroups formatting (summarized (machine "disk is 100% used") [])) []).map
      (·.condition.message) = some "disk is 100% used" := by
  decide

end OcneProvider.Api.Messages
