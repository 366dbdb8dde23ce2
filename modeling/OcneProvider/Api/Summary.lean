import OcneProvider.Api.ConditionPatch
import OcneProvider.Api.Merge

/-! The summary of the conditions of an object, and the aggregate of the Ready conditions of several. -/

namespace OcneProvider.Api.Summary
open Meta Conditions Merge Data.Sorted
open List hiding merge

variable {other : Runtime} {conditions others : ConditionList}

structure Source where
  getter : Getter
  conditions : ConditionList

inductive MergeOption where
  | withConditions (types : Slice ConditionType)
  | withStepCounter
  | withStepCounterIf (value : Bool)
  | withStepCounterIfOnly (types : Slice ConditionType)
  | addSourceRef

structure Settings where
  conditionTypes : Slice ConditionType
  addSourceRef : Bool
  addStepCounter : Bool
  addStepCounterIfOnlyConditionTypes : Slice ConditionType
  stepCounter : Nat

def MergeOption.apply (settings : Settings) : MergeOption → Settings
  | .withConditions types => { settings with conditionTypes := types }
  | .withStepCounter => { settings with addStepCounter := true }
  | .withStepCounterIf value => { settings with addStepCounter := value }
  | .withStepCounterIfOnly types => { settings with addStepCounterIfOnlyConditionTypes := types }
  | .addSourceRef => { settings with addSourceRef := true }

def Settings.toMergeOptions (settings : Settings) : MergeOptions :=
  ⟨settings.conditionTypes.getD [], settings.addSourceRef, settings.addStepCounter, settings.stepCounter⟩

/-- All conditions but Ready, or those of the types that are asked for. -/
def inScope (settings : Settings) (conditions : ConditionList) : ConditionList :=
  conditions.filter fun condition => condition.type != readyCondition &&
    (settings.conditionTypes.all fun types => condition.type ∈ types)

/-- The step counter is left out if a condition is not of its types. It counts up to the number of these types, of
those asked for, or of the conditions. -/
def summarySettings (options : List MergeOption) (conditions : ConditionList) : Settings :=
  let settings := options.foldl MergeOption.apply ⟨none, false, false, none, 0⟩
  let addStepCounter := settings.addStepCounter && settings.addStepCounterIfOnlyConditionTypes.all fun types =>
    (inScope settings conditions).all (·.type ∈ types)
  { settings with
    addStepCounter := addStepCounter
    stepCounter :=
      if addStepCounter then
        match settings.addStepCounterIfOnlyConditionTypes, settings.conditionTypes with
        | some types, _ => types.length
        | none, some types => types.length
        | none, none => (inScope settings conditions).length
      else settings.stepCounter }

def aggregateSettings (options : List MergeOption) (sources : Nat) : Settings :=
  options.foldl MergeOption.apply ⟨none, false, true, none, sources⟩

def summarized (source : Source) (options : List MergeOption) : List (Option Condition × Getter) :=
  (inScope (summarySettings options source.conditions) source.conditions).map fun condition => (some condition, source.getter)

def aggregated (sources : List Source) : List (Option Condition × Getter) :=
  sources.map fun source => (get source.conditions readyCondition, source.getter)

variable (runtime : Runtime)

def summary (source : Source) (options : List MergeOption) : Option Condition :=
  merge runtime (summarized source options) readyCondition (summarySettings options source.conditions).toMergeOptions

def aggregate (sources : List Source) (targetCondition : ConditionType) (options : List MergeOption) : Option Condition :=
  merge runtime (aggregated sources) targetCondition (aggregateSettings options sources.length).toMergeOptions

section Groups

structure Grouped (conditions : List LocalizedCondition) (groups : List ConditionGroup) : Prop where
  unique : (groups.map ConditionGroup.state).Nodup
  members : ∀ group ∈ groups, group.conditions = conditions.filter (Merge.stateOf ·.condition = group.state)

variable {sources : List (Option Condition × Getter)} {localized : LocalizedCondition}
  {groups : List ConditionGroup} {group : ConditionGroup}

theorem addToGroups_members
    (unique : (groups.map ConditionGroup.state).Nodup) (mem : group ∈ addToGroups localized groups) :
    (∃ old ∈ groups, old.state = group.state ∧ group.conditions =
      old.conditions ++ if Merge.stateOf localized.condition = group.state then [localized] else []) ∨
    (Merge.stateOf localized.condition ∉ groups.map ConditionGroup.state ∧
      group = ⟨Merge.stateOf localized.condition, [localized]⟩) := by
  induction groups with
  | nil => exact .inr ⟨not_mem_nil, mem_singleton.mp mem⟩
  | cons first rest ih =>
    obtain ⟨fresh, unique⟩ := nodup_cons.mp unique
    unfold addToGroups at mem
    split at mem
    next same =>
      rcases mem_cons.mp mem with rfl | later
      · exact .inl ⟨first, mem_cons_self, rfl, by rw [if_pos same.symm]⟩
      · have apart : Merge.stateOf localized.condition ≠ group.state := fun equal =>
          fresh (same.trans equal ▸ mem_map_of_mem later)
        exact .inl ⟨group, mem_cons_of_mem _ later, rfl, by rw [if_neg apart, append_nil]⟩
    next differs =>
      rcases mem_cons.mp mem with rfl | later
      · exact .inl ⟨group, mem_cons_self, rfl, by rw [if_neg (Ne.symm differs), append_nil]⟩
      · rcases ih unique later with ⟨old, isOld, same, conditions⟩ | ⟨absent, rfl⟩
        · exact .inl ⟨old, mem_cons_of_mem _ isOld, same, conditions⟩
        · exact .inr ⟨by simpa [Ne.symm differs] using absent, rfl⟩

theorem addToGroups_unique (unique : (groups.map ConditionGroup.state).Nodup) :
    ((addToGroups localized groups).map ConditionGroup.state).Nodup := by
  induction groups with
  | nil => exact nodup_singleton _
  | cons first rest ih =>
    obtain ⟨fresh, later⟩ := nodup_cons.mp unique
    unfold addToGroups
    split
    next => exact unique
    next differs =>
      refine nodup_cons.mpr ⟨fun mem => ?_, ih later⟩
      rcases mem_states_addToGroups.mp mem with old | new
      · exact fresh old
      · exact differs new

theorem grouped_groupsOf (conditions : List LocalizedCondition) : Grouped conditions (groupsOf conditions) := by
  induction conditions using reverseRecOn with
  | nil => exact ⟨nodup_nil, fun _ none => absurd none not_mem_nil⟩
  | append_singleton conditions localized ih =>
    have step : groupsOf (conditions ++ [localized]) = addToGroups localized (groupsOf conditions) := by
      simp [groupsOf, foldl_append]
    rw [step]
    refine ⟨addToGroups_unique ih.unique, fun group mem => ?_⟩
    rw [filter_append]
    rcases addToGroups_members ih.unique mem with ⟨old, isOld, same, conditions⟩ | ⟨absent, rfl⟩
    · rw [conditions, ih.members old isOld, same]
      by_cases isState : Merge.stateOf localized.condition = group.state <;> simp [isState]
    · have none : conditions.filter (Merge.stateOf ·.condition = Merge.stateOf localized.condition) = [] := by
        refine filter_eq_nil_iff.mpr fun other present => ?_
        rw [decide_eq_true_eq]
        exact fun equal => absent (mem_states_groupsOf.mpr ⟨other, present, equal⟩)
      rw [none]
      simp

theorem conditions_topGroup {top : ConditionGroup} {rest : List ConditionGroup}
    (groups : getConditionGroups runtime sources = top :: rest) :
    top.conditions = runtime.conditions.sort ((present sources).filter (Merge.stateOf ·.condition = top.state)) := by
  unfold getConditionGroups at groups
  split at groups
  next => cases groups
  next first others sorted =>
    obtain ⟨rfl, rfl⟩ := cons.inj groups
    have mem : first ∈ groupsOf (present sources) :=
      (runtime.groups.perm _).mem_iff.mp (sorted ▸ mem_cons_self)
    rw [(grouped_groupsOf _).members first mem]

theorem perm_of_mem_groups (mem : group ∈ getConditionGroups runtime sources) :
    group.conditions.Perm ((present sources).filter (Merge.stateOf ·.condition = group.state)) := by
  have listed : ∀ old ∈ runtime.groups.sort (groupsOf (present sources)), old.conditions =
      (present sources).filter (Merge.stateOf ·.condition = old.state) := fun old isOld =>
    (grouped_groupsOf _).members old ((runtime.groups.perm _).mem_iff.mp isOld)
  unfold getConditionGroups at mem
  split at mem
  next => cases mem
  next top rest sorted =>
    rw [sorted] at listed
    rcases mem_cons.mp mem with rfl | later
    · exact (runtime.conditions.perm _).trans (.of_eq (listed top mem_cons_self))
    · exact .of_eq (listed group (mem_cons_of_mem _ later))

theorem length_trueGroup :
    ((trueGroup (getConditionGroups runtime sources)).map (·.conditions.length)).getD 0 =
      (present sources).countP (Merge.stateOf ·.condition = (.True, .None)) := by
  cases found : trueGroup (getConditionGroups runtime sources) with
  | none =>
    have absent := find?_eq_none.mp found
    refine (countP_eq_zero.mpr fun localized mem => ?_).symm
    rw [decide_eq_true_eq]
    intro isTrue
    obtain ⟨group, isGroup, state⟩ := mem_map.mp
      ((mem_states_getConditionGroups runtime).mpr ⟨localized, mem, isTrue⟩)
    exact absent group isGroup (by simp [state])
  | some group =>
    have state : group.state = (.True, .None) := by simpa using find?_some found
    rw [← state, countP_eq_length_filter]
    exact (perm_of_mem_groups runtime (mem_of_find?_eq_some found)).length_eq

end Groups

/-- A condition has a severity if and only if its status is False. -/
def WellFormed (condition : Condition) : Prop :=
  condition.severity ≠ .None ↔ condition.status = .False

instance (condition : Condition) : Decidable (WellFormed condition) :=
  inferInstanceAs (Decidable (_ ↔ _))

theorem eq_of_mergePriority {first second : Condition} (wellFormed : WellFormed first) (wellFormed' : WellFormed second)
    (same : mergePriority (Merge.stateOf first) = mergePriority (Merge.stateOf second)) :
    Merge.stateOf first = Merge.stateOf second := by
  unfold WellFormed at wellFormed wellFormed'
  unfold Merge.stateOf at same ⊢
  revert same wellFormed wellFormed'
  generalize first.status = status, first.severity = severity, second.status = status', second.severity = severity'
  cases status <;> cases severity <;> cases status' <;> cases severity' <;> decide

theorem eq_of_rankInGroup {conditions : List LocalizedCondition}
    (apart : (conditions.map fun localized => (localized.condition.type, localized.getter.name)).Nodup)
    {first second : LocalizedCondition} (isFirst : first ∈ conditions) (isSecond : second ∈ conditions)
    (same : rankInGroup first = rankInGroup second) : first = second := by
  have parts := Prod.ext_iff.mp (toLex.injective same)
  have keys := Prod.ext_iff.mp (toLex.injective parts.2)
  exact inj_on_of_nodup_map apart isFirst isSecond (Prod.ext keys.1 keys.2)

theorem sort_eq_of_perm (first second : Sorting rankInGroup) {conditions others : List LocalizedCondition}
    (apart : (conditions.map fun localized => (localized.condition.type, localized.getter.name)).Nodup)
    (perm : conditions.Perm others) : first.sort conditions = second.sort others := by
  have same := (first.perm conditions).trans (perm.trans (second.perm others).symm)
  refine same.eq_of_pairwise (fun one other isOne isOther before after => ?_) (first.sorted _) (second.sorted _)
  exact eq_of_rankInGroup apart ((first.perm conditions).mem_iff.mp isOne)
    (perm.mem_iff.mpr ((second.perm others).mem_iff.mp isOther)) (le_antisymm before after)

theorem getConditionGroups_ne_nil {sources : List (Option Condition × Getter)} (some : present sources ≠ []) :
    getConditionGroups runtime sources ≠ [] := by
  obtain ⟨localized, rest, first⟩ := exists_cons_of_ne_nil some
  have mem := (mem_states_getConditionGroups runtime).mpr ⟨localized, first ▸ mem_cons_self, rfl⟩
  intro none
  rw [none] at mem
  cases mem

theorem topGroup_perm {runtime : Runtime} {sources others : List (Option Condition × Getter)}
    (perm : (present sources).Perm (present others))
    (wellFormed : ∀ localized ∈ present sources, WellFormed localized.condition)
    (apart : ((present sources).map fun localized => (localized.condition.type, localized.getter.name)).Nodup)
    {top top' : ConditionGroup} {rest rest' : List ConditionGroup}
    (groups : getConditionGroups runtime sources = top :: rest)
    (groups' : getConditionGroups other others = top' :: rest') : top = top' := by
  obtain ⟨⟨leading, isLeading, state⟩, least⟩ := topGroup_spec runtime groups
  obtain ⟨⟨leading', isLeading', state'⟩, least'⟩ := topGroup_spec other groups'
  have same : top.state = top'.state := by
    rw [← state, ← state']
    apply eq_of_mergePriority (wellFormed leading isLeading) (wellFormed leading' (perm.mem_iff.mpr isLeading'))
    have before := least leading' (perm.mem_iff.mpr isLeading')
    have after := least' leading (perm.mem_iff.mp isLeading)
    rw [← state] at before
    rw [← state'] at after
    exact le_antisymm before after
  have conditions : top.conditions = top'.conditions := by
    rw [conditions_topGroup runtime groups, conditions_topGroup other groups', same]
    exact sort_eq_of_perm _ _ (apart.sublist (filter_sublist.map _)) (perm.filter _)
  obtain ⟨topState, members⟩ := top
  obtain ⟨topState', members'⟩ := top'
  cases same
  cases conditions
  rfl

theorem merge_perm {runtime : Runtime} (format : runtime.sprintf = other.sprintf)
    {sources others : List (Option Condition × Getter)} (perm : (present sources).Perm (present others))
    (wellFormed : ∀ localized ∈ present sources, WellFormed localized.condition)
    (apart : ((present sources).map fun localized => (localized.condition.type, localized.getter.name)).Nodup)
    (target : ConditionType) (options : MergeOptions) :
    merge runtime sources target options = merge other others target options := by
  by_cases none : present sources = []
  · rw [merge_eq_none runtime none, merge_eq_none other (nil_perm.mp (none ▸ perm))]
  · have none' : present others ≠ [] := fun empty => none (perm_nil.mp (empty ▸ perm))
    obtain ⟨top, rest, groups⟩ := exists_cons_of_ne_nil (getConditionGroups_ne_nil runtime none)
    obtain ⟨top', rest', groups'⟩ := exists_cons_of_ne_nil (getConditionGroups_ne_nil other none')
    obtain rfl := topGroup_perm perm wellFormed apart groups groups'
    have reason : getReason (top :: rest) options = getReason (top :: rest') options := rfl
    have message : getMessage (top :: rest) options = getMessage (top :: rest') options := by
      unfold getMessage getStepCounterMessage
      rw [← groups, ← groups', length_trueGroup, length_trueGroup, perm.countP_eq, groups, groups']
      rfl
    unfold merge
    rw [groups, groups']
    simp only [reason, message, format]

structure Alike (source other : Source) : Prop where
  getter : source.getter = other.getter
  conditions : source.conditions.Perm other.conditions

/-- The same objects in another order, each with its conditions in another order. -/
def Rearranged (sources others : List Source) : Prop :=
  ∃ ordered, sources.Perm ordered ∧ List.Forall₂ Alike ordered others

def keys (source : Source) : List (ConditionType × String) :=
  source.conditions.map fun condition => (condition.type, source.getter.name)

/-- Well-formed conditions, no two of one type from objects of one name. -/
structure Mergeable (sources : List Source) : Prop where
  wellFormed : ∀ source ∈ sources, ∀ condition ∈ source.conditions, WellFormed condition
  distinct : (sources.flatMap keys).Nodup

theorem Mergeable.distinctTypes {sources : List Source} (mergeable : Mergeable sources) {source : Source}
    (mem : source ∈ sources) : ConditionPatch.DistinctTypes source.conditions := by
  have own : (keys source).Nodup := (nodup_flatMap.mp mergeable.distinct).1 source mem
  refine List.Nodup.of_map (fun type => (type, source.getter.name)) ?_
  rw [map_map]
  exact own

theorem get_perm (unique : ConditionPatch.DistinctTypes conditions)
    (perm : conditions.Perm others) (type : ConditionType) : get conditions type = get others type := by
  have unique' : ConditionPatch.DistinctTypes others := (perm.map _).nodup unique
  apply Option.ext
  intro condition
  have typed : ∀ list : ConditionList, get list type = some condition → condition.type = type :=
    fun _ found => by simpa using find?_some found
  constructor
  · intro found
    obtain rfl := typed conditions found
    exact unique'.get_eq_some_iff.mpr (perm.mem_iff.mp (unique.get_eq_some_iff.mp found))
  · intro found
    obtain rfl := typed others found
    exact unique.get_eq_some_iff.mpr (perm.mem_iff.mpr (unique'.get_eq_some_iff.mp found))

theorem inScope_perm (settings : Settings) (perm : conditions.Perm others) :
    (inScope settings conditions).Perm (inScope settings others) :=
  perm.filter _

theorem summarySettings_perm (options : List MergeOption)
    (perm : conditions.Perm others) : summarySettings options conditions = summarySettings options others := by
  have scope := fun settings => inScope_perm settings perm
  unfold summarySettings
  simp only [(scope _).all_eq, (scope _).length_eq]

theorem present_summarized (source : Source) (options : List MergeOption) : present (summarized source options) =
      (inScope (summarySettings options source.conditions) source.conditions).map (⟨·, source.getter⟩) := by
  simp [present, summarized, filterMap_map]

theorem aggregated_alike {sources others : List Source} (mergeable : Mergeable sources)
    (alike : List.Forall₂ Alike sources others) : aggregated sources = aggregated others := by
  have unique : ∀ source ∈ sources, ConditionPatch.DistinctTypes source.conditions :=
    fun _ mem => mergeable.distinctTypes mem
  clear mergeable
  induction alike with
  | nil => rfl
  | cons same _ ih =>
    have ready := get_perm (unique _ mem_cons_self) same.conditions readyCondition
    have rest := ih fun source mem => unique source (mem_cons_of_mem _ mem)
    unfold aggregated at rest ⊢
    rw [map_cons, map_cons, rest, ready, same.getter]

theorem keys_aggregated (sources : List Source) :
    ((present (aggregated sources)).map fun localized => (localized.condition.type, localized.getter.name)).Sublist
      (sources.flatMap keys) := by
  induction sources with
  | nil => exact .slnil
  | cons source rest ih =>
    rw [flatMap_cons]
    cases ready : get source.conditions readyCondition with
    | none =>
      simp only [aggregated, present, map_cons, filterMap_cons, ready] at ih ⊢
      exact ih.trans (sublist_append_right _ _)
    | some condition =>
      have mem : (condition.type, source.getter.name) ∈ keys source :=
        mem_map_of_mem (mem_of_find?_eq_some ready)
      simp only [aggregated, present, map_cons, filterMap_cons, ready] at ih ⊢
      exact (singleton_sublist.mpr mem).append ih

theorem Mergeable.perm {sources others : List Source} (mergeable : Mergeable sources) (perm : sources.Perm others) :
    Mergeable others where
  wellFormed source mem := mergeable.wellFormed source (perm.mem_iff.mpr mem)
  distinct := (perm.flatMap_right _).nodup mergeable.distinct

theorem wellFormed_aggregated {sources : List Source} (mergeable : Mergeable sources) :
    ∀ localized ∈ present (aggregated sources), WellFormed localized.condition := by
  intro localized mem
  obtain ⟨found, listed, made⟩ := mem_filterMap.mp mem
  obtain ⟨source, isSource, rfl⟩ := mem_map.mp listed
  obtain ⟨condition, ready, rfl⟩ := Option.map_eq_some_iff.mp made
  exact mergeable.wellFormed source isSource condition (mem_of_find?_eq_some ready)

theorem aggregate_rearranged {runtime : Runtime} (format : runtime.sprintf = other.sprintf)
    {sources others : List Source} (mergeable : Mergeable sources) (rearranged : Rearranged sources others)
    (target : ConditionType) (options : List MergeOption) :
    aggregate runtime sources target options = aggregate other others target options := by
  obtain ⟨ordered, perm, alike⟩ := rearranged
  have count : sources.length = others.length := perm.length_eq.trans alike.length_eq
  have scope : (present (aggregated sources)).Perm (present (aggregated others)) := by
    rw [← aggregated_alike (mergeable.perm perm) alike]
    exact (perm.map _).filterMap _
  unfold aggregate
  rw [count]
  exact merge_perm format scope (wellFormed_aggregated mergeable)
    (mergeable.distinct.sublist (keys_aggregated sources)) target _

theorem summary_alike {runtime : Runtime} (format : runtime.sprintf = other.sprintf) {source source' : Source}
    (wellFormed : ∀ condition ∈ source.conditions, WellFormed condition)
    (apart : (keys source).Nodup) (alike : Alike source source') (options : List MergeOption) :
    summary runtime source options = summary other source' options := by
  have settings := summarySettings_perm options alike.conditions
  have scope : (present (summarized source options)).Perm (present (summarized source' options)) := by
    rw [present_summarized, present_summarized, settings, alike.getter]
    exact (inScope_perm _ alike.conditions).map _
  unfold summary
  rw [settings]
  refine merge_perm format scope (fun localized mem => ?_) ?_ readyCondition _
  · rw [present_summarized] at mem
    obtain ⟨condition, listed, rfl⟩ := mem_map.mp mem
    exact wellFormed condition (mem_of_mem_filter listed)
  · rw [present_summarized, map_map]
    exact apart.sublist (filter_sublist.map _)

theorem merged_independent_of_order {runtime other : Runtime} (format : runtime.sprintf = other.sprintf)
    {sources others : List Source} (mergeable : Mergeable sources) (rearranged : Rearranged sources others) :
    (∀ target options, aggregate runtime sources target options = aggregate other others target options) ∧
    ∀ source ∈ sources, ∀ source', Alike source source' →
      ∀ options, summary runtime source options = summary other source' options := by
  refine ⟨aggregate_rearranged format mergeable rearranged, fun source mem source' alike options => ?_⟩
  have distinct := (nodup_flatMap.mp mergeable.distinct).1 source mem
  exact summary_alike format (mergeable.wellFormed source mem) distinct alike options

private def plainRuntime : Runtime where
  groups := .insertion _
  conditions := .insertion _
  sprintf := id

private def failed (reason : String) : Condition := falseCondition readyCondition reason .Error "stopped"

private def firstMachine : Source := ⟨⟨"Machine", "cp-0"⟩, [failed "BootstrapFailed", trueCondition "InfrastructureReady"]⟩

private def secondMachine : Source := ⟨⟨"Machine", "cp-1"⟩, [failed "NodeNotFound"]⟩

private def reordered : Source := { firstMachine with conditions := firstMachine.conditions.reverse }

theorem machines_independent_of_order :
    (∀ target options, aggregate plainRuntime [firstMachine, secondMachine] target options =
      aggregate plainRuntime [secondMachine, reordered] target options) ∧
    ∀ source ∈ [firstMachine, secondMachine], ∀ source', Alike source source' →
      ∀ options, summary plainRuntime source options = summary plainRuntime source' options := by
  have mergeable : Mergeable [firstMachine, secondMachine] := ⟨by decide, by decide⟩
  have rearranged : Rearranged [firstMachine, secondMachine] [secondMachine, reordered] :=
    ⟨[secondMachine, firstMachine], .swap _ _ _,
      .cons ⟨rfl, .refl _⟩ (.cons ⟨rfl, (reverse_perm _).symm⟩ .nil)⟩
  exact merged_independent_of_order rfl mergeable rearranged

end OcneProvider.Api.Summary
