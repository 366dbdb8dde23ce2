import OcneProvider.Api.ConditionOrder

/-! The list of conditions after any calls: its order, and where the transition times in it come from. -/

namespace OcneProvider.Api.ConditionHistory
open Meta Conditions ConditionPatch ConditionOrder Data.Sorted
open List hiding get

/-- A call that changes conditions, with its message formatted. -/
inductive Call where
  | set (condition : Option Condition)
  | markTrue (type : ConditionType)
  | markUnknown (type : ConditionType) (reason message : String)
  | markFalse (type : ConditionType) (reason : String) (severity : ConditionSeverity) (message : String)
  | delete (type : ConditionType)

def Call.condition : Call → Option Condition
  | .set condition => condition
  | .markTrue type => some (trueCondition type)
  | .markUnknown type reason message => some (unknownCondition type reason message)
  | .markFalse type reason severity message => some (falseCondition type reason severity message)
  | .delete _ => none

def truncate (time : Time) : Time :=
  time - time % second

structure Event where
  time : Time
  call : Call

def step (conditions : ConditionList) (event : Event) : ConditionList :=
  match event.call with
  | .delete type => delete conditions type
  | call =>
    match call.condition with
    | none => conditions
    | some condition => Conditions.set (truncate event.time) conditions condition

def run (events : List Event) : ConditionList :=
  events.foldl step []

theorem run_append (earlier : List Event) (event : Event) : run (earlier ++ [event]) = step (run earlier) event := by
  simp [run, foldl_append]

theorem step_cases (conditions : ConditionList) (event : Event) :
    (event.call.condition = none ∧ step conditions event = conditions) ∨
    (∃ type, event.call.condition = none ∧ step conditions event = delete conditions type) ∨
    ∃ condition, event.call.condition = some condition ∧
      step conditions event = Conditions.set (truncate event.time) conditions condition := by
  obtain ⟨time, call⟩ := event
  cases call with
  | set condition =>
    cases condition with
    | none => exact .inl ⟨rfl, rfl⟩
    | some condition => exact .inr (.inr ⟨condition, rfl, rfl⟩)
  | delete type => exact .inr (.inl ⟨type, rfl, rfl⟩)
  | markTrue type => exact .inr (.inr ⟨_, rfl, rfl⟩)
  | markUnknown type reason message => exact .inr (.inr ⟨_, rfl, rfl⟩)
  | markFalse type reason severity message => exact .inr (.inr ⟨_, rfl, rfl⟩)

/-- Every type occurs once; Ready is first, and the others are sorted by type. -/
structure WellOrdered (conditions : ConditionList) : Prop where
  unique : DistinctTypes conditions
  sorted : conditions.Pairwise (rank · ≤ rank ·)

theorem wellOrdered_clear {conditions : ConditionList} : WellOrdered (clear conditions) ↔ WellOrdered conditions := by
  have unique : DistinctTypes (clear conditions) ↔ DistinctTypes conditions := by
    unfold DistinctTypes
    rw [clear, map_map]
    rfl
  have sorted : (clear conditions).Pairwise (rank · ≤ rank ·) ↔ conditions.Pairwise (rank · ≤ rank ·) := by
    rw [clear, pairwise_map]
    rfl
  constructor
  · exact fun held => ⟨unique.mp held.unique, sorted.mp held.sorted⟩
  · exact fun held => ⟨unique.mpr held.unique, sorted.mpr held.sorted⟩

theorem wellOrdered_set {conditions : ConditionList} (held : WellOrdered conditions) (now : Time) (condition : Condition) :
    WellOrdered (Conditions.set now conditions condition) := by
  rw [← wellOrdered_clear, clear_set]
  exact ⟨unique_put (wellOrdered_clear.mpr held).unique _, stable_sorted rank _⟩

theorem wellOrdered_step {conditions : ConditionList} (held : WellOrdered conditions) (event : Event) :
    WellOrdered (step conditions event) := by
  rcases step_cases conditions event with ⟨_, same⟩ | ⟨type, _, same⟩ | ⟨condition, _, same⟩ <;> rw [same]
  · exact held
  · exact ⟨unique_delete held.unique type, held.sorted.filter _⟩
  · exact wellOrdered_set held _ condition

theorem wellOrdered_run (events : List Event) : WellOrdered (run events) := by
  induction events using reverseRecOn with
  | nil => exact ⟨nodup_nil, .nil⟩
  | append_singleton earlier event ih =>
    rw [run_append]
    exact wellOrdered_step ih event

theorem WellOrdered.pairwise_less {conditions : ConditionList} (held : WellOrdered conditions) :
    conditions.Pairwise fun earlier later => lexicographicLess earlier later = true := by
  have distinct : conditions.Pairwise fun earlier later => earlier.type ≠ later.type := pairwise_map.mp held.unique
  refine (held.sorted.and distinct).imp fun {earlier later} ⟨before, apart⟩ => ?_
  by_contra other
  have after := (rank_le_iff later earlier).mpr other
  exact apart (rank_injective (le_antisymm before after))

section Times

variable {conditions : ConditionList} {event : Event} {type : ConditionType} {condition : Condition}

/-- The call brings a condition of the type that is new or has another state. -/
def Changes (type : ConditionType) (conditions : ConditionList) (event : Event) : Prop :=
  ∃ condition, event.call.condition = some condition ∧ condition.type = type ∧
    (get conditions type).map stateOf ≠ some (stateOf condition)

/-- The time of such a call, or the one that an added condition brings. -/
def stamp (type : ConditionType) (conditions : ConditionList) (event : Event) : Option Time :=
  match get conditions type with
  | none => (event.call.condition.bind Condition.lastTransitionTime).or (some (truncate event.time))
  | some _ => some (truncate event.time)

theorem get_step (found : get (step conditions event) type = some condition) :
    Changes type conditions event ∧ condition.lastTransitionTime = stamp type conditions event ∨
      ¬ Changes type conditions event ∧ get conditions type = some condition := by
  rcases step_cases conditions event with ⟨nothing, same⟩ | ⟨other, nothing, same⟩ | ⟨given, sets, same⟩ <;>
    rw [same] at found
  · exact .inr ⟨by simp [Changes, nothing], found⟩
  · by_cases isOther : type = other
    · rw [isOther, get_delete_same] at found
      cases found
    · rw [get_delete_other conditions isOther] at found
      exact .inr ⟨by simp [Changes, nothing], found⟩
  · by_cases isGiven : type = given.type
    · subst isGiven
      rw [get_set, Option.some.injEq] at found
      subst found
      cases existing : get conditions given.type with
      | none => exact .inl ⟨⟨given, sets, rfl, by simp [existing]⟩, by simp [stamp, existing, sets, stored]⟩
      | some mem =>
        have changes : Changes given.type conditions event ↔ ¬ hasSameState mem given = true := by
          rw [hasSameState_iff]
          simp [Changes, sets, existing]
        rw [changes, stored]
        by_cases alike : hasSameState mem given = true
        · exact .inr ⟨not_not.mpr alike, by rw [if_pos alike]⟩
        · exact .inl ⟨alike, by simp [stamp, existing, alike]⟩
    · rw [get_set_other _ conditions given isGiven] at found
      exact .inr ⟨by simp [Changes, sets, Ne.symm isGiven], found⟩

theorem get_of_not_changes (unchanged : ¬ Changes type conditions event)
    (found : get (step conditions event) type = some condition) : get conditions type = some condition :=
  (get_step found).elim (fun changed => absurd changed.1 unchanged) And.right

/-- The last of some calls that adds or changes a type, with those before it. -/
structure LastChange (type : ConditionType) (events earlier : List Event) (event : Event) : Prop where
  changes : Changes type (run earlier) event
  last : ∃ later, events = earlier ++ event :: later ∧ ∀ middle next rest, later = middle ++ next :: rest →
    ¬ Changes type (run (earlier ++ event :: middle)) next

theorem LastChange.append {events earlier : List Event} {next : Event} (change : LastChange type events earlier event)
    (unchanged : ¬ Changes type (run events) next) : LastChange type (events ++ [next]) earlier event := by
  obtain ⟨later, split, none⟩ := change.last
  refine ⟨change.changes, later ++ [next], by rw [split, append_assoc, cons_append], fun middle other rest parts => ?_⟩
  rcases eq_nil_or_concat rest with rfl | ⟨front, back, rfl⟩
  · obtain ⟨rfl, equal⟩ := append_inj' parts rfl
    rw [← split, ← cons.inj equal |>.1]
    exact unchanged
  · rw [concat_eq_append, ← cons_append, ← append_assoc] at parts
    obtain ⟨split, _⟩ := append_inj' parts rfl
    exact none middle other front split

theorem exists_lastChange {events : List Event} (found : get (run events) type = some condition) :
    ∃ earlier event, LastChange type events earlier event ∧
      condition.lastTransitionTime = stamp type (run earlier) event := by
  induction events using reverseRecOn with
  | nil => cases found
  | append_singleton events next ih =>
    rw [run_append] at found
    rcases get_step found with ⟨changes, time⟩ | ⟨unchanged, same⟩
    · exact ⟨events, next, ⟨changes, [], rfl, by simp⟩, time⟩
    · obtain ⟨earlier, event, change, time⟩ := ih same
      exact ⟨earlier, event, change.append unchanged, time⟩

/-- After any calls every type occurs once, in order, with the time of the last call that added or changed it. -/
theorem condition_list_history (events : List Event) : DistinctTypes (run events) ∧
    ((run events).Pairwise fun earlier later => lexicographicLess earlier later = true) ∧
    (∀ type condition, get (run events) type = some condition → ∃ earlier event,
      LastChange type events earlier event ∧ condition.lastTransitionTime = stamp type (run earlier) event) ∧
    ∀ event type condition, get (run (events ++ [event])) type = some condition → ¬ Changes type (run events) event →
      get (run events) type = some condition := by
  have held := wellOrdered_run events
  refine ⟨held.unique, held.pairwise_less, fun type condition => exists_lastChange, ?_⟩
  intro event type condition found unchanged
  rw [run_append] at found
  exact get_of_not_changes unchanged found

end Times

end OcneProvider.Api.ConditionHistory
