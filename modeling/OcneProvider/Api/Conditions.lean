import OcneProvider.Api.Meta
import OcneProvider.Data.Sorted

/-! Conditions of objects: reading, setting and deleting them. -/

namespace OcneProvider.Api.Conditions
open Meta Data.Sorted

abbrev ConditionType := String

inductive ConditionStatus where
  | True
  | False
  | Unknown
  deriving DecidableEq, Repr

inductive ConditionSeverity where
  | Error
  | Warning
  | Info
  | None
  deriving DecidableEq, Repr

structure Condition where
  type : ConditionType
  status : ConditionStatus
  severity : ConditionSeverity
  lastTransitionTime : Option Time
  reason : String
  message : String
  deriving DecidableEq

abbrev ConditionList := List Condition

def readyCondition : ConditionType := "Ready"

def get (conditions : ConditionList) (type : ConditionType) : Option Condition :=
  conditions.find? (·.type == type)

def has (conditions : ConditionList) (type : ConditionType) : Bool :=
  (get conditions type).isSome

def hasStatus (status : ConditionStatus) (conditions : ConditionList) (type : ConditionType) : Bool :=
  (get conditions type).any (·.status == status)

def isTrue : ConditionList → ConditionType → Bool := hasStatus .True

def isFalse : ConditionList → ConditionType → Bool := hasStatus .False

def lexicographicLess (first second : Condition) : Bool :=
  (first.type == readyCondition || first.type < second.type) && second.type != readyCondition

def hasSameState (first second : Condition) : Bool :=
  first.type == second.type && first.status == second.status && first.reason == second.reason &&
    first.severity == second.severity && first.message == second.message

/-- The time of the first condition of the type is kept if the state is the same. -/
def replaceFirst (now : Time) (condition : Condition) : ConditionList → ConditionList
  | [] => []
  | existing :: rest =>
    if existing.type == condition.type then
      if hasSameState existing condition then existing :: rest
      else { condition with lastTransitionTime := some now } :: rest
    else existing :: replaceFirst now condition rest

def set (now : Time) (conditions : ConditionList) (condition : Condition) : ConditionList :=
  let updated :=
    if has conditions condition.type then replaceFirst now condition conditions
    else conditions ++ [{ condition with
      lastTransitionTime := condition.lastTransitionTime.or (some now) }]
  updated.insertionSort fun first second => ¬ lexicographicLess second first

def trueCondition (type : ConditionType) : Condition :=
  ⟨type, .True, .None, none, "", ""⟩

def falseCondition (type : ConditionType) (reason : String) (severity : ConditionSeverity)
    (message : String) : Condition :=
  ⟨type, .False, severity, none, reason, message⟩

def unknownCondition (type : ConditionType) (reason message : String) : Condition :=
  ⟨type, .Unknown, .None, none, reason, message⟩

def delete (conditions : ConditionList) (type : ConditionType) : ConditionList :=
  conditions.filter (·.type ≠ type)

private theorem sameType_ordered {type : ConditionType} (first second : Condition)
    (isFirst : (first.type == type) = true) (isSecond : (second.type == type) = true) :
    ¬ lexicographicLess second first = true := by
  rw [beq_iff_eq] at isFirst isSecond
  simp only [lexicographicLess, isFirst, isSecond]
  simp

def stored (now : Time) (condition : Condition) : Option Condition → Condition
  | none => { condition with lastTransitionTime := condition.lastTransitionTime.or (some now) }
  | some existing =>
    if hasSameState existing condition then existing else { condition with lastTransitionTime := some now }

variable (now : Time) (conditions : ConditionList) {type other : ConditionType} (condition : Condition)

theorem stored_eq (existing : Option Condition) :
    ∃ time, stored now condition existing = { condition with lastTransitionTime := time } := by
  cases existing with
  | none => exact ⟨_, rfl⟩
  | some existing =>
    by_cases same : hasSameState existing condition = true
    · refine ⟨existing.lastTransitionTime, ?_⟩
      rw [stored, if_pos same]
      simp only [hasSameState, Bool.and_eq_true, beq_iff_eq] at same
      obtain ⟨⟨⟨⟨type, status⟩, reason⟩, severity⟩, message⟩ := same
      cases existing
      cases condition
      simp_all
    · exact ⟨some now, if_neg same⟩

theorem get_replaceFirst : get (replaceFirst now condition conditions) condition.type =
      (get conditions condition.type).map fun existing => stored now condition (some existing) := by
  induction conditions with
  | nil => rfl
  | cons existing rest ih =>
    by_cases found : existing.type = condition.type
    · by_cases same : hasSameState existing condition
      · simp [replaceFirst, found, same, get, stored]
      · simp [replaceFirst, found, same, get, stored]
    · simpa [replaceFirst, found, get, List.find?_cons] using ih

theorem get_replaceFirst_other (differs : type ≠ condition.type) :
    get (replaceFirst now condition conditions) type = get conditions type := by
  induction conditions with
  | nil => rfl
  | cons existing rest ih =>
    unfold replaceFirst
    split
    · split
      · rfl
      · have apart : existing.type ≠ type := by
          rename_i found _
          rw [beq_iff_eq] at found
          exact fun same => differs (same ▸ found)
        simp [get, apart, differs.symm]
    · simp only [get, List.find?_cons] at ih ⊢
      rw [ih]

theorem get_set : get (set now conditions condition) condition.type =
      some (stored now condition (get conditions condition.type)) := by
  unfold set
  rw [get, find?_insertionSort sameType_ordered, ← get]
  cases existing : get conditions condition.type with
  | none =>
    have absent : conditions.find? (·.type == condition.type) = none := existing
    simp [has, get, List.find?_append, absent, stored]
  | some mem => simp [has, existing, get_replaceFirst]

theorem get_set_same : ∃ time, get (set now conditions condition) condition.type =
      some { condition with lastTransitionTime := time } := by
  obtain ⟨time, same⟩ := stored_eq now condition (get conditions condition.type)
  exact ⟨time, by rw [get_set, same]⟩

theorem get_set_other (differs : type ≠ condition.type) :
    get (set now conditions condition) type = get conditions type := by
  unfold get set
  rw [find?_insertionSort sameType_ordered]
  split
  · exact get_replaceFirst_other _ _ _ differs
  · simp [List.find?_append, differs.symm]

theorem hasStatus_set (status : ConditionStatus) :
    hasStatus status (set now conditions condition) condition.type = (condition.status == status) := by
  obtain ⟨time, found⟩ := get_set_same now conditions condition
  rw [hasStatus, found]
  rfl

theorem get_delete_same : get (delete conditions type) type = none := by
  unfold get delete
  simp

theorem get_delete_other (differs : type ≠ other) : get (delete conditions other) type = get conditions type := by
  unfold get delete
  rw [List.find?_filter]
  congr 1
  funext condition
  by_cases same : condition.type = type
  · simp [same, differs]
  · simp [same]

theorem isTrue_delete_other (differs : type ≠ other) :
    isTrue (delete conditions other) type = isTrue conditions type := by
  simp only [isTrue, hasStatus, get_delete_other conditions differs]

theorem isFalse_delete_other (differs : type ≠ other) :
    isFalse (delete conditions other) type = isFalse conditions type := by
  simp only [isFalse, hasStatus, get_delete_other conditions differs]

theorem isFalse_eq_false {conditions : ConditionList}
    (holds : isTrue conditions type = true) : isFalse conditions type = false := by
  simp only [isTrue, isFalse, hasStatus] at holds ⊢
  cases found : get conditions type with
  | none => rfl
  | some condition =>
    rw [found] at holds
    have status : condition.status = .True := by simpa using holds
    simp [status]

end OcneProvider.Api.Conditions
