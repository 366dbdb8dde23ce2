import OcneProvider.Api.Conditions
import OcneProvider.Data.Keyed

/-! Patches of condition lists: what changed between two lists, and the three-way merge
of the change into a third one. -/

namespace OcneProvider.Api.ConditionPatch
open Meta Conditions
open List hiding get

inductive Operation where
  | add (after : Condition)
  | change (before after : Condition)
  | remove (before : Condition)
  deriving DecidableEq

namespace Operation

def type : Operation → ConditionType
  | add after => after.type
  | change _ after => after.type
  | remove before => before.type

def before : Operation → Option Condition
  | add _ => none
  | change before _ | remove before => some before

def after : Operation → Option Condition
  | add after | change _ after => some after
  | remove _ => none

end Operation

def addOrChange (before : ConditionList) (target : Condition) : Option Operation :=
  match get before target.type with
  | none => some (.add target)
  | some current => if target ≠ current then some (.change current target) else none

def removal (after : ConditionList) (base : Condition) : Option Operation :=
  if (get after base.type).isNone then some (.remove base) else none

def newPatch (before after : ConditionList) : List Operation :=
  after.filterMap (addOrChange before) ++ before.filterMap (removal after)

structure ApplyOptions where
  ownedConditions : List ConditionType
  forceOverwrite : Bool

def ApplyOptions.isOwnedCondition (options : ApplyOptions) (type : ConditionType) : Bool :=
  options.ownedConditions.contains type

def ApplyOptions.overwrites (options : ApplyOptions) (type : ConditionType) : Bool :=
  options.forceOverwrite || options.isOwnedCondition type

/-- Another process has changed the condition; `diff` prints a difference. -/
def modified (diff : Condition → Condition → String) (operation : String) (latest wanted : Condition) : Err :=
  errorf ("error patching conditions: The condition " ++ quoted wanted.type ++
    " was modified by a different process and this caused a merge/" ++ operation ++ " conflict: " ++ diff latest wanted)

def applyOperation (diff : Condition → Condition → String) (options : ApplyOptions) (now : Time)
    (latest : ConditionList) : Operation → Except Err ConditionList
  | .add after =>
    if options.overwrites after.type then .ok (set now latest after)
    else
      match get latest after.type with
      | some latestCondition =>
        if !hasSameState latestCondition after then .error (modified diff "AddCondition" latestCondition after)
        else .ok latest
      | none => .ok (set now latest after)
  | .change before after =>
    if options.overwrites after.type then .ok (set now latest after)
    else
      match get latest after.type with
      | none => .error (errorf ("error patching conditions: The condition " ++ quoted after.type ++
          " was deleted by a different process and this caused a merge/ChangeCondition conflict"))
      | some latestCondition =>
        if latestCondition ≠ before then
          if !hasSameState latestCondition after then .error (modified diff "ChangeCondition" latestCondition after)
          else .ok latest
        else .ok (set now latest after)
  | .remove before =>
    if options.overwrites before.type then .ok (delete latest before.type)
    else
      match get latest before.type with
      | some latestCondition =>
        if !hasSameState latestCondition before then .error (modified diff "RemoveCondition" latestCondition before)
        else .ok (delete latest before.type)
      | none => .ok (delete latest before.type)

def apply (diff : Condition → Condition → String) (options : ApplyOptions) (now : Time) (latest : ConditionList)
    (patch : List Operation) : Except Err ConditionList :=
  patch.foldlM (applyOperation diff options now) latest

/-- A condition without its transition time. -/
def stateOf (condition : Condition) : Condition :=
  { condition with lastTransitionTime := none }

theorem hasSameState_iff {first second : Condition} :
    hasSameState first second = true ↔ stateOf first = stateOf second := by
  cases first
  cases second
  simp only [hasSameState, stateOf, Bool.and_eq_true, beq_iff_eq, Condition.mk.injEq, true_and]
  tauto

inductive Effect where
  | keep
  | put (condition : Condition)
  | drop (type : ConditionType)

/-- None if the operation conflicts with the condition that is there. -/
def effect (options : ApplyOptions) (current : Option Condition) : Operation → Option Effect
  | .add after =>
    if options.overwrites after.type then some (.put after)
    else match current with
      | some found => if hasSameState found after then some .keep else none
      | none => some (.put after)
  | .change before after =>
    if options.overwrites after.type then some (.put after)
    else match current with
      | some found => if found = before then some (.put after) else if hasSameState found after then some .keep else none
      | none => none
  | .remove before =>
    if options.overwrites before.type then some (.drop before.type)
    else match current with
      | some found => if hasSameState found before then some (.drop before.type) else none
      | none => some (.drop before.type)

def Effect.run (now : Time) (latest : ConditionList) : Effect → ConditionList
  | keep => latest
  | put condition => set now latest condition
  | drop type => delete latest type

variable {diff : Condition → Condition → String} {options : ApplyOptions} {now : Time} {latest : ConditionList}

variable (diff options now latest) in
theorem applyOperation_effect (op : Operation) :
    match effect options (get latest op.type) op with
    | some done => applyOperation diff options now latest op = .ok (done.run now latest)
    | none => ∃ error, applyOperation diff options now latest op = .error error := by
  cases op with
  | add after =>
    simp only [applyOperation, effect, Operation.type]
    by_cases own : options.overwrites after.type
    · simp [own, Effect.run]
    cases found : get latest after.type with
    | none => simp [own, Effect.run]
    | some current => by_cases same : hasSameState current after <;> simp [own, same, Effect.run]
  | change before after =>
    simp only [applyOperation, effect, Operation.type]
    by_cases own : options.overwrites after.type
    · simp [own, Effect.run]
    cases found : get latest after.type with
    | none => simp [own]
    | some current =>
      by_cases unmoved : current = before
      · simp [own, unmoved, Effect.run]
      · by_cases same : hasSameState current after <;> simp [own, unmoved, same, Effect.run]
  | remove before =>
    simp only [applyOperation, effect, Operation.type]
    by_cases own : options.overwrites before.type
    · simp [own, Effect.run]
    cases found : get latest before.type with
    | none => simp [own, Effect.run]
    | some current => by_cases same : hasSameState current before <;> simp [own, same, Effect.run]

variable {op : Operation} {conditions : ConditionList} {patch : List Operation} {done : Effect}

section

variable (known : effect options (get latest op.type) op = some done)
include known

theorem applyOperation_ok : applyOperation diff options now latest op = .ok (done.run now latest) := by
  have outcome := applyOperation_effect diff options now latest op
  rwa [known] at outcome

omit known in
theorem applyOperation_error
    (conflict : effect options (get latest op.type) op = none) :
    ∃ error, applyOperation diff options now latest op = .error error := by
  have outcome := applyOperation_effect diff options now latest op
  rwa [conflict] at outcome

/-- As it was in the first list, with its transition time if it was changed in place. -/
def Unmoved (before after latest : Option Condition) : Prop :=
  match before, after with
  | some condition, some _ => latest = some condition
  | _, _ => latest.map stateOf = before.map stateOf

omit known in
instance (before after latest : Option Condition) : Decidable (Unmoved before after latest) :=
  match before, after with
  | some condition, some _ => inferInstanceAs (Decidable (latest = some condition))
  | some condition, none => inferInstanceAs (Decidable (latest.map stateOf = some (stateOf condition)))
  | none, _ => inferInstanceAs (Decidable (latest.map stateOf = none))

/-- The third list has neither what the first has nor what the second has. -/
def Conflicts (before after latest : Option Condition) : Prop :=
  ¬ Unmoved before after latest ∧ latest.map stateOf ≠ after.map stateOf

omit known in
instance (before after latest : Option Condition) : Decidable (Conflicts before after latest) :=
  inferInstanceAs (Decidable (_ ∧ _))

omit known in
theorem effect_eq_none_iff (current : Option Condition) (op : Operation) :
    effect options current op = none ↔
      options.overwrites op.type = false ∧ Conflicts op.before op.after current := by
  cases op with
  | add after =>
    by_cases own : options.overwrites after.type
    · simp [effect, own, Operation.type]
    cases current with
    | none => simp [effect, own, Conflicts, Unmoved, Operation.before, Operation.after]
    | some found => simp [effect, own, Conflicts, Unmoved, Operation.before, Operation.after, Operation.type,
        hasSameState_iff]
  | change before after =>
    by_cases own : options.overwrites after.type
    · simp [effect, own, Operation.type]
    cases current with
    | none => simp [effect, own, Conflicts, Unmoved, Operation.before, Operation.after, Operation.type]
    | some found => 
      by_cases unmoved : found = before
      · simp [effect, own, unmoved, Conflicts, Unmoved, Operation.before, Operation.after]
      · simp [effect, own, unmoved, Conflicts, Unmoved, Operation.before, Operation.after, Operation.type,
          hasSameState_iff]
  | remove before =>
    by_cases own : options.overwrites before.type
    · simp [effect, own, Operation.type]
    cases current with
    | none => simp [effect, own, Conflicts, Operation.after]
    | some found => simp [effect, own, Conflicts, Unmoved, Operation.before, Operation.after, Operation.type,
        hasSameState_iff]

omit known in
theorem effect_cases {current : Option Condition}
    (known : effect options current op = some done) :
    (done = .keep ∧ current.map stateOf = op.after.map stateOf) ∨
      (∃ after, op.after = some after ∧ after.type = op.type ∧ done = .put after) ∨
      op.after = none ∧ done = .drop op.type := by
  cases op with
  | add after =>
    refine (?_ : _ ∨ _).imp id fun same => .inl ⟨after, rfl, rfl, same⟩
    unfold effect at known
    dsimp only at known
    split at known
    next => exact .inr (Option.some.inj known).symm
    cases current with
    | none => exact .inr (Option.some.inj known).symm
    | some found =>
      dsimp only at known
      split at known
      next same => exact .inl ⟨(Option.some.inj known).symm, congrArg some (hasSameState_iff.mp same)⟩
      next => cases known
  | change before after =>
    refine (?_ : _ ∨ _).imp id fun same => .inl ⟨after, rfl, rfl, same⟩
    unfold effect at known
    dsimp only at known
    split at known
    next => exact .inr (Option.some.inj known).symm
    cases current with
    | none => cases known
    | some found =>
      dsimp only at known
      split at known
      next => exact .inr (Option.some.inj known).symm
      split at known
      next same => exact .inl ⟨(Option.some.inj known).symm, congrArg some (hasSameState_iff.mp same)⟩
      next => cases known
  | remove before =>
    refine .inr (.inr ⟨rfl, ?_⟩)
    unfold effect at known
    dsimp only at known
    split at known
    next => exact (Option.some.inj known).symm
    cases current with
    | none => exact (Option.some.inj known).symm
    | some found =>
      dsimp only at known
      split at known
      next => exact (Option.some.inj known).symm
      next => cases known

theorem state_run_same : (get (done.run now latest) op.type).map stateOf = op.after.map stateOf := by
  rcases effect_cases known with ⟨rfl, same⟩ | ⟨after, wanted, type, rfl⟩ | ⟨wanted, rfl⟩
  · exact same
  · obtain ⟨time, found⟩ := get_set_same now latest after
    change (get (set now latest after) op.type).map stateOf = _
    rw [← type, found, wanted]
    rfl
  · change (get (delete latest op.type) op.type).map stateOf = _
    rw [get_delete_same, wanted]

theorem get_run_other {type : ConditionType}
    (other : type ≠ op.type) : get (done.run now latest) type = get latest type := by
  rcases effect_cases known with ⟨rfl, _⟩ | ⟨after, _, same, rfl⟩ | ⟨_, rfl⟩
  · rfl
  · exact get_set_other now latest after (same ▸ other)
  · exact get_delete_other latest other

def types (patch : List Operation) : List ConditionType :=
  patch.map Operation.type

theorem apply_cons_ok :
    apply diff options now latest (op :: patch) = apply diff options now (done.run now latest) patch := by
  change (applyOperation diff options now latest op >>= fun next => apply diff options now next patch) = _
  rw [applyOperation_ok known]
  rfl

end

theorem apply_cons_error (known : effect options (get latest op.type) op = none) :
    ∃ error, apply diff options now latest (op :: patch) = .error error := by
  obtain ⟨error, failed⟩ := applyOperation_error known
  refine ⟨error, ?_⟩
  change (applyOperation diff options now latest op >>= fun next => apply diff options now next patch) = _
  rw [failed]
  rfl

theorem exists_effect_of_apply (applied : apply diff options now latest (op :: patch) = .ok result) :
    ∃ done, effect options (get latest op.type) op = some done ∧
      apply diff options now (done.run now latest) patch = .ok result := by
  cases known : effect options (get latest op.type) op with
  | none =>
    obtain ⟨error, failed⟩ : ∃ error, apply diff options now latest (op :: patch) = .error error :=
      apply_cons_error known
    rw [failed] at applied
    cases applied
  | some done =>
    rw [apply_cons_ok known] at applied
    exact ⟨done, rfl, applied⟩

theorem apply_error_iff (apart : (types patch).Nodup) :
    (∃ error, apply diff options now latest patch = .error error) ↔
      ∃ op ∈ patch, effect options (get latest op.type) op = none := by
  induction patch generalizing latest with
  | nil => simp [apply, pure, Except.pure]
  | cons op rest ih =>
    obtain ⟨fresh, apart⟩ := nodup_cons.mp apart
    cases known : effect options (get latest op.type) op with
    | none =>
      exact ⟨fun _ => ⟨op, mem_cons_self, known⟩, fun _ => apply_cons_error known⟩
    | some done =>
      have later : ∀ other ∈ rest, get (done.run now latest) other.type = get latest other.type :=
        fun other mem => get_run_other known fun same => fresh (same ▸ mem_map_of_mem mem)
      rw [apply_cons_ok known, ih apart]
      constructor
      · rintro ⟨other, mem, conflict⟩
        exact ⟨other, mem_cons_of_mem _ mem, later other mem ▸ conflict⟩
      · rintro ⟨other, mem, conflict⟩
        rcases mem_cons.mp mem with rfl | mem
        · rw [known] at conflict
          cases conflict
        · exact ⟨other, mem, (later other mem).symm ▸ conflict⟩

theorem apply_ok (apart : (types patch).Nodup) {result : ConditionList}
    (applied : apply diff options now latest patch = .ok result) :
    (∀ op ∈ patch, (get result op.type).map stateOf = op.after.map stateOf) ∧
      ∀ type ∉ types patch, get result type = get latest type := by
  induction patch generalizing latest with
  | nil =>
    cases applied
    simp
  | cons op rest ih =>
    obtain ⟨fresh, apart⟩ := nodup_cons.mp apart
    obtain ⟨done, known, applied⟩ := exists_effect_of_apply applied
    obtain ⟨touched, untouched⟩ := ih apart applied
    constructor
    · intro other mem
      rcases mem_cons.mp mem with rfl | mem
      · rw [untouched other.type fresh]
        exact state_run_same known
      · exact touched other mem
    · intro type other
      obtain ⟨differs, later⟩ := not_or.mp (mem_cons.not.mp other)
      rw [untouched type later]
      exact get_run_other known differs

def DistinctTypes (conditions : ConditionList) : Prop :=
  (conditions.map Condition.type).Nodup

instance (conditions : ConditionList) : Decidable (DistinctTypes conditions) :=
  inferInstanceAs (Decidable (List.Nodup _))

theorem DistinctTypes.get_eq_some_iff (unique : DistinctTypes conditions) {condition : Condition} :
    get conditions condition.type = some condition ↔ condition ∈ conditions :=
  (Data.Keyed.find?_eq_some_of_nodup unique fun _ => beq_iff_eq).trans (and_iff_left rfl)

theorem type_of_get {type : ConditionType} {condition : Condition}
    (found : get conditions type = some condition) : condition.type = type := by
  simpa using find?_some found

/-- What the patch between two lists records of a type. -/
def Records (before after : ConditionList) (operation : Operation) : Prop :=
  get before operation.type = operation.before ∧ get after operation.type = operation.after ∧
    operation.before ≠ operation.after

theorem addOrChange_eq_some_iff {before : ConditionList} {target : Condition} :
    addOrChange before target = some op ↔
      (get before target.type = none ∧ op = .add target) ∨
        ∃ current, get before target.type = some current ∧ target ≠ current ∧ op = .change current target := by
  unfold addOrChange
  cases get before target.type with
  | none => simp [eq_comm]
  | some current => by_cases same : target = current <;> simp [same, eq_comm]

theorem removal_eq_some_iff {after : ConditionList} {base : Condition} :
    removal after base = some op ↔ get after base.type = none ∧ op = .remove base := by
  unfold removal
  cases get after base.type with
  | none => simp [eq_comm]
  | some target => simp

/-- The operations of a patch, one for each type on which the two lists differ. -/
theorem mem_newPatch_iff {before after : ConditionList} (unique : DistinctTypes before) (unique' : DistinctTypes after)
    (op : Operation) : op ∈ newPatch before after ↔ Records before after op := by
  unfold newPatch Records
  simp only [mem_append, mem_filterMap, addOrChange_eq_some_iff, removal_eq_some_iff]
  cases op with
  | add target =>
    simp [Operation.type, Operation.before, Operation.after, unique'.get_eq_some_iff, and_comm]
  | change current target =>
    simp only [Operation.type, Operation.before, Operation.after, unique'.get_eq_some_iff]
    constructor
    · rintro (⟨_, mem, ⟨_, wrong⟩ | ⟨_, found, differs, same⟩⟩ | ⟨_, _, _, wrong⟩)
      · cases wrong
      · cases same
        exact ⟨found, mem, fun same => differs (Option.some.inj same).symm⟩
      · cases wrong
    · rintro ⟨found, mem, differs⟩
      exact .inl ⟨target, mem, .inr ⟨current, found, fun same => differs (congrArg some same.symm), rfl⟩⟩
  | remove base =>
    simp [Operation.type, Operation.before, Operation.after, unique.get_eq_some_iff]

theorem types_filterMap_sublist {make : Condition → Option Operation}
    (same : ∀ condition op, make condition = some op → op.type = condition.type)
    (conditions : ConditionList) : (types (conditions.filterMap make)).Sublist (conditions.map Condition.type) := by
  induction conditions with
  | nil => exact .slnil
  | cons first rest ih =>
    cases made : make first with
    | none =>
      rw [filterMap_cons_none made]
      exact .cons _ ih
    | some op =>
      rw [filterMap_cons_some made, types, map_cons, same first op made]
      exact .cons_cons _ ih

theorem newPatch_distinct {before after : ConditionList} (unique : DistinctTypes before) (unique' : DistinctTypes after) :
    (types (newPatch before after)).Nodup := by
  have changed : ∀ target op, addOrChange before target = some op → op.type = target.type := by
    intro target op made
    rcases addOrChange_eq_some_iff.mp made with ⟨_, rfl⟩ | ⟨_, _, _, rfl⟩ <;> rfl
  have removed : ∀ base op, removal after base = some op → op.type = base.type := by
    intro base op made
    rw [(removal_eq_some_iff.mp made).2]
    rfl
  have first := types_filterMap_sublist changed after
  have second := types_filterMap_sublist removed before
  rw [newPatch, types, map_append]
  refine nodup_append.mpr ⟨first.nodup unique', second.nodup unique, ?_⟩
  -- a type that is removed is not in the second list
  intro type touched other gone same
  obtain ⟨op, mem, rfl⟩ := mem_map.mp gone
  obtain ⟨base, _, made⟩ := mem_filterMap.mp mem
  obtain ⟨absent, rfl⟩ := removal_eq_some_iff.mp made
  obtain ⟨target, member', named⟩ := mem_map.mp (first.subset touched)
  have present := unique'.get_eq_some_iff.mpr member'
  rw [named, same] at present
  cases absent.symm.trans present

theorem exists_operation {before after : ConditionList} {type : ConditionType} (differ : get before type ≠ get after type) :
    ∃ op : Operation, op.type = type ∧ Records before after op := by
  cases old : get before type with
  | none =>
    cases new : get after type with
    | none => rw [old, new] at differ; exact absurd rfl differ
    | some target =>
      have same := type_of_get new
      exact ⟨.add target, same, by rw [Records, Operation.type, same]; exact ⟨old, new, by simp [Operation.before, Operation.after]⟩⟩
  | some current =>
    cases new : get after type with
    | none =>
      have same := type_of_get old
      exact ⟨.remove current, same, by rw [Records, Operation.type, same]; exact ⟨old, new, by simp [Operation.before, Operation.after]⟩⟩
    | some target =>
      have same := type_of_get new
      exact ⟨.change current target, same, by
        rw [Records, Operation.type, same]
        exact ⟨old, new, by rw [old, new] at differ; exact differ⟩⟩

theorem overwrites_eq_false_iff {type : ConditionType} : options.overwrites type = false ↔
    options.forceOverwrite = false ∧ type ∉ options.ownedConditions := by
  simp [ApplyOptions.overwrites, ApplyOptions.isOwnedCondition]

/-- A patch fails exactly if a type it touches and does not own has neither its old nor its new state; otherwise the
types it touches get their new states, and all others keep theirs. -/
theorem merge_spec (diff : Condition → Condition → String) (options : ApplyOptions) (now : Time)
    {before after : ConditionList} (unique : DistinctTypes before) (unique' : DistinctTypes after) (latest : ConditionList) :
    ((∃ error, apply diff options now latest (newPatch before after) = .error error) ↔
      options.forceOverwrite = false ∧ ∃ type ∉ options.ownedConditions, get before type ≠ get after type ∧
        Conflicts (get before type) (get after type) (get latest type)) ∧
    ∀ result, apply diff options now latest (newPatch before after) = .ok result → ∀ type,
      (get result type).map stateOf =
        if get before type ≠ get after type then (get after type).map stateOf else (get latest type).map stateOf := by
  have distinct := newPatch_distinct unique unique'
  have listed := mem_newPatch_iff unique unique'
  constructor
  · rw [apply_error_iff distinct]
    constructor
    · rintro ⟨op, mem, conflict⟩
      obtain ⟨old, new, differ⟩ := (listed op).mp mem
      obtain ⟨free, conflicts⟩ := (effect_eq_none_iff _ op).mp conflict
      obtain ⟨unforced, foreign⟩ := overwrites_eq_false_iff.mp free
      refine ⟨unforced, op.type, foreign, ?_⟩
      rw [old, new]
      exact ⟨differ, conflicts⟩
    · rintro ⟨unforced, type, foreign, differ, conflicts⟩
      obtain ⟨op, rfl, said⟩ := exists_operation differ
      rw [said.1, said.2.1] at conflicts
      exact ⟨op, (listed op).mpr said,
        (effect_eq_none_iff _ op).mpr ⟨overwrites_eq_false_iff.mpr ⟨unforced, foreign⟩, conflicts⟩⟩
  · intro result applied type
    obtain ⟨touched, untouched⟩ := apply_ok distinct applied
    split
    next differ =>
      obtain ⟨op, rfl, said⟩ := exists_operation differ
      rw [touched op ((listed op).mpr said), said.2.1]
    next same =>
      rw [untouched type]
      intro mem
      obtain ⟨op, present, rfl⟩ := mem_map.mp mem
      obtain ⟨old, new, differ⟩ := (listed op).mp present
      rw [old, new] at same
      exact same differ

/-- A condition that was set to False here and to Unknown by another process. -/
theorem merge_conflict : ∃ error, apply (fun _ _ => "") ⟨["Available"], false⟩ 5
    [unknownCondition "Ready" "Deleting" ""]
    (newPatch [trueCondition "Ready"] [falseCondition "Ready" "Failed" .Error ""]) = .error error :=
  (merge_spec (fun _ _ => "") ⟨["Available"], false⟩ 5 (by decide) (by decide) _).1.mpr
    ⟨rfl, "Ready", by decide, by decide, by decide⟩

end OcneProvider.Api.ConditionPatch
