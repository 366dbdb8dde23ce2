import Mathlib.Data.String.Basic
import OcneProvider.Api.ConditionPatch

/-! Patches that touch different types can be applied in either order. -/

namespace OcneProvider.Api.ConditionOrder
open Meta Conditions ConditionPatch Data.Sorted
open List hiding get

variable {conditions : ConditionList} {condition : Condition}

/-- A patch, with one operation for a type. -/
structure Patch where
  operations : List Operation
  distinct : (types operations).Nodup

def Patch.between (before after : ConditionList) (unique : DistinctTypes before) (unique' : DistinctTypes after) : Patch :=
  ⟨newPatch before after, newPatch_distinct unique unique'⟩

def rank (condition : Condition) : ℕ ×ₗ String :=
  toLex (if condition.type = readyCondition then 0 else 1, condition.type)

theorem rank_le_iff (first second : Condition) :
    rank first ≤ rank second ↔ ¬ lexicographicLess second first = true := by
  unfold lexicographicLess rank
  rw [Prod.Lex.toLex_le_toLex]
  by_cases ready : first.type = readyCondition
  · by_cases ready' : second.type = readyCondition <;> simp [ready, ready']
  · by_cases ready' : second.type = readyCondition <;> simp [ready, ready', -String.lt_iff_ltb]

theorem rank_injective {first second : Condition} (same : rank first = rank second) : first.type = second.type :=
  congrArg Prod.snd (toLex.injective same)

/-- Puts a condition in the place of the first one of its type. -/
def swap (condition : Condition) : ConditionList → ConditionList
  | [] => []
  | existing :: rest => if existing.type = condition.type then condition :: rest else existing :: swap condition rest

def put (condition : Condition) (conditions : ConditionList) : ConditionList :=
  stable rank (if has conditions condition.type then swap condition conditions else conditions ++ [condition])

def clear (conditions : ConditionList) : ConditionList :=
  conditions.map stateOf

theorem get_clear (type : ConditionType) :
    get (clear conditions) type = (get conditions type).map stateOf := by
  unfold clear Conditions.get
  rw [find?_map]
  rfl

theorem has_clear (type : ConditionType) :
    has (clear conditions) type = has conditions type := by
  unfold has
  rw [get_clear, Option.isSome_map]

theorem clear_replaceFirst (now : Time) :
    clear (replaceFirst now condition conditions) = swap (stateOf condition) (clear conditions) := by
  induction conditions with
  | nil => rfl
  | cons existing rest ih =>
    change _ = swap (stateOf condition) (stateOf existing :: clear rest)
    unfold replaceFirst swap
    by_cases found : existing.type = condition.type
    · rw [if_pos (beq_iff_eq.mpr found), if_pos (show (stateOf existing).type = (stateOf condition).type from found)]
      split
      next same => exact congrArg (· :: clear rest) (hasSameState_iff.mp same)
      next => rfl
    · rw [if_neg (beq_iff_eq.not.mpr found), if_neg (show (stateOf existing).type ≠ (stateOf condition).type from found)]
      exact congrArg (stateOf existing :: ·) ih

theorem clear_set (now : Time) :
    clear (Conditions.set now conditions condition) = put (stateOf condition) (clear conditions) := by
  have updated : clear (if has conditions condition.type then replaceFirst now condition conditions
      else conditions ++ [{ condition with lastTransitionTime := condition.lastTransitionTime.or (some now) }]) =
      if has (clear conditions) (stateOf condition).type then swap (stateOf condition) (clear conditions)
      else clear conditions ++ [stateOf condition] := by
    rw [has_clear]
    change _ = if has conditions condition.type then _ else _
    split
    next => exact clear_replaceFirst now
    next =>
      unfold clear
      rw [map_append]
      rfl
  rw [put, ← updated]
  exact map_insertionSort _ (fun first second => rank first ≤ rank second) stateOf _ fun first _ second _ =>
    (rank_le_iff first second).symm

variable {type : ConditionType}

theorem delete_eq_self (absent : type ∉ conditions.map Condition.type) : delete conditions type = conditions :=
  filter_eq_self.mpr fun condition mem => by
    have differs : condition.type ≠ type := fun same => absent (same ▸ mem_map_of_mem mem)
    simpa using differs

theorem swap_perm (unique : DistinctTypes conditions) (mem : condition.type ∈ conditions.map Condition.type) :
    (swap condition conditions).Perm (condition :: delete conditions condition.type) := by
  induction conditions with
  | nil => simp at mem
  | cons existing rest ih =>
    obtain ⟨fresh, unique⟩ := nodup_cons.mp unique
    unfold swap
    split
    next same =>
      have kept : delete (existing :: rest) condition.type = rest := by
        rw [delete, filter_cons_of_neg (by simpa using same)]
        exact delete_eq_self (same ▸ fresh)
      rw [kept]
    next differs =>
      have kept : delete (existing :: rest) condition.type = existing :: delete rest condition.type :=
        filter_cons_of_pos (by simpa using differs)
      rw [kept]
      have later : condition.type ∈ rest.map Condition.type :=
        (mem_cons.mp mem).resolve_left fun same => differs same.symm
      exact ((ih unique later).cons existing).trans (List.Perm.swap _ _ _)

theorem has_iff : has conditions type = true ↔ type ∈ conditions.map Condition.type := by
  simp [has, Conditions.get, find?_isSome]

theorem put_perm (unique : DistinctTypes conditions) (condition : Condition) :
    (put condition conditions).Perm (condition :: delete conditions condition.type) := by
  refine (stable_perm _).trans ?_
  split
  next mem => exact swap_perm unique (has_iff.mp mem)
  next absent =>
    rw [delete_eq_self (has_iff.not.mp absent)]
    exact perm_append_singleton condition conditions

theorem unique_delete (unique : DistinctTypes conditions) (type : ConditionType) :
    DistinctTypes (delete conditions type) :=
  (filter_sublist.map Condition.type).nodup unique

theorem unique_of_perm {first second : ConditionList} (perm : first.Perm second) (unique : DistinctTypes second) : DistinctTypes first :=
  (perm.map Condition.type).nodup_iff.mpr unique

theorem unique_put (unique : DistinctTypes conditions) (condition : Condition) :
    DistinctTypes (put condition conditions) := by
  refine unique_of_perm (put_perm unique condition) (nodup_cons.mpr ⟨?_, unique_delete unique _⟩)
  intro mem
  obtain ⟨other, mem, same⟩ := mem_map.mp mem
  simpa [same] using of_mem_filter mem

theorem eq_of_sorted {first second : ConditionList} (unique : DistinctTypes first) (perm : first.Perm second)
    (sorted : first.Pairwise (rank · ≤ rank ·)) (sorted' : second.Pairwise (rank · ≤ rank ·)) : first = second := by
  refine perm.eq_of_pairwise (fun condition other mem member' before after => ?_) sorted sorted'
  have same := rank_injective (le_antisymm before after)
  have found := unique.get_eq_some_iff.mpr mem
  rw [same, unique.get_eq_some_iff.mpr (perm.mem_iff.mpr member')] at found
  exact (Option.some.inj found).symm

/-- What an effect makes of a list, transition times apart. -/
def act (conditions : ConditionList) : Effect → ConditionList
  | .keep => conditions
  | .put condition => put (stateOf condition) conditions
  | .drop type => delete conditions type

theorem clear_run (now : Time) (done : Effect) :
    clear (done.run now conditions) = act (clear conditions) done := by
  cases done with
  | keep => rfl
  | put condition => exact clear_set now
  | drop type =>
    change (conditions.filter _).map stateOf = (conditions.map stateOf).filter _
    rw [filter_map]
    rfl

theorem unique_act (unique : DistinctTypes conditions) (done : Effect) : DistinctTypes (act conditions done) := by
  cases done with
  | keep => exact unique
  | put condition => exact unique_put unique _
  | drop type => exact unique_delete unique type

def touches : Effect → Option ConditionType
  | .keep => none
  | .put condition => some condition.type
  | .drop type => some type

theorem delete_comm (conditions : ConditionList) (first second : ConditionType) :
    delete (delete conditions first) second = delete (delete conditions second) first :=
  filter_comm _ _ _

theorem delete_cons_of_ne (differs : condition.type ≠ type)
    (conditions : ConditionList) : delete (condition :: conditions) type = condition :: delete conditions type :=
  filter_cons_of_pos (by simpa using differs)

theorem delete_perm {first second : ConditionList} (perm : first.Perm second) (type : ConditionType) :
    (delete first type).Perm (delete second type) :=
  perm.filter _

theorem put_delete_comm (unique : DistinctTypes conditions) (differs : condition.type ≠ type) :
    put condition (delete conditions type) = delete (put condition conditions) type := by
  have left := put_perm (unique_delete unique type) condition
  have right := delete_perm (put_perm unique condition) type
  rw [delete_cons_of_ne differs, delete_comm] at right
  exact eq_of_sorted (unique_put (unique_delete unique type) condition) (left.trans right.symm)
    (stable_sorted rank _) ((stable_sorted rank _).filter _)

theorem put_comm (unique : DistinctTypes conditions) {first second : Condition}
    (differs : first.type ≠ second.type) : put first (put second conditions) = put second (put first conditions) := by
  have spread : ∀ {one other : Condition}, one.type ≠ other.type → (put one (put other conditions)).Perm
      (one :: other :: delete (delete conditions other.type) one.type) := by
    intro one other apart
    refine (put_perm (unique_put unique other) one).trans (.cons one ?_)
    have moved := delete_perm (put_perm unique other) one.type
    rwa [delete_cons_of_ne apart.symm] at moved
  refine eq_of_sorted (unique_put (unique_put unique second) first) ?_ (stable_sorted rank _) (stable_sorted rank _)
  refine (spread differs).trans (.trans ?_ (spread differs.symm).symm)
  rw [delete_comm]
  exact .swap _ _ _

theorem act_comm (unique : DistinctTypes conditions) {first second : Effect}
    (apart : ∀ type, touches first = some type → touches second ≠ some type) :
    act (act conditions first) second = act (act conditions second) first := by
  cases first with
  | keep => cases second <;> rfl
  | put condition =>
    have differs : ∀ {type}, touches second = some type → (stateOf condition).type ≠ type :=
      fun touched same => apart condition.type rfl (touched.trans (congrArg some same.symm))
    cases second with
    | keep => rfl
    | put other => exact put_comm unique (differs (show touches (.put other) = some other.type from rfl)).symm
    | drop type => exact (put_delete_comm unique (differs rfl)).symm
  | drop type =>
    cases second with
    | keep => rfl
    | put other => exact put_delete_comm unique fun same => apart type rfl (congrArg some same)
    | drop other => exact delete_comm conditions type other

theorem act_foldl_comm (unique : DistinctTypes conditions) {done : Effect} {effects : List Effect}
    (apart : ∀ other ∈ effects, ∀ type, touches done = some type → touches other ≠ some type) :
    effects.foldl act (act conditions done) = act (effects.foldl act conditions) done := by
  induction effects generalizing conditions with
  | nil => rfl
  | cons first rest ih =>
    obtain ⟨head, tail⟩ := forall_mem_cons.mp apart
    change rest.foldl act (act (act conditions done) first) = _
    rw [act_comm unique head]
    exact ih (unique_act unique first) tail

theorem foldl_comm (unique : DistinctTypes conditions) {effects others : List Effect}
    (apart : ∀ done ∈ effects, ∀ other ∈ others, ∀ type, touches done = some type → touches other ≠ some type) :
    others.foldl act (effects.foldl act conditions) = effects.foldl act (others.foldl act conditions) := by
  induction effects generalizing conditions with
  | nil => rfl
  | cons first rest ih =>
    obtain ⟨head, tail⟩ := forall_mem_cons.mp apart
    change others.foldl act (rest.foldl act (act conditions first)) = rest.foldl act (act (others.foldl act conditions) first)
    rw [ih (unique_act unique first) tail, act_foldl_comm unique head]

def effects (options : ApplyOptions) (latest : ConditionList) (patch : List Operation) : List Effect :=
  patch.filterMap fun operation => effect options (get latest operation.type) operation

theorem effects_congr {options : ApplyOptions} {latest other : ConditionList} {patch : List Operation}
    (same : ∀ type ∈ types patch, get latest type = get other type) :
    effects options latest patch = effects options other patch :=
  filterMap_congr fun op mem => by rw [same _ (mem_map_of_mem mem)]

theorem touches_effects {options : ApplyOptions} {latest : ConditionList} {patch : List Operation} {done : Effect}
    (mem : done ∈ effects options latest patch) (touched : touches done = some type) :
    type ∈ types patch := by
  obtain ⟨op, listed, known⟩ := mem_filterMap.mp mem
  rcases effect_cases known with ⟨rfl, _⟩ | ⟨after, _, same, rfl⟩ | ⟨_, rfl⟩
  · cases touched
  · cases touched
    exact same ▸ mem_map_of_mem listed
  · cases touched
    exact mem_map_of_mem listed

variable {diff : Condition → Condition → String} {options : ApplyOptions} {now : Time} {latest result : ConditionList}

theorem clear_apply {patch : List Operation} (apart : (types patch).Nodup)
    (applied : apply diff options now latest patch = .ok result) :
    clear result = (effects options latest patch).foldl act (clear latest) := by
  induction patch generalizing latest with
  | nil =>
    cases applied
    rfl
  | cons op rest ih =>
    obtain ⟨fresh, apart⟩ := nodup_cons.mp apart
    obtain ⟨done, known, applied⟩ := exists_effect_of_apply applied
    have later : effects options (done.run now latest) rest = effects options latest rest :=
      effects_congr fun type mem => get_run_other known fun same => fresh (same ▸ mem)
    have split : effects options latest (op :: rest) = done :: effects options latest rest :=
      filterMap_cons_some known
    rw [ih apart applied, later, clear_run, split]
    rfl

theorem apply_succeeds_iff
    {patch : List Operation} (apart : (types patch).Nodup) :
    (∃ result, apply diff options now latest patch = .ok result) ↔
      ∀ op ∈ patch, effect options (get latest op.type) op ≠ none := by
  have fails : (∃ error, apply diff options now latest patch = .error error) ↔ _ := apply_error_iff apart
  cases outcome : apply diff options now latest patch with
  | ok result =>
    refine ⟨fun _ op mem conflict => ?_, fun _ => ⟨result, rfl⟩⟩
    obtain ⟨error, failed⟩ := fails.mpr ⟨op, mem, conflict⟩
    rw [outcome] at failed
    cases failed
  | error error =>
    obtain ⟨op, mem, conflict⟩ := fails.mp ⟨error, outcome⟩
    refine ⟨fun ⟨result, wrong⟩ => ?_, fun fine => absurd conflict (fine op mem)⟩
    cases wrong

section Commute

variable {options' : ApplyOptions} {now' : Time} {first second : Patch}

/-- Two patches after one another, seen from the list they start with. -/
theorem both_iff (apart : ∀ type ∈ types first.operations, type ∉ types second.operations) :
    (∃ between result, apply diff options now latest first.operations = .ok between ∧
      apply diff options' now' between second.operations = .ok result) ↔
    (∀ op ∈ first.operations, effect options (get latest op.type) op ≠ none) ∧
      ∀ op ∈ second.operations, effect options' (get latest op.type) op ≠ none := by
  rw [← apply_succeeds_iff first.distinct]
  constructor
  · rintro ⟨between, result, applied, applied'⟩
    refine ⟨⟨between, applied⟩, fun op mem => ?_⟩
    have same := (apply_ok first.distinct applied).2 op.type fun touched =>
      apart _ touched (mem_map_of_mem mem)
    rw [← same]
    exact (apply_succeeds_iff second.distinct).mp ⟨result, applied'⟩ op mem
  · rintro ⟨⟨between, applied⟩, fine⟩
    have fine' : ∀ op ∈ second.operations, effect options' (get between op.type) op ≠ none := by
      intro op mem
      rw [(apply_ok first.distinct applied).2 op.type fun touched => apart _ touched (mem_map_of_mem mem)]
      exact fine op mem
    obtain ⟨result, applied'⟩ := (apply_succeeds_iff second.distinct).mpr fine'
    exact ⟨between, result, applied, applied'⟩

theorem clear_both (apart : ∀ type ∈ types first.operations, type ∉ types second.operations) {between : ConditionList}
    (applied : apply diff options now latest first.operations = .ok between)
    (applied' : apply diff options' now' between second.operations = .ok result) :
    clear result = (effects options' latest second.operations).foldl act
      ((effects options latest first.operations).foldl act (clear latest)) := by
  have same : effects options' between second.operations = effects options' latest second.operations :=
    effects_congr fun type mem => (apply_ok first.distinct applied).2 type fun touched => apart type touched mem
  rw [clear_apply second.distinct applied', clear_apply first.distinct applied, same]

end Commute

/-- Patches on different types commute but for transition times: both orders succeed or neither does. -/
theorem patches_commute (diff : Condition → Condition → String) (options options' : ApplyOptions)
    (now now' again again' : Time) (first second : Patch)
    (apart : ∀ type ∈ types first.operations, type ∉ types second.operations) (latest : ConditionList)
    (unique : DistinctTypes latest) :
    ((∃ between result, apply diff options now latest first.operations = .ok between ∧
      apply diff options' now' between second.operations = .ok result) ↔
    ∃ between result, apply diff options' again' latest second.operations = .ok between ∧
      apply diff options again between first.operations = .ok result) ∧
    ∀ between result between' result', apply diff options now latest first.operations = .ok between →
      apply diff options' now' between second.operations = .ok result →
      apply diff options' again' latest second.operations = .ok between' →
      apply diff options again between' first.operations = .ok result' →
      result.map stateOf = result'.map stateOf := by
  have apart' : ∀ type ∈ types second.operations, type ∉ types first.operations :=
    fun type mem member' => apart type member' mem
  refine ⟨?_, fun between result between' result' applied applied' reversed reversed' => ?_⟩
  · rw [both_iff apart, both_iff apart', and_comm]
  · change clear result = clear result'
    rw [clear_both apart applied applied', clear_both apart' reversed reversed']
    have clearUnique : DistinctTypes (clear latest) := by
      unfold DistinctTypes clear
      rwa [map_map]
    exact foldl_comm clearUnique fun done mem other member' type touched touched' =>
      apart type (touches_effects mem touched) (touches_effects member' touched')

private def waiting : Condition := falseCondition "Ready" "Waiting" .Info ""

private def makeReady : Patch := .between [waiting] [trueCondition "Ready"] (by decide) (by decide)

private def makeAvailable : Patch := .between [] [trueCondition "Available"] (by decide) (by decide)

theorem ready_and_available_commute : ∃ result result',
    (apply (fun _ _ => "") ⟨[], false⟩ 1 [waiting] makeReady.operations >>= fun between =>
      apply (fun _ _ => "") ⟨[], false⟩ 2 between makeAvailable.operations) = .ok result ∧
    (apply (fun _ _ => "") ⟨[], false⟩ 3 [waiting] makeAvailable.operations >>= fun between =>
      apply (fun _ _ => "") ⟨[], false⟩ 4 between makeReady.operations) = .ok result' ∧
    result.map stateOf = result'.map stateOf :=
  ⟨_, _, rfl, rfl, (patches_commute (fun _ _ => "") ⟨[], false⟩ ⟨[], false⟩ 1 2 4 3 makeReady makeAvailable
    (by decide) [waiting] (by decide)).2 _ _ _ _ rfl rfl rfl rfl⟩

end OcneProvider.Api.ConditionOrder
