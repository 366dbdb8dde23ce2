import OcneProvider.Data.MergePatch
import OcneProvider.Api.ConditionPatch
import OcneProvider.Effects.Fallible

/-! The patch helper: what changed in an object since it was read is written back as a
patch of its conditions, one of its metadata and spec, and one of the rest of its status. -/

namespace OcneProvider.Patch.Updating
open Api Api.Meta Api.Conditions Api.ConditionPatch Data.MergePatch Effects.Program Effects.Fallible

/-- A value of an object. An array is kept by its text, except for the conditions. -/
inductive Content where
  | text (value : String)
  | number (value : Int)
  | flag (value : Bool)
  | array (items : String)
  | conditions (list : ConditionList)
  deriving DecidableEq

abbrev Tree := Json Content

abbrev Object := List (String × Tree)

def statusOf (object : Object) : List (String × Tree) :=
  fieldsOf (object.lookup "status")

def getConditions (object : Object) : ConditionList :=
  match (statusOf object).lookup "conditions" with
  | some (.value (.conditions list)) => list
  | _ => []

/-- An empty list of conditions is left out. -/
def conditionsField (list : ConditionList) : Option Tree :=
  if list = [] then none else some (.value (.conditions list))

def setConditions (object : Object) (list : ConditionList) : Object :=
  setField "status" (some (.object (setField "conditions" (conditionsField list) (statusOf object)))) object

def resourceVersion (object : Object) : String :=
  match look (some (.object object)) ["metadata", "resourceVersion"] with
  | some (.value (.text version)) => version
  | _ => ""

def generation (object : Object) : Int :=
  match look (some (.object object)) ["metadata", "generation"] with
  | some (.value (.number generation)) => generation
  | _ => 0

inductive PatchType where
  | specPatch
  | statusPatch
  deriving DecidableEq

def PatchType.key : PatchType → String
  | specPatch => "spec"
  | statusPatch => "status"

def preserveUnstructuredKeys : List String := ["kind", "apiVersion", "metadata"]

def removeConditions (object : Object) : Object :=
  match object.lookup "status" with
  | some (.object status) => setField "status" (some (.object (without "conditions" status))) object
  | _ => object

def unsafeUnstructuredCopy (object : Object) (focus : PatchType) (isConditionsSetter : Bool) : Object :=
  let kept := keep (· ∈ focus.key :: preserveUnstructuredKeys) object
  if isConditionsSetter ∧ focus = .statusPatch then removeConditions kept else kept

/-- The merge patch between two objects, none if there is nothing to change. -/
def mergeFrom (before after : Object) : Option Tree :=
  diff (some (.object before)) (some (.object after))

inductive Call where
  | get
  | patch (change : Option Tree)
  | patchStatus (change : Option Tree)
  /-- A patch of the status of one version of the object only. -/
  | patchStatusAt (resourceVersion : String) (change : Option Tree)

def Call.Answer : Call → Type
  | get => Except Err Object
  | patch _ | patchStatus _ | patchStatusAt _ _ => Except Err Unit

abbrev signature : Signature := ⟨Call, Call.Answer⟩

abbrev Api := Try signature Err

def getLatest : Api Object :=
  ExceptT.mk (Prog.perform (S := signature) .get)

def sendPatch (change : Option Tree) : Api Unit :=
  ExceptT.mk (Prog.perform (S := signature) (.patch change))

def sendPatchStatus (change : Option Tree) : Api Unit :=
  ExceptT.mk (Prog.perform (S := signature) (.patchStatus change))

def sendPatchStatusAt (version : String) (change : Option Tree) : Api Unit :=
  ExceptT.mk (Prog.perform (S := signature) (.patchStatusAt version change))

structure HelperOptions where
  includeStatusObservedGeneration : Bool
  forceOverwriteConditions : Bool
  ownedConditions : List ConditionType

def noOptions : HelperOptions := ⟨false, false, []⟩

structure Helper where
  before : Object
  isConditionsSetter : Bool

structure Runtime where
  diffText : Condition → Condition → String
  now : Time

/-- The generation goes to the status, if it is asked for. -/
def setObservedGeneration (options : HelperOptions) (object : Object) : Except Err Object :=
  match options.includeStatusObservedGeneration, object.lookup "status" with
  | true, some (.object status) =>
    .ok (setField "status"
      (some (.object (setField "observedGeneration" (some (.value (.number (generation object)))) status))) object)
  | true, some _ => .error (errorf "value cannot be set because .status is not a map[string]interface\x7b\x7d")
  | _, _ => .ok object

namespace Helper

def calculateChanges (helper : Helper) (after : Object) : List String :=
  (fieldsOf (mergeFrom helper.before after)).map Prod.fst

def calculatePatch (helper : Helper) (after : Object) (focus : PatchType) : Option Tree :=
  mergeFrom (unsafeUnstructuredCopy helper.before focus helper.isConditionsSetter)
    (unsafeUnstructuredCopy after focus helper.isConditionsSetter)

/-- False if the object has been changed meanwhile. -/
def patchLatest (runtime : Runtime) (options : HelperOptions) (patch : List Operation) : Api Bool := do
  let latest ← getLatest
  let conditions ← ExceptT.mk (pure (apply runtime.diffText
    ⟨options.ownedConditions, options.forceOverwriteConditions⟩ runtime.now (getConditions latest) patch))
  match ← attempt (sendPatchStatusAt (resourceVersion latest) (mergeFrom latest (setConditions latest conditions))) with
  | .ok _ => return true
  | .error error => if error.is .conflict then return false else throw error

def exponentialBackoff (condition : Api Bool) : Nat → Api Unit
  | 0 => throw (errorf "timed out waiting for the condition")
  | steps + 1 => do if ← condition then return () else exponentialBackoff condition steps

def backoffSteps : Nat := 5

def patchStatusConditions (runtime : Runtime) (helper : Helper) (after : Object) (options : HelperOptions) : Api Unit :=
  if helper.isConditionsSetter then
    let patch := newPatch (getConditions helper.before) (getConditions after)
    if patch.isEmpty then return ()
    else exponentialBackoff (patchLatest runtime options patch) backoffSteps
  else return ()

def patchRest (helper : Helper) (after : Object) : Api Unit :=
  let changes := helper.calculateChanges after
  if "metadata" ∉ changes ∧ "spec" ∉ changes then return ()
  else sendPatch (helper.calculatePatch after .specPatch)

def patchStatus (helper : Helper) (after : Object) : Api Unit :=
  if "status" ∉ helper.calculateChanges after then return ()
  else sendPatchStatus (helper.calculatePatch after .statusPatch)

def errorOf : Except Err Unit → Option Err
  | .ok _ => none
  | .error error => some error

/-- All three patches are sent, whether one before fails or not. -/
def patch (runtime : Runtime) (helper : Helper) (object : Object) (options : HelperOptions) : Api Unit := do
  let after ← ExceptT.mk (pure (setObservedGeneration options object))
  let conditions ← attempt (patchStatusConditions runtime helper after options)
  let rest ← attempt (patchRest helper after)
  let status ← attempt (patchStatus helper after)
  failIfAny ([conditions, rest, status].filterMap errorOf) ()

end Helper

def patched (server : Object) (change : Option Tree) : Object :=
  fieldsOf (applyPatch (some (.object server)) change)

/-- No call fails: calls for the status change only the status, and others never do. A patch of another version is a
conflict. -/
def serve (server : Object) : (call : Call) → call.Answer × Object
  | .get => (.ok server, server)
  | .patch change => (.ok (), setField "status" (server.lookup "status") (patched server change))
  | .patchStatus change => (.ok (), setField "status" ((patched server change).lookup "status") server)
  | .patchStatusAt version change =>
    if resourceVersion server = version then
      (.ok (), setField "status" ((patched server change).lookup "status") server)
    else (.error ⟨["the object has been modified"], [.conflict]⟩, server)

def serving : Env signature Object :=
  fun server call answer next => (answer, next) = serve server call

/-- The status is there and no type of condition occurs twice. -/
structure Carrier (object : Object) : Prop where
  keys : ∀ entry ∈ object, entry.1 ∈ ["kind", "apiVersion", "metadata", "spec", "status"]
  status : isObject (object.lookup "status") = true
  distinct : DistinctTypes (getConditions object)

theorem lookup_mergeFrom (before after : Object) (key : String) :
    (fieldsOf (mergeFrom before after)).lookup key = diff (before.lookup key) (after.lookup key) :=
  field_diff before after key

theorem lookup_patched {server before after : Object} (key : String) :
    (patched server (mergeFrom before after)).lookup key =
      applyPatch (server.lookup key) (diff (before.lookup key) (after.lookup key)) :=
  field_applyPatch_diff (some (.object server)) rfl rfl key

abbrev Ends {α : Type} (part : Api α) (ok : α → Object → Prop) (server : Object) : Prop :=
  wpE serving (fun _ _ => True) ok (fun _ _ => False) part server

section Calls

variable {server : Object}

theorem ends_getLatest {ok : Object → Object → Prop} (given : ok server server) : Ends getLatest ok server := by
  refine ⟨trivial, fun answer next served => ?_⟩
  cases served
  exact given

variable {change : Option Tree} {ok : Unit → Object → Prop}

theorem ends_sendPatch (given : ok () (setField "status" (server.lookup "status") (patched server change))) :
    Ends (sendPatch change) ok server := by
  refine ⟨trivial, fun answer next served => ?_⟩
  cases served
  exact given

section

variable (given : ok () (setField "status" ((patched server change).lookup "status") server))
include given

theorem ends_sendPatchStatus : Ends (sendPatchStatus change) ok server := by
  refine ⟨trivial, fun answer next served => ?_⟩
  cases served
  exact given

theorem ends_sendPatchStatusAt : Ends (sendPatchStatusAt (resourceVersion server) change) ok server := by
  refine ⟨trivial, fun answer next served => ?_⟩
  change _ = serve server (.patchStatusAt (resourceVersion server) change) at served
  rw [show serve server (.patchStatusAt (resourceVersion server) change) = _ from if_pos rfl] at served
  cases served
  exact given

end

theorem Ends.mono {α : Type} {part : Api α} {ok ok' : α → Object → Prop} (ends : Ends part ok server)
    (weaker : ∀ value next, ok value next → ok' value next) : Ends part ok' server :=
  wpE_mono ends weaker fun _ _ failed => failed

theorem Ends.bind_attempt {α β : Type} {part : Api α} {rest : Except Err α → Api β} {ok : β → Object → Prop}
    (first : Ends part (fun value next => Ends (rest (.ok value)) ok next) server) :
    Ends (attempt part >>= rest) ok server := by
  rw [Ends, wpE_bind, wpE_attempt]
  exact wpE_mono first (fun _ _ met => met) fun _ _ failed => failed.elim

end Calls

/-- What one patch of the status with new conditions leaves. -/
structure Renewed (server : Object) (list : ConditionList) (next : Object) : Prop where
  others : ∀ key ≠ "status", next.lookup key = server.lookup key
  status : isObject (next.lookup "status") = true
  rest : ∀ key ≠ "conditions", (statusOf next).lookup key = (statusOf server).lookup key
  conditions : getConditions next = list

/-- A value or an absence takes the place of whatever stands there. -/
theorem applyPatch_diff_conditionsField (current : Option Tree) (list : ConditionList) :
    applyPatch current (diff current (conditionsField list)) = conditionsField list := by
  unfold conditionsField
  split
  next => cases current <;> rfl
  next =>
    cases current with
    | none => rfl
    | some found =>
      cases found with
      | null => rfl
      | value content => by_cases same : content = .conditions list <;> simp [diff, change, same, applyPatch, merge]
      | object fields => rfl

theorem getConditions_eq {object : Object} {list : ConditionList}
    (there : (statusOf object).lookup "conditions" = conditionsField list) : getConditions object = list := by
  unfold getConditions
  rw [there]
  unfold conditionsField
  split <;> simp_all

theorem renewed_setConditions {server : Object} (carried : isObject (server.lookup "status") = true)
    (list : ConditionList) : Renewed server list
      (setField "status" ((patched server (mergeFrom server (setConditions server list))).lookup "status") server) := by
  obtain ⟨status, there⟩ := isObject_iff.mp carried
  have field (key : String) : (statusOf (setField "status"
      ((patched server (mergeFrom server (setConditions server list))).lookup "status") server)).lookup key =
        applyPatch (status.lookup key) (diff (status.lookup key)
          ((setField "conditions" (conditionsField list) status).lookup key)) := by
    rw [statusOf, lookup_setField_self, lookup_patched, setConditions, lookup_setField_self, statusOf, there]
    exact field_applyPatch_diff (some (.object status)) rfl rfl key
  have current : statusOf server = status := by rw [statusOf, there, fieldsOf]
  constructor
  · exact fun key differs => lookup_setField _ differs
  · rw [lookup_setField_self, lookup_patched, setConditions, lookup_setField_self]
    exact isObject_applyPatch_diff carried rfl carried
  · intro key differs
    rw [field, lookup_setField _ differs, diff_self, current]
    rfl
  · apply getConditions_eq
    rw [field, lookup_setField_self, applyPatch_diff_conditionsField]

/-- Two objects of one kind, which carry conditions. -/
structure Pair (before after : Object) : Prop where
  carried : Carrier before
  carries : Carrier after
  kind : before.lookup "kind" = after.lookup "kind"
  apiVersion : before.lookup "apiVersion" = after.lookup "apiVersion"

def wanted (before after server : Object) (type : ConditionType) : Option Condition :=
  if Conditions.get (getConditions before) type ≠ Conditions.get (getConditions after) type then
    (Conditions.get (getConditions after) type).map stateOf
  else (Conditions.get (getConditions server) type).map stateOf

/-- The conditions are as they were, for every type that is changed. -/
def Unmodified (before after server : Object) : Prop :=
  ∀ type, Conditions.get (getConditions before) type ≠ Conditions.get (getConditions after) type →
    Conditions.get (getConditions server) type = Conditions.get (getConditions before) type

section Steps

variable {before after server : Object}

variable (runtime : Runtime) {object : Object}

theorem exists_merged (pair : Pair before after) (unmodified : Unmodified before after server) :
    ∃ list, ConditionPatch.apply runtime.diffText ⟨[], false⟩ runtime.now (getConditions server)
        (newPatch (getConditions before) (getConditions after)) = .ok list ∧
      ∀ type, (Conditions.get list type).map stateOf = wanted before after server type := by
  obtain ⟨fails, merges⟩ := merge_spec runtime.diffText ⟨[], false⟩ runtime.now pair.carried.distinct
    pair.carries.distinct (getConditions server)
  cases applied : ConditionPatch.apply runtime.diffText ⟨[], false⟩ runtime.now (getConditions server)
      (newPatch (getConditions before) (getConditions after)) with
  | ok list => exact ⟨list, rfl, merges list applied⟩
  | error error =>
    obtain ⟨_, type, _, differ, moved, _⟩ := fails.mp ⟨error, applied⟩
    refine absurd ?_ moved
    rw [unmodified type differ]
    unfold Unmoved
    split <;> simp_all

theorem ends_patchLatest {runtime : Runtime} {patch : List Operation} {list : ConditionList} {ok : Bool → Object → Prop}
    (applied : ConditionPatch.apply runtime.diffText ⟨[], false⟩ runtime.now (getConditions server) patch = .ok list)
    (given : ok true (setField "status"
      ((patched server (mergeFrom server (setConditions server list))).lookup "status") server)) :
    Ends (Helper.patchLatest runtime noOptions patch) ok server := by
  unfold Helper.patchLatest Ends
  rw [wpE_bind]
  apply ends_getLatest
  rw [wpE_bind, wpE_mk]
  change outcome _ _ (ConditionPatch.apply runtime.diffText ⟨[], false⟩ runtime.now (getConditions server) patch) _
  rw [applied]
  apply Ends.bind_attempt
  exact ends_sendPatchStatusAt given

theorem ends_exponentialBackoff {condition : Api Bool} {steps : Nat} {ok : Unit → Object → Prop}
    (first : Ends condition (fun done next => done = true ∧ ok () next) server) :
    Ends (Helper.exponentialBackoff condition (steps + 1)) ok server := by
  unfold Helper.exponentialBackoff Ends
  rw [wpE_bind]
  refine first.mono fun done next met => ?_
  rw [met.1]
  exact met.2

theorem ends_patchStatusConditions (pair : Pair before after)
    (carried : isObject (server.lookup "status") = true) (unmodified : Unmodified before after server) :
    Ends (Helper.patchStatusConditions runtime ⟨before, true⟩ after noOptions)
      (fun _ next => ∃ list, Renewed server list next ∧
        ∀ type, (Conditions.get list type).map stateOf = wanted before after server type) server := by
  obtain ⟨list, applied, merged⟩ := exists_merged runtime pair unmodified
  unfold Helper.patchStatusConditions
  simp only [if_true]
  split
  next empty =>
    rw [List.isEmpty_iff.mp empty] at applied
    cases applied
    exact ⟨_, ⟨fun _ _ => rfl, carried, fun _ _ => rfl, rfl⟩, merged⟩
  next => exact ends_exponentialBackoff (ends_patchLatest applied ⟨rfl, list, renewed_setConditions carried list, merged⟩)

theorem Carrier.lookup_eq_none (carrier : Carrier object) {key : String}
    (foreign : key ∉ ["kind", "apiVersion", "metadata", "spec", "status"]) : object.lookup key = none := by
  cases found : object.lookup key with
  | none => rfl
  | some content => exact absurd (carrier.keys _ (mem_of_lookup found)) foreign

theorem diff_eq_none_of_unlisted {key : String} (unlisted : key ∉ Helper.calculateChanges ⟨before, true⟩ after) :
    diff (before.lookup key) (after.lookup key) = none := by
  rw [← lookup_mergeFrom]
  cases found : (fieldsOf (mergeFrom before after)).lookup key with
  | none => rfl
  | some change => exact absurd (List.mem_map_of_mem (f := Prod.fst) (mem_of_lookup found)) unlisted

theorem diff_specCopy (pair : Pair before after) {key : String} (differs : key ≠ "status") :
    diff ((unsafeUnstructuredCopy before .specPatch true).lookup key)
      ((unsafeUnstructuredCopy after .specPatch true).lookup key) = diff (before.lookup key) (after.lookup key) := by
  have copied (object : Object) : unsafeUnstructuredCopy object .specPatch true =
      keep (· ∈ ["spec", "kind", "apiVersion", "metadata"]) object := rfl
  rw [copied, copied, lookup_keep, lookup_keep]
  split
  next => rfl
  next unkept =>
    have foreign : key ∉ ["kind", "apiVersion", "metadata", "spec", "status"] := by
      simp only [List.mem_cons, decide_eq_true_eq] at unkept ⊢
      tauto
    rw [pair.carried.lookup_eq_none foreign, pair.carries.lookup_eq_none foreign]

theorem ends_patchRest (pair : Pair before after) : Ends (Helper.patchRest ⟨before, true⟩ after)
      (fun _ next => next.lookup "status" = server.lookup "status" ∧ ∀ key ≠ "status",
        next.lookup key = applyPatch (server.lookup key) (diff (before.lookup key) (after.lookup key))) server := by
  unfold Helper.patchRest
  dsimp only
  split
  next unlisted =>
    refine ⟨rfl, fun key differs => ?_⟩
    have nothing : diff (before.lookup key) (after.lookup key) = none := by
      by_cases foreign : key ∈ ["kind", "apiVersion", "metadata", "spec", "status"]
      · simp only [List.mem_cons, List.not_mem_nil, or_false] at foreign
        rcases foreign with rfl | rfl | rfl | rfl | rfl
        · rw [pair.kind, diff_self]
        · rw [pair.apiVersion, diff_self]
        · exact diff_eq_none_of_unlisted unlisted.1
        · exact diff_eq_none_of_unlisted unlisted.2
        · exact absurd rfl differs
      · rw [pair.carried.lookup_eq_none foreign, pair.carries.lookup_eq_none foreign]
        rfl
    rw [nothing]
    rfl
  next =>
    refine ends_sendPatch ⟨lookup_setField_self _, fun key differs => ?_⟩
    rw [lookup_setField _ differs]
    exact (lookup_patched key).trans (by rw [diff_specCopy pair differs])

theorem lookup_removeConditions (object : Object) (carried : isObject (object.lookup "status") = true) :
    (removeConditions object).lookup "status" = some (.object (without "conditions" (statusOf object))) := by
  obtain ⟨status, there⟩ := isObject_iff.mp carried
  rw [removeConditions, there, statusOf, there]
  exact lookup_setField_self _

theorem lookup_statusCopy (carried : isObject (object.lookup "status") = true) :
    (unsafeUnstructuredCopy object .statusPatch true).lookup "status" =
      some (.object (without "conditions" (statusOf object))) := by
  have kept : (keep (· ∈ ["status", "kind", "apiVersion", "metadata"]) object).lookup "status" =
      object.lookup "status" := by
    rw [lookup_keep]
    rfl
  refine (lookup_removeConditions (keep (· ∈ ["status", "kind", "apiVersion", "metadata"]) object) ?_).trans ?_
  · rw [kept, carried]
  · rw [statusOf, kept, statusOf]

theorem getConditions_congr {object other : Object}
    (same : (statusOf object).lookup "conditions" = (statusOf other).lookup "conditions") :
    getConditions object = getConditions other := by
  rw [getConditions, same, getConditions]

theorem ends_patchStatus (pair : Pair before after) (carried : isObject (server.lookup "status") = true) :
    Ends (Helper.patchStatus ⟨before, true⟩ after)
      (fun _ next => (∀ key ≠ "status", next.lookup key = server.lookup key) ∧
        isObject (next.lookup "status") = true ∧ getConditions next = getConditions server ∧
        ∀ key ≠ "conditions", (statusOf next).lookup key = applyPatch ((statusOf server).lookup key)
          (diff ((statusOf before).lookup key) ((statusOf after).lookup key))) server := by
  have copied := lookup_statusCopy pair.carried.status
  have copied' := lookup_statusCopy pair.carries.status
  obtain ⟨status, there⟩ := isObject_iff.mp carried
  obtain ⟨old, was⟩ := isObject_iff.mp pair.carried.status
  obtain ⟨new, is⟩ := isObject_iff.mp pair.carries.status
  unfold Helper.patchStatus
  split
  next unlisted =>
    refine ⟨fun _ _ => rfl, carried, rfl, fun key _ => ?_⟩
    have nothing := diff_eq_none_of_unlisted unlisted
    rw [was, is] at nothing
    rw [statusOf, statusOf, statusOf, was, is, fieldsOf, fieldsOf, ← field_diff, nothing]
    rfl
  next =>
    apply ends_sendPatchStatus
    have patchedStatus : (patched server (Helper.calculatePatch ⟨before, true⟩ after .statusPatch)).lookup "status" =
        applyPatch (server.lookup "status") (diff (some (.object (without "conditions" (statusOf before))))
          (some (.object (without "conditions" (statusOf after))))) :=
      (lookup_patched _).trans (by rw [copied, copied'])
    have fields (key : String) : (statusOf (setField "status" ((patched server
        (Helper.calculatePatch ⟨before, true⟩ after .statusPatch)).lookup "status") server)).lookup key =
          applyPatch ((statusOf server).lookup key) (diff ((without "conditions" (statusOf before)).lookup key)
            ((without "conditions" (statusOf after)).lookup key)) := by
      rw [statusOf, lookup_setField_self, patchedStatus]
      exact field_applyPatch_diff (server.lookup "status") rfl rfl key
    refine ⟨fun key differs => lookup_setField _ differs, ?_, ?_, fun key differs => ?_⟩
    · rw [lookup_setField_self, patchedStatus]
      exact isObject_applyPatch_diff rfl rfl carried
    · apply getConditions_congr
      rw [fields, lookup_without_self, lookup_without_self]
      rfl
    · rw [fields, lookup_without differs, lookup_without differs]

end Steps

/-- An object as a tree, without its conditions. -/
def bare (object : Object) : Option Tree :=
  some (.object (removeConditions object))

section Whole

variable {before after server : Object}

theorem field_bare (object : Object) {key : String} (differs : key ≠ "status") :
    field (bare object) key = object.lookup key := by
  change (removeConditions object).lookup key = _
  unfold removeConditions
  split
  next => exact lookup_setField _ differs
  next => rfl

/-- What is there once all three patches are sent. -/
structure Written (before after server next : Object) : Prop where
  others : ∀ key ≠ "status", next.lookup key =
    applyPatch (server.lookup key) (diff (before.lookup key) (after.lookup key))
  status : isObject (next.lookup "status") = true
  rest : ∀ key ≠ "conditions", (statusOf next).lookup key = applyPatch ((statusOf server).lookup key)
    (diff ((statusOf before).lookup key) ((statusOf after).lookup key))
  conditions : ∀ type, (Conditions.get (getConditions next) type).map stateOf = wanted before after server type

theorem ends_patch (runtime : Runtime) (pair : Pair before after)
    (carried : isObject (server.lookup "status") = true) (unmodified : Unmodified before after server) :
    Ends (Helper.patch runtime ⟨before, true⟩ after noOptions) (fun _ next => Written before after server next) server := by
  refine Ends.bind_attempt ((ends_patchStatusConditions runtime pair carried unmodified).mono ?_)
  rintro _ first ⟨list, renewed, merged⟩
  refine Ends.bind_attempt ((ends_patchRest pair).mono ?_)
  rintro _ second ⟨kept, others⟩
  have current : statusOf second = statusOf first := by rw [statusOf, kept, statusOf]
  refine Ends.bind_attempt ((ends_patchStatus pair (kept ▸ renewed.status)).mono ?_)
  rintro _ third ⟨same, status, conditions, rest⟩
  constructor
  · intro key differs
    rw [same key differs, others key differs, renewed.others key differs]
  · exact status
  · intro key differs
    rw [rest key differs, current, renewed.rest key differs]
  · intro type
    rw [conditions, getConditions_congr (congrArg _ current), renewed.conditions]
    exact merged type

theorem Written.same {next : Object} (written : Written before after server next) (pair : Pair before after)
    (carried : isObject (server.lookup "status") = true) :
    Same (bare next) (applyPatch (bare server) (diff (bare before) (bare after))) := by
  have status (object : Object) (carried : isObject (object.lookup "status") = true) :
      field (bare object) "status" = some (.object (without "conditions" (statusOf object))) :=
    lookup_removeConditions object carried
  refine same_of_fields rfl (isObject_applyPatch_diff rfl rfl rfl) fun key => ?_
  rw [field_applyPatch_diff (bare server) rfl rfl key]
  by_cases differs : key = "status"
  · subst differs
    rw [status next written.status, status server carried, status before pair.carried.status,
      status after pair.carries.status]
    refine same_of_fields rfl (isObject_applyPatch_diff rfl rfl rfl) fun key => ?_
    rw [field_applyPatch_diff _ rfl rfl key]
    simp only [field, fieldsOf]
    by_cases differs : key = "conditions"
    · subst differs
      simp only [lookup_without_self]
      exact fun _ => rfl
    · simp only [lookup_without differs]
      rw [written.rest key differs]
      exact fun _ => rfl
  · simp only [field_bare _ differs]
    rw [written.others key differs]
    exact fun _ => rfl

/-- The server has what was there before, but for paths and types that others have changed and that are not changed
here, nor below what is replaced. -/
structure Concurrent (before after server : Object) (paths : List String → Prop) (types : ConditionType → Prop) :
    Prop where
  agree : ∀ path, paths path → Untouched (bare before) (bare after) path
  equal : ∀ path, (∀ other, paths other → ¬ other <+: path ∧ ¬ path <+: other) →
    Same (look (bare server) path) (look (bare before) path)
  agreeTypes : ∀ type, types type →
    Conditions.get (getConditions before) type = Conditions.get (getConditions after) type
  equalTypes : ∀ type, ¬ types type →
    Conditions.get (getConditions server) type = Conditions.get (getConditions before) type

variable {paths : List String → Prop} {types : ConditionType → Prop}

theorem Concurrent.current (concurrent : Concurrent before after server paths types) {path : List String}
    (changed : Changed (bare before) (bare after) path) : Same (look (bare server) path) (look (bare before) path) := by
  refine concurrent.equal path fun other moved => ?_
  exact (concurrent.agree other moved path changed).symm

theorem Concurrent.unmodified
    (concurrent : Concurrent before after server paths types) : Unmodified before after server :=
  fun type differ => concurrent.equalTypes type fun moved => differ (concurrent.agreeTypes type moved)

/-- The server gets what is there after at every path that is changed, and keeps every other; likewise for conditions,
up to their times. -/
theorem patch_writes_difference (runtime : Runtime) (before after server : Object) (pair : Pair before after)
    (stored : isObject (server.lookup "status") = true) (paths : List String → Prop) (types : ConditionType → Prop)
    (concurrent : Concurrent before after server paths types) :
    ∃ next, (Helper.patch runtime ⟨before, true⟩ after noOptions).run.exec serve server = (.ok (), next) ∧
      (∀ path, Changed (bare before) (bare after) path → Same (look (bare next) path) (look (bare after) path)) ∧
      (∀ path, Untouched (bare before) (bare after) path → Same (look (bare next) path) (look (bare server) path)) ∧
      ∀ type, (Conditions.get (getConditions next) type).map stateOf = wanted before after server type := by
  have served : ∀ server request, serving server request (serve server request).1 (serve server request).2 :=
    fun _ _ => rfl
  have ended := wp_done (exec_run serve _ server served) (ends_patch runtime pair stored concurrent.unmodified)
  cases outcome : (Helper.patch runtime ⟨before, true⟩ after noOptions).run.exec serve server with
  | mk result next =>
    rw [outcome] at ended
    cases result with
    | error error => exact ended.elim
    | ok done =>
      have same := ended.same pair stored
      refine ⟨next, rfl, fun path changed rest => ?_, fun path untouched => ?_, ended.conditions⟩
      · exact (same.look path rest).trans
          (same_applyPatch_diff_of_changed changed (concurrent.current changed) rest)
      · have kept : look (applyPatch (bare server) (diff (bare before) (bare after))) path = look (bare server) path :=
          look_applyPatch_diff_of_untouched untouched
        exact kept ▸ same.look path

def exampleObject (replicas : Int) (list : ConditionList) : Object :=
  [("kind", .value (.text "OCNEControlPlane")), ("spec", .object [("replicas", .value (.number replicas))]),
    ("status", .object [("ready", .value (.flag true)), ("conditions", .value (.conditions list))])]

theorem exampleObject_carrier (replicas : Int) {list : ConditionList} (distinct : DistinctTypes list) :
    Carrier (exampleObject replicas list) where
  keys := by simp [exampleObject]
  status := rfl
  distinct := distinct

/-- A change here and a condition added elsewhere are both there afterwards. -/
theorem exampleObject_both_there : ∃ next,
    (Helper.patch ⟨fun _ _ => "", 5⟩ ⟨exampleObject 1 [trueCondition "Ready"], true⟩
      (exampleObject 3 [trueCondition "Ready"]) noOptions).run.exec serve
        (exampleObject 1 [trueCondition "Available", trueCondition "Ready"]) = (.ok (), next) ∧
      view (look (bare next) ["spec", "replicas"]) = .value (.number 3) ∧
      Conditions.get (getConditions next) "Available" ≠ none := by
  have concurrent : Concurrent (exampleObject 1 [trueCondition "Ready"]) (exampleObject 3 [trueCondition "Ready"])
      (exampleObject 1 [trueCondition "Available", trueCondition "Ready"]) (fun _ => False) (· = "Available") := by
    refine ⟨nofun, fun _ _ => fun _ => rfl, fun _ _ => rfl, fun type other => ?_⟩
    change Conditions.get [trueCondition "Available", trueCondition "Ready"] type =
      Conditions.get [trueCondition "Ready"] type
    have different : (trueCondition "Available").type ≠ type := fun same => other same.symm
    simp [Conditions.get, List.find?_cons, different]
  obtain ⟨next, done, changed, _, conditions⟩ := patch_writes_difference ⟨fun _ _ => "", 5⟩ _ _ _
    ⟨exampleObject_carrier 1 (by decide), exampleObject_carrier 3 (by decide), rfl, rfl⟩ rfl _ _ concurrent
  refine ⟨next, done, changed ["spec", "replicas"] ⟨rfl, rfl, rfl, rfl, ?_, rfl⟩ [], fun absent => ?_⟩
  · rintro ⟨⟩
  · have there := conditions "Available"
    rw [absent] at there
    cases there

end Whole

end OcneProvider.Patch.Updating
