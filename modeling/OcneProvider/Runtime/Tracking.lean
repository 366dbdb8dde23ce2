import Mathlib.Data.List.Sort
import OcneProvider.Api.Meta
import OcneProvider.Data.Strings
import OcneProvider.Effects.Fallible
import OcneProvider.Effects.Stateful

/-! The hooks that are still to be called for an object, kept in an annotation as a text with commas. The text of no
item at all is that of one empty item, so that the empty item is among those of every text. -/

namespace OcneProvider.Runtime.Tracking
open Api.Meta Effects.Stateful List

def pendingHooksAnnotation : String := "runtime.cluster.x-k8s.io/pending-hooks"

structure Object where
  kind : String
  name : String
  annotations : GoMap String

def split (list : String) : List String := (list.toList.splitOn ',').map String.ofList

def join (items : List String) : String := String.ofList ([','].intercalate (items.map String.toList))

/-- The items of a set in their order. -/
def sorted (items : List String) : List String := items.dedup.insertionSort (· ≤ ·)

def addToCommaSeparatedList (list : String) (items : List String) : String := join (sorted (split list ++ items))

def isInCommaSeparatedList (list item : String) : Bool := item ∈ split list

def removeFromCommaSeparatedList (list : String) (items : List String) : String :=
  join (sorted ((split list).filter (· ∉ items)))

/-- What making a patch helper and patching come to. -/
structure Answers where
  newHelper : Except Err Unit
  patch : Except Err Unit

def listIn (annotations : StringMap) : String := (annotations.lookup pendingHooksAnnotation).getD ""

/-- The object is changed before it is patched. -/
def mark (word : String) (change : StringMap → StringMap) (answers : Answers) (hooks : List String) :
    Changing Err Object Unit := do
  let obj ← get
  let text := "failed to mark " ++ quoted (join hooks) ++ " hook(s) as " ++ word ++ ": failed to "
  ExceptT.mk (pure (answers.newHelper.mapError
    (Err.wrap (text ++ "create patch helper for " ++ obj.kind ++ "/" ++ obj.name))))
  modify fun obj => { obj with annotations := some (change (obj.annotations.getD ∅)) }
  ExceptT.mk (pure (answers.patch.mapError (Err.wrap (text ++ "patch " ++ obj.kind ++ "/" ++ obj.name))))

def addPending (hooks : List String) (annotations : StringMap) : StringMap :=
  annotations.insert pendingHooksAnnotation (addToCommaSeparatedList (listIn annotations) hooks)

def markAsPending (answers : Answers) (hooks : List String) : Changing Err Object Unit :=
  mark "pending" (addPending hooks) answers hooks

def isPending (hook : String) (obj : Object) : Bool :=
  match obj.annotations with
  | none => false
  | some annotations => isInCommaSeparatedList (listIn annotations) hook

def removeDone (hooks : List String) (annotations : StringMap) : StringMap :=
  let list := removeFromCommaSeparatedList (listIn annotations) hooks
  let annotations := annotations.insert pendingHooksAnnotation list
  if list = "" then annotations.erase pendingHooksAnnotation else annotations

def markAsDone (answers : Answers) (hooks : List String) : Changing Err Object Unit :=
  mark "done" (removeDone hooks) answers hooks

structure Call where
  pending : Bool
  hooks : List String
  answers : Answers

def Call.perform (call : Call) : Changing Err Object Unit :=
  if call.pending then markAsPending call.answers call.hooks else markAsDone call.answers call.hooks

/-- The object after calls that all succeed. -/
inductive Marked (start : Object) : List Call → Object → Prop where
  | start : Marked start [] start
  | call {calls : List Call} {before after : Object} (earlier : Marked start calls before) (call : Call)
    (succeeds : outcome call.perform before = (.ok (), after)) : Marked start (calls ++ [call]) after

/-- The last call that mentions the hook marked it pending. -/
def LastPending (calls : List Call) (hook : String) : Prop :=
  ∃ call, calls.reverse.find? (hook ∈ ·.hooks) = some call ∧ call.pending = true

@[mk_iff isName_iff]
structure IsName (hook : String) : Prop where
  nonempty : hook ≠ ""
  whole : ',' ∉ hook.toList

structure Call.Proper (call : Call) : Prop where
  nonempty : call.hooks ≠ []
  names : ∀ hook ∈ call.hooks, IsName hook

section Encoding

variable {items : List String} {hook : String} {pending : String → Prop} {annotations : StringMap} {call : Call}

theorem mem_sorted : hook ∈ sorted items ↔ hook ∈ items := by
  rw [sorted, (perm_insertionSort _ _).mem_iff, mem_dedup]

theorem split_join (nonempty : items ≠ []) (whole : ∀ item ∈ items, ',' ∉ item.toList) : split (join items) = items := by
  have parts : ([','].intercalate (items.map String.toList)).splitOn ',' = items.map String.toList :=
    splitOn_intercalate ',' (by simpa using whole) (by simpa using nonempty)
  rw [split, join, String.toList_ofList, parts, map_map]
  exact (map_congr_left fun item _ => String.ofList_toList).trans (map_id' items)

theorem whole_of_mem_split {list : String} (mem : hook ∈ split list) : ',' ∉ hook.toList := by
  obtain ⟨part, isPart, rfl⟩ := mem_map.mp mem
  rw [String.toList_ofList]
  exact Data.Strings.not_mem_of_mem_splitOn isPart

theorem mem_split_join_sorted (some : ∃ item, item ∈ items) (whole : ∀ item ∈ items, ',' ∉ item.toList) :
    hook ∈ split (join (sorted items)) ↔ hook ∈ items := by
  obtain ⟨item, mem⟩ := some
  rw [split_join (ne_nil_of_mem (mem_sorted.mpr mem)) fun item mem => whole item (mem_sorted.mp mem),
    mem_sorted]

/-- Only the empty item makes the empty text. -/
theorem join_sorted_eq_empty (some : "" ∈ items) (all : ∀ item ∈ items, item = "") : join (sorted items) = "" := by
  have apart : (sorted items).Nodup := (perm_insertionSort _ _).nodup_iff.mpr (nodup_dedup items)
  have repeated := eq_replicate_of_mem fun item mem => all item (mem_sorted.mp mem)
  have least := length_pos_of_mem (mem_sorted.mpr some)
  rw [repeated, nodup_replicate] at apart
  rw [repeated, show (sorted items).length = 1 by omega]
  rfl

/-- What the annotations tell of the pending hooks. -/
structure Tracks (pending : String → Prop) (annotations : StringMap) : Prop where
  names : ∀ hook, pending hook → IsName hook
  items : ∀ hook, hook ∈ split (listIn annotations) ↔ hook = "" ∨ pending hook
  absent : annotations.lookup pendingHooksAnnotation = none ↔ ∀ hook, ¬ pending hook

theorem Tracks.isPending_iff {obj : Object} (tracks : Tracks pending (obj.annotations.getD ∅)) (name : IsName hook) :
    isPending hook obj = true ↔ pending hook := by
  have listed := tracks.items hook
  rw [or_iff_right name.nonempty] at listed
  rw [← listed, isPending]
  cases obj.annotations with
  | none => exact iff_of_false Bool.false_ne_true fun mem => name.nonempty (mem_singleton.mp mem)
  | some annotations => simp [isInCommaSeparatedList]

theorem Tracks.addPending (tracks : Tracks pending annotations) (proper : call.Proper) :
    Tracks (fun hook => hook ∈ call.hooks ∨ pending hook) (addPending call.hooks annotations) where
  names hook := Or.rec (proper.names hook) (tracks.names hook)
  items hook := by
    have empty : "" ∈ split (listIn annotations) := (tracks.items "").mpr (.inl rfl)
    have list : listIn (Tracking.addPending call.hooks annotations) =
        addToCommaSeparatedList (listIn annotations) call.hooks := by
      simp [listIn, Tracking.addPending]
    rw [list, addToCommaSeparatedList, mem_split_join_sorted ⟨"", mem_append_left _ empty⟩ fun item mem =>
      (mem_append.mp mem).elim whole_of_mem_split fun given => (proper.names item given).whole,
      mem_append, tracks.items]
    tauto
  absent := by
    obtain ⟨first, rest, hooks⟩ := exists_cons_of_ne_nil proper.nonempty
    simp only [Tracking.addPending, Finmap.lookup_insert, reduceCtorEq, false_iff, not_forall, not_not]
    exact ⟨first, .inl (by simp [hooks])⟩

theorem Tracks.removeDone (tracks : Tracks pending annotations) (proper : call.Proper) :
    Tracks (fun hook => hook ∉ call.hooks ∧ pending hook) (removeDone call.hooks annotations) := by
  have names : ∀ hook, hook ∉ call.hooks ∧ pending hook → IsName hook := fun hook left => tracks.names hook left.2
  have kept : "" ∈ (split (listIn annotations)).filter (· ∉ call.hooks) := by
    simpa [tracks.items] using fun given => (proper.names "" given).nonempty rfl
  have listed : ∀ hook, hook ∈ split (removeFromCommaSeparatedList (listIn annotations) call.hooks) ↔
      hook ∈ (split (listIn annotations)).filter (· ∉ call.hooks) := fun hook =>
    mem_split_join_sorted ⟨"", kept⟩ fun item mem => whole_of_mem_split (mem_of_mem_filter mem)
  have items : ∀ hook, hook ∈ (split (listIn annotations)).filter (· ∉ call.hooks) ↔
      hook = "" ∨ hook ∉ call.hooks ∧ pending hook := by
    intro hook
    have other : hook = "" → hook ∉ call.hooks := fun empty given => (proper.names hook given).nonempty empty
    simp only [mem_filter, tracks.items, decide_eq_true_eq]
    tauto
  -- the text is empty exactly if the empty item is all that is left
  have empty : removeFromCommaSeparatedList (listIn annotations) call.hooks = "" ↔
      ∀ hook, ¬ (hook ∉ call.hooks ∧ pending hook) := by
    constructor
    · intro empty hook left
      have mem := (listed hook).mpr ((items hook).mpr (.inr left))
      rw [empty] at mem
      exact (names hook left).nonempty (mem_singleton.mp mem)
    · intro none
      exact join_sorted_eq_empty kept fun item mem => ((items item).mp mem).resolve_right (none item)
  by_cases last : removeFromCommaSeparatedList (listIn annotations) call.hooks = ""
  · have erased : (Tracking.removeDone call.hooks annotations).lookup pendingHooksAnnotation = none := by
      simp [Tracking.removeDone, last]
    refine ⟨names, fun hook => ?_, by simpa [erased] using empty.mp last⟩
    rw [← items, ← listed, last, listIn, erased]
    rfl
  · have stored : (Tracking.removeDone call.hooks annotations).lookup pendingHooksAnnotation =
        some (removeFromCommaSeparatedList (listIn annotations) call.hooks) := by
      simp [Tracking.removeDone, last]
    refine ⟨names, fun hook => ?_, by rw [← empty, stored]; simp [last]⟩
    rw [← items, ← listed, listIn, stored]
    rfl

end Encoding

section Runs

variable {start obj : Object} {calls : List Call} {call : Call} {hook : String}

theorem lastPending_append : LastPending (calls ++ [call]) hook ↔
    hook ∈ call.hooks ∧ call.pending = true ∨ hook ∉ call.hooks ∧ LastPending calls hook := by
  by_cases given : hook ∈ call.hooks <;> simp [LastPending, given]

/-- What a call makes of the annotations. -/
def Call.change (call : Call) : StringMap → StringMap :=
  if call.pending then addPending call.hooks else removeDone call.hooks

theorem Call.perform_cases {before after : Object} (succeeds : outcome call.perform before = (.ok (), after)) :
    after.annotations.getD ∅ = call.change (before.annotations.getD ∅) := by
  have marked : call.perform = mark (if call.pending then "pending" else "done") call.change call.answers call.hooks := by
    unfold Call.perform Call.change
    split <;> rfl
  rw [marked, mark] at succeeds
  cases made : call.answers.newHelper with
  | error error => simp [made] at succeeds
  | ok value =>
    cases patched : call.answers.patch with
    | error error => simp [made, patched] at succeeds
    | ok value =>
      simp only [made, patched, Effects.Fallible.mapError_ok] at succeeds
      rw [← (Prod.mk.inj succeeds).2]
      rfl

theorem Call.change_other (call : Call) (annotations : StringMap) {key : String} (other : key ≠ pendingHooksAnnotation) :
    (call.change annotations).lookup key = annotations.lookup key := by
  unfold Call.change addPending removeDone
  split
  · exact Finmap.lookup_insert_of_ne _ other
  · dsimp only
    split
    · rw [Finmap.lookup_erase_ne other, Finmap.lookup_insert_of_ne _ other]
    · exact Finmap.lookup_insert_of_ne _ other

theorem Marked.tracks (marked : Marked start calls obj) (proper : ∀ call ∈ calls, call.Proper)
    (blank : (start.annotations.getD ∅).lookup pendingHooksAnnotation = none) :
    Tracks (LastPending calls) (obj.annotations.getD ∅) ∧ ∀ key ≠ pendingHooksAnnotation,
      (obj.annotations.getD ∅).lookup key = (start.annotations.getD ∅).lookup key := by
  induction marked with
  | start =>
    have never : ∀ hook, ¬ LastPending [] hook := by simp [LastPending]
    refine ⟨⟨fun hook pending => (never hook pending).elim, fun hook => ?_, iff_of_true blank never⟩, fun _ _ => rfl⟩
    rw [or_iff_left (never hook), listIn, blank]
    exact mem_singleton
  | @call calls before after earlier call succeeds ih =>
    rw [forall_mem_append, forall_mem_singleton] at proper
    obtain ⟨tracks, others⟩ := ih proper.1
    rw [Call.perform_cases succeeds]
    refine ⟨?_, fun key other => (call.change_other _ other).trans (others key other)⟩
    rw [Call.change]
    cases kind : call.pending with
    | true =>
      have same : LastPending (calls ++ [call]) = fun hook => hook ∈ call.hooks ∨ LastPending calls hook :=
        funext fun hook => propext (by rw [lastPending_append, kind]; tauto)
      rw [same, if_pos rfl]
      exact tracks.addPending proper.2
    | false =>
      have same : LastPending (calls ++ [call]) = fun hook => hook ∉ call.hooks ∧ LastPending calls hook :=
        funext fun hook => propext (by simp [lastPending_append, kind])
      rw [same, if_neg Bool.false_ne_true]
      exact tracks.removeDone proper.2

/-- A hook is pending if the last call about it made it so. -/
theorem hooks_tracked (marked : Marked start calls obj) (proper : ∀ call ∈ calls, call.Proper)
    (blank : (start.annotations.getD ∅).lookup pendingHooksAnnotation = none) :
    (∀ hook, IsName hook → (isPending hook obj = true ↔ LastPending calls hook)) ∧
      ((obj.annotations.getD ∅).lookup pendingHooksAnnotation = none ↔ ∀ hook, ¬ LastPending calls hook) ∧
      ∀ key ≠ pendingHooksAnnotation,
        (obj.annotations.getD ∅).lookup key = (start.annotations.getD ∅).lookup key := by
  obtain ⟨tracks, others⟩ := marked.tracks proper blank
  exact ⟨fun hook name => tracks.isPending_iff name, tracks.absent, others⟩

end Runs

private def smooth : Answers := ⟨.ok (), .ok ()⟩

/-- Of two pending hooks one is marked done. -/
theorem second_hook_pending : ∃ obj, Marked ⟨"Cluster", "c", none⟩
    [⟨true, ["a", "b"], smooth⟩, ⟨false, ["a"], smooth⟩] obj ∧ isPending "b" obj = true := by
  have first : Marked ⟨"Cluster", "c", none⟩ [⟨true, ["a", "b"], smooth⟩] _ := .call .start _ rfl
  have second := Marked.call first ⟨false, ["a"], smooth⟩ rfl
  refine ⟨_, second, ((hooks_tracked second ?_ rfl).1 "b" ⟨by decide, by decide⟩).mpr ⟨_, rfl, rfl⟩⟩
  rintro call (_ | ⟨_, _ | ⟨_, ⟨⟩⟩⟩)
  all_goals exact ⟨by decide, by simp +decide [isName_iff]⟩

end OcneProvider.Runtime.Tracking
