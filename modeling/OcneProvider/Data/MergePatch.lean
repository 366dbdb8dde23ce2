import Mathlib.Data.List.Infix

/-! JSON trees and merge patches between them: the difference of two trees, what a merge
patch makes of a third tree, and the paths at which two trees differ. An entry of an
object hides the later entries of the same key. -/

namespace OcneProvider.Data.MergePatch

open List

/-- What a merge patch replaces as a whole, an array included, is a value. -/
inductive Json (α : Type) where
  | null
  | value (content : α)
  | object (fields : List (String × Json α))

variable {α : Type}

def fieldsOf : Option (Json α) → List (String × Json α)
  | some (.object fields) => fields
  | _ => []

def field (json : Option (Json α)) (key : String) : Option (Json α) :=
  (fieldsOf json).lookup key

def look (json : Option (Json α)) : List String → Option (Json α)
  | [] => json
  | key :: rest => look (field json key) rest

def isObject : Option (Json α) → Bool
  | some (.object _) => true
  | _ => false

def keep (test : String → Bool) (fields : List (String × Json α)) : List (String × Json α) :=
  fields.filter fun entry => test entry.1

def without (key : String) : List (String × Json α) → List (String × Json α) :=
  keep (· ≠ key)

def setField (key : String) (content : Option (Json α)) (fields : List (String × Json α)) : List (String × Json α) :=
  match content with
  | none => without key fields
  | some content => (key, content) :: without key fields

section Fields

variable (content : Option (Json α)) {β : Type}

theorem lookup_cons_ne {key other : String} {fields : List (String × β)} (content : β)
    (differs : other ≠ key) : ((key, content) :: fields).lookup other = fields.lookup other := by
  simp [lookup_cons, beq_false_of_ne differs]

theorem mem_of_lookup {fields : List (String × β)} {key : String} {content : β}
    (found : fields.lookup key = some content) : (key, content) ∈ fields := by
  induction fields with
  | nil => simp at found
  | cons first rest ih =>
    obtain ⟨name, other⟩ := first
    by_cases same : key = name
    · subst same
      rw [lookup_cons_self, Option.some.injEq] at found
      exact found ▸ mem_cons_self
    · rw [lookup_cons_ne other same] at found
      exact mem_cons_of_mem _ (ih found)

variable {key other : String} {fields : List (String × Json α)}

theorem lookup_keep (test : String → Bool) :
    (keep test fields).lookup key = if test key then fields.lookup key else none := by
  unfold keep
  induction fields with
  | nil => simp
  | cons first rest ih =>
    obtain ⟨name, content⟩ := first
    by_cases same : key = name
    · subst same
      by_cases kept : test key = true
      · rw [filter_cons_of_pos (by exact kept), lookup_cons_self, lookup_cons_self, if_pos kept]
      · rw [filter_cons_of_neg (by exact kept), ih, if_neg kept, if_neg kept]
    · rw [lookup_cons_ne content same, ← ih, filter_cons]
      split
      next => exact lookup_cons_ne content same
      next => rfl

@[simp] theorem lookup_without_self : (without key fields).lookup key = none := by
  simp [without, lookup_keep]

theorem lookup_without (differs : other ≠ key) : (without key fields).lookup other = fields.lookup other := by
  simp [without, lookup_keep, differs]

@[simp] theorem lookup_setField_self : (setField key content fields).lookup key = content := by
  cases content <;> simp [setField]

theorem lookup_setField (differs : other ≠ key) :
    (setField key content fields).lookup other = fields.lookup other := by
  cases content with
  | none => exact lookup_without differs
  | some content => rw [setField, lookup_cons_ne content differs, lookup_without differs]

end Fields

def removals (new : List (String × Json α)) : List (String × Json α) → List (String × Json α)
  | [] => []
  | (key, _) :: rest => if (new.lookup key).isNone then (key, .null) :: removals new rest else removals new rest

section Differences

variable [DecidableEq α]

mutual

/-- The merge patch from the old tree to the new one, if anything changes. -/
def change (old : Option (Json α)) : Json α → Option (Json α)
  | .null => match old with
    | some .null => none
    | _ => some .null
  | .value new => match old with
    | some (.value found) => if found = new then none else some (.value new)
    | _ => some (.value new)
  | .object new => match old with
    | some (.object found) =>
      let changed := changes found new ++ removals new found
      if changed.isEmpty then none else some (.object changed)
    | _ => some (.object new)

def changes (old : List (String × Json α)) : List (String × Json α) → List (String × Json α)
  | [] => []
  | (key, new) :: rest => setField key (change (old.lookup key) new) (changes old rest)

end

/-- The JSON patch library's merge patch, transcribed. -/
def diff (old : Option (Json α)) : Option (Json α) → Option (Json α)
  | some new => change old new
  | none => old.map fun _ => .null

end Differences

mutual

def merge (target : Option (Json α)) : Json α → Option (Json α)
  | .null => none
  | .value content => some (.value content)
  | .object patch => some (.object (mergeFields (fieldsOf target) patch))

def mergeFields (target : List (String × Json α)) : List (String × Json α) → List (String × Json α)
  | [] => target
  | (key, patch) :: rest => setField key (merge (target.lookup key) patch) (mergeFields target rest)

end

def applyPatch (target : Option (Json α)) : Option (Json α) → Option (Json α)
  | none => target
  | some patch => merge target patch

section Lookup

theorem lookup_mergeFields (target patch : List (String × Json α)) (key : String) :
    (mergeFields target patch).lookup key = applyPatch (target.lookup key) (patch.lookup key) := by
  induction patch with
  | nil => simp [mergeFields, applyPatch]
  | cons first rest ih =>
    obtain ⟨name, content⟩ := first
    by_cases same : key = name
    · subst same
      simp [mergeFields, applyPatch]
    · rw [mergeFields, lookup_setField _ same, ih, lookup_cons_ne content same]

theorem lookup_removals (old new : List (String × Json α)) (key : String) :
    (removals new old).lookup key = if (new.lookup key).isNone then (old.lookup key).map fun _ => .null else none := by
  induction old with
  | nil => simp [removals]
  | cons first rest ih =>
    obtain ⟨name, content⟩ := first
    by_cases same : key = name
    · subst same
      by_cases gone : (new.lookup key).isNone <;> simp [removals, gone, ih]
    · rw [lookup_cons_ne content same, ← ih]
      by_cases gone : (new.lookup name).isNone <;> simp [removals, gone, lookup_cons_ne, same]

variable [DecidableEq α]

theorem lookup_changes (old new : List (String × Json α)) (key : String) :
    (changes old new).lookup key = (new.lookup key).bind (change (old.lookup key)) := by
  induction new with
  | nil => simp [changes]
  | cons first rest ih =>
    obtain ⟨name, content⟩ := first
    by_cases same : key = name
    · subst same
      simp [changes]
    · rw [changes, lookup_setField _ same, ih, lookup_cons_ne content same]

theorem field_diff (old new : List (String × Json α)) (key : String) :
    field (diff (some (.object old)) (some (.object new))) key = diff (old.lookup key) (new.lookup key) := by
  have entries : (changes old new ++ removals new old).lookup key = diff (old.lookup key) (new.lookup key) := by
    rw [lookup_append, lookup_changes, lookup_removals]
    cases new.lookup key <;> simp [diff]
  rw [← entries]
  by_cases empty : changes old new ++ removals new old = [] <;> simp [diff, change, empty, field, fieldsOf]

theorem field_applyPatch_diff (target : Option (Json α)) {old new : Option (Json α)} (was : isObject old = true)
    (is : isObject new = true) (key : String) :
    field (applyPatch target (diff old new)) key = applyPatch (field target key) (diff (field old key) (field new key)) := by
  match old, new, was, is with
  | some (.object old), some (.object new), _, _ =>
    change _ = applyPatch _ (diff (old.lookup key) (new.lookup key))
    rw [← field_diff]
    by_cases empty : changes old new ++ removals new old = []
    · simp [diff, change, empty, applyPatch, field, fieldsOf]
    · simp only [diff, change, List.isEmpty_iff, empty, if_false, applyPatch, merge, field, fieldsOf, lookup_mergeFields]

end Lookup

/-- What stands at a place of a tree: a null counts as nothing. -/
inductive View (α : Type) where
  | nothing
  | value (content : α)
  | object
  deriving DecidableEq

def view : Option (Json α) → View α
  | none | some .null => .nothing
  | some (.value content) => .value content
  | some (.object _) => .object

/-- Two trees that differ in null fields and in the order of their fields only. -/
def Same (first second : Option (Json α)) : Prop :=
  ∀ path, view (look first path) = view (look second path)

theorem isObject_iff {json : Option (Json α)} : isObject json = true ↔ ∃ fields, json = some (.object fields) := by
  cases json with
  | none => simp [isObject]
  | some found => cases found <;> simp [isObject]

variable {first second : Option (Json α)} (json : Option (Json α)) {path : List String}

@[simp] theorem look_none : look (none : Option (Json α)) path = none := by
  induction path with
  | nil => rfl
  | cons key rest ih => exact ih

theorem Same.isObject_eq (same : Same first second) : isObject first = isObject second := by
  have here := same []
  cases first with
  | none =>
    cases second with
    | none => rfl
    | some second => cases second <;> simp_all [look, view, isObject]
  | some first =>
    cases second with
    | none => cases first <;> simp_all [look, view, isObject]
    | some second => cases first <;> cases second <;> simp_all [look, view, isObject]

theorem look_append (path rest : List String) : look json (path ++ rest) = look (look json path) rest := by
  induction path generalizing json with
  | nil => rfl
  | cons key path ih => exact ih (field json key)

theorem Same.look (same : Same first second) (path : List String) : Same (look first path) (look second path) := by
  intro rest
  rw [← look_append, ← look_append]
  exact same (path ++ rest)

theorem same_of_fields (is : isObject first = true) (is' : isObject second = true)
    (fields : ∀ key, Same (field first key) (field second key)) : Same first second := by
  intro path
  cases path with
  | nil =>
    obtain ⟨_, rfl⟩ := isObject_iff.mp is
    obtain ⟨_, rfl⟩ := isObject_iff.mp is'
    rfl
  | cons key rest => exact fields key rest

theorem same_merge_none (json : Json α) : Same (merge none json) (some json) := by
  intro path
  induction path generalizing json with
  | nil => cases json <;> rfl
  | cons key rest ih =>
    cases json with
    | null => simp [merge, look, field, fieldsOf]
    | value content => simp [merge, look, field, fieldsOf]
    | object fields =>
      simp only [merge, look, field, fieldsOf, lookup_mergeFields, lookup_nil]
      cases fields.lookup key with
      | none => rfl
      | some content => exact ih content

/-- A tree at a path where it is to be replaced as a whole, if it is no object yet. -/
theorem same_merge {target : Option (Json α)} (plain : isObject target = false) (json : Json α) :
    Same (merge target json) (some json) := by
  have empty : fieldsOf target = [] := by
    cases target with
    | none => rfl
    | some found => cases found <;> simp_all [isObject, fieldsOf]
  have same : merge target json = merge none json := by
    cases json with
    | null => rfl
    | value content => rfl
    | object fields => rw [merge, merge, empty, fieldsOf]; simp
  exact same ▸ same_merge_none json

/-- At the path there is no object before or none after. -/
def Changed (old new : Option (Json α)) : List String → Prop
  | [] => old ≠ new ∧ (isObject old && isObject new) = false
  | key :: rest => isObject old = true ∧ isObject new = true ∧ Changed (field old key) (field new key) rest

/-- No change is at the path, above it or below it. -/
def Untouched (old new : Option (Json α)) (path : List String) : Prop :=
  ∀ other, Changed old new other → ¬ other <+: path ∧ ¬ path <+: other

variable {old new target : Option (Json α)}

theorem sizeOf_lookup_lt (fields : List (String × Json α)) (key : String) :
    sizeOf (fields.lookup key) < sizeOf (some (Json.object fields)) := by
  cases found : fields.lookup key with
  | none => simp only [Option.none.sizeOf_spec, Option.some.sizeOf_spec, Json.object.sizeOf_spec]; omega
  | some content =>
    have smaller := sizeOf_lt_of_mem (mem_of_lookup found)
    simp only [Prod.mk.sizeOf_spec, Option.some.sizeOf_spec, Json.object.sizeOf_spec] at smaller ⊢
    omega

theorem Untouched.field {key : String} {rest : List String} (untouched : Untouched old new (key :: rest))
    (was : isObject old = true) (is : isObject new = true) : Untouched (field old key) (field new key) rest := by
  intro other changed
  have apart := untouched (key :: other) ⟨was, is, changed⟩
  simpa [cons_prefix_cons] using apart

variable [DecidableEq α]

theorem diff_of_changed (changed : Changed old new []) : diff old new = some (new.getD .null) := by
  obtain ⟨differs, plain⟩ := changed
  cases new with
  | none =>
    cases old with
    | none => exact absurd rfl differs
    | some old => rfl
  | some new =>
    cases old with
    | none => cases new <;> rfl
    | some old => cases old <;> cases new <;> simp_all [diff, change, isObject]

theorem same_applyPatch_diff_of_changed (changed : Changed old new path)
    (current : Same (look target path) (look old path)) :
    Same (look (applyPatch target (diff old new)) path) (look new path) := by
  induction path generalizing old new target with
  | nil =>
    rw [diff_of_changed changed]
    cases new with
    | none => exact fun _ => rfl
    | some new =>
      cases new with
      | null => intro path; cases path <;> simp [applyPatch, merge, look, field, fieldsOf, view]
      | value content => exact fun _ => rfl
      | object fields =>
        have plain : isObject old = false := by simpa [isObject] using changed.2
        exact same_merge (current.isObject_eq.trans plain) _
  | cons key rest ih =>
    obtain ⟨was, is, below⟩ := changed
    change Same (look (field (applyPatch target (diff old new)) key) rest) _
    rw [field_applyPatch_diff target was is]
    exact ih below current

theorem isObject_applyPatch_diff (was : isObject old = true) (is : isObject new = true) (there : isObject target = true) :
    isObject (applyPatch target (diff old new)) = true := by
  obtain ⟨old, rfl⟩ := isObject_iff.mp was
  obtain ⟨new, rfl⟩ := isObject_iff.mp is
  by_cases empty : changes old new ++ removals new old = []
  · simpa [diff, change, empty, applyPatch] using there
  · simp [diff, change, empty, applyPatch, merge, isObject]

theorem diff_self_of_plain (plain : isObject old = false) : diff old old = none := by
  cases old with
  | none => rfl
  | some json => cases json <;> simp_all [diff, change, isObject]

theorem diff_objects_eq_none {old new : List (String × Json α)}
    (equal : ∀ key, diff (old.lookup key) (new.lookup key) = none) :
    diff (some (.object old)) (some (.object new)) = none := by
  simp only [← field_diff] at equal
  cases entries : changes old new ++ removals new old with
  | nil => simp [diff, change, entries]
  | cons first rest =>
    have visible := equal first.1
    simp [diff, change, entries, field, fieldsOf] at visible

theorem diff_eq_none (unchanged : ∀ path, ¬ Changed old new path) : diff old new = none := by
  -- the trees below two objects are smaller than the objects
  induction size : sizeOf new using Nat.strongRecOn generalizing old new with
  | ind bound ih =>
    by_cases both : isObject old = true ∧ isObject new = true
    · obtain ⟨old, rfl⟩ := isObject_iff.mp both.1
      obtain ⟨new, rfl⟩ := isObject_iff.mp both.2
      refine diff_objects_eq_none fun key => ih _ (size ▸ sizeOf_lookup_lt new key) ?_ rfl
      exact fun path changed => unchanged (key :: path) ⟨rfl, rfl, changed⟩
    · have plain : (isObject old && isObject new) = false := by simpa using both
      have equal : old = new := by_contra fun differs => unchanged [] ⟨differs, plain⟩
      subst equal
      exact diff_self_of_plain (by simpa using plain)

theorem diff_self : diff json json = none := by
  refine diff_eq_none fun path changed => ?_
  induction path generalizing json with
  | nil => exact changed.1 rfl
  | cons key rest ih => exact ih _ changed.2.2

theorem look_applyPatch_diff_of_untouched (untouched : Untouched old new path) :
    look (applyPatch target (diff old new)) path = look target path := by
  induction path generalizing old new target with
  | nil =>
    rw [diff_eq_none fun other changed => (untouched other changed).2 nil_prefix]
    rfl
  | cons key rest ih =>
    by_cases both : isObject old = true ∧ isObject new = true
    · change look (field (applyPatch target (diff old new)) key) rest = _
      rw [field_applyPatch_diff target both.1 both.2]
      exact ih (untouched.field both.1 both.2)
    · rw [diff_eq_none]
      · rfl
      intro other changed
      cases other with
      | nil => exact (untouched [] changed).1 nil_prefix
      | cons first below => exact both ⟨changed.1, changed.2.1⟩

end OcneProvider.Data.MergePatch
