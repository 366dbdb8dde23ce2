import OcneProvider.Data.MergePatch

/-! The leaves of a merge patch, and that its objects have no key twice if those that it
was made from have none. -/

namespace OcneProvider.Data.Leaves
open MergePatch List

variable {α : Type} {old new : Option (Json α)}

def Leaf (json : Option (Json α)) (path : List String) : Prop :=
  ∃ content, look json path = some content ∧ isObject (some content) = false

def Keyed (json : Option (Json α)) : Prop :=
  ∀ path fields, look json path = some (.object fields) → (fields.map Prod.fst).Nodup

theorem leaf_of_plain {json : Json α} (plain : isObject (some json) = false) (path : List String) :
    Leaf (some json) path ↔ path = [] := by
  cases path with
  | nil => exact ⟨fun _ => rfl, fun _ => ⟨json, rfl, plain⟩⟩
  | cons key rest =>
    have nothing : field (some json) key = none := by
      cases json with
      | null => rfl
      | value content => rfl
      | object fields => cases plain
    simp [Leaf, look, nothing]

theorem keys_without (key : String) (fields : List (String × Json α)) :
    ((without key fields).map Prod.fst) = (fields.map Prod.fst).filter (· ≠ key) := by
  rw [filter_map]
  rfl

variable {fields : List (String × Json α)}

theorem nodup_setField (apart : (fields.map Prod.fst).Nodup) (key : String)
    (content : Option (Json α)) : ((setField key content fields).map Prod.fst).Nodup := by
  have kept : ((without key fields).map Prod.fst).Nodup := keys_without key fields ▸ apart.filter _
  cases content with
  | none => exact kept
  | some content =>
    refine nodup_cons.mpr ⟨?_, kept⟩
    rw [keys_without]
    simp

theorem removals_sublist (old new : List (String × Json α)) :
    ((removals new old).map Prod.fst).Sublist (old.map Prod.fst) := by
  induction old with
  | nil => exact .slnil
  | cons first rest ih =>
    rw [removals]
    split
    next => exact .cons_cons _ ih
    next => exact .cons _ ih

theorem isSome_lookup_of_mem {key : String} (mem : key ∈ fields.map Prod.fst) : (fields.lookup key).isSome := by
  induction fields with
  | nil => simp at mem
  | cons first rest ih =>
    obtain ⟨name, content⟩ := first
    by_cases same : key = name
    · subst same
      simp
    · rw [lookup_cons_ne content same]
      exact ih ((mem_cons.mp mem).resolve_left same)

theorem lookup_of_mem (apart : (fields.map Prod.fst).Nodup) {key : String}
    {content : Json α} (mem : (key, content) ∈ fields) : fields.lookup key = some content := by
  induction fields with
  | nil => simp at mem
  | cons first rest ih =>
    obtain ⟨name, other⟩ := first
    obtain ⟨fresh, apart⟩ := nodup_cons.mp apart
    rcases mem_cons.mp mem with same | later
    · cases same
      exact lookup_cons_self
    · have differs : key ≠ name := by
        rintro rfl
        exact fresh (mem_map.mpr ⟨_, later, rfl⟩)
      rw [lookup_cons_ne other differs, ih apart later]

theorem Keyed.field {json : Option (Json α)} (keyed : Keyed json) (key : String) : Keyed (field json key) :=
  fun path fields found => keyed (key :: path) fields found

section Differences

variable [DecidableEq α]

theorem leaf_diff_cons (was : isObject old = true) (is : isObject new = true) (key : String) (rest : List String) :
    Leaf (diff old new) (key :: rest) ↔ Leaf (diff (field old key) (field new key)) rest := by
  obtain ⟨old, rfl⟩ := isObject_iff.mp was
  obtain ⟨new, rfl⟩ := isObject_iff.mp is
  change (∃ content, look (field (diff _ _) key) rest = _ ∧ _) ↔ _
  rw [field_diff]
  rfl

theorem diff_eq_none_or_object (was : isObject old = true) (is : isObject new = true) :
    diff old new = none ∨ ∃ fields, diff old new = some (.object fields) := by
  obtain ⟨old, rfl⟩ := isObject_iff.mp was
  obtain ⟨new, rfl⟩ := isObject_iff.mp is
  simp only [diff, change]
  split
  next => exact .inl rfl
  next => exact .inr ⟨_, rfl⟩

theorem not_leaf_diff_nil (was : isObject old = true) (is : isObject new = true) : ¬ Leaf (diff old new) [] := by
  rintro ⟨content, found, plain⟩
  rcases diff_eq_none_or_object was is with nothing | ⟨fields, object⟩
  · cases nothing.symm.trans found
  · cases object.symm.trans found
    cases plain

theorem leaf_diff_of_plain (plain : isObject new = false) (path : List String) :
    Leaf (diff old new) path ↔ path = [] ∧ old ≠ new := by
  by_cases same : old = new
  · subst same
    rw [diff_self]
    simp [Leaf]
  · have plain' : isObject (some (new.getD .null)) = false := by
      cases new with
      | none => rfl
      | some json => exact plain
    rw [diff_of_changed ⟨same, by simp [plain]⟩, leaf_of_plain plain']
    simp [same]

theorem leaf_diff_of_object (was : isObject old = false) (is : isObject new = true) (path : List String) :
    Leaf (diff old new) path ↔ Leaf new path := by
  obtain ⟨new, rfl⟩ := isObject_iff.mp is
  rw [diff_of_changed ⟨fun same => by simp_all, by simp [was]⟩]
  rfl

theorem nodup_changes (old new : List (String × Json α)) : ((changes old new).map Prod.fst).Nodup := by
  induction new with
  | nil => simp [changes]
  | cons first rest ih => exact nodup_setField ih _ _

theorem nodup_diff {old new : List (String × Json α)} (apart : (old.map Prod.fst).Nodup) :
    ((changes old new ++ removals new old).map Prod.fst).Nodup := by
  rw [map_append]
  refine nodup_append.mpr ⟨nodup_changes old new, (removals_sublist old new).nodup apart, ?_⟩
  -- what is removed is not there afterwards
  rintro key changed _ removed rfl
  have there := isSome_lookup_of_mem changed
  have gone := isSome_lookup_of_mem removed
  rw [lookup_changes] at there
  rw [lookup_removals] at gone
  cases found : new.lookup key <;> simp_all

theorem look_of_diff (apart : ¬ (isObject old = true ∧ isObject new = true)) {path : List String}
    (found : look (diff old new) path = some (.object fields)) :
    look new path = some (.object fields) := by
  by_cases same : old = new
  · subst same
    rw [diff_self, look_none] at found
    cases found
  · rw [diff_of_changed ⟨same, by simpa using apart⟩] at found
    cases new with
    | some new => exact found
    | none => cases path <;> simp [look, MergePatch.field, fieldsOf] at found

theorem keyed_diff (was : Keyed old) (is : Keyed new) : Keyed (diff old new) := by
  intro path
  induction path generalizing old new with
  | nil =>
    intro fields found
    by_cases both : isObject old = true ∧ isObject new = true
    · obtain ⟨old, rfl⟩ := isObject_iff.mp both.1
      obtain ⟨new, rfl⟩ := isObject_iff.mp both.2
      simp only [look, diff, change] at found
      split at found
      next => cases found
      next =>
        cases found
        exact nodup_diff (was [] old rfl)
    · exact is [] fields (look_of_diff both found)
  | cons key rest ih =>
    intro fields found
    by_cases both : isObject old = true ∧ isObject new = true
    · obtain ⟨old, rfl⟩ := isObject_iff.mp both.1
      obtain ⟨new, rfl⟩ := isObject_iff.mp both.2
      change look (MergePatch.field (diff _ _) key) rest = _ at found
      rw [field_diff] at found
      exact ih (was.field key) (is.field key) fields found
    · exact is (key :: rest) fields (look_of_diff both found)

end Differences

end OcneProvider.Data.Leaves
