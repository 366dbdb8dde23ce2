import Mathlib.Data.Finmap
import Mathlib.Data.List.Induction

/-! A table that a loop fills in the order it meets its items. An item that gives a key again replaces its entry. -/

namespace OcneProvider.Data.Collect

variable {α κ ν : Type*} [DecidableEq κ]

def add (make : α → Option (κ × ν)) (table : Finmap fun _ : κ => ν) (item : α) : Finmap fun _ : κ => ν :=
  match make item with
  | none => table
  | some (key, value) => table.insert key value

def collect (make : α → Option (κ × ν)) (items : List α) : Finmap fun _ : κ => ν :=
  items.foldl (add make) ∅

variable {make : α → Option (κ × ν)} {items : List α} {key : κ} {value : ν}

theorem collect_concat (item : α) :
    collect make (items ++ [item]) = add make (collect make items) item := by
  simp [collect]

theorem lookup_add (table : Finmap fun _ : κ => ν) (item : α) : (add make table item).lookup key =
    if (make item).map Prod.fst = some key then (make item).map Prod.snd else table.lookup key := by
  unfold add
  cases made : make item with
  | none => rfl
  | some entry =>
    obtain ⟨found, value⟩ := entry
    by_cases same : found = key
    · subst same
      simp [Finmap.lookup_insert]
    · simp [same, Finmap.lookup_insert_of_ne _ (Ne.symm same)]

theorem exists_of_lookup (found : (collect make items).lookup key = some value) :
    ∃ item ∈ items, make item = some (key, value) := by
  induction items using List.reverseRecOn with
  | nil => cases found
  | append_singleton items item ih =>
    rw [collect_concat, lookup_add] at found
    split at found
    next same =>
      obtain ⟨⟨first, second⟩, made, rfl⟩ := Option.map_eq_some_iff.mp same
      rw [made] at found
      obtain rfl := Option.some.inj found
      exact ⟨item, by simp, made⟩
    next =>
      obtain ⟨old, isOld, made⟩ := ih found
      exact ⟨old, List.mem_append_left _ isOld, made⟩

theorem mem_collect_iff : key ∈ collect make items ↔ ∃ item ∈ items, ∃ value, make item = some (key, value) := by
  constructor
  · intro mem
    obtain ⟨value, found⟩ := Finmap.mem_iff.mp mem
    obtain ⟨item, isItem, made⟩ := exists_of_lookup found
    exact ⟨item, isItem, value, made⟩
  · rintro ⟨item, isItem, value, made⟩
    rw [Finmap.mem_iff]
    induction items using List.reverseRecOn with
    | nil => cases isItem
    | append_singleton items last ih =>
      rw [collect_concat, lookup_add]
      split
      next same =>
        obtain ⟨entry, other, -⟩ := Option.map_eq_some_iff.mp same
        exact ⟨entry.2, by rw [other]; rfl⟩
      next differs =>
        rcases List.mem_append.mp isItem with earlier | isLast
        · exact ih earlier
        · obtain rfl := List.mem_singleton.mp isLast
          rw [made] at differs
          exact absurd rfl differs

/-- Items that give the same key agree on its value. -/
def Consistent (make : α → Option (κ × ν)) (items : List α) : Prop :=
  ∀ first ∈ items, ∀ second ∈ items, ∀ key value value',
    make first = some (key, value) → make second = some (key, value') → value = value'

theorem lookup_iff (consistent : Consistent make items) :
    (collect make items).lookup key = some value ↔ ∃ item ∈ items, make item = some (key, value) := by
  refine ⟨exists_of_lookup, ?_⟩
  rintro ⟨item, isItem, made⟩
  obtain ⟨value', found⟩ := Finmap.mem_iff.mp (mem_collect_iff.mpr ⟨item, isItem, value, made⟩)
  obtain ⟨other, isOther, made'⟩ := exists_of_lookup found
  rw [found, consistent item isItem other isOther key value value' made made']

theorem lookup_last {last : α} (made : make last = some (key, value)) :
    (collect make (items ++ [last])).lookup key = some value := by
  rw [collect_concat, lookup_add, made]
  exact if_pos rfl

/-- The table is the same for every order exactly if the items are consistent. -/
theorem forall_perm_iff : (∀ order, items.Perm order → collect make order = collect make items) ↔ Consistent make items := by
  classical
  constructor
  · intro same first isFirst second isSecond key value value' made made'
    have last : ∀ item ∈ items, ∀ value, make item = some (key, value) → (collect make items).lookup key = some value := by
      intro item isItem value made
      have perm : items.Perm (items.erase item ++ [item]) :=
        (List.perm_cons_erase isItem).trans (List.perm_append_singleton item _).symm
      rw [← same _ perm]
      exact lookup_last made
    exact Option.some.inj ((last first isFirst value made).symm.trans (last second isSecond value' made'))
  · intro consistent order perm
    have consistent' : Consistent make order := fun first isFirst second isSecond =>
      consistent first (perm.mem_iff.mpr isFirst) second (perm.mem_iff.mpr isSecond)
    refine Finmap.ext_lookup fun key => Option.ext fun value => ?_
    rw [lookup_iff consistent, lookup_iff consistent']
    exact exists_congr fun item => and_congr_left fun _ => perm.mem_iff.symm

end OcneProvider.Data.Collect
