import Mathlib.Data.Finmap

/-! Maps as a program goes through them: it meets each entry once, in an order that is not known, and may take entries
out on its way. -/

namespace OcneProvider.Data.Ranging

open List

abbrev Table (κ ν : Type) := Finmap fun _ : κ => ν

/-- An order in which the entries of a map are met. -/
structure Order (κ ν : Type) where
  keys : Table κ ν → List κ
  nodup : ∀ table, (keys table).Nodup
  mem_keys : ∀ table key, key ∈ keys table ↔ key ∈ table

noncomputable instance {κ ν : Type} : Inhabited (Order κ ν) where
  default := {
    keys table := table.keys.toList
    nodup table := table.keys.nodup_toList
    mem_keys table key := by rw [Finset.mem_toList, Finmap.mem_keys] }

variable {κ ν : Type} [DecidableEq κ]

def Order.values (order : Order κ ν) (table : Table κ ν) : List ν :=
  (order.keys table).filterMap table.lookup

/-- An entry that was taken out before it is met is not met at all. -/
def takeOut (keyOf : ν → κ) (selected : ν → Bool) (table : Table κ ν) (key : κ) : Table κ ν :=
  match table.lookup key with
  | none => table
  | some value => if selected value then table.erase (keyOf value) else table

/-- Takes out the entries that a test selects, by the key that each names. -/
def Order.sweep (order : Order κ ν) (keyOf : ν → κ) (selected : ν → Bool) (table : Table κ ν) : Table κ ν :=
  (order.keys table).foldl (takeOut keyOf selected) table

def Keyed (keyOf : ν → κ) (table : Table κ ν) : Prop :=
  ∀ key value, table.lookup key = some value → keyOf value = key

variable {keyOf : ν → κ} {selected : ν → Bool} {table : Table κ ν}

theorem keyed_empty : Keyed keyOf (∅ : Table κ ν) := by
  intro key value found
  cases found

section

variable (keyed : Keyed keyOf table)
include keyed

theorem keyed_insert (value : ν) : Keyed keyOf (table.insert (keyOf value) value) := by
  intro key other found
  by_cases same : key = keyOf value
  · subst same
    rw [Finmap.lookup_insert, Option.some.injEq] at found
    rw [found]
  · rw [Finmap.lookup_insert_of_ne _ same] at found
    exact keyed key other found

theorem lookup_takeOut (met key : κ) : (takeOut keyOf selected table met).lookup key =
      if key = met then (table.lookup key).filter (!selected ·) else table.lookup key := by
  unfold takeOut
  by_cases same : key = met
  · subst same
    rw [if_pos rfl]
    cases found : table.lookup key with
    | none => exact found
    | some value =>
      dsimp only
      rw [keyed key value found]
      cases chosen : selected value with
      | true => simp [Option.filter, chosen, Finmap.lookup_erase]
      | false => simp [Option.filter, chosen, found]
  · rw [if_neg same]
    cases found : table.lookup met with
    | none => rfl
    | some value =>
      dsimp only
      split
      · rw [keyed met value found, Finmap.lookup_erase_ne same]
      · rfl

theorem lookup_foldl_takeOut (keys : List κ) (key : κ) :
    (keys.foldl (takeOut keyOf selected) table).lookup key =
      if key ∈ keys then (table.lookup key).filter (!selected ·) else table.lookup key := by
  induction keys generalizing table with
  | nil => simp
  | cons met rest ih =>
    have stays : Keyed keyOf (takeOut keyOf selected table met) := by
      intro other value found
      rw [lookup_takeOut keyed] at found
      split at found
      · exact keyed other value (Option.filter_eq_some_iff.mp found).1
      · exact keyed other value found
    rw [foldl_cons, ih stays, lookup_takeOut keyed]
    by_cases here : key = met
    · simp [here]
    · simp [here]

variable (order : Order κ ν)

theorem Order.lookup_sweep (key : κ) :
    (order.sweep keyOf selected table).lookup key = (table.lookup key).filter (!selected ·) := by
  rw [Order.sweep, lookup_foldl_takeOut keyed]
  split
  · rfl
  next absent =>
    rw [order.mem_keys] at absent
    rw [Finmap.lookup_eq_none.mpr absent]
    rfl

theorem Order.keyed_sweep : Keyed keyOf (order.sweep keyOf selected table) := by
  intro key value found
  rw [order.lookup_sweep keyed] at found
  exact keyed key value (Option.filter_eq_some_iff.mp found).1

omit keyed in
theorem Order.mem_values {value : ν} : value ∈ order.values table ↔ ∃ key, table.lookup key = some value := by
  rw [Order.values, mem_filterMap]
  constructor
  · rintro ⟨key, -, found⟩
    exact ⟨key, found⟩
  · rintro ⟨key, found⟩
    exact ⟨key, (order.mem_keys table key).mpr (Finmap.mem_iff.mpr ⟨value, found⟩), found⟩

theorem Order.nodup_values : (order.values table).Nodup := by
  apply (order.nodup table).filterMap
  intro first second value early late
  rw [← keyed first value early, ← keyed second value late]

end

theorem lookup_foldl_insert {values : List ν} (apart : (values.map keyOf).Nodup) (key : κ) (value : ν) :
    (values.foldl (fun into value => into.insert (keyOf value) value) table).lookup key = some value ↔
      (value ∈ values ∧ keyOf value = key) ∨ key ∉ values.map keyOf ∧ table.lookup key = some value := by
  induction values generalizing table with
  | nil => simp
  | cons first rest ih =>
    rw [map_cons, nodup_cons] at apart
    rw [foldl_cons, ih apart.2]
    by_cases here : key = keyOf first
    · subst here
      have absent : ∀ other ∈ rest, keyOf other ≠ keyOf first := by
        intro other mem same
        exact apart.1 (mem_map.mpr ⟨other, mem, same⟩)
      have later : ¬ (value ∈ rest ∧ keyOf value = keyOf first) := fun ⟨mem, same⟩ => absent value mem same
      rw [or_iff_right later, and_iff_right apart.1, Finmap.lookup_insert, Option.some.injEq]
      constructor
      · rintro rfl
        exact .inl ⟨mem_cons_self, rfl⟩
      · rintro (⟨mem, same⟩ | ⟨elsewhere, -⟩)
        · obtain rfl | among := mem_cons.mp mem
          · rfl
          · exact absurd same (absent value among)
        · exact absurd mem_cons_self elsewhere
    · have other : value = first → keyOf value ≠ key := by
        rintro rfl
        exact Ne.symm here
      rw [Finmap.lookup_insert_of_ne _ here, mem_cons, map_cons, mem_cons, not_or, and_iff_right here]
      apply or_congr_left
      constructor
      · rintro ⟨mem, same⟩
        exact ⟨.inr mem, same⟩
      · rintro ⟨rfl | mem, same⟩
        · exact absurd same (other rfl)
        · exact ⟨mem, same⟩

end OcneProvider.Data.Ranging
