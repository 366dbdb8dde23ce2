import OcneProvider.Api.Meta
import OcneProvider.Data.Keyed

/-! Lists of owner references: how references are compared, added, replaced and removed, and when one more controller
is one too many. -/

namespace OcneProvider.Api.Owners
open Meta Data.Keyed List

def parses (ref : OwnerReference) : Bool :=
  (parseGroup ref.apiVersion).isSome

def referSameObject (a b : OwnerReference) : Bool :=
  match parseGroup a.apiVersion, parseGroup b.apiVersion with
  | some group, some other => group == other && a.kind == b.kind && a.name == b.name
  | _, _ => false

def ensureOwnerRef (ownerReferences : List OwnerReference) (ref : OwnerReference) : List OwnerReference :=
  put (referSameObject · ref) ref ownerReferences

/-- The owner that is replaced is found by its UID only. -/
def replaceOwnerRef (ownerReferences : List OwnerReference) (source : String) (target : OwnerReference) :
    List OwnerReference :=
  put (·.uid == source) target ownerReferences

def removeOwnerRef (ownerReferences : List OwnerReference) (inputRef : OwnerReference) : List OwnerReference :=
  ownerReferences.eraseP (referSameObject · inputRef)

/-- An API version that cannot be read stands for itself. -/
structure OwnerKey where
  group : String ⊕ String
  kind : String
  name : String
  deriving DecidableEq

def ownerKey (ref : OwnerReference) : OwnerKey where
  group := match parseGroup ref.apiVersion with
    | some group => .inr group
    | none => .inl ref.apiVersion
  kind := ref.kind
  name := ref.name

theorem referSameObject_iff {a b : OwnerReference} :
    referSameObject a b = true ↔ parses b = true ∧ ownerKey a = ownerKey b := by
  simp only [referSameObject, parses, ownerKey]
  cases parseGroup a.apiVersion with
  | none => cases parseGroup b.apiVersion <;> simp
  | some group => cases parseGroup b.apiVersion <;> simp [and_assoc]

def isController (ref : OwnerReference) : Bool :=
  ref.controller == some true

theorem mem_of_getControllerOf {refs : List OwnerReference} {controller : OwnerReference}
    (found : getControllerOf refs = some controller) : controller ∈ refs ∧ isController controller = true :=
  ⟨mem_of_find?_eq_some found, find?_some found⟩

/-- Different owners, and at most one controller among them. -/
structure Proper (refs : List OwnerReference) : Prop where
  distinct : (refs.map ownerKey).Nodup
  single : (refs.filter isController).length ≤ 1

instance (refs : List OwnerReference) : Decidable (Proper refs) :=
  decidable_of_iff ((refs.map ownerKey).Nodup ∧ (refs.filter isController).length ≤ 1)
    ⟨fun ⟨distinct, single⟩ => ⟨distinct, single⟩, fun proper => ⟨proper.distinct, proper.single⟩⟩

section Proper

variable {refs left : List OwnerReference} {ref : OwnerReference}

theorem Proper.perm {other : List OwnerReference} (same : refs.Perm other) : Proper refs ↔ Proper other := by
  constructor
  · exact fun proper => ⟨(same.map ownerKey).nodup_iff.mp proper.distinct, (same.filter _).length_eq ▸ proper.single⟩
  · exact fun proper => ⟨(same.map ownerKey).nodup_iff.mpr proper.distinct, (same.filter _).length_eq ▸ proper.single⟩

theorem Proper.sublist (proper : Proper refs) (fewer : left.Sublist refs) : Proper left :=
  ⟨proper.distinct.sublist (fewer.map ownerKey), (fewer.filter isController).length_le.trans proper.single⟩

theorem Proper.cons_iff (controller : isController ref = true) (proper : Proper left) :
    Proper (ref :: left) ↔ ∀ other ∈ left, ownerKey other ≠ ownerKey ref ∧ isController other = false := by
  constructor
  · intro joined other mem
    have apart := joined.distinct
    have single := joined.single
    rw [filter_cons_of_pos controller, length_cons] at single
    have none : left.filter isController = [] := length_eq_zero_iff.mp (by omega)
    simp only [map_cons, nodup_cons, mem_map, not_exists, not_and] at apart
    exact ⟨apart.1 other mem, by simpa using filter_eq_nil_iff.mp none other mem⟩
  · intro others
    have none : left.filter isController = [] :=
      filter_eq_nil_iff.mpr fun other mem => by simp [(others other mem).2]
    refine ⟨?_, by simp [controller, none]⟩
    simp only [map_cons, nodup_cons, mem_map, not_exists, not_and]
    exact ⟨fun other mem => (others other mem).1, proper.distinct⟩

theorem Proper.eq_getControllerOf (proper : Proper refs) (mem : ref ∈ refs) (controller : isController ref = true) :
    getControllerOf refs = some ref := by
  cases found : getControllerOf refs with
  | none => exact absurd controller (by simpa [isController] using find?_eq_none.mp found ref mem)
  | some other =>
    obtain ⟨otherMember, otherController⟩ := mem_of_getControllerOf found
    have first : ref ∈ refs.filter isController := mem_filter.mpr ⟨mem, controller⟩
    have second : other ∈ refs.filter isController := mem_filter.mpr ⟨otherMember, otherController⟩
    have single := proper.single
    generalize refs.filter isController = controllers at first second single
    match controllers, single with
    | [only], _ => rw [mem_singleton.mp first, mem_singleton.mp second]

end Proper

section Writing

variable {refs left : List OwnerReference} {ref : OwnerReference} {exempt : OwnerReference → Bool}

/-- Every owner is still referred to, but for those that are exempt. -/
def Kept (exempt : OwnerReference → Bool) (before after : List OwnerReference) : Prop :=
  ∀ ref ∈ before, exempt ref = false → ∃ still ∈ after, ownerKey still = ownerKey ref

/-- What may be written in the place of proper references. -/
def Sound (exempt : OwnerReference → Bool) (before after : List OwnerReference) : Prop :=
  Proper after ∧ Kept exempt before after

theorem mem_removeOwnerRef (proper : Proper refs) (readable : parses ref = true) {other : OwnerReference} :
    other ∈ removeOwnerRef refs ref ↔ other ∈ refs ∧ ownerKey other ≠ ownerKey ref :=
  mem_eraseP_iff_of_nodup proper.distinct fun _ _ => referSameObject_iff.trans (and_iff_right readable)

theorem removeOwnerRef_of_not_parses (unreadable : parses ref = false) : removeOwnerRef refs ref = refs :=
  eraseP_of_forall_not fun _ _ same => Bool.false_ne_true (unreadable.symm.trans (referSameObject_iff.mp same).1)

theorem removeOwnerRef_sublist : (removeOwnerRef refs ref).Sublist refs :=
  eraseP_sublist

theorem proper_put_iff {selected : OwnerReference → Bool} (proper : Proper refs) (controller : isController ref = true) :
    Proper (put selected ref refs) ↔
      ∀ other ∈ refs.eraseP selected, ownerKey other ≠ ownerKey ref ∧ isController other = false :=
  (Proper.perm (put_perm selected ref refs)).trans (Proper.cons_iff controller (proper.sublist eraseP_sublist))

/-- A controller can be added to references without another one. -/
theorem sound_ensureOwnerRef_iff (proper : Proper refs) (fewer : left.Sublist refs)
    (others : ∀ other ∈ refs, exempt other = false → other ∈ left) (readable : parses ref = true)
    (controller : isController ref = true) : Sound exempt refs (ensureOwnerRef left ref) ↔
      ∀ other ∈ left, isController other = true → ownerKey other = ownerKey ref := by
  have properLeft := proper.sublist fewer
  have kept : Kept exempt refs (ensureOwnerRef left ref) := by
    intro other mem plain
    by_cases same : ownerKey other = ownerKey ref
    · exact ⟨ref, mem_put.mpr (.inl rfl), same.symm⟩
    · exact ⟨other, mem_put.mpr (.inr ((mem_removeOwnerRef properLeft readable).mpr ⟨others other mem plain, same⟩)), rfl⟩
  rw [Sound, and_iff_left kept, ensureOwnerRef, proper_put_iff properLeft controller]
  constructor
  · intro alone other mem controls
    by_contra differs
    have plain := (alone other ((mem_removeOwnerRef properLeft readable).mpr ⟨mem, differs⟩)).2
    exact Bool.false_ne_true (plain.symm.trans controls)
  · intro alone other mem
    obtain ⟨mem, differs⟩ := (mem_removeOwnerRef properLeft readable).mp mem
    exact ⟨differs, by simpa using fun controls => differs (alone other mem controls)⟩

/-- An owner can be replaced by a controller if the other references have neither, and may be lost. -/
theorem sound_replaceOwnerRef_iff {source : String} (proper : Proper refs) (controller : isController ref = true) :
    Sound exempt refs (replaceOwnerRef refs source ref) ↔
      (∀ other ∈ refs.eraseP (·.uid == source), ownerKey other ≠ ownerKey ref ∧ isController other = false) ∧
        ∀ replaced, refs.find? (·.uid == source) = some replaced → exempt replaced = false →
          ownerKey replaced = ownerKey ref := by
  rw [Sound, replaceOwnerRef, proper_put_iff proper controller]
  refine and_congr_right fun _ => ⟨fun kept replaced found plain => ?_, fun lost other mem plain => ?_⟩
  · obtain ⟨still, mem, same⟩ := kept replaced (mem_of_find?_eq_some found) plain
    rcases mem_put.mp mem with rfl | mem
    · exact same.symm
    · exact absurd same (key_ne_of_find? proper.distinct found mem)
  · rcases mem_eraseP_or_find? mem with mem | found
    · exact ⟨other, mem_put.mpr (.inr mem), rfl⟩
    · exact ⟨ref, mem_put.mpr (.inl rfl), (lost other found plain).symm⟩

end Writing

end OcneProvider.Api.Owners
