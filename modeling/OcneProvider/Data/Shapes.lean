import OcneProvider.Data.Leaves

/-! Shapes of JSON trees: the encodings of the values of one record type have the same
objects and the same plain values in the same places. -/

namespace OcneProvider.Data.Shapes
open MergePatch Leaves

/-- The fields of a record come with whether they are always there; the keys of a table are open. -/
inductive Shape where
  | plain
  | table
  | record (fields : List (String × Bool × Shape))

variable {α : Type}

def Shape.isObject : Shape → Bool
  | plain => false
  | table | record _ => true

mutual

def Shape.admits : Shape → Json α → Bool
  | .plain, json => !MergePatch.isObject (some json)
  | .table, .object entries =>
    (entries.map Prod.fst).Nodup && entries.all fun entry => !MergePatch.isObject (some entry.2)
  | .record fields, .object entries =>
    (entries.map Prod.fst).Nodup && entries.all (fun entry => (fields.lookup entry.1).isSome) &&
      admitsFields fields entries
  | .table, _ | .record _, _ => false

def admitsFields : List (String × Bool × Shape) → List (String × Json α) → Bool
  | [], _ => true
  | (name, always, shape) :: rest, entries =>
    (match entries.lookup name with
      | none => !always
      | some json => shape.admits json) && admitsFields rest entries

end

def Shape.field : Shape → String → Option Shape
  | plain, _ => none
  | table, _ => some plain
  | record fields, key => (fields.lookup key).map Prod.snd

def Shape.look (shape : Option Shape) : List String → Option Shape
  | [] => shape
  | key :: rest => look (shape.bind (·.field key)) rest

section Admits

variable {shape : Shape} {json : Json α}

section

variable (admitted : shape.admits json = true)
include admitted

theorem Shape.isObject_eq : MergePatch.isObject (some json) = shape.isObject := by
  cases shape with
  | plain => simpa [Shape.admits, Shape.isObject] using admitted
  | table => cases json <;> simp_all [Shape.admits, Shape.isObject, MergePatch.isObject]
  | record fields => cases json <;> simp_all [Shape.admits, Shape.isObject, MergePatch.isObject]

variable {fields : List (String × Bool × Shape)}

omit admitted in
theorem admitsFields_mem {entries : List (String × Json α)}
    (admitted : admitsFields fields entries = true) {name : String} {always : Bool}
    (declared : (name, always, shape) ∈ fields) : (entries.lookup name = none → always = false) ∧
      ∀ json, entries.lookup name = some json → shape.admits json = true := by
  induction fields with
  | nil => simp at declared
  | cons first rest ih =>
    obtain ⟨other, must, below⟩ := first
    rw [admitsFields, Bool.and_eq_true] at admitted
    rcases List.mem_cons.mp declared with same | later
    · cases same
      cases found : entries.lookup name <;> simp_all
    · exact ih admitted.2 later

theorem Shape.admits_field {key : String} {content : Json α}
    (found : MergePatch.field (some json) key = some content) :
    ∃ below, shape.field key = some below ∧ below.admits content = true := by
  cases shape with
  | plain =>
    cases json with
    | null => cases found
    | value value => cases found
    | object entries => cases admitted
  | table =>
    cases json with
    | null => cases found
    | value value => cases found
    | object entries =>
      rw [Shape.admits, Bool.and_eq_true, List.all_eq_true] at admitted
      exact ⟨.plain, rfl, admitted.2 _ (mem_of_lookup found)⟩
  | record fields =>
    cases json with
    | null => cases found
    | value value => cases found
    | object entries =>
      simp only [Shape.admits, Bool.and_eq_true, List.all_eq_true] at admitted
      obtain ⟨⟨_, declared⟩, each⟩ := admitted
      obtain ⟨⟨always, below⟩, known⟩ := Option.isSome_iff_exists.mp (declared _ (mem_of_lookup found))
      refine ⟨below, ?_, (admitsFields_mem each (mem_of_lookup known)).2 content found⟩
      rw [Shape.field, known]
      rfl

theorem Shape.admits_look {path : List String} {content : Json α}
    (found : MergePatch.look (some json) path = some content) :
    ∃ below, Shape.look (some shape) path = some below ∧ below.admits content = true := by
  induction path generalizing shape json with
  | nil =>
    cases found
    exact ⟨shape, rfl, admitted⟩
  | cons key rest ih =>
    change MergePatch.look (MergePatch.field (some json) key) rest = _ at found
    cases mem : MergePatch.field (some json) key with
    | none => rw [mem, look_none] at found; cases found
    | some next =>
      rw [mem] at found
      obtain ⟨below, known, fits⟩ := Shape.admits_field admitted mem
      obtain ⟨last, there, fits⟩ := ih fits found
      refine ⟨last, ?_, fits⟩
      rw [Shape.look, Option.bind_some, known]
      exact there

theorem Shape.isObject_eq_of_look {other : Json α}
    (admitted' : shape.admits other = true) {path : List String} {first second : Json α}
    (found : MergePatch.look (some json) path = some first)
    (found' : MergePatch.look (some other) path = some second) :
    MergePatch.isObject (some first) = MergePatch.isObject (some second) := by
  obtain ⟨below, known, fits⟩ := Shape.admits_look admitted found
  obtain ⟨below', known', fits'⟩ := Shape.admits_look admitted' found'
  cases known.symm.trans known'
  rw [Shape.isObject_eq fits, Shape.isObject_eq fits']

theorem Shape.keyed : Keyed (some json) := by
  intro path entries found
  obtain ⟨below, _, fits⟩ := Shape.admits_look admitted found
  cases below with
  | plain => cases fits
  | table =>
    simp only [Shape.admits, Bool.and_eq_true, decide_eq_true_eq] at fits
    exact fits.1
  | record fields =>
    simp only [Shape.admits, Bool.and_eq_true, decide_eq_true_eq] at fits
    exact fits.1.1

end

theorem Shape.admits_always (admitted : (record fields).admits json = true)
    {key : String} {below : Shape} (declared : fields.lookup key = some (true, below)) :
    ∃ content, MergePatch.field (some json) key = some content ∧ below.admits content = true := by
  cases json with
  | null => cases admitted
  | value value => cases admitted
  | object entries =>
    simp only [Shape.admits, Bool.and_eq_true] at admitted
    obtain ⟨must, fits⟩ := admitsFields_mem admitted.2 (mem_of_lookup declared)
    cases found : entries.lookup key with
    | none => cases must found
    | some content => exact ⟨content, found, fits content found⟩

end Admits

mutual

def Shape.nodes : Shape → List (List String)
  | .plain => []
  | .table => [[]]
  | .record fields => [] :: nodesBelow fields

def nodesBelow : List (String × Bool × Shape) → List (List String)
  | [] => []
  | (name, _, shape) :: rest => shape.nodes.map (name :: ·) ++ nodesBelow rest

end

theorem mem_nodesBelow {fields : List (String × Bool × Shape)} {name : String} {always : Bool} {shape : Shape}
    (declared : (name, always, shape) ∈ fields) {path : List String} (mem : path ∈ shape.nodes) :
    name :: path ∈ nodesBelow fields := by
  induction fields with
  | nil => simp at declared
  | cons first rest ih =>
    obtain ⟨other, must, below⟩ := first
    rw [nodesBelow, List.mem_append]
    rcases List.mem_cons.mp declared with same | later
    · cases same
      exact .inl (List.mem_map_of_mem mem)
    · exact .inr (ih later)

@[simp] theorem Shape.look_none (path : List String) : look none path = none := by
  induction path with
  | nil => rfl
  | cons key rest ih => exact ih

theorem Shape.mem_nodes {shape below : Shape} {path : List String} (known : look (some shape) path = some below)
    (object : below.isObject = true) : path ∈ shape.nodes := by
  induction path generalizing shape with
  | nil =>
    cases known
    cases below with
    | plain => cases object
    | table => simp [Shape.nodes]
    | record fields => simp [Shape.nodes]
  | cons key rest ih =>
    cases shape with
    | plain =>
      rw [look, Option.bind_some, Shape.field, look_none] at known
      cases known
    | table =>
      -- below a table there are plain values only
      have mem := ih known
      simp [Shape.nodes] at mem
    | record fields =>
      rw [look, Option.bind_some, Shape.field] at known
      cases declared : fields.lookup key with
      | none => simp [declared] at known
      | some entry =>
        rw [declared] at known
        exact List.mem_cons_of_mem _ (mem_nodesBelow (mem_of_lookup declared) (ih known))

end OcneProvider.Data.Shapes
