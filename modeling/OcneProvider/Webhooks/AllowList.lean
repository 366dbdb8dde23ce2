import OcneProvider.Webhooks.Update

/-! What the list of allowed paths lets through: the leaves of an object that no allowed
path covers stay as they are, and with them the etcd mode. -/

namespace OcneProvider.Webhooks.AllowList
open Api Api.Meta Api.Bootstrap Api.Encoding Api.Objects Validation Update
open Data.MergePatch Data.Leaves Data.Shapes List

variable {path : List String} {fields : List (String × Tree)}

theorem entryPaths_of_plain (path : List String) (key : String) {content : Tree}
    (plain : isObject (some content) = false) : entryPaths path key content = [path ++ [key]] := by
  cases content with
  | object nested => cases plain
  | null => rw [entryPaths]
  | value content => rw [entryPaths]

theorem mem_paths_iff {changed : List String} :
    changed ∈ paths path fields ↔ ∃ entry ∈ fields, changed ∈ entryPaths path entry.1 entry.2 := by
  induction fields with
  | nil => simp [paths]
  | cons first rest ih => simp [paths, ih]

theorem mem_paths_of_leaf {rest : List String} (path : List String)
    (leaf : Leaf (some (.object fields)) rest) : path ++ rest ∈ paths path fields := by
  induction rest generalizing fields path with
  | nil =>
    obtain ⟨content, found, plain⟩ := leaf
    cases found
    cases plain
  | cons key rest ih =>
    obtain ⟨content, found, plain⟩ := leaf
    change look (fields.lookup key) rest = some content at found
    cases there : fields.lookup key with
    | none => rw [there, look_none] at found; cases found
    | some next =>
      rw [there] at found
      have mem := mem_of_lookup there
      have below : Leaf (some next) rest := ⟨content, found, plain⟩
      refine mem_paths_iff.mpr ⟨(key, next), mem, ?_⟩
      cases object : isObject (some next) with
      | true =>
        obtain ⟨nested, same⟩ := isObject_iff.mp object
        cases same
        have listed := ih (path ++ [key]) below
        rwa [append_assoc, ← entryPaths] at listed
      | false =>
        rw [(leaf_of_plain object rest).mp below, entryPaths_of_plain path key object]
        exact mem_singleton_self _

/-- Every path that is listed is one of a leaf, if no key occurs twice. -/
theorem leaf_of_mem_paths (keyed : Keyed (some (.object fields)))
    {changed : List String} (mem : changed ∈ paths path fields) :
    ∃ rest, changed = path ++ rest ∧ Leaf (some (.object fields)) rest := by
  induction size : sizeOf fields using Nat.strongRecOn generalizing fields path with
  | ind bound ih =>
    obtain ⟨⟨key, content⟩, entry, listed⟩ := mem_paths_iff.mp mem
    have there : fields.lookup key = some content := lookup_of_mem (keyed [] fields rfl) entry
    cases object : isObject (some content) with
    | true =>
      obtain ⟨nested, same⟩ := isObject_iff.mp object
      cases same
      have smaller := sizeOf_lt_of_mem entry
      simp only [Prod.mk.sizeOf_spec, Json.object.sizeOf_spec] at smaller
      have below : Keyed (some (.object nested)) := there ▸ keyed.field key
      obtain ⟨rest, rfl, last, found, plain⟩ := ih (sizeOf nested) (by omega) below listed rfl
      refine ⟨key :: rest, by simp, last, ?_, plain⟩
      change look (fields.lookup key) rest = _
      rw [there, found]
    | false =>
      rw [entryPaths_of_plain path key object, mem_singleton] at listed
      refine ⟨[key], listed, content, ?_, object⟩
      exact there

/-- An entry of the list that ends with a star above or at a path. -/
def coversBelow : List String → List String → Bool
  | [], _ => false
  | allowed :: _, [] => allowed = "*"
  | allowed :: others, key :: rest => allowed = "*" || (key = allowed && coversBelow others rest)

theorem pathsMatch_append {entry rest : List String} (covers : coversBelow entry path = true) (below : rest ≠ []) :
    pathsMatch entry (path ++ rest) = true := by
  induction entry generalizing path with
  | nil => cases covers
  | cons allowed others ih =>
    cases path with
    | nil =>
      obtain ⟨key, rest, rfl⟩ := exists_cons_of_ne_nil below
      have star : allowed = "*" := by simpa [coversBelow] using covers
      simp [pathsMatch, star]
    | cons key path =>
      by_cases star : allowed = "*"
      · simp [pathsMatch, star]
      · simp only [coversBelow, star, decide_false, Bool.false_or, Bool.and_eq_true, decide_eq_true_eq] at covers
        have longer : path ++ rest ≠ [] := by simp [below]
        simp [pathsMatch, star, covers.1, longer, ih covers.2]

/-- A path with an allowed path above it or at it. -/
def Covered (list : List (List String)) (path : List String) : Prop :=
  ∃ above, above <+: path ∧ allowed list above = true

section Soundness

variable {list : List (List String)}

def leafAt (json : Option Tree) (path : List String) : Option Tree :=
  (look json path).filter fun content => !isObject (some content)

theorem leafAt_eq_some_iff {json : Option Tree} {content : Tree} :
    leafAt json path = some content ↔ look json path = some content ∧ isObject (some content) = false := by
  simp [leafAt, Option.filter_eq_some_iff]

theorem leafAt_cons (json : Option Tree) (key : String) (rest : List String) :
    leafAt json (key :: rest) = leafAt (field json key) rest := rfl

/-- The trees have objects in the same places, if anything. -/
def Stable (old new : Option Tree) : Prop :=
  ∀ path before after, look old path = some before → look new path = some after →
    isObject (some before) = isObject (some after)

theorem Stable.field {old new : Option Tree} (stable : Stable old new) (key : String) :
    Stable (field old key) (field new key) :=
  fun path before after => stable (key :: path) before after

theorem Stable.absent {old new : Option Tree} (stable : Stable old new) (object : isObject new = true) (plain : isObject old = false) :
    old = none := by
  cases old with
  | none => rfl
  | some before =>
    obtain ⟨fields, rfl⟩ := isObject_iff.mp object
    cases plain.symm.trans (stable [] before _ rfl rfl)

theorem leafAt_of_object {json : Option Tree} (object : isObject json = true) : leafAt json [] = none := by
  obtain ⟨fields, rfl⟩ := isObject_iff.mp object
  rfl

theorem leafAt_eq_of_apart {old new : Option Tree} {above : List String}
    (clean : ∀ rest, Leaf (diff old new) rest → allowed list (above ++ rest) = true) (stable : Stable old new)
    (uncovered : ¬ Covered list (above ++ path)) (apart : ¬ (isObject old = true ∧ isObject new = true)) :
    leafAt old path = leafAt new path := by
  by_cases same : old = new
  · rw [same]
  cases object : isObject new with
  | true =>
    have plain : isObject old = false := by simpa [object] using apart
    have absent : old = none := stable.absent object plain
    cases found : leafAt new path with
    | none => rw [absent, leafAt, look_none]; rfl
    | some content =>
      have leaf : Leaf new path := ⟨content, leafAt_eq_some_iff.mp found⟩
      exact absurd ⟨_, prefix_rfl, clean path ((leaf_diff_of_object plain object path).mpr leaf)⟩ uncovered
  | false =>
    have changed := clean [] ((leaf_diff_of_plain object []).mpr ⟨rfl, same⟩)
    rw [append_nil] at changed
    exact absurd ⟨above, prefix_append _ _, changed⟩ uncovered

theorem leafAt_eq {old new : Option Tree} {above : List String}
    (clean : ∀ rest, Leaf (diff old new) rest → allowed list (above ++ rest) = true) (stable : Stable old new)
    (uncovered : ¬ Covered list (above ++ path)) : leafAt old path = leafAt new path := by
  induction path generalizing old new above with
  | nil =>
    by_cases both : isObject old = true ∧ isObject new = true
    · rw [leafAt_of_object both.1, leafAt_of_object both.2]
    · exact leafAt_eq_of_apart clean stable uncovered both
  | cons key rest ih =>
    by_cases both : isObject old = true ∧ isObject new = true
    · have kept : ¬ Covered list ((above ++ [key]) ++ rest) := by rwa [append_assoc]
      refine ih (fun below leaf => ?_) (stable.field key) kept
      rw [append_assoc]
      exact clean (key :: below) ((leaf_diff_cons both.1 both.2 key below).mpr leaf)
    · exact leafAt_eq_of_apart clean stable uncovered both

/-- The document has the same objects as another one, where both have anything. -/
theorem stable_documents (prev new : Document) : Stable (some prev.json) (some new.json) :=
  fun _ _ _ found found' => Shape.isObject_eq_of_look prev.shaped new.shaped found found'

theorem isObject_json (document : Document) : isObject (some document.json) = true :=
  Shape.isObject_eq document.shaped

theorem mem_forbiddenPaths_iff (prev new : Document) :
    path ∈ forbiddenPaths prev new ↔ Leaf (diff (some prev.json) (some new.json)) path ∧
      allowed (allowedPathsFor prev.object new.object) path = false := by
  have keyed : Keyed (diff (some prev.json) (some new.json)) :=
    keyed_diff (Shape.keyed prev.shaped) (Shape.keyed new.shaped)
  have listed : path ∈ paths [] (fieldsOf (diff (some prev.json) (some new.json))) ↔
      Leaf (diff (some prev.json) (some new.json)) path := by
    rcases diff_eq_none_or_object (isObject_json prev) (isObject_json new) with nothing | ⟨fields, object⟩
    · rw [nothing]
      simp [fieldsOf, paths, Leaf]
    · rw [object] at keyed ⊢
      constructor
      · intro mem
        obtain ⟨rest, rfl, leaf⟩ := leaf_of_mem_paths keyed mem
        exact leaf
      · exact mem_paths_of_leaf []
  have nonempty : Leaf (diff (some prev.json) (some new.json)) path → path ≠ [] := by
    rintro leaf rfl
    exact not_leaf_diff_nil (isObject_json prev) (isObject_json new) leaf
  simp only [forbiddenPaths, mem_filter, listed, Bool.not_eq_true', decide_eq_true_eq]
  tauto

theorem clean_of_forbiddenPaths {prev new : Document} (none : forbiddenPaths prev new = [])
    (leaf : Leaf (diff (some prev.json) (some new.json)) path) :
    allowed (allowedPathsFor prev.object new.object) path = true := by
  by_contra refused
  have mem := (mem_forbiddenPaths_iff prev new).mpr ⟨leaf, by simpa using refused⟩
  rw [none] at mem
  cases mem

theorem leafAt_document_eq {prev new : Document} (none : forbiddenPaths prev new = [])
    (uncovered : ¬ Covered (allowedPathsFor prev.object new.object) path) :
    leafAt (some prev.json) path = leafAt (some new.json) path := by
  have elsewhere : ¬ Covered (allowedPathsFor prev.object new.object) ([] ++ path) := uncovered
  have clean (rest : List String) (leaf : Leaf (diff (some prev.json) (some new.json)) rest) :
      allowed (allowedPathsFor prev.object new.object) ([] ++ rest) = true := clean_of_forbiddenPaths none leaf
  exact leafAt_eq clean (stable_documents prev new) elsewhere

end Soundness

mutual

/-- A tree without the subtrees at allowed paths. -/
def erase (list : List (List String)) (path : List String) : Tree → Tree
  | .object fields => .object (eraseFields list path fields)
  | .null => .null
  | .value content => .value content

def eraseFields (list : List (List String)) (path : List String) : List (String × Tree) → List (String × Tree)
  | [] => []
  | (key, content) :: rest =>
    if allowed list (path ++ [key]) then eraseFields list path rest
    else (key, erase list (path ++ [key]) content) :: eraseFields list path rest

end

theorem lookup_eraseFields (list : List (List String)) (path : List String) (fields : List (String × Tree)) (key : String) :
    (eraseFields list path fields).lookup key =
      if allowed list (path ++ [key]) then none else (fields.lookup key).map (erase list (path ++ [key])) := by
  induction fields with
  | nil => simp [eraseFields]
  | cons first rest ih =>
    obtain ⟨name, content⟩ := first
    by_cases same : key = name
    · subst same
      by_cases covered : allowed list (path ++ [key]) = true <;> simp [eraseFields, covered, ih]
    · rw [lookup_cons_ne content same, ← ih, eraseFields]
      split
      next => rfl
      next => exact lookup_cons_ne _ same

theorem not_covered_nil (list : List (List String)) : ¬ Covered list [] := by
  rintro ⟨above, nothing, mem⟩
  rw [prefix_nil.mp nothing] at mem
  obtain ⟨entry, _, matched⟩ := any_eq_true.mp mem
  cases entry <;> cases matched

theorem covered_concat_iff (list : List (List String)) (path : List String) (key : String) :
    Covered list (path ++ [key]) ↔ Covered list path ∨ allowed list (path ++ [key]) = true := by
  constructor
  · rintro ⟨above, shorter, mem⟩
    rcases prefix_concat_iff.mp shorter with rfl | shorter
    · exact .inr mem
    · exact .inl ⟨above, shorter, mem⟩
  · rintro (⟨above, shorter, mem⟩ | mem)
    · exact ⟨above, shorter.trans (prefix_append _ _), mem⟩
    · exact ⟨_, prefix_rfl, mem⟩

theorem field_erase (list : List (List String)) (above : List String) (json : Tree) (key : String) :
    field (some (erase list above json)) key =
      if allowed list (above ++ [key]) then none else (field (some json) key).map (erase list (above ++ [key])) := by
  cases json with
  | null => simp [erase, field, fieldsOf]
  | value content => simp [erase, field, fieldsOf]
  | object fields => exact lookup_eraseFields list above fields key

theorem leafAt_erase (list : List (List String)) (json : Tree) {above : List String} (path : List String)
    (clear : ¬ Covered list above) :
    (Covered list (above ++ path) → leafAt (some (erase list above json)) path = none) ∧
      (¬ Covered list (above ++ path) → leafAt (some (erase list above json)) path = leafAt (some json) path) := by
  induction path generalizing json above with
  | nil =>
    rw [append_nil]
    exact ⟨fun covered => absurd covered clear, fun _ => by cases json <;> rfl⟩
  | cons key rest ih =>
    rw [leafAt_cons, leafAt_cons, field_erase]
    by_cases mem : allowed list (above ++ [key]) = true
    · have covered : Covered list (above ++ key :: rest) := ⟨above ++ [key], ⟨rest, by simp⟩, mem⟩
      rw [if_pos mem]
      exact ⟨fun _ => by rw [leafAt, look_none]; rfl, fun uncovered => absurd covered uncovered⟩
    · rw [if_neg mem]
      have further : ¬ Covered list (above ++ [key]) := by
        rw [covered_concat_iff]
        exact fun either => either.elim clear mem
      cases field (some json) key with
      | none => exact ⟨fun _ => by rw [Option.map_none, leafAt, look_none]; rfl, fun _ => rfl⟩
      | some content =>
        have below := ih content further
        rwa [append_assoc] at below

/-- Without the subtrees at allowed paths, the documents have the same leaves. -/
theorem accepted_update_keeps_leaves (runtime : Runtime) (prev new : Document)
    (accepted : validateUpdate runtime prev new = .ok []) (path : List String) :
    leafAt (some (erase (allowedPathsFor prev.object new.object) [] prev.json)) path =
      leafAt (some (erase (allowedPathsFor prev.object new.object) [] new.json)) path := by
  have clear := not_covered_nil (allowedPathsFor prev.object new.object)
  obtain ⟨covered, uncovered⟩ := leafAt_erase _ prev.json path clear
  obtain ⟨covered', uncovered'⟩ := leafAt_erase _ new.json path clear
  by_cases listed : Covered (allowedPathsFor prev.object new.object) path
  · rw [covered listed, covered' listed]
  · rw [uncovered listed, uncovered' listed]
    exact leafAt_document_eq (validateUpdate_paths accepted) listed

def text (value : String) : Tree := .value (.text value)

def exampleObject (config : OCNEConfigSpec) : OCNEControlPlane :=
  { name := "cp", ns := "default", uid := "u", deletionTimestamp := none, initialized := true, conditions := []
    spec := { (default : OCNEControlPlaneSpec) with
      replicas := some 1, version := "v1.25.7"
      machineTemplate := { (default : MachineTemplate) with
        infrastructureRef := ⟨"infrastructure.cluster.x-k8s.io/v1beta1", "MachineTemplate", "default", "template", ""⟩ }
      controlPlaneConfig := { config with format := cloudConfigFormat }
      rolloutStrategy := some ⟨rollingUpdateStrategyType, some ⟨some (.int 1)⟩⟩ } }

def exampleJson (config : List (String × Tree)) : Tree := .object [
  ("metadata", .object [("name", text "cp"), ("namespace", text "default"), ("uid", text "u"),
    ("creationTimestamp", .null)]),
  ("spec", .object [
    ("replicas", .value (.number 1)), ("version", text "v1.25.7"),
    ("machineTemplate", .object [("metadata", .object []), ("infrastructureRef", .object [
      ("apiVersion", text "infrastructure.cluster.x-k8s.io/v1beta1"), ("kind", text "MachineTemplate"),
      ("namespace", text "default"), ("name", text "template")])]),
    ("controlPlaneConfig", .object (("format", text cloudConfigFormat) :: config)),
    ("rolloutStrategy", .object [("type", text rollingUpdateStrategyType),
      ("rollingUpdate", .object [("maxSurge", .value (.number 1))])])]),
  ("status", .object [("replicas", .value (.number 1)), ("updatedReplicas", .value (.number 1)),
    ("readyReplicas", .value (.number 1)), ("unavailableReplicas", .value (.number 0)),
    ("initialized", .value (.flag true)), ("ready", .value (.flag true))])]

def exampleConfiguration (etcd : List (String × Tree)) : String × Tree :=
  ("clusterConfiguration", .object [("etcd", .object etcd), ("networking", .object []), ("apiServer", .object []),
    ("controllerManager", .object []), ("scheduler", .object []), ("dns", .object [])])

def plainDocument : Document where
  object := exampleObject { (default : OCNEConfigSpec) with clusterConfiguration := some emptyClusterConfiguration }
  json := exampleJson [exampleConfiguration []]
  shaped := by decide
  format := rfl
  external := rfl

def taggedDocument : Document where
  object := exampleObject { (default : OCNEConfigSpec) with
    clusterConfiguration := some { emptyClusterConfiguration with
      etcd := ⟨some ⟨⟨"", "3.5.6"⟩, "", none, none, none⟩, none⟩ } }
  json := exampleJson [exampleConfiguration [("local", .object [("imageTag", text "3.5.6")])]]
  shaped := by decide
  format := rfl
  external := rfl

/-- Without a table of releases, and with every migration supported. -/
def lenient : Runtime := ⟨false, .error (errorf "no metadata"), fun _ _ => .ok ()⟩

theorem tagged_update_keeps_format :
    leafAt (some (erase (allowedPathsFor plainDocument.object taggedDocument.object) [] plainDocument.json)) formatPath =
      leafAt (some (erase (allowedPathsFor plainDocument.object taggedDocument.object) [] taggedDocument.json))
        formatPath :=
  accepted_update_keeps_leaves lenient plainDocument taggedDocument (by decide +kernel) formatPath

/-- The object that an allowed tag was added with stays once the tag is erased. -/
theorem erased_object_remains : validateUpdate lenient plainDocument taggedDocument = .ok [] ∧
      (look (some (erase (allowedPathsFor plainDocument.object taggedDocument.object) [] plainDocument.json))
        (clusterConfigurationPath ++ ["etcd", "local"])).isSome = false ∧
      (look (some (erase (allowedPathsFor plainDocument.object taggedDocument.object) [] taggedDocument.json))
        (clusterConfigurationPath ++ ["etcd", "local"])).isSome = true := by
  decide +kernel

instance (list : List (List String)) (path : List String) : Decidable (Covered list path) :=
  decidable_of_iff (∃ above ∈ path.inits, allowed list above = true) <| by
    simp only [Covered, List.mem_inits]

def endpointsPath : List String := externalEtcdPath ++ ["endpoints"]

theorem not_covered_endpoints (prev new : OCNEControlPlane) : ¬ Covered (allowedPathsFor prev new) endpointsPath := by
  unfold allowedPathsFor
  split <;> decide +kernel

theorem isSome_endpoints (document : Document) :
    (leafAt (some document.json) endpointsPath).isSome = (look (some document.json) externalEtcdPath).isSome := by
  cases found : look (some document.json) externalEtcdPath with
  | none =>
    rw [leafAt, endpointsPath, look_append, found]
    rfl
  | some external =>
    obtain ⟨below, known, fits⟩ := Shape.admits_look document.shaped found
    cases known.symm.trans (rfl : _ = some Encoding.externalEtcd)
    have declared : (always ["endpoints", "caFile", "certFile", "keyFile"]).lookup "endpoints" = some (true, .plain) := by
      simp [always]
    obtain ⟨content, there, plain⟩ := Shape.admits_always fits declared
    have leaf : leafAt (some document.json) endpointsPath = some content := by
      refine leafAt_eq_some_iff.mpr ⟨?_, Shape.isObject_eq plain⟩
      rw [endpointsPath, look_append, found]
      exact there
    rw [leaf]
    rfl

/-- Whether the control plane has etcd of its own is not changed by an update. -/
theorem etcd_mode_immutable (runtime : Runtime) (prev new : Document)
    (accepted : validateUpdate runtime prev new = .ok []) :
    prev.object.isEtcdManaged = new.object.isEtcdManaged := by
  have kept := leafAt_document_eq (validateUpdate_paths accepted) (not_covered_endpoints prev.object new.object)
  have same := congrArg Option.isSome kept
  rw [isSome_endpoints, isSome_endpoints, prev.external, new.external] at same
  simpa using same

theorem tagged_update_keeps_etcd_mode : plainDocument.object.isEtcdManaged = taggedDocument.object.isEtcdManaged :=
  etcd_mode_immutable lenient plainDocument taggedDocument (by decide +kernel)

/-- An object that is new, in an object that was there before. -/
def Added (old new : Option Tree) : List String → Prop
  | [] => old = none ∧ isObject new = true
  | key :: rest => isObject old = true ∧ isObject new = true ∧ Added (field old key) (field new key) rest

theorem Added.isObject_look {old new : Option Tree} (added : Added old new path) : isObject (look new path) = true := by
  induction path generalizing old new with
  | nil => exact added.2
  | cons key rest ih => exact ih added.2.2

theorem Added.leaf_back {old new : Option Tree} (added : Added old new path) : Leaf (diff new old) path := by
  induction path generalizing old new with
  | nil =>
    obtain ⟨absent, object⟩ := added
    rw [absent]
    refine (leaf_diff_of_plain rfl []).mpr ⟨rfl, ?_⟩
    rintro rfl
    cases object
  | cons key rest ih =>
    obtain ⟨was, is, below⟩ := added
    exact (leaf_diff_cons is was key rest).mpr (ih below)

section Back

variable {permitted : List String → Prop} {old new : Option Tree} {above : List String}
variable (clean : ∀ rest, Leaf (diff old new) rest → permitted (above ++ rest))
  (added : ∀ rest, Added old new rest → permitted (above ++ rest)) (stable : Stable old new)
  (deeper : ∀ rest more, isObject (look old rest) = true → permitted (above ++ rest) → more ≠ [] →
    permitted (above ++ rest ++ more))
include clean added stable deeper

theorem permitted_back_of_apart (apart : ¬ (isObject old = true ∧ isObject new = true)) {rest : List String}
    (leaf : Leaf (diff new old) rest) : permitted (above ++ rest) := by
  cases object : isObject old with
  | true =>
    -- the whole object is removed by the change, and so it is permitted at its path
    have plain : isObject new = false := by simpa [object] using apart
    have differ : old ≠ new := by
      rintro rfl
      cases object.symm.trans plain
    have removed := clean [] ((leaf_diff_of_plain plain []).mpr ⟨rfl, differ⟩)
    have inside := (leaf_diff_of_object plain object rest).mp leaf
    have longer : rest ≠ [] := by
      rintro rfl
      obtain ⟨content, found, unlike⟩ := inside
      rw [show old = some content from found] at object
      cases object.symm.trans unlike
    have more := deeper [] rest object removed longer
    rwa [append_nil] at more
  | false =>
    obtain ⟨rfl, differ⟩ := (leaf_diff_of_plain object rest).mp leaf
    cases there : isObject new with
    | true => exact added [] ⟨stable.absent there object, there⟩
    | false => exact clean [] ((leaf_diff_of_plain there []).mpr ⟨rfl, differ.symm⟩)

theorem permitted_back {rest : List String} (leaf : Leaf (diff new old) rest) : permitted (above ++ rest) := by
  induction rest generalizing old new above with
  | nil =>
    by_cases both : isObject old = true ∧ isObject new = true
    · exact absurd leaf (not_leaf_diff_nil both.2 both.1)
    · exact permitted_back_of_apart clean added stable deeper both leaf
  | cons key rest ih =>
    by_cases both : isObject old = true ∧ isObject new = true
    · have step (below : List String) : above ++ key :: below = above ++ [key] ++ below := by simp
      rw [step]
      refine ih ?_ ?_ (stable.field key) ?_ ((leaf_diff_cons both.2 both.1 key rest).mp leaf)
      · intro below leaf
        rw [← step]
        exact clean (key :: below) ((leaf_diff_cons both.1 both.2 key below).mpr leaf)
      · intro below new
        rw [← step]
        exact added (key :: below) ⟨both.1, both.2, new⟩
      · intro below more object passed longer
        rw [← step] at passed ⊢
        exact deeper (key :: below) more object passed longer
    · exact permitted_back_of_apart clean added stable deeper both leaf

end Back

theorem pathsMatch_cons_self {allowed : String} (named : allowed ≠ "*") (others : List String) {rest : List String}
    (longer : rest ≠ []) : pathsMatch (allowed :: others) (allowed :: rest) = pathsMatch others rest := by
  simp [pathsMatch, named, longer]

theorem pathsMatch_iff_eq {entry : List String} (named : "*" ∉ entry) (nonempty : entry ≠ []) :
    pathsMatch entry path = true ↔ path = entry := by
  induction entry generalizing path with
  | nil => exact absurd rfl nonempty
  | cons allowed others ih =>
    obtain ⟨star, below⟩ := not_or.mp (mem_cons.not.mp named)
    cases path with
    | nil => simp [pathsMatch]
    | cons key rest =>
      by_cases same : key = allowed
      · subst same
        by_cases last : rest = []
        · subst last
          cases others <;> simp [pathsMatch, Ne.symm star]
        · rw [pathsMatch_cons_self (Ne.symm star) others last]
          by_cases ends : others = []
          · simp [ends, pathsMatch, last]
          · simp [ih below ends]
      · simp [pathsMatch, Ne.symm star, same]

/-- One of the list, or the format if it takes its default. -/
def Permitted (prev new : OCNEControlPlane) (path : List String) : Prop :=
  allowed allowedPaths path = true ∨ (path = formatPath ∧ defaultsFormat prev new = true)

theorem allowed_allowedPathsFor (prev new : OCNEControlPlane) (path : List String) :
    allowed (allowedPathsFor prev new) path = true ↔ Permitted prev new path := by
  unfold Permitted
  unfold allowedPathsFor
  by_cases defaults : defaultsFormat prev new = true
  · have exact : pathsMatch formatPath path = true ↔ path = formatPath :=
      pathsMatch_iff_eq (by decide) (by decide)
    simp [allowed, any_append, defaults, exact]
  · simp [defaults]

theorem formatPath_not_node : formatPath ∉ Encoding.ocneControlPlane.nodes := by
  decide +kernel

/-- Wherever a whole object may be removed, everything below it may change. -/
theorem covered_of_node : ∀ path ∈ Encoding.ocneControlPlane.nodes, allowed allowedPaths path = true →
    allowedPaths.any (coversBelow · path) = true := by
  decide +kernel

theorem mem_nodes_of_object {document : Document}
    (object : isObject (look (some document.json) path) = true) : path ∈ Encoding.ocneControlPlane.nodes := by
  obtain ⟨fields, found⟩ := isObject_iff.mp object
  obtain ⟨below, known, fits⟩ := Shape.admits_look document.shaped found
  exact Shape.mem_nodes known (Shape.isObject_eq fits).symm

/-- An allowed change can be undone, up to the default of the format, exactly if every object it adds is at an allowed
path. -/
theorem update_undone_iff (prev new : Document) : (forbiddenPaths prev new = [] → ∀ path ∈ forbiddenPaths new prev,
        path = formatPath ∧ defaultsFormat prev.object new.object = true) ↔
      (forbiddenPaths prev new = [] → ∀ path, Added (some prev.json) (some new.json) path →
        allowed allowedPaths path = true) := by
  refine forall_congr' fun clean => ⟨fun undone path added => ?_, fun removable path refused => ?_⟩
  · have node := mem_nodes_of_object added.isObject_look
    have other : path ≠ formatPath := fun same => formatPath_not_node (same ▸ node)
    have passed : allowed (allowedPathsFor new.object prev.object) path = true := by
      by_contra refused
      have mem := (mem_forbiddenPaths_iff new prev).mpr ⟨added.leaf_back, by simpa using refused⟩
      exact other (undone path mem).1
    rcases (allowed_allowedPathsFor _ _ path).mp passed with listed | ⟨same, _⟩
    · exact listed
    · exact absurd same other
  · obtain ⟨leaf, refused⟩ := (mem_forbiddenPaths_iff new prev).mp refused
    have changed (rest : List String) (leaf : Leaf (diff (some prev.json) (some new.json)) rest) :
        Permitted prev.object new.object ([] ++ rest) :=
      (allowed_allowedPathsFor _ _ _).mp (clean_of_forbiddenPaths clean leaf)
    have deeper (rest more : List String) (object : isObject (look (some prev.json) rest) = true)
        (passed : Permitted prev.object new.object ([] ++ rest)) (longer : more ≠ []) :
        Permitted prev.object new.object ([] ++ rest ++ more) := by
      have node := mem_nodes_of_object object
      rcases passed with listed | ⟨same, _⟩
      · obtain ⟨entry, mem, covers⟩ := any_eq_true.mp (covered_of_node rest node listed)
        exact .inl (any_eq_true.mpr ⟨entry, mem, pathsMatch_append covers longer⟩)
      · exact absurd (same ▸ node) formatPath_not_node
    have passed := permitted_back changed (fun rest added => .inl (removable rest added))
      (stable_documents prev new) deeper leaf
    rcases passed with listed | format
    · have wider := (allowed_allowedPathsFor new.object prev.object path).mpr (.inl listed)
      cases wider.symm.trans refused
    · exact format

def clockedDocument : Document where
  object := exampleObject { (default : OCNEConfigSpec) with
    clusterConfiguration := some emptyClusterConfiguration, ntp := some ⟨some ["pool.ntp.org"], none⟩ }
  json := exampleJson [exampleConfiguration [],
    ("ntp", .object [("servers", .value (.array "[\"pool.ntp.org\"]"))])]
  shaped := by decide
  format := rfl
  external := rfl

/-- A time server may be added to a control plane, but not taken away again. -/
theorem clocked_update_not_undone : (∀ metadata, validateCreate false metadata plainDocument.object = .ok []) ∧
      (∀ metadata, validateCreate false metadata clockedDocument.object = .ok []) ∧
      forbiddenPaths plainDocument clockedDocument = [] ∧
      forbiddenPaths clockedDocument plainDocument = [configPath ++ ["ntp"]] := by
  refine ⟨?_, ?_, ?_, ?_⟩
  · intro metadata
    cases metadata <;> rfl
  · intro metadata
    cases metadata <;> rfl
  · decide +kernel
  · decide +kernel

end OcneProvider.Webhooks.AllowList
