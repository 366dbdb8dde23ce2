import OcneProvider.Data.Keyed
import OcneProvider.Topology.Schemas

/-! The variables of a Cluster and the variables that its class defines: how missing values are filled in. -/

namespace OcneProvider.Topology.Variables
open Api.Meta Webhooks.ConfigSpec Schemas Effects.Fallible List

/-- A value without bytes is null. -/
structure ClusterVariable where
  name : String
  value : Option String
  deriving DecidableEq

/-- A map from names; the last item of a name stays. -/
def lookup {α : Type} (nameOf : α → String) (items : List α) (name : String) : Option α :=
  items.reverse.find? (nameOf · == name)

section Lookup

variable {α : Type} {nameOf : α → String} {items : List α} {name : String} {item : α}

theorem lookup_eq_none : lookup nameOf items name = none ↔ name ∉ items.map nameOf := by
  simp [lookup]

theorem lookup_eq_some (distinct : (items.map nameOf).Nodup) :
    lookup nameOf items name = some item ↔ item ∈ items ∧ nameOf item = name := by
  rw [lookup, Data.Keyed.find?_eq_some_of_nodup (by rwa [map_reverse, nodup_reverse]) fun _ => beq_iff_eq, mem_reverse]

variable {names : List String} {f : String → Option α}

theorem map_filterMap (named : ∀ name ∈ names, ∀ made ∈ f name, nameOf made = name) :
    (names.filterMap f).map nameOf = names.filter fun name => (f name).isSome := by
  rw [List.map_filterMap, ← List.filterMap_eq_filter]
  refine List.filterMap_congr fun name mem => ?_
  cases given : f name with
  | none => simp [Option.guard, given]
  | some made => simp [Option.guard, given, named name mem made given]

theorem lookup_filterMap (named : ∀ name ∈ names, ∀ made ∈ f name, nameOf made = name) (distinct : names.Nodup)
    (mem : name ∈ names) : lookup nameOf (names.filterMap f) name = f name := by
  cases given : f name with
  | none => rw [lookup_eq_none, map_filterMap named, mem_filter, given]; simp
  | some made =>
    rw [lookup_eq_some (map_filterMap named ▸ distinct.filter _)]
    exact ⟨mem_filterMap.mpr ⟨name, mem, given⟩, named name mem made given⟩

end Lookup

variable {Value Structural Validator schema : Type}

def validateClusterVariablesDefined (vars : List ClusterVariable) (definitions : List (ClusterClassVariable schema))
    (path : String) : List FieldError :=
  (vars.zipIdx.find? fun entry => (lookup (·.name) definitions entry.1.name).isNone).toList.map fun (given, i) =>
    invalid (child (index path i) ["name"]) (.text given.name)
      ("variable with name " ++ quoted given.name ++ " is not defined in the ClusterClass")

/-- Every variable that is given is one of the class. -/
def Defined (vars : List ClusterVariable) (definitions : List (ClusterClassVariable schema)) : Prop :=
  ∀ given ∈ vars, given.name ∈ definitions.map (·.name)

theorem validateClusterVariablesDefined_eq_nil {vars : List ClusterVariable}
    {definitions : List (ClusterClassVariable schema)} {path : String} :
    validateClusterVariablesDefined vars definitions path = [] ↔ Defined vars definitions := by
  rw [validateClusterVariablesDefined, map_eq_nil_iff, Option.toList_eq_nil_iff, find?_eq_none]
  constructor
  · intro defined given mem
    obtain ⟨i, listed⟩ := exists_mem_zipIdx mem
    exact not_not.mp fun missing => defined _ listed (by rw [lookup_eq_none.mpr missing]; rfl)
  · rintro defined ⟨given, i⟩ listed missing
    exact lookup_eq_none.mp (Option.isNone_iff_eq_none.mp missing) (defined given (fst_mem_of_mem_zipIdx listed))

section Defaulting

variable (lib : Libraries Value Structural Validator) (vars : List ClusterVariable)
  (definitions : List (ClusterClassVariable JSONSchemaProps)) (createVariables : Bool)

/-- An empty value is not parsed. -/
def parse (raw : String) : Except Err (Option Value) := if raw = "" then .ok none else lib.unmarshal raw

def ClusterVariable.raw (given : Option ClusterVariable) : String := (given.bind ClusterVariable.value).getD ""

/-- Every error is one of the path that the caller gives, so only its text is returned. -/
def defaultClusterVariable (given : Option ClusterVariable) (definition : ClusterClassVariable JSONSchemaProps) :
    Except Err (Except String (Option ClusterVariable)) :=
  if given.isNone && (!createVariables || definition.schema.default.isNone) then .ok (.ok none)
  else match convertToAPIExtensionsJSONSchemaProps lib "schema" definition.schema with
    | (_, error :: rest) => .ok (.error ("invalid schema in ClusterClass for variable " ++ quoted definition.name ++
        ": error to convert schema " ++ lib.printErrors (error :: rest)))
    | (schema, []) =>
      match parse lib (ClusterVariable.raw given) with
      | .error error => .ok (.error ("failed to unmarshal variable value " ++ quoted (ClusterVariable.raw given) ++
          ": " ++ error.message))
      | .ok value =>
        match lib.newStructural (wrapped definition.name schema), given with
        | .error _, none => .error nilPointerDereference
        | .error error, some var =>
          .ok (.error ("failed defaulting variable " ++ quoted var.name ++ ": " ++ error.message))
        | .ok structural, _ =>
          match lib.marshal (lib.default structural definition.name value) with
          | .error error => .ok (.error ("failed to marshal default value of variable " ++ quoted definition.name ++
              ": " ++ error.message))
          | .ok text => .ok (.ok (some ⟨definition.name, some text⟩))

def defaultNamed (name : String) : Except Err (Except String (Option ClusterVariable)) :=
  match lookup (·.name) definitions name with
  | none => .error nilPointerDereference
  | some definition => defaultClusterVariable lib createVariables (lookup (·.name) vars name) definition

/-- Given variables, and after them those of the class that are missing. -/
def allVariables : List String :=
  vars.map (·.name) ++ (definitions.map (·.name)).filter (· ∉ vars.map (·.name))

def failures {α : Type} (path : String) (all : List (Except String α)) : List FieldError :=
  errors (all.zipIdx.map fun entry => entry.1.mapError (invalid (index path entry.2) (.text "")))

def defaultClusterVariables (path : String) : Except Err (Except (List FieldError) (List ClusterVariable)) :=
  match validateClusterVariablesDefined vars definitions path with
  | error :: rest => .ok (.error (error :: rest))
  | [] => do
    let all ← (allVariables vars definitions).mapM (defaultNamed lib vars definitions createVariables)
    return if (failures path all).isEmpty then .ok (all.filterMap fun defaulted => defaulted.toOption.join)
      else .error (failures path all)

/-- The text that a value gets. -/
def Made (given : Option ClusterVariable) (definition : ClusterClassVariable JSONSchemaProps) (text : String) : Prop :=
  ∃ schema value structural, convertToAPIExtensionsJSONSchemaProps lib "schema" definition.schema = (schema, []) ∧
    parse lib (ClusterVariable.raw given) = .ok value ∧
    lib.newStructural (wrapped definition.name schema) = .ok structural ∧
    lib.marshal (lib.default structural definition.name value) = .ok text

/-- Defaulting is idempotent and the encoding canonical. -/
structure Canonical : Prop where
  idempotent : ∀ structural name value,
    lib.default structural name (lib.default structural name value) = lib.default structural name value
  encoding : ∀ value text, lib.marshal value = .ok text → text ≠ "" ∧ lib.unmarshal text = .ok value

/-- The variables of the class that are not given and have a default. -/
def created : List String :=
  (definitions.filter fun definition =>
    definition.name ∉ vars.map (·.name) && definition.schema.default.isSome).map (·.name)

/-- A function has what each variable of the class gets. -/
def Fills (f : String → Option ClusterVariable) : Prop :=
  ∀ definition ∈ definitions, defaultClusterVariable lib createVariables (lookup (·.name) vars definition.name)
    definition = .ok (.ok (f definition.name))

end Defaulting

section Settling

variable {lib : Libraries Value Structural Validator} {vars result : List ClusterVariable}
  {definitions : List (ClusterClassVariable JSONSchemaProps)} {createVariables : Bool} {path name text : String}
  {given out : Option ClusterVariable} {definition : ClusterClassVariable JSONSchemaProps}
  {f : String → Option ClusterVariable}

theorem defaultClusterVariable_eq_ok : defaultClusterVariable lib createVariables given definition = .ok (.ok out) ↔
    if given.isNone && (!createVariables || definition.schema.default.isNone) then none = out
    else ∃ text, Made lib given definition text ∧ some ⟨definition.name, some text⟩ = out := by
  unfold defaultClusterVariable Made
  split
  · simp
  · split
    next converts => simp [converts]
    next converts =>
      simp only [converts, Prod.mk.injEq, and_true]
      split
      next parsed => simp [parsed]
      next value parsed =>
        simp only [parsed, Except.ok.injEq]
        split
        next => simp [*]
        next => simp [*]
        next => split <;> simp [*]

theorem defaultClusterVariable_again (canonical : Canonical lib)
    (gives : defaultClusterVariable lib createVariables given definition = .ok (.ok out)) :
    defaultClusterVariable lib createVariables out definition = .ok (.ok out) := by
  rw [defaultClusterVariable_eq_ok] at gives ⊢
  split at gives
  next missing =>
    cases gives
    rw [if_pos]
    simpa using (Bool.and_eq_true_iff.mp missing).2
  next =>
    obtain ⟨text, ⟨schema, value, structural, converts, -, built, marshalled⟩, rfl⟩ := gives
    obtain ⟨nonempty, restored⟩ := canonical.encoding _ _ marshalled
    rw [if_neg (by simp)]
    refine ⟨text, ⟨schema, lib.default structural definition.name value, structural, converts, ?_, built, ?_⟩, rfl⟩
    · exact (if_neg nonempty).trans restored
    · rw [canonical.idempotent, marshalled]

theorem mem_allVariables (defined : Defined vars definitions) :
    name ∈ allVariables vars definitions ↔ name ∈ definitions.map (·.name) := by
  rw [allVariables, mem_append, mem_filter, decide_eq_true_iff]
  constructor
  · rintro (mem | mem)
    · obtain ⟨given, isGiven, rfl⟩ := mem_map.mp mem
      exact defined given isGiven
    · exact mem.1
  · exact fun mem => or_iff_not_imp_left.mpr fun missing => ⟨mem, missing⟩

theorem fills_iff (apart : (definitions.map (·.name)).Nodup) (defined : Defined vars definitions) :
    Fills lib vars definitions createVariables f ↔ ∀ name ∈ allVariables vars definitions,
      defaultNamed lib vars definitions createVariables name = .ok (.ok (f name)) := by
  simp only [mem_allVariables defined, forall_mem_map]
  refine forall₂_congr fun definition mem => ?_
  rw [defaultNamed, (lookup_eq_some apart).mpr ⟨mem, rfl⟩]

theorem mapM_defaultNamed (gives : ∀ name ∈ allVariables vars definitions,
    defaultNamed lib vars definitions createVariables name = .ok (.ok (f name))) :
    (allVariables vars definitions).mapM (defaultNamed lib vars definitions createVariables) =
      .ok ((allVariables vars definitions).map fun name => .ok (f name)) := by
  rw [mapM_eq_ok, map_map]
  exact map_congr_left gives

theorem failures_eq_nil {α : Type} {all : List (Except String α)} :
    failures path all = [] ↔ ∀ defaulted ∈ all, ∃ out, defaulted = .ok out := by
  constructor
  · intro none defaulted mem
    obtain ⟨i, listed⟩ := exists_mem_zipIdx mem
    obtain ⟨out, -, ok⟩ := exists_ok (mem_map_of_mem listed) none
    exact ⟨out, mapError_eq_ok.mp ok⟩
  · intro all
    refine filterMap_eq_nil_iff.mpr (forall_mem_map.mpr fun entry listed => ?_)
    obtain ⟨out, ok⟩ := all entry.1 (fst_mem_of_mem_zipIdx listed)
    rw [ok]
    rfl

theorem defaultClusterVariables_eq_ok (apart : (definitions.map (·.name)).Nodup) :
    defaultClusterVariables lib vars definitions createVariables path = .ok (.ok result) ↔ Defined vars definitions ∧
      ∃ f, Fills lib vars definitions createVariables f ∧ (allVariables vars definitions).filterMap f = result := by
  unfold defaultClusterVariables
  constructor
  · intro succeeds
    split at succeeds
    · cases succeeds
    next none =>
      have defined := validateClusterVariablesDefined_eq_nil.mp none
      obtain ⟨all, ran, succeeds⟩ := bind_eq_ok.mp succeeds
      split at succeeds
      next noErrs =>
        have each : ∀ name ∈ allVariables vars definitions, ∃ out,
            defaultNamed lib vars definitions createVariables name = .ok (.ok out) := by
          intro name mem
          obtain ⟨defaulted, isOne, same⟩ := mem_map.mp (mapM_eq_ok.mp ran ▸ mem_map_of_mem mem)
          obtain ⟨out, rfl⟩ := failures_eq_nil.mp (isEmpty_iff.mp noErrs) defaulted isOne
          exact ⟨out, same.symm⟩
        choose! f gives using each
        cases Except.ok.inj (ran.symm.trans (mapM_defaultNamed gives))
        cases succeeds
        exact ⟨defined, f, (fills_iff apart defined).mpr gives, by simp [filterMap_map, Except.toOption]⟩
      · cases succeeds
  · rintro ⟨defined, f, fills, rfl⟩
    rw [validateClusterVariablesDefined_eq_nil.mpr defined]
    have none : failures path ((allVariables vars definitions).map fun name => .ok (f name)) = [] :=
      failures_eq_nil.mpr (by simp)
    simp [mapM_defaultNamed ((fills_iff apart defined).mp fills), bind, Except.bind, pure, Except.pure, none,
      filterMap_map, Except.toOption]

theorem Fills.isSome_iff (fills : Fills lib vars definitions true f) (mem : definition ∈ definitions) :
    (f definition.name).isSome ↔ definition.name ∈ vars.map (·.name) ∨ definition.schema.default.isSome := by
  have gives := defaultClusterVariable_eq_ok.mp (fills definition mem)
  have missing : ((lookup (·.name) vars definition.name).isNone && (!true || definition.schema.default.isNone)) = true ↔
      ¬ (definition.name ∈ vars.map (·.name) ∨ definition.schema.default.isSome) := by
    simp [lookup_eq_none]
  split at gives
  next isMissing => exact ⟨fun isSome => by simp [← gives] at isSome, fun kept => absurd kept (missing.mp isMissing)⟩
  next given =>
    obtain ⟨text, -, same⟩ := gives
    exact ⟨fun _ => not_not.mp (mt missing.mpr given), fun _ => same ▸ rfl⟩

theorem Fills.origin (fills : Fills lib vars definitions true f) (mem : definition ∈ definitions) :
    ∀ made ∈ f definition.name, made.name = definition.name ∧ ∃ text, made.value = some text ∧
      Made lib (lookup (·.name) vars definition.name) definition text := by
  intro made isMade
  have gives := defaultClusterVariable_eq_ok.mp (fills definition mem)
  split at gives
  next => cases gives.trans isMade
  next =>
    obtain ⟨text, origin, same⟩ := gives
    cases same.trans isMade
    exact ⟨rfl, text, rfl, origin⟩

/-- Given variables are kept in order, the missing ones with a default follow, and nothing changes any more. -/
theorem variables_settle (canonical : Canonical lib) (distinct : (vars.map (·.name)).Nodup)
    (apart : (definitions.map (·.name)).Nodup)
    (succeeds : defaultClusterVariables lib vars definitions true path = .ok (.ok result)) :
    result.map (·.name) = vars.map (·.name) ++ created vars definitions ∧
      (∀ given ∈ vars, ∀ made ∈ result, made.name = given.name → ∃ definition ∈ definitions,
        definition.name = given.name ∧ ∃ text, made.value = some text ∧ Made lib (some given) definition text) ∧
      defaultClusterVariables lib result definitions true path = .ok (.ok result) := by
  obtain ⟨defined, f, fills, rfl⟩ := (defaultClusterVariables_eq_ok apart).mp succeeds
  have known : ∀ name ∈ allVariables vars definitions, ∃ definition ∈ definitions, definition.name = name :=
    fun name mem => mem_map.mp ((mem_allVariables defined).mp mem)
  have named : ∀ name ∈ allVariables vars definitions, ∀ made ∈ f name, made.name = name := by
    intro name mem made isMade
    obtain ⟨definition, isDefinition, rfl⟩ := known name mem
    exact (fills.origin isDefinition made isMade).1
  have unique : (allVariables vars definitions).Nodup := by
    refine distinct.append (apart.filter _) fun name isGiven isMissing => ?_
    simpa [isGiven] using (mem_filter.mp isMissing).2
  refine ⟨?_, ?_, (defaultClusterVariables_eq_ok apart).mpr ⟨?_, f, ?_, ?_⟩⟩
  · rw [map_filterMap named, allVariables, filter_append, created]
    congr 1
    · refine filter_eq_self.mpr fun name mem => ?_
      obtain ⟨definition, isDefinition, rfl⟩ := known name (mem_append_left _ mem)
      exact (fills.isSome_iff isDefinition).mpr (.inl mem)
    · rw [filter_filter, filter_map]
      refine congrArg _ (filter_congr fun definition mem => ?_)
      by_cases given : definition.name ∈ vars.map (·.name)
      · simp [given, -mem_map]
      · rw [Bool.eq_iff_iff]
        simp [given, fills.isSome_iff mem, -mem_map]
  · intro given isGiven made mem same
    obtain ⟨name, listed, isMade⟩ := mem_filterMap.mp mem
    obtain ⟨definition, isDefinition, rfl⟩ := known name listed
    obtain ⟨isName, text, value, origin⟩ := fills.origin isDefinition made isMade
    rw [(lookup_eq_some distinct).mpr ⟨isGiven, same.symm.trans isName⟩] at origin
    exact ⟨definition, isDefinition, isName.symm.trans same, text, value, origin⟩
  · intro made mem
    obtain ⟨name, listed, isMade⟩ := mem_filterMap.mp mem
    rw [named name listed made isMade]
    exact (mem_allVariables defined).mp listed
  · intro definition mem
    rw [lookup_filterMap named unique ((mem_allVariables defined).mpr (mem_map_of_mem mem))]
    exact defaultClusterVariable_again canonical (fills definition mem)
  · have none (name : String) (isMissing : name ∈ (definitions.map (·.name)).filter
        (· ∉ (allVariables vars definitions).filter fun name => (f name).isSome)) : f name = none := by
      obtain ⟨mem, isNone⟩ := mem_filter.mp isMissing
      simpa [(mem_allVariables defined).mpr mem] using isNone
    rw [allVariables, filterMap_append, map_filterMap named, filterMap_eq_nil_iff.mpr none, append_nil,
      filterMap_filter]
    refine filterMap_congr fun name _ => ?_
    cases f name <;> rfl

end Settling

private def isInteger (text : String) : Bool := text ≠ "" && text.toList.all Char.isDigit

private def readInteger (text : String) : Except Err (Option String) :=
  if text = "null" then .ok none else if isInteger text then .ok (some text) else .error (errorf "invalid character")

/-- Integers by their digits; null gets the default of its schema, if it has one. -/
private def filling : Libraries String (List (String × Option String)) Unit where
  unmarshal := readInteger
  convertJSON := readInteger
  newStructural schema := .ok (schema.properties.map fun (name, property) => (name, property.default.join))
  validateStructural _ _ := []
  validateDefaults _ _ := .ok []
  newSchemaValidator _ := .ok ()
  validateCustomResource _ _ _ := []
  print value := value.getD "null"
  printErrors _ := ""
  default defaults name value := value.or (defaults.lookup name).join
  marshal
    | none => .ok "null"
    | some text => if isInteger text then .ok text else .error (errorf "invalid number")

private theorem filling_canonical : Canonical filling where
  idempotent defaults name value := by cases value <;> simp [filling]
  encoding value text marshalled := by
    cases value with
    | none =>
      cases marshalled
      exact ⟨by decide, rfl⟩
    | some digits =>
      dsimp only [filling] at marshalled ⊢
      split at marshalled
      next integer =>
        cases marshalled
        refine ⟨fun empty => ?_, ?_⟩
        · simp [empty, isInteger] at integer
        · have other : text ≠ "null" := by
            rintro rfl
            simp [isInteger] at integer
          simp [readInteger, other, integer]
      next => cases marshalled

private def zones : List (ClusterClassVariable JSONSchemaProps) :=
  [⟨"zone", false, ⟨"integer", noLimits, some (some "0"), [], none, [], none, none⟩⟩,
    ⟨"size", true, ⟨"integer", noLimits, none, [], none, [], none, none⟩⟩]

/-- The zone is added with its default, and the size, which has none, stays null. -/
theorem missing_variable_added :
    defaultClusterVariables filling [⟨"size", some "null"⟩] zones true "variables" =
      .ok (.ok [⟨"size", some "null"⟩, ⟨"zone", some "0"⟩]) ∧
    defaultClusterVariables filling [⟨"size", some "null"⟩, ⟨"zone", some "0"⟩] zones true "variables" =
      .ok (.ok [⟨"size", some "null"⟩, ⟨"zone", some "0"⟩]) := by
  have succeeds : defaultClusterVariables filling [⟨"size", some "null"⟩] zones true "variables" =
      .ok (.ok [⟨"size", some "null"⟩, ⟨"zone", some "0"⟩]) := rfl
  exact ⟨succeeds, (variables_settle filling_canonical (by decide) (by decide) succeeds).2.2⟩

end OcneProvider.Topology.Variables
