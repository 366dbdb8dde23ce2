import OcneProvider.Effects.Fallible
import OcneProvider.Webhooks.ConfigSpec

/-! The schemas of the variables of a ClusterClass: their conversion to the schemas of the API extensions, and the
checks that accept them. What the libraries for schemas answer is a parameter. -/

namespace OcneProvider.Topology.Schemas
open Api.Meta Webhooks.ConfigSpec Effects.Fallible List

/-- The keywords that the conversion copies. -/
structure Limits where
  required : Slice String
  maxItems : Option Int
  minItems : Option Int
  uniqueItems : Bool
  format : String
  maxLength : Option Int
  minLength : Option Int
  pattern : String
  maximum : Option Int
  exclusiveMaximum : Bool
  minimum : Option Int
  exclusiveMinimum : Bool
  xPreserveUnknownFields : Bool

/-- A schema by how it keeps JSON values. -/
structure Schema (json : Type) where
  type : String
  limits : Limits
  default : Option json
  enum : List json
  example' : Option json
  properties : List (String × Schema json)
  additionalProperties : Option (Schema json)
  items : Option (Schema json)

/-- Values as bytes; nil stands for null. -/
abbrev JSONSchemaProps := Schema (Option String)

/-- Values as they are parsed, with none for null. -/
abbrev Converted (Value : Type) := Schema (Option Value)

structure ClusterClassVariable (schema : Type) where
  name : String
  required : Bool
  schema : schema

structure Libraries (Value Structural Validator : Type) where
  unmarshal : String → Except Err (Option Value)
  convertJSON : String → Except Err (Option Value)
  newStructural : Converted Value → Except Err Structural
  validateStructural : String → Structural → List FieldError
  validateDefaults : String → Structural → Except Err (List FieldError)
  newSchemaValidator : Converted Value → Except Err Validator
  validateCustomResource : String → Option Value → Validator → List FieldError
  print : Option Value → String
  printErrors : List FieldError → String
  default : Structural → String → Option Value → Option Value
  marshal : Option Value → Except Err String

def key (path name : String) : String := path ++ "[" ++ name ++ "]"

variable {Value Structural Validator α : Type}

def oks (results : List (Except FieldError α)) : List α := results.filterMap Except.toOption

def errors (results : List (Except FieldError α)) : List FieldError :=
  results.filterMap fun
    | .error error => some error
    | .ok _ => none

section Checks

variable (lib : Libraries Value Structural Validator)

def convertValue (path invalidText failedText raw : String) : Except FieldError (Option Value) :=
  match lib.unmarshal raw with
  | .error error => .error (invalid path (.text raw) (invalidText ++ " is not valid JSON: " ++ error.message))
  | .ok _ => (lib.convertJSON raw).mapError fun error =>
      invalid path (.text raw) ("failed to convert " ++ failedText ++ ": " ++ error.message)

/-- Values without bytes are passed over. -/
def convertValues (path : Nat → String) (invalidText failedText : String) (raws : List (Option String)) :
    List (Except FieldError (Option Value)) :=
  raws.zipIdx.filterMap fun (raw, i) => raw.map (convertValue lib (path i) invalidText failedText)

def subschema (path : String) (result : Converted Value × List FieldError) : Except FieldError (Converted Value) :=
  if result.2.isEmpty then .ok result.1
  else .error (invalid path (.text "") ("failed to convert schema: " ++ lib.printErrors result.2))

mutual

def convertToAPIExtensionsJSONSchemaProps (path : String) : JSONSchemaProps → Converted Value × List FieldError
  | ⟨type, limits, default, enum, example', properties, additionalProperties, items⟩ =>
    let default := convertValues lib (fun _ => child path ["default"]) "default" "default" default.toList
    let enum := convertValues lib (index (child path ["enum"])) "enum value" "enum value" enum
    let example' := convertValues lib (fun _ => child path ["example"]) "example" "example value" example'.toList
    let additional := convertOptional (child path ["additionalProperties"]) additionalProperties
    let properties := convertProperties (child path ["properties"]) properties
    let items := convertOptional (child path ["items"]) items
    (⟨type, limits, (oks default).head?, oks enum, (oks example').head?, oks properties, (oks additional).head?,
        (oks items).head?⟩,
      errors default ++ errors enum ++ errors example' ++ errors additional ++ errors properties ++ errors items)

def convertOptional (path : String) : Option JSONSchemaProps → List (Except FieldError (Converted Value))
  | none => []
  | some schema => [subschema lib path (convertToAPIExtensionsJSONSchemaProps path schema)]

def convertProperties (path : String) :
    List (String × JSONSchemaProps) → List (Except FieldError (String × Converted Value))
  | [] => []
  | (name, schema) :: rest =>
    (subschema lib (key path name) (convertToAPIExtensionsJSONSchemaProps (key path name) schema)).map (name, ·) ::
      convertProperties path rest

end

/-- In the order in which the errors list them. -/
def validVariableTypes : List String := ["array", "boolean", "integer", "number", "object", "string"]

def validateValue (path field what : String) (validator : Validator) (value : Option Value) : List FieldError :=
  let found := lib.validateCustomResource path value validator
  reject (!found.isEmpty)
    (invalid field (.text (lib.print value)) ("invalid value in " ++ what ++ ": " ++ lib.printErrors found))

mutual

def validateSchema (path : String) : Converted Value → List FieldError
  | ⟨type, limits, default, enum, example', properties, additionalProperties, items⟩ =>
    if type = "" then [required (child path ["type"]) "type cannot be empty"]
    else if type ∉ validVariableTypes then [notSupported (child path ["type"]) type validVariableTypes]
    else
      match lib.newSchemaValidator
        ⟨type, limits, default, enum, example', properties, additionalProperties, items⟩ with
      | .error error => [invalid path (.text "") ("failed to build validator: " ++ error.message)]
      | .ok validator =>
        example'.toList.flatMap (validateValue lib path (child path ["example"]) "example" validator) ++
          enum.zipIdx.flatMap (fun (value, i) => if value.isNone then [] else
            validateValue lib path (index (child path ["enum"]) i) "enum" validator value) ++
          reject (additionalProperties.isSome && !properties.isEmpty) (forbidden (child path ["additionalProperties"])
            "additionalProperties and properties are mutual exclusive") ++
          validateOptional (child path ["additionalProperties"]) additionalProperties ++
          validateProperties (child path ["properties"]) properties ++ validateOptional (child path ["items"]) items

def validateOptional (path : String) : Option (Converted Value) → List FieldError
  | none => []
  | some schema => validateSchema path schema

def validateProperties (path : String) : List (String × Converted Value) → List FieldError
  | [] => []
  | (name, schema) :: rest => validateSchema (key path name) schema ++ validateProperties path rest

end

def noLimits : Limits := ⟨none, none, none, false, "", none, none, "", none, false, none, false, false⟩

/-- A schema of an object with one property. -/
def wrapped (name : String) (schema : Converted Value) : Converted Value :=
  ⟨"object", noLimits, none, [], none, [(name, schema)], none, none⟩

def validateRootSchema (definition : ClusterClassVariable JSONSchemaProps) (path : String) : List FieldError :=
  match convertToAPIExtensionsJSONSchemaProps lib "schema" definition.schema with
  | (_, error :: rest) => [internalError path (errorf ("failed to convert schema definition for variable " ++
      quoted definition.name ++ "; ClusterClass should be checked: " ++ lib.printErrors (error :: rest)))]
  | (schema, []) =>
    match lib.newStructural (wrapped "variableSchema" schema) with
    | .error error => [invalid (child path ["schema"]) (.text "") error.message]
    | .ok structural =>
      match lib.validateStructural (child path ["schema"]) structural with
      | error :: rest => error :: rest
      | [] =>
        match lib.validateDefaults (child path ["schema"]) structural with
        | .error error => [invalid (child path ["schema"]) (.text "") error.message]
        | .ok (error :: rest) => error :: rest
        | .ok [] =>
          match lib.newSchemaValidator schema with
          | .error error => [invalid path (.text "") ("failed to build validator: " ++ error.message)]
          | .ok _ => validateSchema lib path schema

end Checks

/-- A node of the tree of a schema, with the path it is validated at. -/
inductive Node (root : JSONSchemaProps) (path : String) : JSONSchemaProps → String → Prop where
  | root : Node root path root path
  | property {parent schema : JSONSchemaProps} {here name : String} (above : Node root path parent here)
    (listed : (name, schema) ∈ parent.properties) : Node root path schema (key (child here ["properties"]) name)
  | additional {parent schema : JSONSchemaProps} {here : String} (above : Node root path parent here)
    (given : parent.additionalProperties = some schema) : Node root path schema (child here ["additionalProperties"])
  | items {parent schema : JSONSchemaProps} {here : String} (above : Node root path parent here)
    (given : parent.items = some schema) : Node root path schema (child here ["items"])

def Valid (lib : Libraries Value Structural Validator) (path : String) (converted : Converted Value) (raw : String) :
    Prop :=
  ∃ value validator, lib.convertJSON raw = .ok value ∧ lib.newSchemaValidator converted = .ok validator ∧
    lib.validateCustomResource path value validator = []

structure Sound (lib : Libraries Value Structural Validator) (path : String) (schema : JSONSchemaProps) : Prop where
  type : schema.type ∈ validVariableTypes
  exclusive : schema.additionalProperties = none ∨ schema.properties = []
  parsed : ∀ raw, some raw ∈ schema.default.toList ++ schema.enum ++ schema.example'.toList →
    ∃ value, lib.unmarshal raw = .ok value
  valid : ∃ start converted, convertToAPIExtensionsJSONSchemaProps lib start schema = (converted, []) ∧
    (∀ raw, schema.example' = some (some raw) → Valid lib path converted raw) ∧
    ∀ raw, some raw ∈ schema.enum → lib.convertJSON raw = .ok none ∨ Valid lib path converted raw

/-- The schema converts without an error to one in which validation finds no error. -/
def Accepted (lib : Libraries Value Structural Validator) (path : String) (schema : JSONSchemaProps) : Prop :=
  ∃ start converted, convertToAPIExtensionsJSONSchemaProps lib start schema = (converted, []) ∧
    validateSchema lib path converted = []

section Depth

variable {lib : Libraries Value Structural Validator} {path start name : String} {schema : JSONSchemaProps}
  {converted : Converted Value}

theorem exists_ok {results : List (Except FieldError α)} {result : Except FieldError α} (mem : result ∈ results)
    (none : errors results = []) : ∃ value ∈ oks results, result = .ok value := by
  cases result with
  | error error => simpa using filterMap_eq_nil_iff.mp none _ mem
  | ok value => exact ⟨value, mem_filterMap.mpr ⟨_, mem, rfl⟩, rfl⟩

theorem exists_mem_zipIdx {list : List α} {value : α} (mem : value ∈ list) : ∃ i, (value, i) ∈ list.zipIdx := by
  obtain ⟨i, bound, rfl⟩ := getElem_of_mem mem
  exact ⟨i, mem_zipIdx_iff_getElem?.mpr (getElem?_eq_getElem bound)⟩

theorem convertValue_eq_ok {invalidText failedText raw : String} {value : Option Value}
    (ok : convertValue lib path invalidText failedText raw = .ok value) :
    (∃ parsed, lib.unmarshal raw = .ok parsed) ∧ lib.convertJSON raw = .ok value := by
  unfold convertValue at ok
  split at ok
  · cases ok
  · exact ⟨⟨_, ‹_›⟩, mapError_eq_ok.mp ok⟩

theorem exists_converted {paths : Nat → String} {invalidText failedText raw : String} {raws : List (Option String)}
    (mem : some raw ∈ raws) (none : errors (convertValues lib paths invalidText failedText raws) = []) :
    ∃ value ∈ oks (convertValues lib paths invalidText failedText raws),
      (∃ parsed, lib.unmarshal raw = .ok parsed) ∧ lib.convertJSON raw = .ok value := by
  obtain ⟨i, mem⟩ := exists_mem_zipIdx mem
  obtain ⟨value, isOk, ok⟩ := exists_ok (mem_filterMap.mpr ⟨_, mem, rfl⟩) none
  exact ⟨value, isOk, convertValue_eq_ok ok⟩

theorem subschema_eq_ok {result : Converted Value × List FieldError} (ok : subschema lib path result = .ok converted) :
    result = (converted, []) := by
  unfold subschema at ok
  split at ok
  · cases ok
    rw [← isEmpty_iff.mp ‹_›]
  · cases ok

theorem convertProperties_eq (properties : List (String × JSONSchemaProps)) :
    convertProperties lib path properties = properties.map fun (name, schema) =>
      (subschema lib (key path name) (convertToAPIExtensionsJSONSchemaProps lib (key path name) schema)).map (name, ·) := by
  induction properties with
  | nil => rfl
  | cons first rest ih => rw [convertProperties, ih, map_cons]

theorem validateProperties_eq (properties : List (String × Converted Value)) : validateProperties lib path properties =
    properties.flatMap fun (name, schema) => validateSchema lib (key path name) schema := by
  induction properties with
  | nil => rfl
  | cons first rest ih => rw [validateProperties, ih, flatMap_cons]

theorem exists_property {properties : List (String × JSONSchemaProps)} (mem : (name, schema) ∈ properties)
    (none : errors (convertProperties lib path properties) = []) :
    ∃ converted, convertToAPIExtensionsJSONSchemaProps lib (key path name) schema = (converted, []) ∧
      (name, converted) ∈ oks (convertProperties lib path properties) := by
  rw [convertProperties_eq] at none ⊢
  obtain ⟨⟨other, converted⟩, isOk, ok⟩ := exists_ok (mem_map_of_mem mem) none
  cases given : subschema lib (key path name) (convertToAPIExtensionsJSONSchemaProps lib (key path name) schema) with
  | error error => simp [given, Except.map] at ok
  | ok made =>
    obtain ⟨rfl, rfl⟩ : name = other ∧ made = converted := by simpa [given, Except.map] using ok
    exact ⟨made, subschema_eq_ok given, isOk⟩

theorem exists_optional (none : errors (convertOptional lib path (some schema)) = []) :
    ∃ converted, convertToAPIExtensionsJSONSchemaProps lib path schema = (converted, []) ∧
      (oks (convertOptional lib path (some schema))).head? = some converted := by
  rw [convertOptional] at none ⊢
  obtain ⟨converted, _, ok⟩ := exists_ok mem_cons_self none
  exact ⟨converted, subschema_eq_ok ok, by simp [oks, ok, Except.toOption]⟩

theorem Accepted.optional {part : Option JSONSchemaProps} (none : errors (convertOptional lib start part) = [])
    (fine : validateOptional lib path (oks (convertOptional lib start part)).head? = []) (given : part = some schema) :
    Accepted lib path schema := by
  subst given
  obtain ⟨converted, converts, head⟩ := exists_optional none
  rw [head] at fine
  exact ⟨_, converted, converts, fine⟩

theorem Accepted.spec (accepted : Accepted lib path schema) : Sound lib path schema ∧
    (∀ name below, (name, below) ∈ schema.properties → Accepted lib (key (child path ["properties"]) name) below) ∧
    (∀ below, schema.additionalProperties = some below → Accepted lib (child path ["additionalProperties"]) below) ∧
    ∀ below, schema.items = some below → Accepted lib (child path ["items"]) below := by
  obtain ⟨start, converted, converts, fine⟩ := accepted
  obtain ⟨type, limits, default, enum, example', properties, additional, items⟩ := schema
  have whole := converts
  simp only [convertToAPIExtensionsJSONSchemaProps, Prod.mk.injEq, append_eq_nil_iff] at converts
  obtain ⟨rfl, ⟨⟨⟨⟨defaultOk, enumOk⟩, exampleOk⟩, additionalOk⟩, propertiesOk⟩, itemsOk⟩ := converts
  rw [validateSchema] at fine
  split at fine
  · cases fine
  split at fine
  · cases fine
  rename_i known
  split at fine
  · cases fine
  rename_i validator built
  simp only [append_eq_nil_iff, reject_eq_nil, validateProperties_eq, flatMap_eq_nil_iff] at fine
  obtain ⟨⟨⟨⟨⟨exampleFine, enumFine⟩, exclusive⟩, additionalFine⟩, propertiesFine⟩, itemsFine⟩ := fine
  have valid {value raw field what} (converts : lib.convertJSON raw = .ok value)
      (fine : validateValue lib path field what validator value = []) := show Valid lib path _ raw from
    ⟨value, validator, converts, built, by simpa [validateValue] using fine⟩
  refine ⟨⟨by simpa using known, ?_, fun raw mem => ?_, start, _, whole, ?_, fun raw mem => ?_⟩,
    fun name below mem => ?_, fun below => .optional additionalOk additionalFine,
    fun below => .optional itemsOk itemsFine⟩
  · cases additional with
    | none => exact .inl rfl
    | some below =>
      obtain ⟨_, _, head⟩ := exists_optional additionalOk
      refine .inr (eq_nil_iff_forall_not_mem.mpr fun property mem => ?_)
      obtain ⟨_, _, isOk⟩ := exists_property mem propertiesOk
      simp [head, ne_nil_of_mem isOk] at exclusive
  · rcases mem_append.mp mem with mem | mem
    · rcases mem_append.mp mem with mem | mem
      · exact (exists_converted mem defaultOk).choose_spec.2.1
      · exact (exists_converted mem enumOk).choose_spec.2.1
    · exact (exists_converted mem exampleOk).choose_spec.2.1
  · rintro raw rfl
    obtain ⟨value, _, ok⟩ := exists_ok mem_cons_self exampleOk
    exact valid (convertValue_eq_ok ok).2 (exampleFine value (by simp [oks, convertValues, ok, Except.toOption]))
  · obtain ⟨value, isOk, _, converts⟩ := exists_converted mem enumOk
    cases value with
    | none => exact .inl converts
    | some value =>
      obtain ⟨i, mem⟩ := exists_mem_zipIdx isOk
      exact .inr (valid converts (enumFine _ mem))
  · obtain ⟨converted, converts, isOk⟩ := exists_property mem propertiesOk
    exact ⟨_, converted, converts, propertiesFine _ isOk⟩

/-- In a schema that is accepted, every node is sound. -/
theorem accepted_schema_sound {definition : ClusterClassVariable JSONSchemaProps} {here : String}
    (fine : validateRootSchema lib definition path = []) (node : Node definition.schema path schema here) :
    Sound lib here schema := by
  suffices Accepted lib here schema from this.spec.1
  induction node with
  | root =>
    unfold validateRootSchema at fine
    repeat' split at fine
    all_goals first | cases fine | exact ⟨_, _, ‹_›, fine⟩
  | property above listed ih => exact ih.spec.2.1 _ _ listed
  | additional above given ih => exact ih.spec.2.2.1 _ given
  | items above given ih => exact ih.spec.2.2.2 _ given

end Depth

private def lenient : Libraries Unit Unit Unit :=
  ⟨fun _ => .ok none, fun _ => .ok (some ()), fun _ => .ok (), fun _ _ => [], fun _ _ => .ok [], fun _ => .ok (),
    fun _ _ _ => [], fun _ => "", fun _ => "", fun _ _ value => value, fun _ => .ok "null"⟩

private def textSchema : JSONSchemaProps :=
  ⟨"string", noLimits, none, [some "\"a\""], some (some "\"a\""), [], none, none⟩

private def named : ClusterClassVariable JSONSchemaProps :=
  ⟨"v", true, ⟨"object", noLimits, none, [], none, [("name", textSchema)], none, none⟩⟩

theorem property_schema_sound : Sound lenient (key (child "s" ["properties"]) "name") textSchema := by
  have accepted : validateRootSchema lenient named "s" = [] := rfl
  exact accepted_schema_sound accepted (.property .root mem_cons_self)

end OcneProvider.Topology.Schemas
