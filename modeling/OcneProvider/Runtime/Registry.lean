import OcneProvider.Api.Formats
import OcneProvider.Data.Ranging
import OcneProvider.Effects.Stateful

/-! The registry of runtime extensions: a map from the names of handlers, of which each knows the configuration it
belongs to. -/

namespace OcneProvider.Runtime.Registry
open Api.Meta Api.Formats Data.Ranging Effects.Stateful

structure ServiceReference where
  ns : String
  name : String
  path : Option String
  port : Option Int32
  deriving DecidableEq

structure ClientConfig where
  url : Option String
  service : Option ServiceReference
  caBundle : List UInt8
  deriving DecidableEq

inductive FailurePolicy where
  | ignore
  | fail
  | other (text : String)
  deriving DecidableEq

structure RequestHook where
  apiVersion : String
  hook : String
  deriving DecidableEq

structure ExtensionHandler where
  name : String
  requestHook : RequestHook
  timeoutSeconds : Option Int32
  failurePolicy : Option FailurePolicy
  deriving DecidableEq

structure LabelSelectorRequirement where
  key : String
  operator : String
  values : List String
  deriving DecidableEq

structure LabelSelector where
  matchLabels : StringMap
  matchExpressions : List LabelSelectorRequirement
  deriving DecidableEq

structure ExtensionConfig where
  name : String
  clientConfig : ClientConfig
  namespaceSelector : Option LabelSelector
  handlers : List ExtensionHandler
  deriving DecidableEq

def ExtensionConfig.handlerNames (config : ExtensionConfig) : List String :=
  config.handlers.map ExtensionHandler.name

section Operations

structure GroupHook where
  group : String
  hook : String
  deriving DecidableEq

structure GroupVersionHook where
  group : String
  version : String
  hook : String
  deriving DecidableEq

def GroupVersionHook.groupHook (gvh : GroupVersionHook) : GroupHook := ⟨gvh.group, gvh.hook⟩

structure ExtensionRegistration (Selector : Type) where
  name : String
  extensionConfigName : String
  groupVersionHook : GroupVersionHook
  namespaceSelector : Selector
  clientConfig : ClientConfig
  timeoutSeconds : Option Int32
  failurePolicy : Option FailurePolicy
  deriving DecidableEq

abbrev Items (Selector : Type) := Table String (ExtensionRegistration Selector)

structure ExtensionRegistry (Selector : Type) where
  ready : Bool
  items : Items Selector

variable {Selector : Type}

/-- The orders in which the entries are gone through; each loop has its own. -/
abbrev Ranging (Selector : Type) := Order String (ExtensionRegistration Selector)

abbrev Registering (Selector : Type) := Changing Err (ExtensionRegistry Selector)

def new : ExtensionRegistry Selector := ⟨false, ∅⟩

def remove (order : Ranging Selector) (config : ExtensionConfig) : Registering Selector Unit :=
  modify fun registry =>
    { registry with
      items := order.sweep ExtensionRegistration.name (·.extensionConfigName == config.name) registry.items }

def newRegistration (config : ExtensionConfig) (selector : Selector) (handler : ExtensionHandler) :
    Except Err (ExtensionRegistration Selector) :=
  match parseGroupVersion handler.requestHook.apiVersion with
  | .error error =>
    .error (error.wrap ("failed to add extension handler " ++ quoted handler.name ++
      " to registry: failed to parse GroupVersion " ++ quoted handler.requestHook.apiVersion ++ " of handler " ++
      quoted handler.name))
  | .ok gv =>
    .ok {
      extensionConfigName := config.name
      name := handler.name
      groupVersionHook := ⟨gv.group, gv.version, handler.requestHook.hook⟩
      namespaceSelector := selector
      clientConfig := config.clientConfig
      timeoutSeconds := handler.timeoutSeconds
      failurePolicy := handler.failurePolicy }

/-- The registrations of the handlers, and the errors of those that have none. -/
def newRegistrations (config : ExtensionConfig) (selector : Selector) :
    List ExtensionHandler → List (ExtensionRegistration Selector) × List Err
  | [] => ([], [])
  | handler :: rest =>
    let (registrations, allErrs) := newRegistrations config selector rest
    match newRegistration config selector handler with
    | .ok registration => (registration :: registrations, allErrs)
    | .error error => (registrations, error :: allErrs)

variable (asSelector : Option LabelSelector → Except Err Selector)

def failedToAdd (config : ExtensionConfig) : String :=
  "failed to add ExtensionConfig " ++ quoted config.name ++ " to registry"

/-- The old entries are removed before it is known whether there are new ones. -/
def add (order : Ranging Selector) (config : ExtensionConfig) : Registering Selector Unit := do
  remove order config
  match asSelector config.namespaceSelector with
  | .error error => throw (error.wrap (failedToAdd config ++ ": failed to create namespaceSelector"))
  | .ok selector =>
    let (registrations, allErrs) := newRegistrations config selector config.handlers
    match newAggregate allErrs with
    | some error => throw (error.wrap (failedToAdd config))
    | none => modify fun registry =>
        { registry with items := registrations.foldl (fun items entry => items.insert entry.name entry) registry.items }

def addAll (orders : Nat → Ranging Selector) : Nat → List ExtensionConfig → Registering Selector (List Err)
  | _, [] => return []
  | i, config :: rest => do
    match ← attempt (add asSelector (orders i) config) with
    | .ok _ => addAll orders (i + 1) rest
    | .error error => return error :: (← addAll orders (i + 1) rest)

def warmUp (orders : Nat → Ranging Selector) (extensionConfigList : Option (List ExtensionConfig)) :
    Registering Selector Unit := do
  let some configs := extensionConfigList
    | throw (errorf ("failed to warm up registry: invalid argument: when calling WarmUp ExtensionConfigList must " ++
        "not be nil"))
  if (← get).ready then
    throw (errorf ("failed to warm up registry: invalid operation: WarmUp cannot be called on a registry which has " ++
      "already been warmed up"))
  else match newAggregate (← addAll asSelector orders 0 configs) with
    | some error => do
      modify fun registry => { registry with items := ∅ }
      throw (error.wrap "failed to warm up registry")
    | none => modify fun registry => { registry with ready := true }

/-- Add, which needs a registry that is ready. -/
def lockedAdd (order : Ranging Selector) (extensionConfig : Option ExtensionConfig) : Registering Selector Unit := do
  let some config := extensionConfig
    | throw (errorf ("failed to add ExtensionConfig to registry: invalid argument: when calling Add extensionConfig " ++
        "must not be nil"))
  if (← get).ready then add asSelector order config
  else throw (errorf (failedToAdd config ++ ": invalid operation: Add cannot be called on a registry which has not " ++
    "been warmed up"))

def lockedRemove (order : Ranging Selector) (extensionConfig : Option ExtensionConfig) : Registering Selector Unit := do
  let some config := extensionConfig
    | throw (errorf ("failed to remove ExtensionConfig from registry: invalid argument: when calling Remove " ++
        "ExtensionConfig must not be nil"))
  if (← get).ready then remove order config
  else throw (errorf ("failed to remove ExtensionConfig " ++ quoted config.name ++ " from registry: invalid " ++
    "operation: Remove cannot be called on a registry which has not been warmed up"))

def GroupHook.text (gh : GroupHook) : String := gh.hook ++ "." ++ gh.group

def ExtensionRegistry.list (registry : ExtensionRegistry Selector) (order : Ranging Selector) (gh : GroupHook) :
    Except Err (List (ExtensionRegistration Selector)) :=
  if gh.group = "" then
    .error (errorf "failed to list extension handlers: invalid argument: when calling List gh.Group must not be empty")
  else if gh.hook = "" then
    .error (errorf "failed to list extension handlers: invalid argument: when calling List gh.Hook must not be empty")
  else if registry.ready then .ok ((order.values registry.items).filter (·.groupVersionHook.groupHook == gh))
  else .error (errorf ("failed to list extension handlers for GroupHook " ++ quoted gh.text ++ ": invalid " ++
    "operation: List cannot be called on a registry which has not been warmed up"))

def ExtensionRegistry.get (registry : ExtensionRegistry Selector) (name : String) :
    Except Err (ExtensionRegistration Selector) :=
  if registry.ready then
    match registry.items.lookup name with
    | some registration => .ok registration
    | none => .error (errorf ("failed to get extension handler " ++ quoted name ++ " from registry: handler with " ++
        "name " ++ quoted name ++ " has not been registered"))
  else .error (errorf ("failed to get extension handler " ++ quoted name ++ " from registry: invalid operation: " ++
    "Get cannot be called on a registry not yet ready"))

end Operations

section Steps

variable {Selector : Type} {asSelector : Option LabelSelector → Except Err Selector} {order : Ranging Selector}
  {config : ExtensionConfig} {before after : ExtensionRegistry Selector} {entry : ExtensionRegistration Selector}

/-- The entry for a handler, as its configuration says it. -/
structure Describes (asSelector : Option LabelSelector → Except Err Selector) (config : ExtensionConfig)
    (handler : ExtensionHandler) (entry : ExtensionRegistration Selector) : Prop where
  name : entry.name = handler.name
  owner : entry.extensionConfigName = config.name
  apiVersion : parseGroupVersion handler.requestHook.apiVersion =
    .ok ⟨entry.groupVersionHook.group, entry.groupVersionHook.version⟩
  hook : entry.groupVersionHook.hook = handler.requestHook.hook
  selector : asSelector config.namespaceSelector = .ok entry.namespaceSelector
  clientConfig : entry.clientConfig = config.clientConfig
  timeoutSeconds : entry.timeoutSeconds = handler.timeoutSeconds
  failurePolicy : entry.failurePolicy = handler.failurePolicy

theorem newRegistration_eq_ok {selector : Selector} (selected : asSelector config.namespaceSelector = .ok selector)
    (handler : ExtensionHandler) :
    newRegistration config selector handler = .ok entry ↔ Describes asSelector config handler entry := by
  unfold newRegistration
  constructor
  · intro made
    split at made
    · cases made
    next gv parsed =>
      cases made
      exact ⟨rfl, rfl, parsed, rfl, selected, rfl, rfl, rfl⟩
  · intro describes
    obtain ⟨_, _, ⟨group, version, hook⟩, _, _, _, _⟩ := entry
    obtain ⟨rfl, rfl, parsed, rfl, same, rfl, rfl, rfl⟩ := describes
    cases selected.symm.trans same
    simp [parsed]

theorem newRegistrations_spec {selector : Selector} (selected : asSelector config.namespaceSelector = .ok selector)
    {handlers : List ExtensionHandler} (valid : (newRegistrations config selector handlers).2 = []) :
    (newRegistrations config selector handlers).1.map ExtensionRegistration.name =
        handlers.map ExtensionHandler.name ∧
      ∀ entry, entry ∈ (newRegistrations config selector handlers).1 ↔
        ∃ handler ∈ handlers, newRegistration config selector handler = .ok entry := by
  induction handlers with
  | nil => simp [newRegistrations]
  | cons handler rest ih =>
    rw [newRegistrations] at valid ⊢
    cases made : newRegistration config selector handler with
    | error error => simp [made] at valid
    | ok first =>
      simp only [made] at valid ⊢
      obtain ⟨names, members⟩ := ih valid
      simp [names, members, ((newRegistration_eq_ok selected handler).mp made).name, made, eq_comm]

def Registers (asSelector : Option LabelSelector → Except Err Selector) (config : ExtensionConfig)
    (entry : ExtensionRegistration Selector) : Prop :=
  ∃ handler ∈ config.handlers, Describes asSelector config handler entry

theorem Registers.names (registers : Registers asSelector config entry) :
    entry.name ∈ config.handlerNames ∧ entry.extensionConfigName = config.name := by
  obtain ⟨handler, mem, describes⟩ := registers
  exact ⟨List.mem_map.mpr ⟨handler, mem, describes.name.symm⟩, describes.owner⟩

/-- A registry whose entries are stored under their names. -/
def Named (registry : ExtensionRegistry Selector) : Prop := Keyed ExtensionRegistration.name registry.items

/-- What is left when the entries of a configuration are removed. -/
def without (order : Ranging Selector) (config : ExtensionConfig) (registry : ExtensionRegistry Selector) :
    ExtensionRegistry Selector :=
  { registry with
    items := order.sweep ExtensionRegistration.name (·.extensionConfigName == config.name) registry.items }

theorem outcome_remove :
    outcome (remove order config) before = (.ok (), without order config before) := rfl

theorem lookup_without (named : Named before) {name : String} :
    (without order config before).items.lookup name = some entry ↔
      before.items.lookup name = some entry ∧ entry.extensionConfigName ≠ config.name := by
  rw [without, order.lookup_sweep named, Option.filter_eq_some_iff]
  simp

theorem named_without (named : Named before) : Named (without order config before) :=
  order.keyed_sweep named

variable (asSelector order config before) in
theorem add_cases :
    (∃ error, outcome (add asSelector order config) before = (.error error, without order config before)) ∨
      ∃ registrations : List (ExtensionRegistration Selector),
        registrations.map ExtensionRegistration.name = config.handlerNames ∧
        (∀ entry, entry ∈ registrations ↔ Registers asSelector config entry) ∧
        outcome (add asSelector order config) before = (.ok (), { without order config before with
          items := registrations.foldl (fun items entry => items.insert entry.name entry)
            (without order config before).items }) := by
  simp only [add, outcome_bind, outcome_remove]
  cases selected : asSelector config.namespaceSelector with
  | error error => exact .inl ⟨_, rfl⟩
  | ok selector =>
    dsimp only
    cases failures : (newRegistrations config selector config.handlers).2 with
    | cons error rest => exact .inl ⟨_, rfl⟩
    | nil =>
      obtain ⟨names, members⟩ := newRegistrations_spec selected failures
      refine .inr ⟨_, names, fun entry => ?_, rfl⟩
      simp only [members, Registers, newRegistration_eq_ok selected]

theorem add_lookup (named : Named before) (apart : config.handlerNames.Nodup)
    (added : outcome (add asSelector order config) before = (.ok (), after)) {name : String} :
    after.items.lookup name = some entry ↔
      Registers asSelector config entry ∧ entry.name = name ∨
        name ∉ config.handlerNames ∧ before.items.lookup name = some entry ∧
          entry.extensionConfigName ≠ config.name := by
  obtain ⟨error, failed⟩ | ⟨registrations, names, members, same⟩ := add_cases asSelector order config before
  · rw [failed] at added
    cases added
  · rw [same] at added
    cases added
    rw [← names] at apart
    rw [lookup_foldl_insert apart, members, names, lookup_without named]

variable (asSelector order config before) in
theorem add_ready :
    (outcome (add asSelector order config) before).2.ready = before.ready := by
  obtain ⟨error, failed⟩ | ⟨registrations, -, -, same⟩ := add_cases asSelector order config before
  · rw [failed]
    rfl
  · rw [same]
    rfl

theorem named_insertAll (named : Named before) (registrations : List (ExtensionRegistration Selector)) :
    Keyed ExtensionRegistration.name
      (registrations.foldl (fun items entry => items.insert entry.name entry) before.items) := by
  unfold Named at named
  generalize before.items = items at named
  induction registrations generalizing items with
  | nil => exact named
  | cons first rest ih => exact ih _ (keyed_insert named first)

theorem add_named (named : Named before) : Named (outcome (add asSelector order config) before).2 := by
  obtain ⟨error, failed⟩ | ⟨registrations, -, -, same⟩ := add_cases asSelector order config before
  · rw [failed]
    exact named_without named
  · rw [same]
    exact named_insertAll (named_without named) registrations

end Steps

section Calls

inductive Call (Selector : Type) where
  | warmUp (orders : Nat → Ranging Selector) (configs : Option (List ExtensionConfig))
  | add (order : Ranging Selector) (config : Option ExtensionConfig)
  | remove (order : Ranging Selector) (config : Option ExtensionConfig)

variable {Selector : Type} (asSelector : Option LabelSelector → Except Err Selector)

def Call.perform : Call Selector → Registering Selector Unit
  | .warmUp orders configs => Registry.warmUp asSelector orders configs
  | .add order config => lockedAdd asSelector order config
  | .remove order config => lockedRemove order config

def Call.configs : Call Selector → List ExtensionConfig
  | .warmUp _ configs => configs.getD []
  | .add _ config => config.toList
  | .remove _ config => config.toList

/-- The registries that calls lead to, also calls that fail. -/
inductive Reachable : ExtensionRegistry Selector → Prop where
  | new : Reachable new
  | call {before : ExtensionRegistry Selector} (reachable : Reachable before) (call : Call Selector) :
      Reachable (outcome (call.perform asSelector) before).2

variable {asSelector} {orders : Nat → Ranging Selector} {before : ExtensionRegistry Selector}

/-- Entries that were stored under their names still are. -/
def Keeps (before after : ExtensionRegistry Selector) : Prop := Named before → Named after

instance : IsPreorder (ExtensionRegistry Selector) Keeps where
  refl _ := id
  trans _ _ _ early late := late ∘ early

theorem add_keeps (order : Ranging Selector)
    (config : ExtensionConfig) : Moves Keeps (add asSelector order config) :=
  fun _ named => add_named named

theorem addAll_keeps (start : Nat) (configs : List ExtensionConfig) :
    Moves Keeps (addAll asSelector orders start configs) := by
  induction configs generalizing start with
  | nil => exact Moves.pure []
  | cons config rest ih =>
    refine Moves.bind (Moves.attempt (add_keeps (orders start) config)) fun answer => ?_
    cases answer with
    | ok _ => exact ih (start + 1)
    | error error => exact Moves.bind (ih (start + 1)) fun _ => Moves.pure _

theorem warmUp_keeps (configs : List ExtensionConfig) : Moves Keeps (warmUp asSelector orders (some configs)) := by
  refine Moves.bind Moves.get fun registry => Moves.ite (fun _ => Moves.throw _) fun _ => ?_
  refine Moves.bind (addAll_keeps 0 configs) fun allErrs => ?_
  split
  · exact Moves.bind (Moves.modify _ fun _ _ => keyed_empty) fun _ => Moves.throw _
  · exact Moves.modify _ fun _ named => named

theorem Call.perform_keeps (call : Call Selector) : Moves Keeps (call.perform asSelector) := by
  cases call with
  | warmUp orders configs =>
    cases configs with
    | none => exact Moves.throw _
    | some configs => exact warmUp_keeps configs
  | add order config =>
    cases config with
    | none => exact Moves.throw _
    | some config =>
      exact Moves.bind Moves.get fun _ => Moves.ite (fun _ => add_keeps order config) fun _ => Moves.throw _
  | remove order config =>
    cases config with
    | none => exact Moves.throw _
    | some config =>
      have removed : Moves Keeps (Registry.remove order config) := fun _ named => named_without named
      exact Moves.bind Moves.get fun _ => Moves.ite (fun _ => removed) fun _ => Moves.throw _

theorem Reachable.named {registry : ExtensionRegistry Selector} (reachable : Reachable asSelector registry) :
    Named registry := by
  induction reachable with
  | new => exact keyed_empty
  | call _ call ih => exact call.perform_keeps _ ih

end Calls

section Answers

variable {Selector : Type} {registry : ExtensionRegistry Selector} {name : String}
  {entry : ExtensionRegistration Selector}

theorem get_eq_ok : registry.get name = .ok entry ↔
    registry.ready = true ∧ registry.items.lookup name = some entry := by
  unfold ExtensionRegistry.get
  cases registry.ready with
  | false => simp
  | true => cases stored : registry.items.lookup name <;> simp

theorem list_eq_ok {order : Ranging Selector} {gh : GroupHook} {answers : List (ExtensionRegistration Selector)} :
    registry.list order gh = .ok answers ↔ (gh.group ≠ "" ∧ gh.hook ≠ "" ∧ registry.ready = true) ∧
      (order.values registry.items).filter (·.groupVersionHook.groupHook == gh) = answers := by
  unfold ExtensionRegistry.list
  split
  next empty => simp [empty]
  next =>
    split
    next empty => simp [empty]
    next => cases registry.ready <;> simp_all

end Answers

end OcneProvider.Runtime.Registry
