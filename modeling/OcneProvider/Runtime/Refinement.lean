import OcneProvider.Runtime.Registry

/-! What the registry of runtime extensions is for: it holds the handlers of each configuration that was added and not
removed since. A registration that is rejected may lose some of them. -/

namespace OcneProvider.Runtime.Refinement
open Api.Meta Effects.Stateful Registry List

section Refinement

/-- The configurations a registry is to hold, by their names. -/
abbrev Held := String → Option ExtensionConfig

def Held.put (held : Held) (config : ExtensionConfig) : Held :=
  fun name => if name = config.name then some config else held name

def Held.drop (held : Held) (config : ExtensionConfig) : Held :=
  fun name => if name = config.name then none else held name

variable {Selector : Type}

def effect (held : Held) : Call Selector → Held
  | .warmUp _ configs => (configs.getD []).foldl Held.put held
  | .add _ config => config.elim held held.put
  | .remove _ config => config.elim held held.drop

/-- Each configuration that was added and not removed since, in its last version. -/
def held (calls : List (Call Selector)) : Held := calls.foldl effect fun _ => none

variable {asSelector : Option LabelSelector → Except Err Selector}

def Found (asSelector : Option LabelSelector → Except Err Selector) (held : Held) (name : String)
    (entry : ExtensionRegistration Selector) : Prop :=
  ∃ config, held config.name = some config ∧ Registers asSelector config entry ∧ entry.name = name

/-- No two handlers have the same name. -/
structure Distinct (configs : List ExtensionConfig) : Prop where
  within : ∀ config ∈ configs, config.handlerNames.Nodup
  across : ∀ first ∈ configs, ∀ second ∈ configs, first.name ≠ second.name →
    ∀ name ∈ first.handlerNames, name ∉ second.handlerNames

/-- The configurations that are held are among those given, each under its name. -/
def Among (configs : List ExtensionConfig) (held : Held) : Prop :=
  ∀ name config, held name = some config → config ∈ configs ∧ config.name = name

/-- The registry finds the handlers of the configurations that are held. -/
structure Simulates (asSelector : Option LabelSelector → Except Err Selector) (configs : List ExtensionConfig)
    (held : Held) (registry : ExtensionRegistry Selector) : Prop where
  among : Among configs held
  found : ∀ name entry, registry.items.lookup name = some entry ↔ Found asSelector held name entry

variable {configs : List ExtensionConfig} {held : Held} {config : ExtensionConfig}
  {before after : ExtensionRegistry Selector} {order : Ranging Selector}

theorem Simulates.named (simulates : Simulates asSelector configs held before) : Named before := by
  intro name entry stored
  obtain ⟨config, -, -, same⟩ := (simulates.found name entry).mp stored
  exact same

theorem Among.put (among : Among configs held) (mem : config ∈ configs) : Among configs (held.put config) := by
  intro name other stored
  unfold Held.put at stored
  split at stored
  next same =>
    cases stored
    exact ⟨mem, same.symm⟩
  next => exact among name other stored

theorem Among.drop (among : Among configs held) (config : ExtensionConfig) : Among configs (held.drop config) := by
  intro name other stored
  unfold Held.drop at stored
  split at stored
  next => cases stored
  next => exact among name other stored

theorem found_put (distinct : Distinct configs) (among : Among configs held) (mem : config ∈ configs)
    {name : String} {entry : ExtensionRegistration Selector} : Found asSelector (held.put config) name entry ↔
      Registers asSelector config entry ∧ entry.name = name ∨
        name ∉ config.handlerNames ∧ Found asSelector held name entry ∧
          entry.extensionConfigName ≠ config.name := by
  constructor
  · rintro ⟨other, stored, registers, rfl⟩
    unfold Held.put at stored
    split at stored
    next =>
      cases stored
      exact .inl ⟨registers, rfl⟩
    next differs =>
      obtain ⟨isName, owner⟩ := registers.names
      have apart := distinct.across other (among _ _ stored).1 config mem differs
      exact .inr ⟨apart _ isName, ⟨other, stored, registers, rfl⟩, owner ▸ differs⟩
  · rintro (⟨registers, rfl⟩ | ⟨-, ⟨other, stored, registers, rfl⟩, differs⟩)
    · exact ⟨config, if_pos rfl, registers, rfl⟩
    · rw [registers.names.2] at differs
      exact ⟨other, (if_neg differs).trans stored, registers, rfl⟩

theorem found_drop {name : String} {entry : ExtensionRegistration Selector} :
    Found asSelector (held.drop config) name entry ↔
      Found asSelector held name entry ∧ entry.extensionConfigName ≠ config.name := by
  constructor
  · rintro ⟨other, stored, registers, rfl⟩
    unfold Held.drop at stored
    split at stored
    next => cases stored
    next differs => exact ⟨⟨other, stored, registers, rfl⟩, registers.names.2 ▸ differs⟩
  · rintro ⟨⟨other, stored, registers, rfl⟩, differs⟩
    rw [registers.names.2] at differs
    exact ⟨other, (if_neg differs).trans stored, registers, rfl⟩

theorem Simulates.add (apart : Distinct configs) (simulates : Simulates asSelector configs held before)
    (mem : config ∈ configs) (added : outcome (add asSelector order config) before = (.ok (), after)) :
    Simulates asSelector configs (held.put config) after := by
  refine ⟨simulates.among.put mem, fun name entry => ?_⟩
  rw [add_lookup simulates.named (apart.within config mem) added, simulates.found,
    found_put apart simulates.among mem]

theorem Simulates.without (simulates : Simulates asSelector configs held before) (config : ExtensionConfig) :
    Simulates asSelector configs (held.drop config) (without order config before) := by
  refine ⟨simulates.among.drop config, fun name entry => ?_⟩
  rw [lookup_without simulates.named, simulates.found, found_drop]

variable {orders : Nat → Ranging Selector}

theorem addAll_simulates (apart : Distinct configs) {added : List ExtensionConfig}
    (members : ∀ config ∈ added, config ∈ configs) (start : Nat) (held : Held) :
    Ensures (Simulates asSelector configs held) (addAll asSelector orders start added) fun allErrs registry =>
      allErrs = [] → Simulates asSelector configs (added.foldl Held.put held) registry := by
  induction added generalizing start held with
  | nil => exact Ensures.pure fun _ simulates _ => simulates
  | cons config rest ih =>
    obtain ⟨here, later⟩ := forall_mem_cons.mp members
    intro before simulates allErrs after done allGood
    simp only [addAll, outcome_bind, outcome_attempt] at done
    cases first : outcome (Registry.add asSelector (orders start) config) before with
    | mk answer middle =>
      rw [first] at done
      cases answer with
      | ok _ =>
        have next := simulates.add apart here first
        exact ih later (start + 1) (held.put config) middle next allErrs after done allGood
      | error error =>
        -- the error is in the list
        simp only [outcome_bind] at done
        split at done
        · cases done
          cases allGood
        · cases done

theorem warmUp_simulates (apart : Distinct configs) {added : List ExtensionConfig}
    (members : ∀ config ∈ added, config ∈ configs) :
    Ensures (Simulates asSelector configs held) (warmUp asSelector orders (some added)) fun _ registry =>
      Simulates asSelector configs (added.foldl Held.put held) registry ∧ registry.ready = true := by
  refine Ensures.bind Ensures.get fun registry => Ensures.ite (fun _ => Ensures.throw _) fun _ => ?_
  refine Ensures.bind (addAll_simulates apart members 0 held) fun allErrs => ?_
  cases allErrs with
  | nil => exact Ensures.modify fun registry simulates => ⟨⟨(simulates rfl).among, (simulates rfl).found⟩, rfl⟩
  | cons error rest =>
    exact Ensures.bind (Ensures.modify fun _ _ => trivial : Ensures _ _ fun _ _ => True) fun _ => Ensures.throw _

theorem perform_simulates (apart : Distinct configs) (call : Call Selector)
    (members : ∀ config ∈ call.configs, config ∈ configs) :
    Ensures (Simulates asSelector configs held) (call.perform asSelector) fun _ registry =>
      Simulates asSelector configs (effect held call) registry ∧ registry.ready = true := by
  cases call with
  | warmUp orders added =>
    cases added with
    | none => exact Ensures.throw _
    | some added => exact warmUp_simulates apart members
  | add order config =>
    cases config with
    | none => exact Ensures.throw _
    | some config =>
      intro before simulates _ after done
      simp only [Call.perform, lockedAdd, outcome_bind, outcome_get] at done
      split at done
      next ready =>
        have stays := add_ready asSelector order config before
        rw [done] at stays
        exact ⟨simulates.add apart (members config mem_cons_self) done, stays.trans ready⟩
      next => cases done
  | remove order config =>
    cases config with
    | none => exact Ensures.throw _
    | some config =>
      intro before simulates _ after done
      simp only [Call.perform, lockedRemove, outcome_bind, outcome_get] at done
      split at done
      next ready =>
        cases done
        exact ⟨simulates.without config, ready⟩
      next => cases done

/-- A registry is ready after the first call that succeeds. -/
theorem calls_simulate {calls : List (Call Selector)} (apart : Distinct (calls.flatMap Call.configs)) :
    Ensures (· = new) (calls.forM (Call.perform asSelector)) fun _ registry =>
      Simulates asSelector (calls.flatMap Call.configs) (Refinement.held calls) registry ∧
        (registry.ready = true ↔ calls ≠ []) := by
  let keep (done : List (Call Selector)) (registry : ExtensionRegistry Selector) : Prop :=
    Simulates asSelector (calls.flatMap Call.configs) (Refinement.held done) registry ∧
      (registry.ready = true ↔ done ≠ [])
  have each : ∀ done, ∀ call ∈ calls,
      Ensures (keep done) (call.perform asSelector) fun _ => keep (done ++ [call]) := by
    intro done call mem before kept _ after finished
    have members : ∀ config ∈ call.configs, config ∈ calls.flatMap Call.configs :=
      fun config mentioned => mem_flatMap.mpr ⟨call, mem, mentioned⟩
    obtain ⟨simulates, ready⟩ := perform_simulates apart call members before kept.1 _ after finished
    refine ⟨?_, iff_of_true ready (by simp)⟩
    rw [Refinement.held, foldl_append]
    exact simulates
  have start : keep [] new := by
    refine ⟨⟨fun name config stored => ?_, fun name entry => ?_⟩, by simp [new]⟩
    · cases stored
    · exact iff_of_false (fun stored => by cases stored) fun ⟨_, stored, _⟩ => by cases stored
  rintro _ rfl value registry finished
  exact Ensures.forM each new start value registry finished

end Refinement

/-- After calls that all succeeded, the registry answers as a map from configurations to handlers. -/
theorem registry_refines {Selector : Type} (asSelector : Option LabelSelector → Except Err Selector)
    (calls : List (Call Selector)) (distinct : Distinct (calls.flatMap Call.configs))
    (registry : ExtensionRegistry Selector)
    (successful : outcome (calls.forM (Call.perform asSelector)) new = (.ok (), registry)) :
    (∀ name entry, registry.get name = .ok entry ↔ Found asSelector (held calls) name entry) ∧
    ∀ order gh,
      ((∃ answers, registry.list order gh = .ok answers) ↔ gh.group ≠ "" ∧ gh.hook ≠ "" ∧ calls ≠ []) ∧
      ∀ answers, registry.list order gh = .ok answers → answers.Nodup ∧ ∀ entry, entry ∈ answers ↔
        Found asSelector (held calls) entry.name entry ∧ entry.groupVersionHook.groupHook = gh := by
  obtain ⟨simulates, ready⟩ := calls_simulate distinct new rfl () registry successful
  have inUse {name : String} {entry : ExtensionRegistration Selector} (found : Found asSelector (held calls) name entry) :
      registry.ready = true := by
    rw [ready]
    rintro rfl
    obtain ⟨_, stored, -⟩ := found
    cases stored
  refine ⟨fun name entry => ?_, fun order gh => ⟨?_, fun answers answered => ?_⟩⟩
  · rw [get_eq_ok, simulates.found]
    exact and_iff_right_of_imp inUse
  · simp [list_eq_ok, ready]
  · obtain ⟨-, rfl⟩ := list_eq_ok.mp answered
    refine ⟨(order.nodup_values simulates.named).filter _, fun entry => ?_⟩
    rw [mem_filter, order.mem_values, beq_iff_eq]
    apply and_congr_left'
    constructor
    · rintro ⟨name, stored⟩
      rw [simulates.named name entry stored]
      exact (simulates.found name entry).mp stored
    · exact fun found => ⟨entry.name, (simulates.found _ _).mpr found⟩

private def handler (name apiVersion : String) : ExtensionHandler :=
  ⟨name, ⟨apiVersion, "BeforeClusterCreate"⟩, none, some .fail⟩

private def extension (name : String) (handlers : List ExtensionHandler) : ExtensionConfig :=
  ⟨name, ⟨some "https://extension.example.com", none, []⟩, none, handlers⟩

private def everything : Option LabelSelector → Except Err Unit := fun _ => .ok ()

private def hooks : String := "g/v1"

private def entryOf (config name : String) : ExtensionRegistration Unit :=
  ⟨name, config, ⟨"g", "v1", "BeforeClusterCreate"⟩, (),
    ⟨some "https://extension.example.com", none, []⟩, none, some .fail⟩

private theorem parse_hooks : Api.Formats.parseGroupVersion hooks = .ok ⟨"g", "v1"⟩ := by decide +kernel

private theorem registers_entryOf (config name : String) :
    Registers everything (extension config [handler name hooks]) (entryOf config name) :=
  ⟨handler name hooks, mem_cons_self, rfl, rfl, parse_hooks, rfl, rfl, rfl, rfl, rfl⟩

private noncomputable def upgrades : List (Call Unit) :=
  [.warmUp default (some [extension "first" [handler "a" hooks, handler "b" hooks]]),
    .add default (some (extension "second" [handler "c" hooks])),
    .add default (some (extension "first" [handler "a" hooks]))]

private theorem upgrades_distinct : Distinct (upgrades.flatMap Call.configs) := by
  constructor <;> decide

/-- The update of a configuration drops one of its handlers. -/
theorem dropped_handler_not_found : ∃ registry,
    outcome (upgrades.forM (Call.perform everything)) new = (.ok (), registry) ∧
      registry.get "c" = .ok (entryOf "second" "c") ∧ (∃ answers,
        registry.list default ⟨"g", "BeforeClusterCreate"⟩ = .ok answers ∧
          entryOf "second" "c" ∈ answers) ∧ ∀ entry, registry.get "b" ≠ .ok entry := by
  have successful : ∃ registry, outcome (upgrades.forM (Call.perform everything)) new = (.ok (), registry) := ⟨_, rfl⟩
  obtain ⟨registry, finished⟩ := successful
  obtain ⟨found, lists⟩ := registry_refines everything upgrades upgrades_distinct registry finished
  have here : Found everything (held upgrades) "c" (entryOf "second" "c") :=
    ⟨extension "second" [handler "c" hooks], rfl, registers_entryOf "second" "c", rfl⟩
  refine ⟨registry, finished, (found _ _).mpr here, ?_, ?_⟩
  · obtain ⟨answered, members⟩ := lists default ⟨"g", "BeforeClusterCreate"⟩
    obtain ⟨answers, listed⟩ := answered.mpr ⟨by decide, by decide, cons_ne_nil _ _⟩
    exact ⟨answers, listed, ((members answers listed).2 _).mpr ⟨here, rfl⟩⟩
  · intro entry
    rw [ne_eq, found]
    rintro ⟨config, stored, registers, name⟩
    have mentioned : "b" ∈ config.handlerNames := name ▸ registers.names.1
    have last : config = extension "first" [handler "a" hooks] ∨ config = extension "second" [handler "c" hooks] := by
      simp only [held, upgrades, foldl_cons, foldl_nil, effect, Option.elim_some, Option.getD_some,
        Held.put] at stored
      split_ifs at stored with latest second first
      · exact .inl (Option.some.inj stored).symm
      · exact .inr (Option.some.inj stored).symm
      · exact absurd first latest
    obtain rfl | rfl := last
    · exact absurd mentioned (by decide)
    · exact absurd mentioned (by decide)

section Rejection

variable {Selector : Type} {asSelector : Option LabelSelector → Except Err Selector}

/-- Two answers with the same entries, or with the same error. -/
def Agree {α : Type} : Except Err (List α) → Except Err (List α) → Prop
  | .ok first, .ok second => first.Perm second
  | .error first, .error second => first = second
  | _, _ => False

def SameAnswers (before after : ExtensionRegistry Selector) : Prop :=
  (∀ name, before.get name = after.get name) ∧
    ∀ first second gh, Agree (before.list first gh) (after.list second gh)

variable {registry : ExtensionRegistry Selector}

theorem sameAnswers_refl (named : Named registry) : SameAnswers registry registry := by
  refine ⟨fun name => rfl, fun first second gh => ?_⟩
  have same : (first.values registry.items).Perm (second.values registry.items) := by
    rw [perm_ext_iff_of_nodup (first.nodup_values named) (second.nodup_values named)]
    intro entry
    rw [first.mem_values, second.mem_values]
  unfold ExtensionRegistry.list
  split
  · rfl
  · split
    · rfl
    · split
      · exact same.filter _
      · rfl

theorem without_eq_self {order : Ranging Selector} {config : ExtensionConfig} (named : Named registry)
    (unknown : ∀ name entry, registry.items.lookup name = some entry → entry.extensionConfigName ≠ config.name) :
    without order config registry = registry := by
  have same : (without order config registry).items = registry.items := by
    apply Finmap.ext_lookup
    intro name
    apply Option.ext
    intro entry
    rw [lookup_without named]
    exact and_iff_left_of_imp (unknown name entry)
  unfold without at same ⊢
  dsimp only at same
  rw [same]

end Rejection

/-- A rejected addition changes no answer exactly if no handler of an earlier version was registered. -/
theorem rejected_add_keeps_iff {Selector : Type} (asSelector : Option LabelSelector → Except Err Selector)
    (before after : ExtensionRegistry Selector) (reachable : Reachable asSelector before) (order : Ranging Selector)
    (config : Option ExtensionConfig) (error : Err)
    (rejected : outcome (lockedAdd asSelector order config) before = (.error error, after)) :
    SameAnswers before after ↔ ∀ given, config = some given →
      ¬ ∃ name entry, before.get name = .ok entry ∧ entry.extensionConfigName = given.name := by
  have named := reachable.named
  cases config with
  | none =>
    cases rejected
    exact iff_of_true (sameAnswers_refl named) fun _ absurd => by cases absurd
  | some config =>
    simp only [lockedAdd, outcome_bind, outcome_get] at rejected
    split at rejected
    next ready =>
      obtain ⟨_, failed⟩ | ⟨_, _, _, added⟩ := add_cases asSelector order config before
      · rw [failed] at rejected
        cases rejected
        constructor
        · rintro ⟨same, -⟩ _ ⟨⟩ ⟨name, entry, found, owner⟩
          rw [same name, get_eq_ok, lookup_without named] at found
          exact found.2.2 owner
        · intro unknown
          rw [without_eq_self named]
          · exact sameAnswers_refl named
          · intro name entry stored owner
            exact unknown config rfl ⟨name, entry, get_eq_ok.mpr ⟨ready, stored⟩, owner⟩
      · rw [added] at rejected
        cases rejected
    next unready =>
      cases rejected
      refine iff_of_true (sameAnswers_refl named) ?_
      rintro _ ⟨⟩ ⟨name, entry, found, -⟩
      exact unready (get_eq_ok.mp found).1

private noncomputable def warmingUp : Call Unit := .warmUp default (some [extension "first" [handler "a" hooks]])

private noncomputable def warm : ExtensionRegistry Unit := (outcome (warmingUp.perform everything) new).2

private theorem warm_simulates :
    Simulates everything ([warmingUp].flatMap Call.configs) (held [warmingUp]) warm ∧ warm.ready = true := by
  have apart : Distinct ([warmingUp].flatMap Call.configs) := by
    constructor <;> decide
  have done : outcome ([warmingUp].forM (Call.perform everything)) new = (.ok (), warm) := rfl
  obtain ⟨simulates, ready⟩ := calls_simulate apart new rfl () warm done
  exact ⟨simulates, ready.mpr (cons_ne_nil _ _)⟩

private def broken : ExtensionConfig := extension "first" [handler "a" "a/b/c"]

private def unrelated : ExtensionConfig := extension "second" [handler "b" "a/b/c"]

theorem rejected_addition_keeps : ∃ error after,
    outcome (lockedAdd everything default (some unrelated)) warm = (.error error, after) ∧ SameAnswers warm after := by
  obtain ⟨simulates, -⟩ := warm_simulates
  have rejected : ∃ error, outcome (lockedAdd everything default (some unrelated)) warm =
      (.error error, without default unrelated warm) := ⟨_, rfl⟩
  obtain ⟨error, rejected⟩ := rejected
  refine ⟨error, _, rejected, ?_⟩
  rw [rejected_add_keeps_iff everything warm _ (Reachable.new.call warmingUp) default _ error rejected]
  rintro _ ⟨⟩ ⟨name, entry, found, owner⟩
  obtain ⟨config, stored, registers, -⟩ := (simulates.found name entry).mp (get_eq_ok.mp found).2
  rw [mem_singleton.mp (simulates.among _ config stored).1] at registers
  exact absurd (registers.names.2.symm.trans owner) (by decide)

/-- The handler of the earlier version is gone although the update was rejected. -/
theorem rejected_update_forgets : ∃ error after,
    Reachable everything warm ∧ outcome (lockedAdd everything default (some broken)) warm = (.error error, after) ∧
      (∃ entry, warm.get "a" = .ok entry) ∧ ∀ entry, after.get "a" ≠ .ok entry := by
  have reachable : Reachable everything warm := Reachable.new.call warmingUp
  obtain ⟨simulates, ready⟩ := warm_simulates
  have rejected : ∃ error, outcome (lockedAdd everything default (some broken)) warm =
      (.error error, without default broken warm) := ⟨_, rfl⟩
  obtain ⟨error, rejected⟩ := rejected
  refine ⟨error, _, reachable, rejected, ?_, ?_⟩
  · exact ⟨_, get_eq_ok.mpr ⟨ready, (simulates.found "a" _).mpr ⟨extension "first" [handler "a" hooks], rfl,
      registers_entryOf "first" "a", rfl⟩⟩⟩
  · intro entry found
    rw [get_eq_ok, lookup_without simulates.named, simulates.found] at found
    obtain ⟨-, ⟨config, stored, registers, -⟩, other⟩ := found
    have only := (simulates.among _ config stored).1
    rw [mem_singleton.mp only] at registers
    exact other registers.names.2

end OcneProvider.Runtime.Refinement
