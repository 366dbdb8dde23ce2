import Mathlib.Logic.Function.Basic
import OcneProvider.Controller.Scale

/-! The creation of a machine with the two objects it refers to: all three are there in the end, or none. -/

namespace OcneProvider.Controller.Creation
open Api.Meta Api.Bootstrap Api.Objects Calls Filters Scale Effects.Program Effects.Fallible List

variable {refs : List ObjectReference}

structure Key where
  apiVersion : String
  kind : String
  ns : String
  name : String
  deriving DecidableEq

inductive Object where
  | clone (input : CreateFromTemplateInput)
  | config (config : OCNEConfig)
  | machine (machine : Machine)

abbrev Store := Key → Option Object

def refKey (ref : ObjectReference) : Key := ⟨ref.apiVersion, ref.kind, ref.ns, ref.name⟩

def configKey (config : OCNEConfig) : Key := ⟨bootstrapGroupVersion, "OCNEConfig", config.ns, config.name⟩

def machineKey (machine : Machine) : Key := ⟨"cluster.x-k8s.io/v1beta1", "Machine", machine.ns, machine.name⟩

structure Server where
  objects : Store
  undeleted : Bool

def Server.add (s : Server) (key : Key) (object : Object) : Server :=
  { s with objects := Function.update s.objects key (some object) }

def Server.remove (s : Server) (key : Key) : Server :=
  { s with objects := Function.update s.objects key none }

theorem Server.objects_add_self (s : Server) (key : Key) (object : Object) : (s.add key object).objects key = some object :=
  Function.update_self ..

theorem Server.objects_add_of_ne (s : Server) {key other : Key} (object : Object) (ne : key ≠ other) :
    (s.add other object).objects key = s.objects key :=
  Function.update_of_ne ne ..

/-- Added under a free key; a call that fails has no effect. -/
def Adds {α : Type} (s : Server) (answer : Except Err α) (key : α → Key) (object : Object) (t : Server) : Prop :=
  match answer with
  | .ok value => s.objects (key value) = none ∧ t = s.add (key value) object
  | .error _ => t = s

def Removes (s : Server) (answer : Except Err Unit) (key : Key) (t : Server) : Prop :=
  match answer with
  | .ok _ => t = s.remove key
  | .error error => if error.is .notFound then s.objects key = none ∧ t = s else t = { s with undeleted := true }

/-- Nothing is said of calls that the creation of a machine does not make. -/
def serving : Env signature Server
  | s, .createFromTemplate input, answer, t => Adds s answer refKey (.clone input) t
  | s, .createOCNEConfig config, answer, t => Adds s answer (fun _ => configKey config) (.config config) t
  | s, .createMachine machine, answer, t => Adds s answer (fun _ => machineKey machine) (.machine machine) t
  | s, .deleteObject ref, answer, t => Removes s answer (refKey ref) t
  | s, .generateName _, _, t => t = s
  | _, _, _, _ => True

section Calls

variable {s : Server} {fail : Err → Server → Prop}

abbrev any : Server → Call → Prop := fun _ _ => True

theorem forall_adds {α : Type} {key : α → Key} {object : Object} {ok : α → Server → Prop} :
    (∀ answer t, Adds s answer key object t → outcome ok fail answer t) ↔
      (∀ value, s.objects (key value) = none → ok value (s.add (key value) object)) ∧ ∀ error, fail error s := by
  constructor
  · intro valid
    exact ⟨fun value free => valid (.ok value) _ ⟨free, rfl⟩, fun error => valid (.error error) s rfl⟩
  · rintro ⟨onOk, onFail⟩ answer t happened
    cases answer with
    | ok value =>
      obtain ⟨free, rfl⟩ := happened
      exact onOk value free
    | error error =>
      cases happened
      exact onFail error

theorem wpE_generateName {base : String} {ok : String → Server → Prop} :
    wpE serving any ok fail (generateName base) s ↔ ∀ name, ok name s := by
  refine (wpE_lift (issue (.generateName base)) ok).trans ⟨fun valid name => valid.2 name s rfl, fun valid => ?_⟩
  refine ⟨trivial, fun name t same => ?_⟩
  cases same
  exact valid name

theorem wpE_createFromTemplate {input : CreateFromTemplateInput} {ok : ObjectReference → Server → Prop} :
    wpE serving any ok fail (createFromTemplate input) s ↔
      (∀ ref, s.objects (refKey ref) = none → ok ref (s.add (refKey ref) (.clone input))) ∧ ∀ error, fail error s :=
  (and_iff_right trivial).trans forall_adds

theorem wpE_createOCNEConfig {config : OCNEConfig} {ok : String → Server → Prop} :
    wpE serving any ok fail (createOCNEConfig config) s ↔
      (∀ uid, s.objects (configKey config) = none → ok uid (s.add (configKey config) (.config config))) ∧
        ∀ error, fail error s :=
  (and_iff_right trivial).trans forall_adds

theorem wpE_createMachine {machine : Machine} {ok : Unit → Server → Prop} :
    wpE serving any ok fail (createMachine machine) s ↔
      (∀ done, s.objects (machineKey machine) = none → ok done (s.add (machineKey machine) (.machine machine))) ∧
        ∀ error, fail error s :=
  (and_iff_right trivial).trans forall_adds

end Calls

def removeAll (objects : Store) (refs : List ObjectReference) : Store :=
  refs.foldl (fun left ref => Function.update left (refKey ref) none) objects

/-- Nothing appears, and only what could not be deleted remains. -/
structure Cleaned (s : Server) (refs : List ObjectReference) (t : Server) : Prop where
  fewer : ∀ key, t.objects key = s.objects key ∨ t.objects key = none
  undeleted : s.undeleted = true → t.undeleted = true
  removed : t.undeleted = false → t.objects = removeAll s.objects refs

theorem Cleaned.refl (s : Server) : Cleaned s [] s :=
  ⟨fun _ => .inl rfl, id, fun _ => rfl⟩

theorem Cleaned.cons {s between t : Server} {ref : ObjectReference} {answer : Except Err Unit}
    (deleted : Removes s answer (refKey ref) between) (later : Cleaned between refs t) : Cleaned s (ref :: refs) t := by
  cases answer with
  | ok done =>
    cases deleted
    refine ⟨fun key => ?_, later.undeleted, later.removed⟩
    rcases later.fewer key with same | gone
    · by_cases here : key = refKey ref
      · exact .inr (by rw [same, here]; exact Function.update_self ..)
      · exact .inl (by rw [same]; exact Function.update_of_ne here ..)
    · exact .inr gone
  | error error =>
    by_cases missing : error.is .notFound = true
    · simp only [Removes, missing, if_true] at deleted
      obtain ⟨absent, rfl⟩ := deleted
      have same : Function.update between.objects (refKey ref) none = between.objects := by
        rw [← absent, Function.update_eq_self]
      refine ⟨later.fewer, later.undeleted, fun clean => ?_⟩
      rw [later.removed clean, removeAll, removeAll, foldl_cons, same]
    · simp only [Removes, missing, if_false, Bool.false_eq_true] at deleted
      subst deleted
      have failed : t.undeleted = true := later.undeleted rfl
      exact ⟨later.fewer, fun _ => failed, fun clean => by simp [failed] at clean⟩

theorem wp_cleanupFromGeneration (s : Server) :
    (cleanupFromGeneration refs).wp serving any (fun _ t => Cleaned s refs t) s := by
  induction refs generalizing s with
  | nil => exact .refl s
  | cons ref rest ih =>
    refine ⟨trivial, fun answer between deleted => ?_⟩
    change Prog.wp _ _ _ (cleanupFromGeneration rest >>= _) between
    rw [wp_bind]
    refine wp_mono (ih between) fun errors t later => ?_
    have cleaned : Cleaned s (ref :: rest) t := .cons deleted later
    cases answer with
    | ok done => exact cleaned
    | error error =>
      dsimp only
      split
      next => exact cleaned
      next => exact cleaned

theorem wpE_abandonGeneration {α : Type} {error : Err} {s : Server}
    {ok : α → Server → Prop} {fail : Err → Server → Prop} (cleaned : ∀ error t, Cleaned s refs t → fail error t) :
    wpE serving any ok fail (abandonGeneration error refs) s := by
  rw [abandonGeneration, wpE_bind, wpE_lift]
  refine wp_mono (wp_cleanupFromGeneration s) fun errors t held => ?_
  split
  next => exact cleaned _ t held
  next => exact cleaned _ t held

theorem removeAll_apply (objects : Store) (key : Key) :
    removeAll objects refs key = if key ∈ refs.map refKey then none else objects key := by
  induction refs generalizing objects with
  | nil => simp [removeAll]
  | cons ref rest ih =>
    have step : removeAll objects (ref :: rest) = removeAll (Function.update objects (refKey ref) none) rest := rfl
    rw [step, ih]
    by_cases here : key = refKey ref
    · simp [here]
    · simp [here]

/-- Objects were added, no machines, that are found by the references. -/
structure Extended (s : Server) (refs : List ObjectReference) (u : Server) : Prop where
  others : ∀ key, key ∉ refs.map refKey → u.objects key = s.objects key
  added : ∀ key ∈ refs.map refKey, s.objects key = none ∧ ∀ machine, u.objects key ≠ some (.machine machine)

theorem Extended.refl (s : Server) : Extended s [] s :=
  ⟨fun _ _ => rfl, fun key mem => absurd mem (by simp)⟩

theorem Extended.add {s u : Server} {ref : ObjectReference} {object : Object}
    (extended : Extended s refs u) (free : u.objects (refKey ref) = none)
    (other : ∀ machine, object ≠ .machine machine) : Extended s (refs ++ [ref]) (u.add (refKey ref) object) := by
  have absent : s.objects (refKey ref) = none := by
    by_cases earlier : refKey ref ∈ refs.map refKey
    · exact (extended.added _ earlier).1
    · rw [← extended.others _ earlier, free]
  refine ⟨fun key outside => ?_, fun key mem => ?_⟩
  · simp only [map_append, map_cons, map_nil, mem_append, mem_singleton, not_or] at outside
    exact (Server.objects_add_of_ne _ _ outside.2).trans (extended.others key outside.1)
  · by_cases here : key = refKey ref
    · subst here
      refine ⟨absent, fun machine same => ?_⟩
      rw [Server.objects_add_self, Option.some.injEq] at same
      exact other machine same
    · have earlier : key ∈ refs.map refKey := by simpa [here] using mem
      refine ⟨(extended.added key earlier).1, fun machine same => ?_⟩
      rw [Server.objects_add_of_ne _ _ here] at same
      exact (extended.added key earlier).2 machine same

/-- There is no new machine, and no new object if everything could be deleted. -/
structure Reverted (s t : Server) : Prop where
  machines : ∀ key machine, t.objects key = some (.machine machine) → s.objects key = some (.machine machine)
  objects : t.undeleted = false → t.objects = s.objects

theorem Reverted.refl (s : Server) : Reverted s s :=
  ⟨fun _ _ mem => mem, fun _ => rfl⟩

theorem Extended.reverted {s u t : Server} (extended : Extended s refs u)
    (cleaned : Cleaned u refs t) : Reverted s t := by
  refine ⟨fun key machine mem => ?_, fun clean => ?_⟩
  · rcases cleaned.fewer key with same | gone
    · rw [same] at mem
      by_cases added : key ∈ refs.map refKey
      · exact absurd mem ((extended.added key added).2 machine)
      · rw [← extended.others key added, mem]
    · rw [gone] at mem
      cases mem
  · funext key
    rw [cleaned.removed clean, removeAll_apply]
    split
    next added => exact (extended.added key added).1.symm
    next outside => exact extended.others key outside

section Atomicity

variable (cluster : Cluster) (ocnecp : OCNEControlPlane) (codec : Codec) (bootstrapSpec : OCNEConfigSpec)
  (failureDomain : Option String)

/-- One clone, one configuration and one machine that refers to both. -/
structure Made where
  infraRef : ObjectReference
  config : OCNEConfig
  uid : String
  machine : Machine

def Made.keys (made : Made) : List Key :=
  [refKey made.infraRef, configKey made.config, machineKey made.machine]

def Made.Refers (made : Made) : Prop :=
  made.machine.infrastructureRef = made.infraRef ∧
    made.machine.configRef = some ⟨bootstrapGroupVersion, "OCNEConfig", made.config.ns, made.config.name, made.uid⟩

/-- The three objects are there under free keys, and nothing else has changed. -/
def Complete (input : CreateFromTemplateInput) (s t : Server) : Prop :=
  ∃ made : Made, made.Refers ∧ made.keys.Nodup ∧ (∀ key ∈ made.keys, s.objects key = none) ∧
    t = ((s.add (refKey made.infraRef) (.clone input)).add (configKey made.config) (.config made.config)).add
      (machineKey made.machine) (.machine made.machine)

/-- All three objects, or none. -/
def Atomic (input : CreateFromTemplateInput) (s : Server) (result : Except Err Unit) (t : Server) : Prop :=
  match result with
  | .ok _ => Complete input s t
  | .error _ => Reverted s t

theorem ne_of_free {s : Server} {key other : Key} {object : Object} (free : (s.add other object).objects key = none) :
    key ≠ other ∧ s.objects key = none := by
  by_cases same : key = other
  · rw [same, Server.objects_add_self] at free
    cases free
  · rw [Server.objects_add_of_ne _ _ same] at free
    exact ⟨same, free⟩

theorem wpE_cloneConfigsAndGenerateMachine (s : Server) :
    wpE serving any (fun _ t => Complete (newInfraInput cluster ocnecp) s t) (fun _ t => Reverted s t)
      (cloneConfigsAndGenerateMachine cluster ocnecp codec bootstrapSpec failureDomain) s := by
  simp only [cloneConfigsAndGenerateMachine, wpE_bind, wpE_adaptError, wpE_attempt]
  refine wpE_createFromTemplate.mpr ⟨fun infraRef freeClone => ?_, fun error => .refl s⟩
  have cloned : Extended s [infraRef] (s.add (refKey infraRef) (.clone (newInfraInput cluster ocnecp))) :=
    (Extended.refl s).add freeClone (by simp)
  simp only [generateKubeadmConfig, wpE_bind, wpE_adaptError]
  refine wpE_generateName.mpr fun configName => wpE_createOCNEConfig.mpr ⟨fun uid freeConfig => ?_, fun error => ?_⟩
  swap
  · exact wpE_abandonGeneration fun _ t cleaned => cloned.reverted cleaned
  let bootstrapRef : ObjectReference := ⟨bootstrapGroupVersion, "OCNEConfig", ocnecp.ns, configName, uid⟩
  have configured : Extended s [infraRef, bootstrapRef] _ := cloned.add freeConfig
    (by simp : ∀ machine, Object.config (newOCNEConfig cluster ocnecp configName bootstrapSpec) ≠ .machine machine)
  simp only [wpE_pure, wpE_bind, generateMachine, wpE_adaptError, wpE_mk, wp_pure]
  refine wpE_generateName.mpr fun name => ?_
  cases codec.marshal ocnecp.spec.controlPlaneConfig.clusterConfiguration with
  | error error => exact wpE_abandonGeneration fun _ t cleaned => configured.reverted cleaned
  | ok clusterConfig =>
    refine wpE_createMachine.mpr ⟨fun _ freeMachine => ?_, fun error => ?_⟩
    · obtain ⟨notConfig, freeMachine⟩ := ne_of_free freeMachine
      obtain ⟨notClone, freeMachine⟩ := ne_of_free freeMachine
      obtain ⟨configNotClone, freeConfig⟩ := ne_of_free freeConfig
      refine ⟨⟨infraRef, newOCNEConfig cluster ocnecp configName bootstrapSpec, uid,
        newMachine cluster ocnecp name infraRef bootstrapRef failureDomain clusterConfig⟩, ⟨rfl, rfl⟩, ?_, ?_, rfl⟩
      · simp only [Made.keys, nodup_cons, mem_cons, not_mem_nil, or_false, not_or, not_false_eq_true,
          nodup_nil, and_true]
        exact ⟨⟨configNotClone.symm, notClone.symm⟩, notConfig.symm⟩
      · simp only [Made.keys, forall_mem_cons, not_mem_nil, false_implies, implies_true, and_true]
        exact ⟨freeClone, freeConfig, freeMachine⟩
    · exact wpE_abandonGeneration fun _ t cleaned => configured.reverted cleaned

/-- A creation that succeeds leaves three new objects, and one that fails and could delete everything none. -/
theorem machine_creation_atomic {s t : Server} {trace : List (Event signature Server)} {result : Except Err Unit}
    (run : Run serving (cloneConfigsAndGenerateMachine cluster ocnecp codec bootstrapSpec failureDomain).run s trace
      (.done result) t) :
    Atomic (newInfraInput cluster ocnecp) s result t := by
  have held := wp_done run (wpE_cloneConfigsAndGenerateMachine cluster ocnecp codec bootstrapSpec failureDomain s)
  cases result <;> exact held

private def vacant : Server := ⟨fun _ => none, false⟩

private def plainCodec : Codec := ⟨fun _ => .ok "", fun _ => .ok none⟩

private def cloneRef : ObjectReference :=
  ⟨"infrastructure.cluster.x-k8s.io/v1beta1", "InfraMachine", "default", "cp-0", "1"⟩

private def sampleConfig : OCNEConfig := newOCNEConfig default default "cp-1" default

private def withClone : Server := vacant.add (refKey cloneRef) (.clone (newInfraInput default default))

private def withConfig : Server := withClone.add (configKey sampleConfig) (.config sampleConfig)

private def cleared : Server := (withConfig.remove (refKey cloneRef)).remove (configKey sampleConfig)

private theorem refused_run : ∃ trace error, Run serving
    (cloneConfigsAndGenerateMachine default default plainCodec default none).run vacant trace (.done (.error error)) cleared := by
  have clone : serving vacant (.createFromTemplate (newInfraInput default default)) (.ok cloneRef) withClone := ⟨rfl, rfl⟩
  have firstName : serving withClone (.generateName "-") "cp-1" withClone := rfl
  have config : serving withClone (.createOCNEConfig sampleConfig) (.ok "2") withConfig := ⟨rfl, rfl⟩
  have secondName : serving withConfig (.generateName "-") "cp-2" withConfig := rfl
  have refused : ∀ machine, serving withConfig (.createMachine machine) (.error (errorf "refused")) withConfig :=
    fun _ => rfl
  have first : serving withConfig (.deleteObject cloneRef) (.ok ()) (withConfig.remove (refKey cloneRef)) := rfl
  have second : serving (withConfig.remove (refKey cloneRef))
      (.deleteObject ⟨bootstrapGroupVersion, "OCNEConfig", "", "cp-1", "2"⟩) (.ok ()) cleared := rfl
  exact ⟨_, _, .step clone (.step firstName (.step config (.step secondName (.step (refused _) (.step first
    (.step second (.here _ _)))))))⟩

theorem refused_creation_reverted : cleared.undeleted = false ∧
    ∃ error, Atomic (newInfraInput default default) vacant (.error error) cleared := by
  obtain ⟨trace, error, run⟩ := refused_run
  exact ⟨rfl, error, machine_creation_atomic default default plainCodec default none run⟩

end Atomicity

end OcneProvider.Controller.Creation
