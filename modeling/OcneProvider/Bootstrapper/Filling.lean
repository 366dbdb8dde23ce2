import OcneProvider.Bootstrapper.Reconciler

/-! What a pass of the bootstrap controller can do to a configuration. -/

namespace OcneProvider.Bootstrapper.Filling
open Api.Meta Api.Bootstrap Api.Objects Controller.Calls
open Reconciler Effects.Stateful

/-- The join configuration, with nothing changed that its user has given. -/
structure JoinKept (before after : JoinConfiguration) : Prop where
  others : after = { before with discovery := after.discovery, controlPlane := after.controlPlane }
  controlPlane : ∀ given, before.controlPlane = some given → after.controlPlane = some given

/-- Only the join part changes, and what is there is kept. -/
structure JoinFilled (before after : Config) : Prop where
  others : after.spec = { before.spec with joinConfiguration := after.spec.joinConfiguration }
  join : ∀ given, before.spec.joinConfiguration = some given →
    ∃ filled, after.spec.joinConfiguration = some filled ∧ JoinKept given filled

/-- Only the init and cluster parts change, and an init part that is there is kept. -/
structure InitFilled (before after : Config) : Prop where
  others : after.spec = { before.spec with
    initConfiguration := after.spec.initConfiguration, clusterConfiguration := after.spec.clusterConfiguration }
  init : ∀ given, before.spec.initConfiguration = some given → after.spec.initConfiguration = some given

def SpecKept (before after : Config) : Prop :=
  after.spec = before.spec

theorem JoinKept.refl (join : JoinConfiguration) : JoinKept join join :=
  ⟨rfl, fun _ given => given⟩

theorem JoinKept.trans {first middle last : JoinConfiguration} (earlier : JoinKept first middle)
    (later : JoinKept middle last) : JoinKept first last where
  others := by rw [later.others, earlier.others]
  controlPlane given known := later.controlPlane given (earlier.controlPlane given known)

instance : IsPreorder Config JoinFilled where
  refl config := ⟨rfl, fun given known => ⟨given, known, .refl given⟩⟩
  trans first middle last earlier later := by
    refine ⟨by rw [later.others, earlier.others], fun given known => ?_⟩
    obtain ⟨filled, known, kept⟩ := earlier.join given known
    obtain ⟨again, known, keptAgain⟩ := later.join filled known
    exact ⟨again, known, kept.trans keptAgain⟩

instance : IsPreorder Config InitFilled where
  refl config := ⟨rfl, fun _ known => known⟩
  trans first middle last earlier later :=
    ⟨by rw [later.others, earlier.others], fun given known => later.init given (earlier.init given known)⟩

instance : IsPreorder Config SpecKept where
  refl _ := rfl
  trans _ _ _ earlier later := Eq.trans later earlier

section Rules

variable {R : Config → Config → Prop}

theorem setReady_moves (keeps : ∀ before after, SpecKept before after → R before after) (name : String) :
    Moves R (setReady name) :=
  Moves.modify _ fun _ => keeps _ _ rfl

variable [IsPreorder Config R]

theorem fallible_moves {α : Type} {answer : Except Err α} : Moves R (fallible answer) :=
  Moves.except answer

theorem renderAndStore_moves (keeps : ∀ before after, SpecKept before after → R before after)
    (answers : Answers) : Moves R (renderAndStore answers) := by
  refine .bind fallible_moves fun _ => .bind fallible_moves fun _ => .bind fallible_moves fun _ => ?_
  exact .bind fallible_moves fun name => .bind (setReady_moves keeps name) fun _ => .pure _

theorem parseVersion_moves {settings : Settings} {owner : ConfigOwner} : Moves R (parseVersion settings owner) :=
  .adapt _ fallible_moves

theorem getJoin_moves : Moves R getJoin := by
  refine .bind .get fun config => ?_
  cases config.spec.joinConfiguration with
  | none => exact .throw _
  | some join => exact .pure _

theorem getBootstrapToken_moves : Moves R getBootstrapToken := by
  refine .bind getJoin_moves fun join => ?_
  cases join.discovery.bootstrapToken with
  | none => exact .throw _
  | some token => exact .pure _

end Rules

section Paths

variable {R : Config → Config → Prop} [IsPreorder Config R] (keeps : ∀ before after, SpecKept before after → R before after)

include keeps

theorem bootstrapFirst_moves (settings : Settings) (answers : Answers) {owner : ConfigOwner} (view : ClusterView)
    (fillInit : Moves R (modifySpec fillInitConfiguration))
    (fillCluster : Moves R (modifySpec (fillClusterConfiguration view owner.version))) :
    Moves R (bootstrapFirst settings answers owner view) := by
  refine .bind parseVersion_moves fun _ => .bind fillInit fun _ => .bind fallible_moves fun _ => ?_
  refine .bind fillCluster fun _ => .bind fallible_moves fun _ => .bind fallible_moves fun _ => ?_
  exact .bind fallible_moves fun _ => renderAndStore_moves keeps answers

omit keeps
variable (discovery : ∀ change, Moves R (modifyDiscovery change))
include discovery

variable (answers : Answers) (view : ClusterView)

theorem ensureHashes_moves : Moves R (ensureHashes answers) :=
  .bind getBootstrapToken_moves fun _ => .ite (fun _ => .pure _) fun _ =>
    .bind fallible_moves fun _ => discovery _

theorem ensureToken_moves : Moves R (ensureToken answers) :=
  .bind getBootstrapToken_moves fun _ => .ite (fun _ => .pure _) fun _ =>
    .bind fallible_moves fun _ => .bind (.adapt _ fallible_moves) fun _ => discovery _

theorem reconcileDiscovery_moves : Moves R (reconcileDiscovery answers view) := by
  refine .bind getJoin_moves fun join => .ite (fun _ => .pure _) fun _ => ?_
  refine .bind (discovery _) fun _ => .bind (ensureHashes_moves discovery answers) fun _ => ?_
  refine .bind getBootstrapToken_moves fun token => .ite (fun _ => .pure _) fun _ => ?_
  refine .bind (discovery _) fun _ => .bind (ensureToken_moves discovery answers) fun _ => ?_
  exact .bind (discovery _) fun _ => .pure _

theorem prepareJoin_moves : Moves R (prepareJoin answers view) :=
  .bind fallible_moves fun _ => .bind fallible_moves fun _ => reconcileDiscovery_moves discovery answers view

end Paths

variable (settings : Settings) (answers : Answers) (owner : ConfigOwner) (view : ClusterView) (config : Config)

theorem bootstrapFirst_initFilled : Moves InitFilled (bootstrapFirst settings answers owner view) := by
  have keeps : ∀ before after, SpecKept before after → InitFilled before after :=
    fun _ _ same => ⟨by rw [same], fun _ known => by rw [same]; exact known⟩
  refine bootstrapFirst_moves keeps settings answers view ?_ ?_
  · exact Moves.modify _ fun config => ⟨rfl, fun given known => by simp [fillInitConfiguration, known]⟩
  · exact Moves.modify _ fun config => ⟨rfl, fun given known => known⟩

theorem bootstrapFirst_unparsed {settings : Settings}
    {error : Err} (unparsed : settings.parseTolerant owner.kubernetesVersion = .error error) :
    Moves SpecKept (bootstrapFirst settings answers owner view) := by
  intro config
  rw [bootstrapFirst, outcome_bind, parseVersion, unparsed]
  rfl

theorem modifyJoin_moves (change : JoinConfiguration → JoinConfiguration) (kept : ∀ join, JoinKept join (change join)) :
    Moves JoinFilled (modifyJoin change) :=
  Moves.modify _ fun config => ⟨rfl, fun given known => ⟨change given, by simp [known], kept given⟩⟩

theorem modifyDiscovery_moves (change : Discovery → Discovery) : Moves JoinFilled (modifyDiscovery change) :=
  modifyJoin_moves _ fun _ => ⟨rfl, fun _ known => known⟩

theorem joinControlplane_moves : Moves JoinFilled (joinControlplane settings answers owner view) := by
  have fillControlPlane : ∀ join : JoinConfiguration,
      JoinKept join { join with controlPlane := some (join.controlPlane.getD ⟨⟨"", 0⟩⟩) } :=
    fun join => ⟨rfl, fun given known => by simp [known]⟩
  refine .ite (fun _ => .throw _) fun _ => .bind (modifyJoin_moves _ fillControlPlane) fun _ => ?_
  refine .bind (prepareJoin_moves modifyDiscovery_moves answers view) fun _ => .ite (fun _ => .pure _) fun _ => ?_
  refine .bind parseVersion_moves fun _ => .bind fallible_moves fun _ => ?_
  exact renderAndStore_moves (fun _ _ same => ⟨by rw [same], fun given known => ⟨given, by rw [same]; exact known, .refl given⟩⟩) answers

/-- What a pass does to the configuration, by the path it takes. -/
inductive Passed (settings : Settings) (answers : Answers) (owner : ConfigOwner) (view : ClusterView)
    (before after : Config) : Prop where
  | kept (same : SpecKept before after)
  | initialized (uninitialized : view.initialized = false) (unready : before.ready = false)
    (locked : answers.lock = true) {version : Api.Formats.Version}
    (parsed : settings.parseTolerant owner.kubernetesVersion = .ok version)
    (given : before.spec.initConfiguration ≠ none ∨ before.spec.clusterConfiguration ≠ none)
    (filled : InitFilled before after)
  | joined (initialized : view.initialized = true) (unready : before.ready = false) (filled : JoinFilled before after)

theorem handleClusterNotInitialized_passed (uninitialized : view.initialized = false) (unready : config.ready = false) :
    Passed settings answers owner view config (outcome (handleClusterNotInitialized settings answers owner view) config).2 := by
  have kept : ∀ program : Pass Result, Moves SpecKept program →
      Passed settings answers owner view config (outcome program config).2 := fun program moves => .kept (moves config)
  change Passed _ _ _ _ _ (outcome (if !owner.isControlPlaneMachine then _ else _) config).2
  split
  next => exact kept _ (.pure _)
  split
  next => exact kept _ (.pure _)
  next given =>
    have convert {R : Config → Config → Prop} [IsPreorder Config R] : Moves R
        (ExceptT.adapt (Err.wrap ("cannot convert " ++ owner.kind ++ " to Machine"))
          (fallible answers.convertMachine) : Pass Unit) := .adapt _ fallible_moves
    cases lock : answers.lock with
    | false => exact kept _ (.bind convert fun _ => .ite (fun _ => .pure _) fun locked => absurd rfl locked)
    | true =>
      cases parsed : settings.parseTolerant owner.kubernetesVersion with
      | error error =>
        exact kept _ (.bind convert fun _ => .ite (fun _ => .pure _) fun _ =>
          .adapt _ (bootstrapFirst_unparsed answers owner view parsed))
      | ok version =>
        refine .initialized uninitialized unready lock parsed ?_ ?_
        · simpa [Classical.or_iff_not_imp_left] using given
        · exact Moves.bind convert (fun _ => .ite (fun _ => .pure _) fun _ =>
            .adapt _ (bootstrapFirst_initFilled settings answers owner view)) config

theorem isMachinePool_of_machine {owner : ConfigOwner} (machine : owner.isControlPlaneMachine = true) :
    owner.isMachinePool = false := by
  have kind : owner.kind = "Machine" := by
    simp only [ConfigOwner.isControlPlaneMachine, Bool.and_eq_true, beq_iff_eq] at machine
    exact machine.1
  simp [ConfigOwner.isMachinePool, kind]

theorem keepFresh_moves
    (machine : owner.isMachinePool = false) : Moves SpecKept (keepFresh settings answers owner view) := by
  refine .bind .get fun config => .ite (fun _ => ?_) fun _ => .ite (fun pool => ?_) fun _ => .pure _
  · exact .bind fallible_moves fun _ => .bind (.adapt _ fallible_moves) fun _ => .pure _
  · simp [machine] at pool

theorem reconcile_passed (machine : owner.isControlPlaneMachine = true) :
    Passed settings answers owner view config (outcome (reconcile settings answers owner view) config).2 := by
  have kept : ∀ program : Pass Result, Moves SpecKept program →
      Passed settings answers owner view config (outcome program config).2 := fun program moves => .kept (moves config)
  unfold reconcile
  cases answers.bootstrapSecretOwners with
  | error error => exact .kept rfl
  | ok owners =>
    change Passed _ _ _ _ _ (outcome (if !view.cluster.infrastructureReady then _ else _) config).2
    split
    next => exact kept _ (.pure _)
    split
    next => exact kept _ (.bind (setReady_moves (fun _ _ same => same) _) fun _ => .pure _)
    split
    next => exact kept _ (keepFresh_moves settings answers owner view (isMachinePool_of_machine machine))
    next unready =>
      have unready : config.ready = false := by simpa using unready
      cases initialized : view.initialized with
      | false => exact handleClusterNotInitialized_passed settings answers owner view config initialized unready
      | true =>
        have fillJoin : Moves JoinFilled (modifySpec fillJoinConfiguration) := Moves.modify _ fun config =>
          ⟨rfl, fun given known => ⟨given, by simp [fillJoinConfiguration, known], .refl given⟩⟩
        exact .joined initialized unready
          (Moves.bind fillJoin (fun _ => joinControlplane_moves settings answers owner view) config)

/-- A pass that gets the init lock fills in the init part, also if it fails right after. -/
theorem reconcile_fills_init {version : Api.Formats.Version} {error : Err} (machine : owner.isControlPlaneMachine = true)
    (secret : owner.dataSecretName = none) (infrastructure : view.cluster.infrastructureReady = true)
    (uninitialized : view.initialized = false) (owners : answers.bootstrapSecretOwners = .ok ())
    (converted : answers.convertMachine = .ok ()) (locked : answers.lock = true)
    (parsed : settings.parseTolerant owner.kubernetesVersion = .ok version) (failed : answers.marshal = .error error)
    (unready : config.ready = false) (given : config.spec.clusterConfiguration ≠ none) :
    (outcome (reconcile settings answers owner view) config).2.spec = fillInitConfiguration config.spec := by
  simp [reconcile, handleClusterNotInitialized, bootstrapFirst, parseVersion, fallible, modifySpec, machine, secret,
    infrastructure, uninitialized, owners, converted, locked, parsed, failed, unready, given]

end OcneProvider.Bootstrapper.Filling
