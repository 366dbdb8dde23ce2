import OcneProvider.Webhooks.Validation

/-! The scale subresource has a validator of its own, which only knows the
number of replicas it is asked for and the etcd mode of the stored object. -/

namespace OcneProvider.Webhooks.Scaling
open Api.Meta Api.Bootstrap Api.Objects Validation

structure Scale where
  name : String
  ns : String
  replicas : Int32
  deriving DecidableEq

inductive Response where
  | allowed
  | denied (reason : String)
  | errored (code : Nat) (error : Err)
  deriving DecidableEq

/-- Given how the request decodes and what reading the control plane returns. -/
def handle (get : (ns name : String) → Except Err OCNEControlPlane) (decoded : Except Err Scale) : Response :=
  match decoded with
  | .error error => .errored 400 (error.wrap "failed to decode Scale resource")
  | .ok scale =>
    match get scale.ns scale.name with
    | .error error => .errored 500 (error.wrap ("failed to get OCNEControlPlane " ++ scale.ns ++ "/" ++ scale.name))
    | .ok ocnecp =>
      if scale.replicas = 0 then .denied "replicas cannot be 0"
      else if !externalEtcd ocnecp.spec && scale.replicas % 2 == 0 then
        .denied "replicas cannot be an even number when etcd is stacked"
      else .allowed

theorem handle_eq_allowed_iff (get : (ns name : String) → Except Err OCNEControlPlane) {scale : Scale}
    {stored : OCNEControlPlane} (found : get scale.ns scale.name = .ok stored) : handle get (.ok scale) = .allowed ↔
      scale.replicas ≠ 0 ∧ (externalEtcd stored.spec = false → scale.replicas % 2 ≠ 0) := by
  simp only [handle, found]
  split
  next zero => simp [zero]
  next nonzero =>
    split
    next stacked => simp_all
    next odd => simp_all

def scaled (spec : OCNEControlPlaneSpec) (replicas : Int32) : OCNEControlPlaneSpec :=
  { spec with replicas := some replicas }

/-- Whether a rollout removes a machine before it adds one. -/
def scalesIn (spec : OCNEControlPlaneSpec) : Bool :=
  ((spec.rolloutStrategy.bind RolloutStrategy.rollingUpdate).bind RollingUpdate.maxSurge).any (·.intValue == 0)

variable (stored : OCNEControlPlaneSpec)

theorem validateRolloutStrategy_scaled (path : String) {before : Int32}
    (valid : validateRolloutStrategy stored.rolloutStrategy (some before) path = .ok []) (replicas : Int32) :
    validateRolloutStrategy stored.rolloutStrategy (some replicas) path = .ok [] ↔
      (scalesIn stored = true → 3 ≤ replicas) := by
  rw [validateRolloutStrategy_eq_ok_nil] at valid ⊢
  cases chosen : stored.rolloutStrategy with
  | none => simp [scalesIn, chosen]
  | some strategy =>
    obtain ⟨maxSurge, rfl, surge⟩ := valid strategy chosen
    have apart : maxSurge.intValue = 1 → maxSurge.intValue ≠ 0 := by omega
    have known : scalesIn stored = true ↔ maxSurge.intValue = 0 := by simp [scalesIn, chosen]
    simp only [known, Option.some.injEq, forall_eq', RolloutStrategy.mk.injEq, RollingUpdate.mk.injEq, true_and,
      exists_eq_left']
    tauto

theorem validate_scaled {ns path : String}
    (valid : validateKubeadmControlPlaneSpec stored ns path = .ok []) (replicas : Int32) :
    validateKubeadmControlPlaneSpec (scaled stored replicas) ns path = .ok [] ↔
      (0 < replicas ∧ (externalEtcd stored = false → replicas % 2 ≠ 0)) ∧
      (scalesIn stored = true → 3 ≤ replicas) := by
  obtain ⟨counted, strategy, others⟩ := (validateKubeadmControlPlaneSpec_eq_ok_nil stored ns path).mp valid
  cases given : stored.replicas with
  | none => simp [validateReplicas, given] at counted
  | some before =>
    rw [given] at strategy
    rw [validateKubeadmControlPlaneSpec_eq_ok_nil, validateReplicas_eq_nil _ _ rfl,
      ← validateRolloutStrategy_scaled stored _ strategy replicas]
    exact and_congr_right fun _ => and_iff_left others

/-- A request that is allowed keeps the object valid exactly if its replicas are positive and fit the strategy. -/
theorem scale_keeps_valid_iff (get : (ns name : String) → Except Err OCNEControlPlane) (scale : Scale)
    (stored : OCNEControlPlane) (found : get scale.ns scale.name = .ok stored)
    (valid : validateKubeadmControlPlaneSpec stored.spec stored.ns "spec" = .ok []) :
    (handle get (.ok scale) = .allowed →
        validateKubeadmControlPlaneSpec (scaled stored.spec scale.replicas) stored.ns "spec" = .ok []) ↔
      scale.replicas = 0 ∨ (externalEtcd stored.spec = false ∧ scale.replicas % 2 = 0) ∨
        (0 < scale.replicas ∧ (scalesIn stored.spec = true → 3 ≤ scale.replicas)) := by
  rw [handle_eq_allowed_iff get found, validate_scaled stored.spec valid]
  tauto

private def three : OCNEControlPlane :=
  { name := "cp", ns := "default", uid := "u", deletionTimestamp := none, initialized := true, conditions := []
    spec := { (default : OCNEControlPlaneSpec) with
      replicas := some 3, version := "v1.25.7"
      machineTemplate := { (default : MachineTemplate) with
        infrastructureRef := ⟨"infrastructure.cluster.x-k8s.io/v1beta1", "MachineTemplate", "default", "template", ""⟩ }
      controlPlaneConfig := { (default : OCNEConfigSpec) with format := "cloud-config" }
      rolloutStrategy := some ⟨rollingUpdateStrategyType, some ⟨some (.int 0)⟩⟩ } }

theorem scale_to_five_keeps_valid : handle (fun _ _ => .ok three) (.ok ⟨"cp", "default", 5⟩) = .allowed ∧
    validateKubeadmControlPlaneSpec (scaled three.spec 5) "default" "spec" = .ok [] := by
  have allowed : handle (fun _ _ => .ok three) (.ok ⟨"cp", "default", 5⟩) = .allowed := by decide
  exact ⟨allowed, (scale_keeps_valid_iff (fun _ _ => .ok three) ⟨"cp", "default", 5⟩ three rfl
    (by decide)).mpr (by decide) allowed⟩

/-- Three replicas that a rollout scales in are admitted, and so is a request for one, which makes the object invalid.
-/
theorem scale_to_one_bypasses_validation : (∀ metadata, validateCreate false metadata three = .ok []) ∧
    handle (fun _ _ => .ok three) (.ok ⟨"cp", "default", 1⟩) = .allowed ∧
    validateKubeadmControlPlaneSpec (scaled three.spec 1) "default" "spec" ≠ .ok [] := by
  refine ⟨?_, by decide, by decide⟩
  intro metadata
  rfl

end OcneProvider.Webhooks.Scaling
