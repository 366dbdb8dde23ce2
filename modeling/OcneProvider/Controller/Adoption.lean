import OcneProvider.Controller.Versions

/-! The adoption of machines: all of them are checked, in any order, before the first is changed. -/

namespace OcneProvider.Controller.Adoption
open Api.Meta Api.Bootstrap Api.Objects Api.Formats Collections Calls Plane Reconcile Discipline Versions
open Effects.Program Effects.Fallible

def changes : Call → Bool
  | .createMachine _ | .patchMachine _ _ | .deleteMachine _ | .deleteObject _ | .reconcileKubeconfig => true
  | .task (.adoptOwnedSecrets _) | .task .lookupOrGenerateCertificates | .task .ensureCertificatesOwnerRef => true
  | _ => false

section Orders

variable (runtime : Runtime) (ocnecp : OCNEControlPlane)

structure Adoptable (machine : Machine) : Prop where
  reference : ∃ ref, machine.configRef = some ref ∧ ref.kind = "OCNEConfig" ∧ (ref.ns = "" ∨ ref.ns = ocnecp.ns)
  version : ∀ text, machine.version = some text → ∃ own other,
    runtime.parseTolerant ocnecp.spec.version = .ok own ∧ runtime.parseTolerant text = .ok other ∧
      own.major = other.major ∧ own.minor ≤ other.minor + 1 ∧ other.minor ≤ own.minor + 1

variable {runtime ocnecp}

theorem checkAdoption_reference {version : Version} {machine : Machine}
    (checked : checkAdoption runtime ocnecp version machine = .ok true) :
    ∃ ref, machine.configRef = some ref ∧ ref.kind = "OCNEConfig" ∧ (ref.ns = "" ∨ ref.ns = ocnecp.ns) := by
  unfold checkAdoption at checked
  cases given : machine.configRef with
  | none =>
    rw [given] at checked
    cases checked
  | some ref =>
    rw [given] at checked
    by_cases kind : ref.kind = "OCNEConfig"
    · by_cases across : ref.ns ≠ "" ∧ ref.ns ≠ ocnecp.ns
      · simp [kind, across, bind, Except.bind, throw, throwThe, MonadExceptOf.throw] at checked
      · exact ⟨ref, rfl, kind, by tauto⟩
    · simp [kind, bind, Except.bind, throw, throwThe, MonadExceptOf.throw] at checked

theorem adoptable_of_checkAdoption {own : Version} {machine : Machine}
    (parsed : runtime.parseTolerant ocnecp.spec.version = .ok own)
    (checked : checkAdoption runtime ocnecp own machine = .ok true) : Adoptable runtime ocnecp machine := by
  refine ⟨checkAdoption_reference checked, fun text given => ?_⟩
  obtain ⟨other, read, supported⟩ := checkAdoption_version checked given
  exact ⟨own, other, parsed, read, skew_of_isSupportedVersionSkew supported⟩

theorem adoptUndeleted_within (checked adopted : List Machine) :
    WithinE (fun call => changes call = true → ∀ machine ∈ checked, Adoptable runtime ocnecp machine) (fun _ => True)
      (adoptUndeleted runtime ocnecp checked adopted) := by
  refine withinE_bind.mpr (withinE_adaptError.mpr fun own parsed => ?_)
  refine withinE_bind.mpr fun passed result => ?_
  cases passed with
  | false => exact withinE_pure.mpr trivial
  | true =>
    have adoptable : ∀ machine ∈ checked, Adoptable runtime ocnecp machine := fun machine mem =>
      adoptable_of_checkAdoption parsed (checkAdoption_of_checkAdoptions result mem)
    exact within_mono (within_of_forall (fun _ _ => adoptable) _) fun _ _ _ _ => trivial

def undeleted {σ : Type} (before after : σ) : Event signature σ :=
  ⟨before, .getControlPlaneUncached, .ok none, after⟩

/-- However far it gets, an adoption that has changed something has found the control plane undeleted and every
machine adoptable. -/
theorem adoption_checked_first {σ : Type} {env : Env signature σ} (machines : Machines) {checked adopted : List Machine}
    (order : checked.Perm machines.items) {s t : σ} {trace : List (Event signature σ)}
    {rest : Prog signature (Except Err Unit)} (run : Run env (adoptMachines runtime ocnecp checked adopted).run s trace rest t)
    {event : Event signature σ} (mem : event ∈ trace) (changing : changes event.request = true) :
    (∃ before after, undeleted before after ∈ trace) ∧ ∀ machine ∈ machines, Adoptable runtime ocnecp machine := by
  cases run with
  | here => cases mem
  | @step _ _ _ between _ answer later _ allowed run =>
    have notRead : event ∈ later := by
      rcases List.mem_cons.mp mem with rfl | mem
      · cases changing
      · exact mem
    match answer with
    | .error error =>
      cases run
      cases notRead
    | .ok (some time) =>
      cases run
      cases notRead
    | .ok none =>
      have passed := (adoptUndeleted_within checked adopted).events run event notRead changing
      exact ⟨⟨s, between, .head _⟩, fun machine listed => passed machine (order.mem_iff.mpr listed)⟩

end Orders

private def adopting : OCNEControlPlane :=
  { (default : OCNEControlPlane) with
    name := "prod", spec := { (default : OCNEControlPlaneSpec) with version := "v1.25.7" } }

private def orphan (name version : String) : Machine :=
  { (default : Machine) with
    name := name, version := some version
    configRef := some ⟨"bootstrap.cluster.x-k8s.io/v1alpha1", "OCNEConfig", "", name, "1"⟩ }

private def orphans : Machines := ⟨[orphan "prod-0" "v1.25.7", orphan "prod-1" "v1.24.8"], by decide⟩

private def unlimited : Env signature Unit := fun _ _ _ _ => True

private theorem first_orphan_adopted : ∃ trace rest,
    Run unlimited (adoptMachines default adopting orphans.items.reverse orphans.items).run () trace rest () ∧
      ⟨(), .patchMachine "prod-0" ⟨none, [], some [adopting.newControllerRef]⟩, .ok (), ()⟩ ∈ trace := by
  have allowed : ∀ (call : Call) (answer : call.Answer), unlimited () call answer () := fun _ _ => trivial
  exact ⟨_, _, .step (allowed .getControlPlaneUncached (.ok none)) (.step (allowed (.getOCNEConfig _ _) (.ok default))
    (.step (allowed (.task _) (.ok ())) (.step (allowed (.task _) (.ok ())) (.step (allowed (.patchMachine _ _) (.ok ()))
      (.here _ _))))), .tail _ (.tail _ (.tail _ (.tail _ (.head _))))⟩

/-- When the first machine is written, the second one has been checked as well. -/
theorem orphans_adoptable : Adoptable default adopting (orphan "prod-0" "v1.25.7") ∧
    Adoptable default adopting (orphan "prod-1" "v1.24.8") := by
  obtain ⟨trace, rest, run, mem⟩ := first_orphan_adopted
  have passed := (adoption_checked_first orphans (List.reverse_perm _) run mem rfl).2
  exact ⟨passed _ (.head _), passed _ (.tail _ (.head _))⟩

end OcneProvider.Controller.Adoption
