import OcneProvider.Api.Objects
import OcneProvider.Api.Owners
import OcneProvider.Bootstrapper.Certificates

/-! The owner references that the controllers write to secrets. -/

namespace OcneProvider.Controller.Ownership
open Api.Meta Api.Objects Api.Owners Bootstrapper.Certificates Effects.Program Effects.Fallible

section References

def removeController (controller : Option OwnerReference) (refs : List OwnerReference) : List OwnerReference :=
  match controller with
  | some controller => removeOwnerRef refs controller
  | none => refs

variable {refs base : List OwnerReference}

theorem mem_removeController (proper : Proper base) {controller : Option OwnerReference} {other : OwnerReference} :
    other ∈ removeController controller base ↔
      other ∈ base ∧ ∀ removed, controller = some removed → parses removed = true → ownerKey other ≠ ownerKey removed := by
  cases controller with
  | none => simp [removeController]
  | some removed =>
    cases readable : parses removed with
    | true => simpa [removeController, readable] using mem_removeOwnerRef proper readable
    | false => simp [removeController, removeOwnerRef_of_not_parses readable, readable]

theorem removeController_sublist (controller : Option OwnerReference) :
    (removeController controller refs).Sublist refs := by
  cases controller with
  | none => exact .refl _
  | some removed => exact removeOwnerRef_sublist

/-- A controller takes the place of the one before, if that is found or is the same owner. -/
theorem sound_removeController_iff {exempt drop : OwnerReference → Bool} {ref : OwnerReference} (proper : Proper refs)
    (fewer : base.Sublist refs) (others : ∀ other ∈ refs, exempt other = false → other ∈ base)
    (lost : ∀ other, isController other = true → exempt other = true) (readable : parses ref = true)
    (controls : isController ref = true) :
    Sound exempt refs (ensureOwnerRef (removeController ((getControllerOf refs).filter drop) base) ref) ↔
      ∀ controller ∈ base, getControllerOf refs = some controller →
        (drop controller = true ∧ parses controller = true) ∨ ownerKey controller = ownerKey ref := by
  have properBase := proper.sublist fewer
  have kept : ∀ other ∈ refs, exempt other = false → other ∈ removeController ((getControllerOf refs).filter drop) base := by
    intro other mem plain
    refine (mem_removeController properBase).mpr ⟨others other mem plain, fun removed found _ same => ?_⟩
    obtain ⟨removedMember, removedControls⟩ := mem_of_getControllerOf (Option.filter_eq_some_iff.mp found).1
    have equal : other = removed := List.inj_on_of_nodup_map proper.distinct mem removedMember same
    rw [equal, lost removed removedControls] at plain
    cases plain
  rw [sound_ensureOwnerRef_iff proper ((removeController_sublist _).trans fewer) kept readable controls]
  constructor
  · intro alone controller mem found
    by_cases removed : drop controller = true ∧ parses controller = true
    · exact .inl removed
    · refine .inr (alone controller ((mem_removeController properBase).mpr ⟨mem, ?_⟩) (mem_of_getControllerOf found).2)
      intro other filtered otherReadable
      obtain ⟨same, dropped⟩ := Option.filter_eq_some_iff.mp filtered
      obtain rfl : controller = other := Option.some.inj (found.symm.trans same)
      exact absurd ⟨dropped, otherReadable⟩ removed
  · intro replaced other mem otherControls
    obtain ⟨mem, left⟩ := (mem_removeController properBase).mp mem
    have found := proper.eq_getControllerOf (fewer.subset mem) otherControls
    rcases replaced other mem found with ⟨dropped, otherReadable⟩ | same
    · exact absurd rfl (left other (Option.filter_eq_some_iff.mpr ⟨found, dropped⟩) otherReadable)
    · exact same

end References

structure ConfigObject where
  ns : String
  name : String
  uid : String
  dataSecretName : Option String

def ConfigObject.identity (config : ConfigObject) : ObjectIdentity :=
  ⟨"bootstrap.cluster.x-k8s.io", "OCNEConfig", config.name⟩

def clusterIdentity (cluster : Cluster) : ObjectIdentity :=
  ⟨"cluster.x-k8s.io", "Cluster", cluster.name⟩

def clusterOwnerRef (cluster : Cluster) : OwnerReference :=
  ⟨"cluster.x-k8s.io/v1beta1", "Cluster", cluster.name, cluster.uid, none, none⟩

def bootstrapOwnerRef (config : ConfigObject) : OwnerReference :=
  ⟨"bootstrap.cluster.x-k8s.io/v1alpha1", "OCNEConfig", config.name, config.uid, some true, none⟩

inductive Call where
  | getSecret (key : ObjectKey)
  | listSecrets (ns clusterName : String)
  | newHelper (secret : String)
  | patchSecret (before after : Secret)
  | updateSecret (before after : Secret)

def Call.Answer : Call → Type
  | getSecret _ => Except Err Secret
  | listSecrets _ _ => Except Err (List Secret)
  | newHelper _ => Except Err Unit
  | patchSecret _ _ => Except Err Unit
  | updateSecret _ _ => Except Err Unit

def Call.written : Call → Option (List OwnerReference × List OwnerReference)
  | patchSecret before after | updateSecret before after => some (before.ownerReferences, after.ownerReferences)
  | _ => none

abbrev signature : Signature := ⟨Call, Call.Answer⟩

abbrev Api := Try signature Err

def getSecret (key : ObjectKey) : Api Secret := ExceptT.mk (Prog.perform (S := signature) (.getSecret key))

def listSecrets (ns clusterName : String) : Api (List Secret) :=
  ExceptT.mk (Prog.perform (S := signature) (.listSecrets ns clusterName))

def newHelper (secret : String) : Api Unit := ExceptT.mk (Prog.perform (S := signature) (.newHelper secret))

def patchSecret (before after : Secret) : Api Unit :=
  ExceptT.mk (Prog.perform (S := signature) (.patchSecret before after))

def updateSecret (before after : Secret) : Api Unit :=
  ExceptT.mk (Prog.perform (S := signature) (.updateSecret before after))

def bootstrapOwners (config : ConfigObject) (refs : List OwnerReference) : List OwnerReference :=
  ensureOwnerRef (removeController ((getControllerOf refs).filter (·.kind != "OCNEConfig")) refs) (bootstrapOwnerRef config)

def ensureBootstrapSecretOwnersRef (config : ConfigObject) (configOwner : String) : Api Unit := do
  let added := "add OCNEConfig " ++ configOwner ++ " as ownerReference to bootstrap Secret "
  match ← attempt (getSecret ⟨config.ns, config.name⟩) with
  | .error error =>
    -- the secret that was not read has no name
    if error.is .notFound then return () else throw (error.wrap ("failed to " ++ added))
  | .ok secret =>
    adaptError (Err.wrap ("failed to " ++ added ++ secret.name)) (newHelper secret.name)
    adaptError (Err.wrap ("could not " ++ added ++ secret.name))
      (patchSecret secret { secret with ownerReferences := bootstrapOwners config secret.ownerReferences })

def printedFlag : Option Bool → String
  | none => "nil"
  | some flag => "*" ++ toString flag

def printedOwner (ref : OwnerReference) : String :=
  "&OwnerReference\x7bKind:" ++ ref.kind ++ ",Name:" ++ ref.name ++ ",UID:" ++ ref.uid ++ ",APIVersion:" ++ ref.apiVersion ++
    ",Controller:" ++ printedFlag ref.controller ++ ",BlockOwnerDeletion:" ++ printedFlag ref.blockOwnerDeletion ++ ",\x7d"

def certificateOwners (owner : OwnerReference) (refs : List OwnerReference) : List OwnerReference :=
  ensureOwnerRef (removeController (getControllerOf refs) refs) owner

def ensureCertificatesOwnerRef (clusterKey : ObjectKey) (owner : OwnerReference) : List Certificate → Api Unit
  | [] => return ()
  | certificate :: rest => do
    let key : ObjectKey := ⟨clusterKey.ns, secretName clusterKey.name certificate.purpose⟩
    let text := key.ns ++ "/" ++ key.name
    let secret ← adaptError (Err.wrap ("failed to get Secret " ++ text)) (getSecret key)
    if secret.type = clusterSecretType then
      adaptError (Err.wrap ("failed to create patchHelper for Secret " ++ text)) (newHelper secret.name)
      adaptError (Err.wrap ("failed to patch Secret " ++ text ++ " with ownerReference " ++ printedOwner owner))
        (patchSecret secret { secret with ownerReferences := certificateOwners owner secret.ownerReferences })
    ensureCertificatesOwnerRef clusterKey owner rest

def withoutCluster (cluster : Cluster) (refs : List OwnerReference) : List OwnerReference :=
  if isOwnedByObject refs (clusterIdentity cluster) then removeOwnerRef refs (clusterOwnerRef cluster) else refs

def kubeconfigOwners (cluster : Cluster) (ocnecp : OCNEControlPlane) (refs : List OwnerReference) : List OwnerReference :=
  ensureOwnerRef (removeController (getControllerOf refs) (withoutCluster cluster refs)) ocnecp.newControllerRef

def adoptKubeconfigSecret (cluster : Cluster) (secret : Secret) (ocnecp : OCNEControlPlane) : Api Unit := do
  if secret.type ≠ clusterSecretType then return ()
  else if (getControllerOf secret.ownerReferences).any (·.kind == "OCNEControlPlane") then return ()
  else
    adaptError (Err.wrap "failed to create patch helper for the kubeconfig secret") (newHelper secret.name)
    adaptError (Err.wrap "failed to patch the kubeconfig secret")
      (patchSecret secret { secret with ownerReferences := kubeconfigOwners cluster ocnecp secret.ownerReferences })

def adoptEach (ocnecp : OCNEControlPlane) (currentOwner : ConfigObject) : List Secret → Api Unit
  | [] => return ()
  | secret :: rest => do
    if isOwnedByObject secret.ownerReferences currentOwner.identity ∧ currentOwner.dataSecretName ≠ some secret.name then
      adaptError (Err.wrap ("error changing secret " ++ secret.name ++ " ownership from OCNEConfig/" ++ currentOwner.name ++
        " to OCNEControlPlane/" ++ ocnecp.name))
        (updateSecret secret { secret with
          ownerReferences := replaceOwnerRef secret.ownerReferences currentOwner.uid ocnecp.newControllerRef })
    adoptEach ocnecp currentOwner rest

def adoptOwnedSecrets (ocnecp : OCNEControlPlane) (currentOwner : ConfigObject) (clusterName : String) : Api Unit := do
  let secrets ← adaptError (Err.wrap "error finding secrets for adoption") (listSecrets ocnecp.ns clusterName)
  adoptEach ocnecp currentOwner secrets

section Soundness

variable {refs : List OwnerReference}

theorem parses_eq_of_ownerKey_eq {a b : OwnerReference} (same : ownerKey a = ownerKey b) : parses a = parses b := by
  have groups := congrArg OwnerKey.group same
  simp only [ownerKey] at groups
  rw [parses, parses]
  cases left : parseGroup a.apiVersion <;> cases right : parseGroup b.apiVersion <;> simp [left, right] at groups ⊢

variable (cluster : Cluster) (ocnecp : OCNEControlPlane) (config : ConfigObject) {ref : OwnerReference}
  {target : ObjectIdentity}

theorem refersTo_iff : refersTo ref target = true ↔ ownerKey ref = ⟨.inr target.group, target.kind, target.name⟩ := by
  simp only [refersTo, ownerKey]
  cases parseGroup ref.apiVersion with
  | none => simp
  | some group => simp [and_assoc]

theorem parses_of_refersTo (refers : refersTo ref target = true) : parses ref = true := by
  rw [refersTo] at refers
  rw [parses]
  cases given : parseGroup ref.apiVersion with
  | none => simp [given] at refers
  | some group => rfl

theorem refersTo_clusterOwnerRef : refersTo (clusterOwnerRef cluster) (clusterIdentity cluster) = true := by
  have group : parseGroup "cluster.x-k8s.io/v1beta1" = some "cluster.x-k8s.io" := by decide
  simp [refersTo, clusterOwnerRef, clusterIdentity, group]

theorem refersTo_bootstrapOwnerRef : refersTo (bootstrapOwnerRef config) config.identity = true := by
  have group : parseGroup "bootstrap.cluster.x-k8s.io/v1alpha1" = some "bootstrap.cluster.x-k8s.io" := by decide
  simp [refersTo, bootstrapOwnerRef, ConfigObject.identity, group]

theorem parses_newControllerRef : parses ocnecp.newControllerRef = true :=
  parses_of_refersTo (refersTo_newControllerRef ocnecp)

theorem filter_all {α : Type} (given : Option α) : (given.filter fun _ => true) = given := by
  cases given <;> rfl

/-- The controller before is of another kind and found, or the configuration itself. -/
def BootstrapReplaces (config : ConfigObject) (refs : List OwnerReference) : Prop :=
  ∀ controller, getControllerOf refs = some controller →
    (controller.kind ≠ "OCNEConfig" ∧ parses controller = true) ∨ ownerKey controller = ownerKey (bootstrapOwnerRef config)

theorem sound_bootstrapOwners_iff (proper : Proper refs) :
    Sound isController refs (bootstrapOwners config refs) ↔ BootstrapReplaces config refs := by
  rw [bootstrapOwners, sound_removeController_iff proper (.refl _) (fun _ mem _ => mem) (fun _ controls => controls)
    (parses_of_refersTo (refersTo_bootstrapOwnerRef config)) rfl]
  simp only [bne_iff_ne]
  exact ⟨fun replaced controller found => replaced controller (mem_of_getControllerOf found).1 found,
    fun replaced controller _ found => replaced controller found⟩

def Readable (refs : List OwnerReference) : Prop :=
  ∀ controller, getControllerOf refs = some controller → parses controller = true

theorem sound_certificateOwners_iff (proper : Proper refs) :
    Sound isController refs (certificateOwners ocnecp.newControllerRef refs) ↔ Readable refs := by
  rw [certificateOwners, ← filter_all (getControllerOf refs), sound_removeController_iff proper (.refl _) (fun _ mem _ => mem)
    (fun _ controls => controls) (parses_newControllerRef ocnecp) rfl]
  constructor
  · intro replaced controller found
    rcases replaced controller (mem_of_getControllerOf found).1 found with ⟨-, readable⟩ | same
    · exact readable
    · exact (parses_eq_of_ownerKey_eq same).trans (parses_newControllerRef ocnecp)
  · exact fun readable controller _ found => .inl ⟨rfl, readable controller found⟩

def kubeconfigExempt (cluster : Cluster) (ref : OwnerReference) : Bool :=
  isController ref || refersTo ref (clusterIdentity cluster)

theorem mem_withoutCluster_iff (proper : Proper refs) :
    ref ∈ withoutCluster cluster refs ↔ ref ∈ refs ∧ refersTo ref (clusterIdentity cluster) = false := by
  have refers := refersTo_clusterOwnerRef cluster
  have readable : parses (clusterOwnerRef cluster) = true := parses_of_refersTo refers
  have same : ownerKey ref ≠ ownerKey (clusterOwnerRef cluster) ↔ refersTo ref (clusterIdentity cluster) = false := by
    rw [refersTo_iff.mp refers, ← Bool.not_eq_true, refersTo_iff]
  rw [withoutCluster]
  split
  next => rw [mem_removeOwnerRef proper readable, same]
  next notOwned =>
    refine ⟨fun mem => ⟨mem, ?_⟩, fun ⟨mem, _⟩ => mem⟩
    simp only [isOwnedByObject, List.any_eq_true, not_exists, not_and, Bool.not_eq_true] at notOwned
    exact notOwned ref mem

theorem withoutCluster_sublist : (withoutCluster cluster refs).Sublist refs := by
  rw [withoutCluster]
  split
  next => exact removeOwnerRef_sublist
  next => exact .refl _

theorem sound_kubeconfigOwners_iff (proper : Proper refs) :
    Sound (kubeconfigExempt cluster) refs (kubeconfigOwners cluster ocnecp refs) ↔ Readable refs := by
  have others : ∀ other ∈ refs, kubeconfigExempt cluster other = false → other ∈ withoutCluster cluster refs := by
    intro other mem plain
    simp only [kubeconfigExempt, Bool.or_eq_false_iff] at plain
    exact (mem_withoutCluster_iff cluster proper).mpr ⟨mem, plain.2⟩
  rw [kubeconfigOwners, ← filter_all (getControllerOf refs), sound_removeController_iff proper (withoutCluster_sublist cluster) others
    (fun _ controls => by simp [kubeconfigExempt, controls]) (parses_newControllerRef ocnecp) rfl]
  constructor
  · intro replaced controller found
    -- a controller that cannot be read is not the cluster, so it is still there
    by_contra unreadable
    have other : refersTo controller (clusterIdentity cluster) = false :=
      Bool.eq_false_iff.mpr fun refers => unreadable (parses_of_refersTo refers)
    have left := (mem_withoutCluster_iff cluster proper).mpr ⟨(mem_of_getControllerOf found).1, other⟩
    rcases replaced controller left found with ⟨-, readable⟩ | same
    · exact unreadable readable
    · exact unreadable ((parses_eq_of_ownerKey_eq same).trans (parses_newControllerRef ocnecp))
  · exact fun readable controller _ found => .inl ⟨rfl, readable controller found⟩

def adoptionExempt (config : ConfigObject) (ref : OwnerReference) : Bool :=
  isController ref || refersTo ref config.identity

/-- Beside the reference with the configuration's UID, which may be lost, there is no controller and not the control
plane. -/
def AdoptionReplaces (ocnecp : OCNEControlPlane) (config : ConfigObject) (refs : List OwnerReference) : Prop :=
  (∀ other ∈ refs.eraseP (·.uid == config.uid),
      ownerKey other ≠ ownerKey ocnecp.newControllerRef ∧ isController other = false) ∧
    ∀ replaced, refs.find? (·.uid == config.uid) = some replaced → adoptionExempt config replaced = false →
      ownerKey replaced = ownerKey ocnecp.newControllerRef

/-- What a call writes is sound exactly under a condition on what was there. -/
def Writes (exempt : OwnerReference → Bool) (condition : List OwnerReference → Prop) (call : Call) : Prop :=
  ∀ before after, call.written = some (before, after) → Proper before → (Sound exempt before after ↔ condition before)

theorem ensureBootstrapSecretOwnersRef_writes (configOwner : String) :
    WithinE (Writes isController (BootstrapReplaces config)) (fun _ => True)
      (ensureBootstrapSecretOwnersRef config configOwner) := by
  refine withinE_bind.mpr (withinE_attempt.mpr ⟨fun _ _ read => (nomatch read), fun answer => ?_⟩)
  cases answer with
  | error error =>
    change WithinE _ _ (if error.is .notFound then _ else _)
    split
    next => exact withinE_pure.mpr trivial
    next => exact withinE_throw _ _
  | ok secret =>
    refine withinE_bind.mpr (withinE_adaptError.mpr ⟨fun _ _ made => (nomatch made), fun _ _ _ => ?_⟩)
    refine withinE_adaptError.mpr ⟨?_, fun _ _ _ => trivial⟩
    rintro _ _ ⟨⟩ proper
    exact sound_bootstrapOwners_iff config proper

theorem ensureCertificatesOwnerRef_writes (clusterKey : ObjectKey) (ocnecp : OCNEControlPlane)
    (certs : List Certificate) : WithinE (Writes isController Readable) (fun _ => True)
      (ensureCertificatesOwnerRef clusterKey ocnecp.newControllerRef certs) := by
  induction certs with
  | nil => exact withinE_pure.mpr trivial
  | cons cert rest ih =>
    refine withinE_bind.mpr (withinE_adaptError.mpr ⟨fun _ _ read => (nomatch read), fun _ secret _ => ?_⟩)
    dsimp only
    split
    next =>
      refine withinE_bind.mpr (withinE_adaptError.mpr ⟨fun _ _ made => (nomatch made), fun _ _ _ => ?_⟩)
      refine withinE_bind.mpr (withinE_adaptError.mpr ⟨?_, fun _ _ _ => ih⟩)
      rintro _ _ ⟨⟩ proper
      exact sound_certificateOwners_iff ocnecp proper
    next => exact ih

theorem adoptKubeconfigSecret_writes (secret : Secret) (ocnecp : OCNEControlPlane) :
    WithinE (Writes (kubeconfigExempt cluster) Readable) (fun _ => True) (adoptKubeconfigSecret cluster secret ocnecp) := by
  rw [adoptKubeconfigSecret]
  split
  next => exact withinE_pure.mpr trivial
  split
  next => exact withinE_pure.mpr trivial
  next =>
    refine withinE_bind.mpr (withinE_adaptError.mpr ⟨fun _ _ made => (nomatch made), fun _ _ _ => ?_⟩)
    refine withinE_adaptError.mpr ⟨?_, fun _ _ _ => trivial⟩
    rintro _ _ ⟨⟩ proper
    exact sound_kubeconfigOwners_iff cluster ocnecp proper

theorem adoptEach_writes (secrets : List Secret) :
    WithinE (Writes (adoptionExempt config) (AdoptionReplaces ocnecp config)) (fun _ => True)
      (adoptEach ocnecp config secrets) := by
  induction secrets with
  | nil => exact withinE_pure.mpr trivial
  | cons secret rest ih =>
    rw [adoptEach]
    split
    next =>
      refine withinE_bind.mpr (withinE_adaptError.mpr ⟨?_, fun _ _ _ => ih⟩)
      rintro _ _ ⟨⟩ proper
      exact sound_replaceOwnerRef_iff proper rfl
    next => exact ih

theorem adoptOwnedSecrets_writes (clusterName : String) :
    WithinE (Writes (adoptionExempt config) (AdoptionReplaces ocnecp config)) (fun _ => True)
      (adoptOwnedSecrets ocnecp config clusterName) := by
  refine withinE_bind.mpr (withinE_adaptError.mpr ⟨fun _ _ mem => (nomatch mem), fun _ secrets _ => ?_⟩)
  exact adoptEach_writes ocnecp config secrets

/-- Which references written have at most one controller, no owner twice and every other owner still. -/
theorem written_owners_sound_iff (config : ConfigObject) (configOwner : String) (cluster : Cluster)
    (ocnecp : OCNEControlPlane) (certificates : List Certificate) (secret : Secret) :
    WithinE (Writes isController (BootstrapReplaces config)) (fun _ => True)
      (ensureBootstrapSecretOwnersRef config configOwner) ∧
    WithinE (Writes isController Readable) (fun _ => True)
      (ensureCertificatesOwnerRef ⟨cluster.ns, cluster.name⟩ ocnecp.newControllerRef certificates) ∧
    WithinE (Writes (kubeconfigExempt cluster) Readable) (fun _ => True) (adoptKubeconfigSecret cluster secret ocnecp) ∧
    WithinE (Writes (adoptionExempt config) (AdoptionReplaces ocnecp config)) (fun _ => True)
      (adoptOwnedSecrets ocnecp config cluster.name) :=
  ⟨ensureBootstrapSecretOwnersRef_writes config configOwner, ensureCertificatesOwnerRef_writes _ ocnecp certificates,
    adoptKubeconfigSecret_writes cluster secret ocnecp, adoptOwnedSecrets_writes ocnecp config cluster.name⟩

def sampleConfig : ConfigObject := ⟨"default", "prod-0", "2", none⟩

def staleOwner : OwnerReference :=
  ⟨"bootstrap.cluster.x-k8s.io/v1alpha1", "OCNEConfig", "prod-0", "1", some true, some true⟩

def otherConfigOwner : OwnerReference :=
  ⟨"bootstrap.cluster.x-k8s.io/v1alpha1", "OCNEConfig", "prod-1", "3", some true, none⟩

def sampleControlPlane : OCNEControlPlane := { (default : OCNEControlPlane) with name := "prod", ns := "default", uid := "4" }

def currentOwner : OwnerReference := { staleOwner with uid := "2" }

theorem current_owner_replaced : WithinE (fun call => ∀ after, Call.written call = some ([currentOwner], after) →
        Sound (adoptionExempt sampleConfig) [currentOwner] after) (fun _ => True)
      (adoptOwnedSecrets sampleControlPlane sampleConfig "prod") := by
  have replaces : AdoptionReplaces sampleControlPlane sampleConfig [currentOwner] := by
    refine ⟨fun _ mem => absurd mem (by simp [currentOwner, sampleConfig]), fun replaced found plain => ?_⟩
    obtain rfl : currentOwner = replaced := Option.some.inj found
    exact absurd plain (by decide)
  refine within_widen (written_owners_sound_iff sampleConfig "" { (default : Cluster) with name := "prod" }
    sampleControlPlane [] ⟨"", "", ∅, [], ∅, ""⟩).2.2.2 fun call writes after written => ?_
  exact (writes _ after written (by decide +kernel)).mpr replaces

def finding (refs : List OwnerReference) (_ : Unit) : (call : Call) → call.Answer × Unit
  | .getSecret key => (.ok ⟨key.ns, key.name, ∅, refs, ∅, clusterSecretType⟩, ())
  | .listSecrets ns _ => (.ok [⟨ns, "prod-ca", ∅, refs, ∅, clusterSecretType⟩], ())
  | .newHelper _ | .patchSecret _ _ | .updateSecret _ _ => (.ok (), ())

def writtenFor (refs : List OwnerReference) (program : Api Unit) : List (List OwnerReference × List OwnerReference) :=
  (program.run.trace (finding refs) ()).filterMap (·.request.written)

/-- A stale configuration stays controller beside the control plane, and another one beside this one. -/
theorem second_controller_written : Proper [staleOwner] ∧
      writtenFor [staleOwner] (adoptOwnedSecrets sampleControlPlane sampleConfig "prod") =
        [([staleOwner], [staleOwner, sampleControlPlane.newControllerRef])] ∧
      ¬ Proper [staleOwner, sampleControlPlane.newControllerRef] ∧
    Proper [otherConfigOwner] ∧
      writtenFor [otherConfigOwner] (ensureBootstrapSecretOwnersRef sampleConfig "prod-0") =
        [([otherConfigOwner], [otherConfigOwner, bootstrapOwnerRef sampleConfig])] ∧
      ¬ Proper [otherConfigOwner, bootstrapOwnerRef sampleConfig] := by
  decide +kernel

end Soundness

end OcneProvider.Controller.Ownership
