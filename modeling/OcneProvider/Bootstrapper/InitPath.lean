import OcneProvider.Bootstrapper.KeyPairs
import OcneProvider.Bootstrapper.Overrides
import OcneProvider.Bootstrapper.Reconciler

/-! The bootstrap of the first control plane node, with the calls for its certificates. -/

namespace OcneProvider.Bootstrapper.InitPath
open Api.Meta Api.Bootstrap Api.Objects Controller.Calls Effects.Program
open Effects.Fallible hiding outcome
open Effects.Stateful
open Controller.Collections Certificates KeyPairs Overrides Reconciler List

/-- To be tried again, failed, or crashed for want of a key pair. -/
inductive Stop where
  | requeue
  | failed (error : Err)
  | nilKeyPair
  deriving DecidableEq

structure ControlPlaneInput where
  certificates : List Certificate
  ocneOverrides : List String
  writeFiles : List CertificateFile
  deriving DecidableEq

def defaultOCNEImageRepository : String := "container-registry.oracle.com/olcne"

abbrev Path := Try Certificates.signature Stop

/-- What stays from pass to pass, the other answers, the objects, the owner of the certificates, and the table of
packages. -/
structure Bootstrap where
  settings : Settings
  answers : Answers
  owner : ConfigOwner
  view : ClusterView
  controlPlaneRef : Option ObjectReference
  ownerRef : OwnerReference
  ocneMeta : Except Err Semver.Metadata.Mapping

section Path

variable (boot : Bootstrap)

def prepareFirst : Pass Unit := do
  let _ ← Reconciler.parseVersion boot.settings boot.owner
  modifySpec fillInitConfiguration
  fallible boot.answers.marshal
  modifySpec (fillClusterConfiguration boot.view boot.owner.version)
  let _ ← fallible boot.answers.metadata
  fallible boot.answers.marshalCluster

/-- With a control plane object the certificates are left to its controller. -/
def initCertificates (config : Config) : Certificates.Api Certificates.Outcome :=
  let certificates := newCertificatesForInitialControlPlane config.spec.clusterConfiguration
  let cluster : ObjectKey := ⟨boot.view.cluster.ns, boot.view.cluster.name⟩
  if boot.controlPlaneRef.isNone then lookupOrGenerate cluster boot.ownerRef certificates
  else lookup cluster certificates

def overrideData (config : Config) : OCNEOverrideData where
  kubernetesVersion := boot.owner.kubernetesVersion
  ocneImageRepository := orElse (config.spec.clusterConfiguration.elim "" (·.imageRepository)) defaultOCNEImageRepository
  proxy := config.spec.imageConfiguration.bind (·.proxy)
  podSubnet := ranges (boot.view.network.bind (·.pods))
  serviceSubnet := ranges (boot.view.network.bind (·.services))
  skipInstall := (config.spec.imageConfiguration.bind (·.dependencies)).getD false

def certificateFiles (certificates : List Certificate) : Except Stop (List CertificateFile) :=
  (asFiles certificates).mapError fun _ => .nilKeyPair

/-- With Ignition there are no commands for the OCNE packages. -/
def initInput (config : Config) (certificates : List Certificate) : Except Stop ControlPlaneInput := do
  if config.spec.format = "ignition" then
    return ⟨certificates, [], ← certificateFiles certificates⟩
  else
    let commands ← (getOCNEOverrides (overrideData boot config) boot.ocneMeta).mapError .failed
    return ⟨certificates, commands, ← certificateFiles certificates⟩

def newInitControlPlane (config : Config) (certificates : List Certificate) : Except Stop ControlPlaneInput := do
  let input ← initInput boot config certificates
  boot.answers.render.mapError Stop.failed
  return input

/-- A failure gives the init lock back, a crash does not. -/
def Stop.unlocking (answers : Answers) : Stop → Stop
  | failed error => failed (unlockAfter answers error)
  | other => other

def finishFirst (filled : Config) (looked : Certificates.Outcome) : Except Stop ControlPlaneInput := do
  looked.2.mapError .failed
  boot.answers.resolveFiles.mapError .failed
  boot.answers.resolveUsers.mapError .failed
  newInitControlPlane boot filled looked.1

/-- What comes before the calls for certificates; a failure to prepare gives the lock back as well. -/
def beginning (config : Config) : Except Stop Unit := do
  if !boot.owner.isControlPlaneMachine then throw .requeue
  else if config.spec.initConfiguration.isNone && config.spec.clusterConfiguration.isNone then throw .requeue
  else
    (boot.answers.convertMachine.mapError (Err.wrap ("cannot convert " ++ boot.owner.kind ++ " to Machine"))).mapError
      .failed
    if !boot.answers.lock then throw .requeue
    else ((outcome (prepareFirst boot) config).1.mapError .failed).mapError (Stop.unlocking boot.answers)

def filled (config : Config) : Config := (outcome (prepareFirst boot) config).2

def initPath (config : Config) : Path ControlPlaneInput := do
  ExceptT.mk (pure (beginning boot config))
  adaptError (Stop.unlocking boot.answers) do
    let looked ← ExceptT.lift (initCertificates boot (filled boot config))
    ExceptT.mk (pure (finishFirst boot (filled boot config) looked))

end Path

section Stages

variable (boot : Bootstrap) (config : Config)

theorem initPath_run_eq : (initPath boot config).run = match beginning boot config with
    | .error stop => pure (.error stop)
    | .ok _ => initCertificates boot (filled boot config) >>= fun looked =>
        pure ((finishFirst boot (filled boot config) looked).mapError (Stop.unlocking boot.answers)) := by
  unfold initPath
  cases beginning boot config with
  | error stop => rfl
  | ok _ => exact adaptError_lift_run _ (initCertificates boot (filled boot config)) _

/-- What the path needs to reach the calls for certificates. -/
@[mk_iff]
structure Begins : Prop where
  machine : boot.owner.isControlPlaneMachine
  configured : config.spec.initConfiguration.isSome ∨ config.spec.clusterConfiguration.isSome
  converted : boot.answers.convertMachine = .ok ()
  locked : boot.answers.lock
  version : ∃ version, boot.settings.parseTolerant boot.owner.kubernetesVersion = .ok version
  marshal : boot.answers.marshal = .ok ()
  metadata : ∃ metadata, boot.answers.metadata = .ok metadata
  marshalCluster : boot.answers.marshalCluster = .ok ()

/-- And what it needs to go on to their files once it has looked the certificates up. -/
structure Proceeds : Prop extends Begins boot config where
  resolveFiles : boot.answers.resolveFiles = .ok ()
  resolveUsers : boot.answers.resolveUsers = .ok ()
  packages : config.spec.format = "ignition" ∨ Packaged (overrideData boot config) boot.ocneMeta

theorem outcome_prepareFirst_eq_ok_iff : (outcome (prepareFirst boot) config).1 = .ok () ↔
    (∃ version, boot.settings.parseTolerant boot.owner.kubernetesVersion = .ok version) ∧
      boot.answers.marshal = .ok () ∧ (∃ metadata, boot.answers.metadata = .ok metadata) ∧
      boot.answers.marshalCluster = .ok () := by
  unfold prepareFirst Reconciler.parseVersion fallible modifySpec
  cases boot.settings.parseTolerant boot.owner.kubernetesVersion <;> cases boot.answers.marshal <;>
    cases boot.answers.metadata <;> cases boot.answers.marshalCluster <;> simp

/-- Otherwise it is tried again or fails. -/
theorem beginning_spec : match beginning boot config with
    | .ok _ => Begins boot config
    | .error .nilKeyPair => False
    | .error _ => ¬ Begins boot config := by
  rw [begins_iff, ← outcome_prepareFirst_eq_ok_iff]
  unfold beginning
  cases boot.owner.isControlPlaneMachine <;> cases config.spec.initConfiguration <;>
    cases config.spec.clusterConfiguration <;> cases boot.answers.convertMachine <;> cases boot.answers.lock <;>
    cases (outcome (prepareFirst boot) config).1 <;> simp [bind, Except.bind] <;> trivial

end Stages

section Looking

/-- Whether a read missed a secret, and whether one ended the look-up. -/
structure Reads where
  missed : Bool
  refused : Bool
  deriving DecidableEq

/-- A look-up goes on after a secret that has a certificate, and after one that is not found unless it is external. -/
def note (external : String → Bool) (reads : Reads) : (call : Certificates.Call) → call.Answer → Reads
  | .getSecret name, .error error =>
    if error.is .notFound && !external name then { reads with missed := true } else { reads with refused := true }
  | .getSecret _, .ok secret =>
    if (secret.data.lookup tlsCrtDataName).isNone then { reads with refused := true } else reads
  | _, _ => reads

variable {external : String → Bool} {cluster : ObjectKey} {certs : List Certificate} {missed : Bool} {reads : Reads}

/-- What a part brings about in a record of the reads. -/
abbrev Ends (external : String → Bool) (post : Certificates.Outcome → Reads → Prop)
    (part : Certificates.Api Certificates.Outcome) (reads : Reads) : Prop :=
  part.wp (tracking (note external)) (fun _ _ => True) post reads

/-- Each keeps its purpose, and unless the look-up failed, a user supplied one has its key pair and the others lack
theirs only if a secret was missed. -/
structure Looked (certificates : List Certificate) (missed : Bool) (outcome : Certificates.Outcome) (later : Reads) :
    Prop where
  purposes : outcome.1.map Certificate.purpose = certificates.map Certificate.purpose
  ended : outcome.2 = .ok () ↔ later.refused = false
  supplied : outcome.2 = .ok () → ∀ certificate ∈ outcome.1, certificate.keyPair.isSome ∨
    certificate.purpose ≠ .apiServerEtcdClient
  present : outcome.2 = .ok () → (later.missed = false ↔ missed = false ∧ Present outcome.1)

theorem Looked.stop (error : Err) (refused : reads.refused = true) : Looked certs missed (certs, .error error) reads :=
  ⟨rfl, by simp [refused], by simp, by simp⟩

theorem ends_getSecret {name : String} {next : Except Err Secret → Certificates.Api Certificates.Outcome}
    {post : Certificates.Outcome → Reads → Prop}
    (ends : ∀ answer, Ends external post (next answer) (note external reads (.getSecret name) answer)) :
    Ends external post (getSecret name >>= next) reads :=
  wp_bind.mpr ⟨trivial, fun answer _ reached => reached ▸ ends answer⟩

theorem ends_lookup (blank : ∀ cert ∈ certs, Blank cert)
    (known : ∀ cert ∈ certs, external (secretName cluster.name cert.purpose) = cert.external) :
    Ends external (Looked certs missed) (lookup cluster certs) ⟨missed, false⟩ := by
  induction certs generalizing missed with
  | nil => exact ⟨rfl, by simp, by simp, by simp [Present]⟩
  | cons cert rest ih =>
    obtain ⟨head, others⟩ := forall_mem_cons.mp blank
    obtain ⟨own, known⟩ := forall_mem_cons.mp known
    refine ends_getSecret fun answer => ?_
    cases answer with
    | ok secret =>
      simp only [note, secretToKeyPair]
      cases secret.data.lookup tlsCrtDataName with
      | none => exact Looked.stop _ rfl
      | some crt =>
        refine wp_bind.mpr (wp_mono (ih others known) fun outcome later looked => ?_)
        exact ⟨by simp [looked.purposes], looked.ended,
          fun done => forall_mem_cons.mpr ⟨.inl rfl, looked.supplied done⟩,
          fun done => by simpa [Present] using looked.present done⟩
    | error error =>
      simp only [note, own]
      cases absent : error.is .notFound with
      | false => exact Looked.stop _ rfl
      | true =>
        cases external : cert.external with
        | true => exact Looked.stop _ rfl
        | false =>
          refine wp_bind.mpr (wp_mono (ih others known) fun outcome later looked => ?_)
          have ordinary : cert.purpose ≠ .apiServerEtcdClient := fun client => by
            simp [head.supplied client] at external
          refine ⟨by simp [looked.purposes], looked.ended,
            fun done => forall_mem_cons.mpr ⟨.inr ordinary, looked.supplied done⟩, fun done => ?_⟩
          simpa [Present, head.keyPair] using looked.present done

variable {post post' : Certificates.Outcome → Reads → Prop} {ownerRef : OwnerReference}

theorem ends_after {cert : Certificate}
    {rest : Certificates.Api Certificates.Outcome} (ends : Ends external post' rest reads)
    (implies : ∀ outcome later, post' outcome later → post (cert :: outcome.1, outcome.2) later) :
    Ends external post (after cert rest) reads :=
  wp_bind.mpr (wp_mono ends implies)

/-- The purposes, and unless something failed all key pairs. -/
def Made (certificates : List Certificate) (outcome : Certificates.Outcome) : Prop :=
  outcome.1.map Certificate.purpose = certificates.map Certificate.purpose ∧ (outcome.2 = .ok () → Present outcome.1)

theorem ends_generate (supplied : ∀ cert ∈ certs, cert.keyPair.isSome ∨
      cert.purpose ≠ .apiServerEtcdClient) :
    Ends external (fun outcome _ => Made certs outcome) (generate certs) reads := by
  induction certs generalizing reads with
  | nil => exact ⟨rfl, by simp [Present]⟩
  | cons cert rest ih =>
    obtain ⟨head, others⟩ := forall_mem_cons.mp supplied
    unfold generate
    split
    next missing =>
      have ordinary : cert.purpose ≠ .apiServerEtcdClient :=
        head.resolve_left (by simpa using missing)
      unfold Certificate.generate
      rw [if_neg ordinary]
      refine wp_bind.mpr (wp_bind.mpr ?_)
      unfold generator
      split
      all_goals
        refine ⟨trivial, fun answer _ _ => ?_⟩
        cases answer with
        | error error => exact ⟨rfl, by simp⟩
        | ok keyPair =>
          exact ends_after (ih others) fun outcome _ made => ⟨by simp [made.1], fun done =>
            forall_mem_cons.mpr ⟨rfl, made.2 done⟩⟩
    next known =>
      exact ends_after (ih others) fun outcome _ made => ⟨by simp [made.1], fun done =>
        forall_mem_cons.mpr ⟨Option.isSome_iff_ne_none.mpr (by simpa using known), made.2 done⟩⟩

theorem ends_saveGenerated :
    Ends external (fun outcome _ => outcome.1 = certs) (saveGenerated cluster ownerRef certs) reads := by
  induction certs generalizing reads with
  | nil => rfl
  | cons cert rest ih =>
    have others : ∀ {reads}, Ends external (fun outcome _ => outcome.1 = cert :: rest)
        (after cert (saveGenerated cluster ownerRef rest)) reads :=
      ends_after ih fun outcome _ same => by rw [same]
    unfold saveGenerated
    split
    · exact others
    · split
      · rfl
      · refine wp_bind.mpr ⟨trivial, fun answer _ _ => ?_⟩
        cases answer with
        | error error => rfl
        | ok _ => exact others

theorem ends_andThen {part : Certificates.Api Certificates.Outcome}
    {next : List Certificate → Certificates.Api Certificates.Outcome} (ends : Ends external post' part reads)
    (failed : ∀ certs error later, post' (certs, .error error) later →
      post (certs, .error error) later)
    (done : ∀ certs later, post' (certs, .ok ()) later → Ends external post (next certs) later) :
    Ends external post (andThen part next) reads := by
  refine wp_bind.mpr (wp_mono ends fun outcome later held => ?_)
  obtain ⟨certs, result⟩ := outcome
  cases result with
  | error error => exact failed certs error later held
  | ok _ => exact done certs later held

theorem ends_lookupOrGenerate (blank : ∀ cert ∈ certs, Blank cert)
    (known : ∀ cert ∈ certs, external (secretName cluster.name cert.purpose) = cert.external) :
    Ends external (fun outcome _ => Made certs outcome) (lookupOrGenerate cluster ownerRef certs) ⟨missed, false⟩ := by
  have completed : Ends external (fun outcome _ => Made certs outcome)
      (andThen (lookup cluster certs) generate) ⟨missed, false⟩ := by
    refine ends_andThen (ends_lookup blank known) (fun _ _ _ looked => ⟨looked.purposes, by simp⟩)
      fun found later looked => ?_
    refine wp_mono (ends_generate (looked.supplied rfl)) fun outcome _ made => ?_
    exact ⟨made.1.trans looked.purposes, made.2⟩
  refine ends_andThen completed (fun _ _ _ made => made) fun found later made => ?_
  refine wp_mono ends_saveGenerated fun outcome _ same => ?_
  exact ⟨same ▸ made.1, fun _ => same ▸ made.2 rfl⟩

end Looking

section Safety

variable {boot : Bootstrap} {config : Config} {certs : List Certificate}

def requiredPurposes (config : Config) : List Purpose :=
  (newCertificatesForInitialControlPlane config.spec.clusterConfiguration).map Certificate.purpose

theorem requiredPurposes_nodup : (requiredPurposes config).Nodup := by
  unfold requiredPurposes newCertificatesForInitialControlPlane
  split <;> decide

theorem requiredPurposes_subset : ∀ purpose ∈ requiredPurposes config, purpose ∈ filePurposes := by
  unfold requiredPurposes newCertificatesForInitialControlPlane
  split <;> decide

/-- Whether a name is that of an external certificate. -/
def isExternal (boot : Bootstrap) (config : Config) (name : String) : Bool :=
  (newCertificatesForInitialControlPlane config.spec.clusterConfiguration).any fun certificate =>
    certificate.external && secretName boot.view.cluster.name certificate.purpose == name

theorem isExternal_secretName : ∀ cert ∈ newCertificatesForInitialControlPlane config.spec.clusterConfiguration,
    isExternal boot config (secretName boot.view.cluster.name cert.purpose) = cert.external := by
  have injective : ∀ purpose other : Purpose, secretName boot.view.cluster.name purpose =
      secretName boot.view.cluster.name other ↔ purpose = other := by
    intro purpose other
    cases purpose <;> cases other <;> simp [secretName, Purpose.text]
  unfold isExternal newCertificatesForInitialControlPlane
  split <;> simp [blankCertificate, injective]

/-- The certificates and the format are those before. -/
def SameCertificates (before after : Config) : Prop :=
  newCertificatesForInitialControlPlane after.spec.clusterConfiguration =
      newCertificatesForInitialControlPlane before.spec.clusterConfiguration ∧
    after.spec.format = before.spec.format

instance : IsPreorder Config SameCertificates where
  refl _ := ⟨rfl, rfl⟩
  trans _ _ _ first second := ⟨second.1.trans first.1, second.2.trans first.2⟩

theorem filled_sameCertificates : SameCertificates config (filled boot config) := by
  have moves : Moves SameCertificates (prepareFirst boot) := by
    refine .bind (.adapt _ (.except _)) fun _ => .bind (.modify _ fun config => ⟨rfl, rfl⟩) fun _ => ?_
    refine .bind (.except _) fun _ => .bind (.modify _ fun config => ⟨?_, rfl⟩) fun _ => ?_
    · unfold newCertificatesForInitialControlPlane fillClusterConfiguration
      cases config.spec.clusterConfiguration <;> rfl
    · exact .bind (.except _) fun _ => .except _
  exact moves config

/-- What the calls for certificates come to. -/
structure Found (boot : Bootstrap) (config : Config) (outcome : Certificates.Outcome) (later : Reads) : Prop where
  purposes : outcome.1.map Certificate.purpose = requiredPurposes config
  present : outcome.2 = .ok () → (Present outcome.1 ↔ boot.controlPlaneRef = none ∨ later.missed = false)
  ended : boot.controlPlaneRef ≠ none → (outcome.2 = .ok () ↔ later.refused = false)

theorem ends_initCertificates :
    Ends (isExternal boot config) (Found boot config) (initCertificates boot (filled boot config)) ⟨false, false⟩ := by
  have blank := newCertificatesForInitialControlPlane_blank config.spec.clusterConfiguration
  unfold initCertificates
  rw [filled_sameCertificates.1]
  cases owned : boot.controlPlaneRef with
  | none =>
    refine wp_mono (ends_lookupOrGenerate blank isExternal_secretName) fun outcome _ made => ?_
    exact ⟨made.1, fun done => by simp [made.2 done, owned], fun other => absurd owned other⟩
  | some ref =>
    refine wp_mono (ends_lookup blank isExternal_secretName) fun outcome later looked => ?_
    exact ⟨looked.purposes, fun done => by simp [looked.present done, owned], fun _ => looked.ended⟩

/-- It ends before rendering, or renders data with a key pair for every certificate required. -/
def Safe (required : List Purpose) : Except Stop ControlPlaneInput → Prop
  | .ok input => ∀ purpose ∈ required, ∃ certificate ∈ input.certificates,
      certificate.purpose = purpose ∧ certificate.keyPair.isSome
  | .error .nilKeyPair => False
  | .error _ => True

theorem safe_unlocking {required : List Purpose} {stop : Except Stop ControlPlaneInput} {answers : Answers} :
    Safe required (stop.mapError (Stop.unlocking answers)) ↔ Safe required stop := by
  rcases stop with (_ | _ | _) | _ <;> exact Iff.rfl

section

variable (required : certs.map Certificate.purpose = requiredPurposes config)
include required

/-- Once the commands are known, only the key pairs matter. -/
theorem safe_written (commands : List String) (render : Except Stop Unit) (ends : render ≠ .error .nilKeyPair) :
    Safe (requiredPurposes config) (do
      let input ← (do return ⟨certs, commands, ← certificateFiles certs⟩)
      render
      return input) ↔ Present certs := by
  have written := asFiles_eq_ok_iff (required ▸ requiredPurposes_nodup) fun cert mem =>
    requiredPurposes_subset _ (required ▸ mem_map_of_mem mem)
  unfold certificateFiles
  cases made : asFiles certs with
  | error error => simpa [made, Safe, bind, Except.bind] using written
  | ok files =>
    have present : Present certs := written.mp ⟨files, made⟩
    simp only [present, iff_true]
    match render with
    | .error .nilKeyPair => exact absurd rfl ends
    | .error .requeue | .error (.failed error) => trivial
    | .ok _ =>
      intro purpose mem
      rw [← required] at mem
      obtain ⟨cert, known, rfl⟩ := mem_map.mp mem
      exact ⟨cert, known, rfl, present cert known⟩

theorem safe_newInitControlPlane :
    Safe (requiredPurposes config) (newInitControlPlane boot (filled boot config) certs) ↔
      ¬ (config.spec.format = "ignition" ∨ Packaged (overrideData boot config) boot.ocneMeta) ∨ Present certs := by
  have safe := safe_written required
  have ends : boot.answers.render.mapError Stop.failed ≠ .error .nilKeyPair := by
    cases boot.answers.render <;> nofun
  unfold newInitControlPlane initInput
  rw [filled_sameCertificates.2]
  by_cases ignition : config.spec.format = "ignition"
  · simpa [ignition] using safe [] _ ends
  · have packaged : (∃ commands, getOCNEOverrides (overrideData boot (filled boot config)) boot.ocneMeta =
        .ok commands) ↔ Packaged (overrideData boot config) boot.ocneMeta := getOCNEOverrides_eq_ok_iff _ _
    rw [if_neg ignition, ← packaged]
    cases getOCNEOverrides (overrideData boot (filled boot config)) boot.ocneMeta with
    | error error => simp [ignition, Safe, bind, Except.bind]
    | ok commands =>
      have known : (¬ (config.spec.format = "ignition" ∨ ∃ other, (.ok commands : Except Err _) = .ok other) ∨
          Present certs) ↔ Present certs := by simp [ignition]
      exact (safe commands _ ends).trans known.symm

theorem safe_finishFirst (begins : Begins boot config) :
    Safe (requiredPurposes config) (finishFirst boot (filled boot config) (certs, .ok ())) ↔
      ¬ Proceeds boot config ∨ Present certs := by
  have proceeds : Proceeds boot config ↔ boot.answers.resolveFiles = .ok () ∧ boot.answers.resolveUsers = .ok () ∧
      (config.spec.format = "ignition" ∨ Packaged (overrideData boot config) boot.ocneMeta) :=
    ⟨fun held => ⟨held.resolveFiles, held.resolveUsers, held.packages⟩, fun ⟨files, users, packages⟩ =>
      ⟨begins, files, users, packages⟩⟩
  rw [proceeds]
  unfold finishFirst
  cases boot.answers.resolveFiles with
  | error error => simp [Safe, bind, Except.bind]
  | ok _ =>
    cases boot.answers.resolveUsers with
    | error error => simp [Safe, bind, Except.bind]
    | ok _ => simpa [bind, Except.bind] using safe_newInitControlPlane required

end

/-- However secrets are read and created, a path is safe exactly if something ends it before the files of the
certificates, it generates its certificates, a read ends the look-up, or none misses a secret. -/
theorem initPath_safe_iff (boot : Bootstrap) (config : Config) (trace : List (Event Certificates.signature Reads))
    (stop : Except Stop ControlPlaneInput) (reads : Reads)
    (run : Run (tracking (note (isExternal boot config))) (initPath boot config).run ⟨false, false⟩ trace (.done stop)
      reads) :
    Safe (requiredPurposes config) stop ↔
      ¬ Proceeds boot config ∨ boot.controlPlaneRef = none ∨ reads.refused = true ∨ reads.missed = false := by
  have begins := beginning_spec boot config
  rw [initPath_run_eq] at run
  cases begun : beginning boot config with
  | error early =>
    rw [begun] at run begins
    cases run
    match early, begins with
    | .requeue, stopped | .failed _, stopped => exact iff_of_true trivial (.inl fun held => stopped held.toBegins)
  | ok _ =>
    rw [begun] at run begins
    obtain ⟨⟨certs, result⟩, looked, rfl⟩ := run.of_map
    have found := wp_done looked ends_initCertificates
    rw [safe_unlocking]
    cases result with
    | error error =>
      have refused : boot.controlPlaneRef ≠ none → reads.refused = true := fun owned => by
        simpa using found.ended owned
      simp only [finishFirst, bind, Except.bind, Except.mapError, Safe, true_iff]
      tauto
    | ok _ =>
      have refused : boot.controlPlaneRef ≠ none → reads.refused = false := fun owned => by
        simpa using found.ended owned
      rw [safe_finishFirst found.purposes begins, found.present rfl]
      by_cases owned : boot.controlPlaneRef = none
      · simp [owned]
      · simp [refused owned]

private def oneVersion : Semver.Metadata.Mapping :=
  (∅ : Semver.Metadata.Mapping).insert "v1.25.7" ⟨emptyMetadata.images, ⟨"1.25.7", "1.25.7", "1.25.7", "3.12.0"⟩, "1.6"⟩

private def firstBootstrap : Bootstrap where
  settings := ⟨fun _ => .ok ⟨1, 25, 7⟩, 0⟩
  answers := smoothAnswers
  owner := ⟨"Machine", (∅ : StringMap).insert machineControlPlaneLabelName "", some "v1.25.7", none, false⟩
  view := ⟨⟨"prod", "default", "0", true, ("10.0.0.1", 6443), default⟩, none, false⟩
  controlPlaneRef := some ⟨"controlplane.cluster.x-k8s.io/v1alpha1", "OCNEControlPlane", "default", "prod", "1"⟩
  ownerRef := ⟨"bootstrap.cluster.x-k8s.io/v1alpha1", "OCNEConfig", "prod-0", "2", some true, some true⟩
  ocneMeta := .ok oneVersion

private def firstConfig : Config :=
  ⟨{ (default : OCNEConfigSpec) with clusterConfiguration := some emptyClusterConfiguration }, false, none⟩

private def noSecrets : (call : Certificates.Call) → call.Answer
  | .getSecret _ => .error ⟨["not found"], [.notFound]⟩
  | .createSecret _ => .ok ()
  | .generateCACert | .generateServiceAccountKeys => .ok ⟨[0], [0]⟩

private def answering (answer : (call : Certificates.Call) → call.Answer) (reads : Reads) (call : Certificates.Call) :
    call.Answer × Reads :=
  (answer call, note (isExternal firstBootstrap firstConfig) reads call (answer call))

private def firstEnd (answer : (call : Certificates.Call) → call.Answer) : Except Stop ControlPlaneInput × Reads :=
  (initPath firstBootstrap firstConfig).run.exec (answering answer) ⟨false, false⟩

private theorem first_run (answer : (call : Certificates.Call) → call.Answer) :
    Run (tracking (note (isExternal firstBootstrap firstConfig))) (initPath firstBootstrap firstConfig).run
      ⟨false, false⟩ ((initPath firstBootstrap firstConfig).run.trace (answering answer) ⟨false, false⟩)
      (.done (firstEnd answer).1) (firstEnd answer).2 :=
  exec_run (answering answer) (initPath firstBootstrap firstConfig).run ⟨false, false⟩ fun _ _ => rfl

private theorem first_run_crashes : Run (tracking (note (isExternal firstBootstrap firstConfig)))
    (initPath firstBootstrap firstConfig).run ⟨false, false⟩
    ((initPath firstBootstrap firstConfig).run.trace (answering noSecrets) ⟨false, false⟩)
    (.done (.error .nilKeyPair)) ⟨true, false⟩ := by
  have crashed : firstEnd noSecrets = (.error .nilKeyPair, ⟨true, false⟩) := by decide +kernel
  have run := first_run noSecrets
  rwa [crashed] at run

theorem initPath_safe_of_secrets : Safe (requiredPurposes firstConfig) (firstEnd (foundSecrets ⟨[0], [0]⟩)).1 :=
  (initPath_safe_iff firstBootstrap firstConfig _ _ _ (first_run (foundSecrets ⟨[0], [0]⟩))).mpr
    (.inr (.inr (.inr (by decide +kernel))))

/-- If the controller has not yet made the secrets, the bootstrap crashes. -/
theorem initPath_crashes : ∃ trace, Run (tracking (note (isExternal firstBootstrap firstConfig)))
      (initPath firstBootstrap firstConfig).run ⟨false, false⟩ trace (.done (.error .nilKeyPair)) ⟨true, false⟩ ∧
    ¬ Safe (requiredPurposes firstConfig) (.error .nilKeyPair) :=
  ⟨_, first_run_crashes, id⟩

end Safety

end OcneProvider.Bootstrapper.InitPath
