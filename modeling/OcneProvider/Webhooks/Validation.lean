import OcneProvider.Webhooks.ConfigSpec

/-! The checks a control plane object passes when it is created. A check that
dereferences a nil pointer ends with an error instead of a list of errors. -/

namespace OcneProvider.Webhooks.Validation
open Api.Meta Api.Bootstrap Api.Objects Api.Formats ConfigSpec

def defaultOCNEImageRepository : String := "container-registry.oracle.com/olcne"

def defaultOCNESocket : String := "/var/run/crio/crio.sock"

def minimumCertificatesExpiryDays : Int32 := 7

/-- The tags of the images that belong to a Kubernetes version. -/
structure OCNEImages where
  etcd : String
  coreDNS : String
  deriving DecidableEq

/-- The versions of the packages that belong to a Kubernetes version. -/
structure OCNEPackages where
  kubeadm : String
  deriving DecidableEq

structure OCNERelease where
  images : OCNEImages
  packages : OCNEPackages
  deriving DecidableEq

abbrev OCNEMetadata := Finmap (fun _ : String => OCNERelease)

def OCNEMetadata.images (metadata : OCNEMetadata) (version : String) : OCNEImages :=
  ((metadata.lookup version).map OCNERelease.images).getD ⟨"", ""⟩

def OCNEMetadata.packages (metadata : OCNEMetadata) (version : String) : OCNEPackages :=
  ((metadata.lookup version).map OCNERelease.packages).getD ⟨""⟩

def imageTagIsValid (tagName : String) : Bool :=
  tagName.toList.all fun char => isAlphanumeric char || char ∈ ['-', '_', '.']

/-- Whether the control plane uses an etcd cluster of its own or one outside of it. -/
def externalEtcd (spec : OCNEControlPlaneSpec) : Bool :=
  match spec.controlPlaneConfig.clusterConfiguration with
  | none => false
  | some configuration => configuration.etcd.external.isSome

def validateReplicas (spec : OCNEControlPlaneSpec) (path : String) : List FieldError :=
  let field := child path ["replicas"]
  match spec.replicas with
  | none => [required field "is required"]
  | some replicas =>
    reject (replicas ≤ 0) (forbidden field "cannot be less than or equal to 0") ++
    reject (!externalEtcd spec && replicas % 2 == 0)
      (forbidden field "cannot be an even number when etcd is stacked")

def validateInfrastructureRef (ref : ObjectReference) (ns path : String) : List FieldError :=
  let field (name : String) := child path ["machineTemplate", "infrastructure", name]
  reject (ref.apiVersion == "") (invalid (field "apiVersion") (.text ref.apiVersion) "cannot be empty") ++
  reject (ref.kind == "") (invalid (field "kind") (.text ref.kind) "cannot be empty") ++
  reject (ref.name == "") (invalid (field "name") (.text ref.name) "cannot be empty") ++
  reject (ref.ns != ns) (invalid (field "namespace") (.text ref.ns) "must match metadata.namespace")

/-- The form of a Kubernetes version, with the letter before it. -/
def isKubeSemver (version : String) : Bool :=
  match version.toList with
  | 'v' :: rest => (kubeSemver rest).isSome
  | _ => false

def validateRolloutBefore (rolloutBefore : Option RolloutBefore) (path : String) : List FieldError :=
  match rolloutBefore.bind RolloutBefore.certificatesExpiryDays with
  | none => []
  | some days => reject (days < minimumCertificatesExpiryDays)
      (invalid (child path ["certificatesExpiryDays"]) (.number days)
        ("must be greater than or equal to " ++ toString minimumCertificatesExpiryDays))

def validateRolloutStrategy (rolloutStrategy : Option RolloutStrategy) (replicas : Option Int32)
    (path : String) : Except Err (List FieldError) := do
  let some strategy := rolloutStrategy | return []
  let some rollingUpdate := strategy.rollingUpdate | throw nilPointerDereference
  let some maxSurge := rollingUpdate.maxSurge | throw nilPointerDereference
  return reject (strategy.type != rollingUpdateStrategyType)
      (required (child path ["type"]) "only RollingUpdateStrategyType is supported") ++
    reject (maxSurge.intValue == 0 && replicas.any (· < 3))
      (required (child path ["rollingUpdate"])
        "when OCNEControlPlane is configured to scale-in, replica count needs to be at least 3") ++
    reject (maxSurge.intValue != 1 && maxSurge.intValue != 0)
      (required (child path ["rollingUpdate", "maxSurge"]) "value must be 1 or 0")

def validateKubeadmControlPlaneSpec (spec : OCNEControlPlaneSpec) (ns path : String) :
    Except Err (List FieldError) := do
  let strategyErrs ← validateRolloutStrategy spec.rolloutStrategy spec.replicas (child path ["rolloutStrategy"])
  return validateReplicas spec path ++
    validateInfrastructureRef spec.machineTemplate.infrastructureRef ns path ++
    reject (!isKubeSemver spec.version)
      (invalid (child path ["version"]) (.text spec.version) "must be a valid semantic version") ++
    validateRolloutBefore spec.rolloutBefore (child path ["rolloutBefore"]) ++ strategyErrs

/-- The checks of a cluster configuration that has no previous one. -/
def validateClusterConfiguration (configuration : Option ClusterConfiguration) (path : String) :
    List FieldError :=
  match configuration with
  | none => []
  | some configuration =>
    let tag := configuration.dns.imageTag
    reject (!imageTagIsValid tag) (forbidden (child path ["dns", "imageTag"]) ("tag " ++ tag ++ " is invalid")) ++
    (match parseMajorMinorPatchTolerant tag with
      | .ok _ => []
      | .error error => reject (tag != "") (invalid (child "dns" ["imageTag"]) (.text tag)
          ("failed to parse CoreDNS version: " ++ error.message))) ++
    (match configuration.etcd.localEtcd with
      | none => []
      | some localEtcd =>
        reject (!imageTagIsValid localEtcd.imageMeta.imageTag)
          (forbidden (child path ["etcd", "local", "imageTag"])
            ("tag " ++ localEtcd.imageMeta.imageTag ++ " is invalid")) ++
        reject configuration.etcd.external.isSome
          (forbidden (child path ["etcd", "local"]) "cannot have both external and local etcd"))

/-- Nothing is checked without the table of tags. -/
def validateOCNEData (metadata : Except Err OCNEMetadata) (configuration : Option ClusterConfiguration)
    (version : String) : List FieldError :=
  match configuration, metadata with
  | some configuration, .ok metadata =>
    let dns := configuration.dns
    reject (dns.imageTag != "" && dns.imageRepository == defaultOCNEImageRepository &&
        dns.imageTag != (metadata.images version).coreDNS)
      (invalid (child "dns" ["imageTag"]) (.text dns.imageTag)
        ("not supported coreDNS image tag for kubernetes version " ++ version ++ ".")) ++
    (match configuration.etcd.localEtcd with
      | none => []
      | some localEtcd =>
        let image := localEtcd.imageMeta
        reject (image.imageRepository == defaultOCNEImageRepository &&
            image.imageTag != (metadata.images version).etcd)
          (invalid (child "etcd" ["local", "imageTag"]) (.text image.imageTag)
            ("not supported etcd image tag for kubernetes version " ++ version ++ ".")))
  | _, _ => []

def validateSocket (name socket : String) : List FieldError :=
  reject (socket != "" && socket != defaultOCNESocket)
    (invalid (child name ["nodeRegistration", "criSocket"]) (.text socket)
      ("only '" ++ defaultOCNESocket ++ "' is supported as criSocket with OCNE"))

def validateOCNESocket (config : OCNEConfigSpec) : List FieldError :=
  match config.initConfiguration, config.joinConfiguration with
  | some init, some join =>
    validateSocket "initConfiguration" init.nodeRegistration.criSocket ++
    validateSocket "joinConfiguration" join.nodeRegistration.criSocket
  | _, _ => []

def validateCreate (ignitionEnabled : Bool) (metadata : Except Err OCNEMetadata) (ocnecp : OCNEControlPlane) :
    Except Err (List FieldError) := do
  let config := ocnecp.spec.controlPlaneConfig
  let specErrs ← validateKubeadmControlPlaneSpec ocnecp.spec ocnecp.ns "spec"
  return specErrs ++
    validateClusterConfiguration config.clusterConfiguration
      (child "spec" ["controlPlaneConfig", "clusterConfiguration"]) ++
    validateOCNEData metadata config.clusterConfiguration ocnecp.spec.version ++
    validateOCNESocket config ++ validate ignitionEnabled config (child "spec" ["controlPlaneConfig"])

variable (spec : OCNEControlPlaneSpec)

theorem validateReplicas_eq_nil (path : String) {replicas : Int32}
    (given : spec.replicas = some replicas) : validateReplicas spec path = [] ↔
      0 < replicas ∧ (externalEtcd spec = false → replicas % 2 ≠ 0) := by
  simp [validateReplicas, given]

theorem validateRolloutStrategy_eq_ok_nil (strategy : Option RolloutStrategy) (replicas : Int32) (path : String) :
    validateRolloutStrategy strategy (some replicas) path = .ok [] ↔
      ∀ chosen, strategy = some chosen → ∃ maxSurge : IntOrString,
        chosen = ⟨rollingUpdateStrategyType, some ⟨some maxSurge⟩⟩ ∧
        (maxSurge.intValue = 1 ∨ maxSurge.intValue = 0 ∧ 3 ≤ replicas) := by
  rcases strategy with _ | ⟨type, _ | ⟨_ | maxSurge⟩⟩
  · simp [validateRolloutStrategy, pure, Except.pure]
  · simp [validateRolloutStrategy, throw, throwThe, MonadExceptOf.throw]
  · simp [validateRolloutStrategy, throw, throwThe, MonadExceptOf.throw]
  · have apart : maxSurge.intValue = 1 → maxSurge.intValue ≠ 0 := by omega
    simp [validateRolloutStrategy, pure, Except.pure]
    tauto

theorem validateKubeadmControlPlaneSpec_eq_ok_nil (ns path : String) :
    validateKubeadmControlPlaneSpec spec ns path = .ok [] ↔
      validateReplicas spec path = [] ∧
      validateRolloutStrategy spec.rolloutStrategy spec.replicas (child path ["rolloutStrategy"]) = .ok [] ∧
      validateInfrastructureRef spec.machineTemplate.infrastructureRef ns path = [] ∧
      isKubeSemver spec.version = true ∧
      validateRolloutBefore spec.rolloutBefore (child path ["rolloutBefore"]) = [] := by
  unfold validateKubeadmControlPlaneSpec
  cases validateRolloutStrategy spec.rolloutStrategy spec.replicas (child path ["rolloutStrategy"]) with
  | error error => simp [bind, Except.bind]
  | ok strategyErrs =>
    simp only [bind, Except.bind, pure, Except.pure, Except.ok.injEq, List.append_eq_nil_iff, reject_eq_nil]
    simp only [Bool.not_eq_false_eq_eq_true]
    tauto

end OcneProvider.Webhooks.Validation
