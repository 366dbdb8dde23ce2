import OcneProvider.Api.Encoding
import OcneProvider.CoreDNS.Upgrade

/-! The checks a change of a control plane object passes: which JSON paths may change, and
the versions and the etcd mode before and after. -/

namespace OcneProvider.Webhooks.Update
open Api Api.Meta Api.Bootstrap Api.Objects Api.Formats Api.Encoding ConfigSpec Validation CoreDNS.Upgrade
open Data.MergePatch Effects.Fallible

def configPath : List String := ["spec", "controlPlaneConfig"]

def clusterConfigurationPath : List String := configPath ++ ["clusterConfiguration"]

def formatPath : List String := configPath ++ ["format"]

def externalEtcdPath : List String := clusterConfigurationPath ++ ["etcd", "external"]

def cloudConfigFormat : String := "cloud-config"

/-- The encoding has a known shape, and two fields if the object has them. -/
structure Document where
  object : OCNEControlPlane
  json : Tree
  shaped : Encoding.ocneControlPlane.admits json = true
  format : look (some json) formatPath = if object.spec.controlPlaneConfig.format = "" then none
    else some (.value (.text object.spec.controlPlaneConfig.format))
  external : (look (some json) externalEtcdPath).isSome = !object.isEtcdManaged

/-- The paths that may change; a star stands for everything beneath. -/
def allowedPaths : List (List String) := [
  ["metadata", "*"],
  clusterConfigurationPath ++ ["etcd", "local", "imageRepository"],
  clusterConfigurationPath ++ ["etcd", "local", "imageTag"],
  clusterConfigurationPath ++ ["etcd", "local", "extraArgs", "*"],
  clusterConfigurationPath ++ ["dns", "imageRepository"],
  clusterConfigurationPath ++ ["dns", "imageTag"],
  clusterConfigurationPath ++ ["imageRepository"],
  clusterConfigurationPath ++ ["apiServer", "*"],
  clusterConfigurationPath ++ ["controllerManager", "*"],
  clusterConfigurationPath ++ ["scheduler", "*"],
  configPath ++ ["initConfiguration", "nodeRegistration", "*"],
  configPath ++ ["initConfiguration", "patches", "directory"],
  configPath ++ ["initConfiguration", "skipPhases"],
  configPath ++ ["joinConfiguration", "nodeRegistration", "*"],
  configPath ++ ["joinConfiguration", "patches", "directory"],
  configPath ++ ["joinConfiguration", "skipPhases"],
  configPath ++ ["preOCNECommands"],
  configPath ++ ["postOCNECommands"],
  configPath ++ ["files"],
  configPath ++ ["verbosity"],
  configPath ++ ["users"],
  configPath ++ ["ntp", "*"],
  configPath ++ ["ignition", "*"],
  configPath ++ ["diskSetup", "*"],
  ["spec", "machineTemplate", "metadata", "*"],
  ["spec", "machineTemplate", "infrastructureRef", "apiVersion"],
  ["spec", "machineTemplate", "infrastructureRef", "name"],
  ["spec", "machineTemplate", "infrastructureRef", "kind"],
  ["spec", "machineTemplate", "nodeDrainTimeout"],
  ["spec", "machineTemplate", "nodeVolumeDetachTimeout"],
  ["spec", "machineTemplate", "nodeDeletionTimeout"],
  ["spec", "replicas"],
  ["spec", "version"],
  ["spec", "rolloutAfter"],
  ["spec", "rolloutBefore", "*"],
  ["spec", "rolloutStrategy", "*"],
  ["spec", "moduleOperator"],
  ["spec", "moduleOperator", "*"],
  ["spec", "verrazzanoPlatformOperator"],
  ["spec", "verrazzanoPlatformOperator", "*"]]

/-- Whether an object without a format takes the default one. -/
def defaultsFormat (prev new : OCNEControlPlane) : Bool :=
  prev.spec.controlPlaneConfig.format == "" && new.spec.controlPlaneConfig.format == cloudConfigFormat

def allowedPathsFor (prev new : OCNEControlPlane) : List (List String) :=
  if defaultsFormat prev new then allowedPaths ++ [formatPath] else allowedPaths

def pathsMatch : List String → List String → Bool
  | [], _ => false
  | _, [] => false
  | allowed :: others, key :: rest =>
    if allowed = "*" then true
    else if key ≠ allowed then false
    else if rest = [] then others.isEmpty
    else pathsMatch others rest

def allowed (allowList : List (List String)) (path : List String) : Bool :=
  allowList.any fun entry => pathsMatch entry path

mutual

def paths : (path : List String) → List (String × Tree) → List (List String)
  | _, [] => []
  | path, (key, content) :: rest => entryPaths path key content ++ paths path rest

def entryPaths : (path : List String) → (key : String) → Tree → List (List String)
  | path, key, .object nested => paths (path ++ [key]) nested
  | path, key, .null | path, key, .value _ => [path ++ [key]]

end

/-- The paths that an update changes and may not. -/
def forbiddenPaths (prev new : Document) : List (List String) :=
  (paths [] (fieldsOf (diff (some prev.json) (some new.json)))).filter
    fun path => path ≠ [] ∧ !allowed (allowedPathsFor prev.object new.object) path

def validatePaths (prev new : Document) : List FieldError :=
  (forbiddenPaths prev new).map fun path => forbidden (".".intercalate path) "cannot be modified"

/-- The checks of a cluster configuration that only an update makes. -/
def validateEtcdUpdate (new prev : Option ClusterConfiguration) (path : String) : List FieldError :=
  match new, prev with
  | some new, some prev =>
    reject (new.etcd.external.isSome && prev.etcd.localEtcd.isSome)
      (forbidden (child path ["etcd", "external"]) "cannot change between external and local etcd") ++
    reject (new.etcd.localEtcd.isSome && prev.etcd.external.isSome)
      (forbidden (child path ["etcd", "local"]) "cannot change between external and local etcd")
  | _, _ => []

/-- The table of releases, the migrations of CoreDNS and a feature gate. -/
structure Runtime where
  ignitionEnabled : Bool
  metadata : Except Err OCNEMetadata
  validUpMigration : String → String → Except Err Unit

def validateOCNEVersionOnUpgrade (runtime : Runtime) (new : OCNEControlPlane) : List FieldError :=
  match runtime.metadata with
  | .error _ => []
  | .ok metadata =>
    reject ((metadata.packages new.spec.version).kubeadm == "")
      (invalid (child "spec" ["version"]) (.text new.spec.version)
        ("upgrade not supported to kubernetes version " ++ new.spec.version ++ "."))

def coreDNSTag (ocnecp : OCNEControlPlane) : String :=
  match ocnecp.spec.controlPlaneConfig.clusterConfiguration with
  | none => ""
  | some configuration => configuration.dns.imageTag

def validateCoreDNSVersion (runtime : Runtime) (prev new : OCNEControlPlane) : List FieldError :=
  let field := child "spec" ["controlPlaneConfig", "clusterConfiguration", "dns", "imageTag"]
  if coreDNSTag prev = "" ∨ coreDNSTag new = "" then []
  else
    match parseMajorMinorPatchTolerant (coreDNSTag prev) with
    | .error error => [invalid field (.text (coreDNSTag prev))
        ("failed to parse current CoreDNS version: " ++ error.message)]
    | .ok fromVersion =>
      match parseMajorMinorPatchTolerant (coreDNSTag new) with
      | .error error => [invalid field (.text (coreDNSTag new))
          ("failed to parse target CoreDNS version: " ++ error.message)]
      | .ok toVersion =>
        if toVersion = fromVersion then []
        else
          match runtime.validUpMigration (versionString fromVersion) (versionString toVersion) with
          | .ok _ => []
          | .error error => [forbidden field ("cannot migrate CoreDNS up to '" ++ versionString toVersion ++
              "' from '" ++ versionString fromVersion ++ "': " ++ error.message)]

def usesDefaultRegistry (ocnecp : OCNEControlPlane) : Bool :=
  match ocnecp.spec.controlPlaneConfig.clusterConfiguration with
  | none => true
  | some configuration => configuration.imageRepository == ""

/-- The first version more than one minor version above, in 64 bits. -/
def ceilVersion (version : Version) : Version :=
  ⟨version.major, (version.minor + 2) % 2 ^ 64, 0⟩

def validateVersion (previousVersion : String) (new : OCNEControlPlane) : List FieldError :=
  let field := child "spec" ["version"]
  match parseMajorMinorPatch previousVersion false with
  | .error error => [internalError field
      (error.wrap ("failed to parse current ocnecontrolplane version: " ++ previousVersion))]
  | .ok fromVersion =>
    match parseMajorMinorPatch new.spec.version false with
    | .error error => [internalError field
        (error.wrap ("failed to parse updated ocnecontrolplane version: " ++ new.spec.version))]
    | .ok toVersion =>
      if fromVersion ≠ toVersion ∧ toVersion = ⟨1, 19, 0⟩ then
        [forbidden field ("cannot update Kubernetes version to v1.19.0, for more information see " ++
          "https://github.com/kubernetes-sigs/cluster-api/issues/3564")]
      else
        reject (!versionLt toVersion (ceilVersion fromVersion))
          (forbidden field ("cannot update Kubernetes version from " ++ previousVersion ++ " to " ++ new.spec.version)) ++
        reject (usesDefaultRegistry new && toVersion != fromVersion &&
            !versionLt toVersion ⟨1, 24, 8⟩ && versionLt toVersion ⟨1, 25, 7⟩ &&
            getDefaultRegistry ⟨toVersion, false⟩ == oldDefaultImageRepository)
          (forbidden field ("cannot upgrade to a Kubernetes/kubeadm version which is using the old default registry. " ++
            "Please use a newer Kubernetes patch release which is using the new default registry " ++
            "(>= v1.22.17, >= v1.23.15, >= v1.24.9)"))

/-- The errors for which a change of a control plane object is refused. -/
def validateUpdate (runtime : Runtime) (prev new : Document) : Except Err (List FieldError) := do
  let config := new.object.spec.controlPlaneConfig
  let path := child "spec" ["controlPlaneConfig", "clusterConfiguration"]
  let specErrs ← validateKubeadmControlPlaneSpec new.object.spec new.object.ns "spec"
  return specErrs ++ validatePaths prev new ++ validateVersion prev.object.spec.version new.object ++
    (validateClusterConfiguration config.clusterConfiguration path ++
      validateEtcdUpdate config.clusterConfiguration
        prev.object.spec.controlPlaneConfig.clusterConfiguration path) ++
    validateOCNEVersionOnUpgrade runtime new.object ++ validateOCNESocket config ++
    validateCoreDNSVersion runtime prev.object new.object ++
    validate runtime.ignitionEnabled config (child "spec" ["controlPlaneConfig"])

variable {runtime : Runtime} {prev new : Document}

theorem validateUpdate_comparisons (accepted : validateUpdate runtime prev new = .ok []) :
    validatePaths prev new = [] ∧ validateVersion prev.object.spec.version new.object = [] := by
  obtain ⟨specErrs, _, accepted⟩ := bind_eq_ok.mp accepted
  simp only [pure, Except.pure, Except.ok.injEq, List.append_eq_nil_iff] at accepted
  exact ⟨accepted.1.1.1.1.1.1.2, accepted.1.1.1.1.1.2⟩

theorem validateUpdate_paths (accepted : validateUpdate runtime prev new = .ok []) : forbiddenPaths prev new = [] := by
  simpa [validatePaths] using (validateUpdate_comparisons accepted).1

end OcneProvider.Webhooks.Update
