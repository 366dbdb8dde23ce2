import OcneProvider.Effects.Fallible
import OcneProvider.Webhooks.Validation

/-! The upgrade of CoreDNS: which image to move to, and the calls that migrate the
Corefile and change the deployment. -/

namespace OcneProvider.CoreDNS.Upgrade
open Api.Meta Api.Bootstrap Api.Formats Effects.Program Effects.Fallible

def corefileKey : String := "Corefile"

def corefileBackupKey : String := "Corefile-backup"

def coreDNSKey : String := "coredns"

def coreDNSVolumeKey : String := "config-volume"

def oldCoreDNSImageName : String := "coredns"

def coreDNSImageName : String := "coredns/coredns"

def oldControlPlaneTaint : String := "node-role.kubernetes.io/master"

def controlPlaneTaint : String := "node-role.kubernetes.io/control-plane"

def defaultImageRepository : String := "registry.k8s.io"

def oldDefaultImageRepository : String := "k8s.gcr.io"

/-- A semantic version by its numbers and whether it is a pre-release of them. -/
structure SemVer where
  numbers : Version
  preRelease : Bool

def versionLt (first second : Version) : Bool :=
  first.major < second.major || (first.major == second.major &&
    (first.minor < second.minor || (first.minor == second.minor && first.patch < second.patch)))

def SemVer.lt (version : SemVer) (release : Version) : Bool :=
  versionLt version.numbers release || (version.numbers == release && version.preRelease)

def SemVer.gte (version : SemVer) (release : Version) : Bool :=
  !version.lt release

def SemVer.lte (version : SemVer) (release : Version) : Bool :=
  versionLt version.numbers release || version.numbers == release

def versionString (version : Version) : String :=
  toString version.major ++ "." ++ toString version.minor ++ "." ++ toString version.patch

def getDefaultRegistry (version : SemVer) : String :=
  if version.lte ⟨1, 22, 16⟩ then oldDefaultImageRepository
  else if version.gte ⟨1, 22, 17⟩ && version.lt ⟨1, 23, 0⟩ then defaultImageRepository
  else if version.gte ⟨1, 23, 0⟩ && version.lte ⟨1, 23, 14⟩ then oldDefaultImageRepository
  else if version.gte ⟨1, 23, 15⟩ && version.lt ⟨1, 24, 0⟩ then defaultImageRepository
  else if version.gte ⟨1, 24, 0⟩ && version.lte ⟨1, 24, 7⟩ then oldDefaultImageRepository
  else Webhooks.Validation.defaultOCNEImageRepository

def imageRepositoryFromClusterConfig (config : ClusterConfiguration) (version : SemVer) : String :=
  if config.imageRepository ≠ "" then config.imageRepository
  else if version.gte ⟨1, 24, 8⟩ && version.lt ⟨1, 25, 7⟩ then getDefaultRegistry version
  else ""

structure Container where
  name : String
  image : String
  deriving DecidableEq

structure KeyToPath where
  key : String
  path : String
  deriving DecidableEq

structure ConfigMapVolume where
  name : String
  items : List KeyToPath
  deriving DecidableEq

structure Volume where
  name : String
  configMap : Option ConfigMapVolume
  deriving DecidableEq

structure Toleration where
  key : String
  operator : String
  value : String
  effect : String
  tolerationSeconds : Option Int
  deriving DecidableEq

structure Deployment where
  containers : List Container
  volumes : List Volume
  tolerations : List Toleration
  deriving DecidableEq

structure Image where
  repository : String
  name : String
  tag : String

/-- The names of images and the migration of a Corefile. -/
structure Tools where
  imageFromString : String → Except Err Image
  migrate : (current target corefile : String) → Except Err String
  migrationVersions : String → Bool

structure Plan where
  fromImageTag : String
  toImageTag : String
  currentMajorMinorPatch : String
  targetMajorMinorPatch : String
  fromImage : String
  toImage : String
  deriving DecidableEq

def extractImageVersion (tag : String) : Except Err Version :=
  (parseMajorMinorPatchTolerant tag).mapError (Err.wrap ("error parsing semver from " ++ quoted tag))

def hasStart (text start : String) : Bool :=
  start.toList.isPrefixOf text.toList

def trimStart (text start : String) : String :=
  if hasStart text start then String.ofList (text.toList.drop start.toList.length) else text

def trimSlash (text : String) : String :=
  if text.toList.getLast? = some '/' then String.ofList text.toList.dropLast else text

def toRepository (config : ClusterConfiguration) (version : SemVer) (current : String) : String :=
  let registry := imageRepositoryFromClusterConfig config version
  if config.dns.imageRepository ≠ "" then trimSlash config.dns.imageRepository
  else if registry = "" then current
  else if registry ≠ defaultImageRepository then trimSlash registry
  else if hasStart current oldDefaultImageRepository then
    trimSlash (registry ++ trimStart current oldDefaultImageRepository)
  else current

def planFor (tools : Tools) (config : ClusterConfiguration) (version : SemVer) (image : String) : Except Err Plan := do
  let parsed ← (tools.imageFromString image).mapError
    (Err.wrap ("unable to parse " ++ quoted image ++ " deployment image"))
  let repository := toRepository config version parsed.repository
  if parsed.tag = "" then
    throw (errorf ("failed to update coredns deployment: does not have a valid image tag: " ++ quoted image))
  let current ← extractImageVersion parsed.tag
  let tag := if config.dns.imageTag ≠ "" then config.dns.imageTag else parsed.tag
  let target ← extractImageVersion tag
  let name := if (repository = oldDefaultImageRepository ∨ repository = defaultImageRepository) ∧
    parsed.name = oldCoreDNSImageName ∧ !versionLt target ⟨1, 8, 0⟩ then coreDNSImageName else parsed.name
  return {
    fromImageTag := parsed.tag
    toImageTag := tag
    currentMajorMinorPatch := versionString current
    targetMajorMinorPatch := versionString target
    fromImage := image
    toImage := repository ++ "/" ++ name ++ ":" ++ tag }

def validateCoreDNSImageTag (tools : Tools) (fromTag toTag : String) : Except Err Unit := do
  let first ← (parseMajorMinorPatchTolerant fromTag).mapError
    (Err.wrap ("failed to parse CoreDNS current version " ++ quoted fromTag))
  let last ← (parseMajorMinorPatchTolerant toTag).mapError
    (Err.wrap ("failed to parse CoreDNS target version " ++ quoted toTag))
  if versionLt last first then
    throw (errorf ("toVersion " ++ quoted toTag ++ " must be greater than or equal to fromVersion " ++ quoted fromTag))
  if !tools.migrationVersions (versionString first) then
    throw (errorf ("fromVersion " ++ quoted (versionString first) ++ " is not a compatible coredns version"))

/-- The cluster role and the stored configuration are brought up to date by calls of their own. -/
inductive Call where
  | getConfigMap
  | getDeployment
  | updateClusterRole
  | updateClusterConfiguration (dns : ImageMeta)
  | updateConfigMap (data : StringMap)
  | patchDeployment (patched : Deployment)

def Call.Answer : Call → Type
  | getConfigMap => Except Err StringMap
  | getDeployment => Except Err Deployment
  | updateClusterRole | updateClusterConfiguration _ | updateConfigMap _ | patchDeployment _ => Except Err Unit

abbrev signature : Signature := ⟨Call, Call.Answer⟩

abbrev Api := Try signature Err

def getConfigMap : Api StringMap := ExceptT.mk (Prog.perform (S := signature) .getConfigMap)

def getDeployment : Api Deployment := ExceptT.mk (Prog.perform (S := signature) .getDeployment)

def updateClusterRole : Api Unit := ExceptT.mk (Prog.perform (S := signature) .updateClusterRole)

def updateCoreDNSImageInfoInOCNEConfigMap (dns : ImageMeta) : Api Unit :=
  ExceptT.mk (Prog.perform (S := signature) (.updateClusterConfiguration dns))

def updateConfigMap (data : StringMap) : Api Unit :=
  ExceptT.mk (Prog.perform (S := signature) (.updateConfigMap data))

def patchDeployment (patched : Deployment) : Api Unit :=
  ExceptT.mk (Prog.perform (S := signature) (.patchDeployment patched))

def given {α : Type} (value : Except Err α) : Api α :=
  ExceptT.mk (pure value)

def runningImage (deployment : Deployment) : Option String :=
  (deployment.containers.find? (·.name == coreDNSKey)).map Container.image

structure CoreDNSInfo where
  corefile : String
  deployment : Deployment
  plan : Plan

def getCoreDNSInfo (tools : Tools) (config : ClusterConfiguration) (version : SemVer) : Api CoreDNSInfo := do
  let data ← adaptError (Err.wrap "error getting kube-system/coredns config map from target cluster") getConfigMap
  let some corefile := data.lookup corefileKey | throw (errorf "unable to find the CoreDNS Corefile data")
  let deployment ← adaptError (Err.wrap "unable to get kube-system/coredns deployment from target cluster")
    getDeployment
  let some image := runningImage deployment
    | throw (errorf ("failed to update coredns deployment: deployment spec has no " ++ quoted coreDNSKey ++
        " container"))
  return ⟨corefile, deployment, ← given (planFor tools config version image)⟩

def updateCoreDNSClusterRole (version : SemVer) (plan : Plan) : Api Unit := do
  if versionLt version.numbers ⟨1, 22, 0⟩ then return ()
  else
    let target ← given (extractImageVersion plan.toImageTag)
    if versionLt target ⟨1, 8, 1⟩ then return ()
    else
      let source ← given (extractImageVersion plan.fromImageTag)
      if version.gte ⟨1, 23, 0⟩ && !versionLt source ⟨1, 8, 1⟩ then return ()
      else updateClusterRole

def patchCoreDNSDeploymentVolume (deployment : Deployment) (fromKey toKey : String) : Deployment :=
  { deployment with volumes := deployment.volumes.map fun volume =>
    match volume.configMap with
    | none => volume
    | some source =>
      if volume.name = coreDNSVolumeKey ∧ source.name = coreDNSKey then
        { volume with configMap := some { source with items := source.items.map fun item =>
          if item.key = fromKey ∨ item.key = toKey then { item with key := toKey } else item } }
      else volume }

def patchCoreDNSDeploymentImage (deployment : Deployment) (image : String) : Deployment :=
  { deployment with containers := deployment.containers.map fun container =>
    if container.name = coreDNSKey then { container with image := image } else container }

def tolerates (taint : String) (toleration : Toleration) : Bool :=
  toleration.key == taint && toleration.effect == "NoSchedule" && toleration.value == ""

def patchCoreDNSDeploymentTolerations (deployment : Deployment) (version : SemVer) : Deployment :=
  let added := ⟨controlPlaneTaint, "", "", "NoSchedule", none⟩ ::
    if version.lt ⟨1, 26, 0⟩ then [⟨oldControlPlaneTaint, "", "", "NoSchedule", none⟩] else []
  let others := deployment.tolerations.filter fun toleration =>
    !tolerates oldControlPlaneTaint toleration && !tolerates controlPlaneTaint toleration
  { deployment with tolerations := added ++ others }

def corefiles (corefile backup : String) : StringMap :=
  ((∅ : StringMap).insert corefileKey corefile).insert corefileBackupKey backup

/-- Moves the deployment to a backup, and then migrates the Corefile. -/
def updateCoreDNSCorefile (tools : Tools) (info : CoreDNSInfo) : Api Deployment := do
  let updatedCorefile ← adaptError (Err.wrap "unable to migrate CoreDNS corefile")
    (given (tools.migrate info.plan.currentMajorMinorPatch info.plan.targetMajorMinorPatch info.corefile))
  adaptError (Err.wrap "unable to update CoreDNS config map with backup Corefile")
    (updateConfigMap (corefiles info.corefile info.corefile))
  let moved := patchCoreDNSDeploymentVolume info.deployment corefileKey corefileBackupKey
  patchDeployment moved
  adaptError (Err.wrap "unable to update CoreDNS config map")
    (updateConfigMap (corefiles updatedCorefile info.corefile))
  return moved

def updateCoreDNSDeployment (plan : Plan) (version : SemVer) (deployment : Deployment) : Api Unit :=
  patchDeployment (patchCoreDNSDeploymentTolerations (patchCoreDNSDeploymentVolume
    (patchCoreDNSDeploymentImage deployment plan.toImage) corefileBackupKey corefileKey) version)

def upgrade (tools : Tools) (config : ClusterConfiguration) (version : SemVer) (info : CoreDNSInfo) : Api Unit := do
  updateCoreDNSClusterRole version info.plan
  if info.plan.fromImage = info.plan.toImage then return ()
  else
    adaptError (Err.wrap "failed to validate CoreDNS")
      (given (validateCoreDNSImageTag tools info.plan.fromImageTag info.plan.toImageTag))
    updateCoreDNSImageInfoInOCNEConfigMap config.dns
    let moved ← updateCoreDNSCorefile tools info
    adaptError (Err.wrap "unable to update coredns deployment") (updateCoreDNSDeployment info.plan version moved)

def updateCoreDNS (tools : Tools) (skip : Bool) (config : Option ClusterConfiguration) (version : SemVer) :
    Api Unit := do
  match config with
  | none => return ()
  | some config =>
    if skip then return ()
    else
      match ← attempt (getCoreDNSInfo tools config version) with
      | .error error => if error.is .notFound then return () else throw error
      | .ok info => upgrade tools config version info

/-- The image of the community registries was renamed. -/
def toName (repository name : String) (target : Version) : String :=
  if (repository = oldDefaultImageRepository ∨ repository = defaultImageRepository) ∧
    name = oldCoreDNSImageName ∧ !versionLt target ⟨1, 8, 0⟩ then coreDNSImageName else name

def toTag (config : ClusterConfiguration) (tag : String) : String :=
  if config.dns.imageTag ≠ "" then config.dns.imageTag else tag

structure Planned (tools : Tools) (config : ClusterConfiguration) (version : SemVer) (image : String) (plan : Plan)
    (parsed : Image) (current target : Version) : Prop where
  parses : tools.imageFromString image = .ok parsed
  tagged : parsed.tag ≠ ""
  runs : extractImageVersion parsed.tag = .ok current
  moves : extractImageVersion (toTag config parsed.tag) = .ok target
  made : plan = ⟨parsed.tag, toTag config parsed.tag, versionString current, versionString target, image,
    toRepository config version parsed.repository ++ "/" ++
      toName (toRepository config version parsed.repository) parsed.name target ++ ":" ++ toTag config parsed.tag⟩

theorem planFor_eq_ok_iff {tools : Tools} {config : ClusterConfiguration} {version : SemVer} {image : String}
    {plan : Plan} : planFor tools config version image = .ok plan ↔
      ∃ parsed current target, Planned tools config version image plan parsed current target := by
  unfold planFor
  simp only [bind_eq_ok, mapError_eq_ok]
  constructor
  · rintro ⟨parsed, parses, made⟩
    by_cases tagged : parsed.tag = ""
    · rw [if_pos tagged] at made
      cases made
    rw [if_neg tagged] at made
    obtain ⟨current, runs, made⟩ := bind_eq_ok.mp made
    obtain ⟨target, moves, made⟩ := bind_eq_ok.mp made
    exact ⟨parsed, current, target, parses, tagged, runs, moves, (Except.ok.inj made).symm⟩
  · rintro ⟨parsed, current, target, parses, tagged, runs, moves, rfl⟩
    refine ⟨parsed, parses, ?_⟩
    rw [if_neg tagged]
    exact bind_eq_ok.mpr ⟨current, runs, bind_eq_ok.mpr ⟨target, moves, rfl⟩⟩

end OcneProvider.CoreDNS.Upgrade
