import OcneProvider.Data.Strings
import OcneProvider.Semver.Lowest
import OcneProvider.Semver.Metadata

/-! The images with which the optional operators are installed: the default ones, and what an override of the
repository or the tag makes of them. -/

namespace OcneProvider.Helm.Images
open Api.Meta Data.Strings Semver.Lowest Semver.Metadata List

abbrev Text := List Char

structure ImageMeta where
  repository : Text
  tag : Text
  pullPolicy : Text

structure ModuleOperator where
  image : Option ImageMeta
  imagePullSecrets : Slice Text

structure VerrazzanoPlatformOperator where
  image : Option ImageMeta
  imagePullSecrets : Slice Text
  privateRegistry : Bool

structure HelmValuesTemplate where
  repository : Text
  tag : Text
  pullPolicy : Text
  imagePullSecrets : Slice Text

structure VPOHelmValuesTemplate where
  image : Text
  privateRegistry : Bool
  repository : Text
  registry : Text
  pullPolicy : Text
  imagePullSecrets : Slice Text
  appOperatorImage : Text
  clusterOperatorImage : Text

structure Parts where
  registry : Text
  repo : Text
  image : Text
  tag : Text
  deriving DecidableEq

def moduleOperatorRepo : Text := "ghcr.io".toList

def moduleOperatorNamespace : Text := "verrazzano".toList

def moduleOperatorImageName : Text := "module-operator".toList

def defaultImagePullPolicy : Text := "IfNotPresent".toList

def verrazzanoPlatformOperatorRepo : Text := "ghcr.io".toList

def getDefaultModuleOperatorImageRepo : Text :=
  moduleOperatorRepo ++ '/' :: moduleOperatorNamespace ++ '/' :: moduleOperatorImageName

/-- The error of a call that indexes a slice beyond its end. -/
def indexOutOfRange (index length : Nat) : Err :=
  errorf ("runtime error: index out of range [" ++ toString index ++ "] with length " ++ toString length)

def isSlash (char : Char) : Bool := char == '/'

def trimSpace (text : Text) : Text := trim isSpace text

/-- An override gets the name of the image if it does not end in it. -/
def overriddenRepository (image repository : Text) : Text :=
  let trimmed := trim isSlash (trimSpace repository)
  if lastPart '/' trimmed = image then repository
  else ['/'].intercalate (trimmed.splitOn '/') ++ '/' :: image

def trimmedOr (value fallback : Text) : Text :=
  if value = [] then fallback else trimSpace value

def repositoryOr (fallback image repository : Text) : Text :=
  if repository = [] then fallback else overriddenRepository image repository

def moduleRepository (repository : Text) : Text :=
  repositoryOr getDefaultModuleOperatorImageRepo moduleOperatorImageName repository

/-- The tag of a version that is not known is empty. -/
def moduleOperatorTag (ocneMeta : Mapping) (k8sVersion : String) : Text :=
  (ocneMeta.lookup k8sVersion).elim [] (·.images.moduleOperator.toList)

def moduleOperatorHelmMeta (ocneMeta : Mapping) (spec : ModuleOperator) (k8sVersion : String) : HelmValuesTemplate :=
  match spec.image with
  | some image =>
    { repository := moduleRepository image.repository
      tag := trimmedOr image.tag (moduleOperatorTag ocneMeta k8sVersion)
      pullPolicy := trimmedOr image.pullPolicy defaultImagePullPolicy
      imagePullSecrets := spec.imagePullSecrets }
  | none =>
    { repository := getDefaultModuleOperatorImageRepo
      tag := moduleOperatorTag ocneMeta k8sVersion
      pullPolicy := defaultImagePullPolicy
      imagePullSecrets := some [] }

def parseDefaultVPOImage (vpoImage : Text) : Except Err Parts :=
  match vpoImage.splitOn ':' with
  | untagged :: tag :: _ =>
    let image := lastPart '/' untagged
    let regRepo := trimSuffix ('/' :: image) untagged
    let registry := firstPart '/' regRepo
    let repo := trimPrefix (registry ++ ['/']) regRepo
    .ok ⟨registry, repo, image, tag⟩
  | splitTag => .error (indexOutOfRange 1 splitTag.length)

def Parts.untagged (parts : Parts) : Text :=
  parts.registry ++ '/' :: parts.repo ++ '/' :: parts.image

def Parts.text (parts : Parts) : Text :=
  parts.untagged ++ ':' :: parts.tag

def platformRepository (default : Parts) (repository : Text) : Text :=
  repositoryOr default.untagged default.image repository

def platformImage (default : Parts) (image : ImageMeta) : Text :=
  platformRepository default image.repository ++ ':' :: trimmedOr image.tag default.tag

/-- The image of another operator, next to that of the platform operator. -/
def operatorImage (name : String) (parts : Parts) : Text :=
  { parts with image := replaceAll "verrazzano-platform-operator".toList name.toList parts.image }.text

def withPrivateRegistry (enabled : Bool) (parts : Parts) (helmMeta : VPOHelmValuesTemplate) : VPOHelmValuesTemplate :=
  if enabled then
    { helmMeta with
      privateRegistry := true
      registry := parts.registry
      repository := trimSuffix "/verrazzano".toList parts.repo }
  else helmMeta

/-- In the default registry the chart knows the images of the other operators. -/
def withOperatorImages (enabled : Bool) (parts : Parts) (helmMeta : VPOHelmValuesTemplate) : VPOHelmValuesTemplate :=
  if parts.registry ≠ verrazzanoPlatformOperatorRepo ∧ enabled = false then
    { helmMeta with
      appOperatorImage := operatorImage "verrazzano-application-operator" parts
      clusterOperatorImage := operatorImage "verrazzano-cluster-operator" parts }
  else helmMeta

def completed (spec : VerrazzanoPlatformOperator) (parts : Parts) (image pullPolicy : Text) : VPOHelmValuesTemplate :=
  withOperatorImages spec.privateRegistry parts <| withPrivateRegistry spec.privateRegistry parts
    { image := image
      privateRegistry := false
      repository := []
      registry := []
      pullPolicy := pullPolicy
      imagePullSecrets := some (spec.imagePullSecrets.getD [])
      appOperatorImage := []
      clusterOperatorImage := [] }

def platformOperatorHelmMeta (vpoImage : Text) (spec : VerrazzanoPlatformOperator) :
    Except Err VPOHelmValuesTemplate := do
  let default ← parseDefaultVPOImage vpoImage
  match spec.image with
  | some image =>
    let parts ← parseDefaultVPOImage (platformImage default image)
    return completed spec parts (platformImage default image) (trimmedOr image.pullPolicy defaultImagePullPolicy)
  | none => return completed spec default [] defaultImagePullPolicy

/-- Each secret opens a list of its own. -/
def valuesTemplate (helmMeta : HelmValuesTemplate) : Text :=
  "image:\n  repository: ".toList ++ helmMeta.repository ++ "\n  pullPolicy: ".toList ++ helmMeta.pullPolicy ++
    "\n  tag: ".toList ++ helmMeta.tag ++
    (helmMeta.imagePullSecrets.getD []).flatMap fun name => "\nimagePullSecrets:\n  - name: ".toList ++ name

def lineIf (key : String) (value : Text) : Text :=
  if value = [] then [] else key.toList ++ value

def vpoValuesTemplate (helmMeta : VPOHelmValuesTemplate) : Text :=
  let secrets := helmMeta.imagePullSecrets.getD []
  let registry := if helmMeta.privateRegistry then
      "\n  registry: ".toList ++ helmMeta.registry ++ "\n  repository: ".toList ++ helmMeta.repository
    else []
  let images := lineIf "\n  appOperatorImage: " helmMeta.appOperatorImage ++
    lineIf "\n  clusterOperatorImage: " helmMeta.clusterOperatorImage
  let pullSecrets := if secrets = [] then [] else
    "\n  imagePullSecrets:".toList ++ secrets.flatMap fun name => "\n    - ".toList ++ name
  let global := registry ++ images ++ pullSecrets
  "createNamespace: false".toList ++ lineIf "\nimage: " helmMeta.image ++
    "\nimagePullPolicy: ".toList ++ helmMeta.pullPolicy ++
    (if global = [] then [] else "\nglobal:".toList ++ global) ++ ['\n']

def generateDataValuesForModuleOperator (ocneMeta : Except Err Mapping) (spec : ModuleOperator) (k8sVersion : String) :
    Except Err Text := do
  return valuesTemplate (moduleOperatorHelmMeta (← ocneMeta) spec k8sVersion)

/-- The default image is read from the chart. -/
def generateDataValuesForVerrazzanoPlatformOperator (chartImage : Except Err Text)
    (spec : VerrazzanoPlatformOperator) : Except Err Text := do
  return vpoValuesTemplate (← platformOperatorHelmMeta (← chartImage) spec)

section Decomposition

def Bare (text : Text) : Prop := '/' ∉ text ∧ ':' ∉ text

structure Registry where
  host : Text
  port : Option Text

def Registry.text (registry : Registry) : Text :=
  registry.host ++ registry.port.elim [] (':' :: ·)

variable {parts : Parts}

theorem parseDefaultVPOImage_text (registry : Bare parts.registry) (repo : ':' ∉ parts.repo) (image : Bare parts.image)
    (tag : ':' ∉ parts.tag) : parseDefaultVPOImage parts.text = .ok parts := by
  have colon : ':' ∉ parts.untagged := by
    simp [Parts.untagged, registry.2, repo, image.2]
  have split : parts.text.splitOn ':' = [parts.untagged, parts.tag] := by
    rw [Parts.text, splitOn_append_cons_self_of_not_mem colon, splitOn_eq_singleton tag]
  have last : lastPart '/' parts.untagged = parts.image := lastPart_append image.1
  have cut : trimSuffix ('/' :: parts.image) parts.untagged = parts.registry ++ '/' :: parts.repo :=
    trimSuffix_append _ _
  have first : firstPart '/' (parts.registry ++ '/' :: parts.repo) = parts.registry := firstPart_append registry.1
  have rest : trimPrefix (parts.registry ++ ['/']) (parts.registry ++ '/' :: parts.repo) = parts.repo := by
    rw [append_cons parts.registry '/' parts.repo]
    exact trimPrefix_append _ _
  simp only [parseDefaultVPOImage, split, last, cut, first, rest]

/-- Of an image in a registry with a port only the host is seen. -/
theorem parseDefaultVPOImage_port {host : Text} (bare : Bare host) (rest : Text) :
    ∃ tag, parseDefaultVPOImage (host ++ ':' :: rest) = .ok ⟨host, host, host, tag⟩ := by
  obtain ⟨tag, later, parts⟩ := exists_cons_of_ne_nil (splitOn_ne_nil ':' rest)
  have split : (host ++ ':' :: rest).splitOn ':' = host :: tag :: later := by
    rw [splitOn_append_cons_self_of_not_mem bare.2, parts]
  have last : lastPart '/' host = host := lastPart_eq_self bare.1
  have uncut : trimSuffix ('/' :: host) host = host := by
    apply if_neg
    intro suffix
    have long := suffix.length_le
    simp at long
  have first : firstPart '/' host = host := by
    simp [firstPart, splitOn_eq_singleton bare.1]
  have whole : trimPrefix (host ++ ['/']) host = host := by
    apply if_neg
    intro start
    have long := start.length_le
    simp at long
  exact ⟨tag, by simp only [parseDefaultVPOImage, split, last, uncut, first, whole]⟩

variable {registry : Registry} {repository image tag : Text}

theorem Registry.text_of_port {port : Text} (given : registry.port = some port) :
    registry.text = registry.host ++ ':' :: port := by
  rw [Registry.text, given]
  rfl

theorem Registry.text_of_none (given : registry.port = none) : registry.text = registry.host := by
  rw [Registry.text, given]
  exact append_nil _

theorem parse_parts_iff (host : Bare registry.host) (path : ':' ∉ repository) (name : Bare image) (tagged : ':' ∉ tag) :
    parseDefaultVPOImage (Parts.text ⟨registry.text, repository, image, tag⟩) =
      .ok ⟨registry.text, repository, image, tag⟩ ↔ registry.port = none := by
  cases given : registry.port with
  | none =>
    rw [Registry.text_of_none given]
    exact iff_of_true (parseDefaultVPOImage_text host path name tagged) rfl
  | some port =>
    refine iff_of_false ?_ (Option.some_ne_none port)
    rw [Registry.text_of_port given]
    simp only [Parts.text, Parts.untagged, append_assoc, cons_append]
    obtain ⟨seen, parsed⟩ :=
      parseDefaultVPOImage_port host (port ++ '/' :: (repository ++ '/' :: (image ++ ':' :: tag)))
    rw [parsed]
    intro same
    have shorter := congrArg (fun parts => parts.registry.length) (Except.ok.inj same)
    simp at shorter

end Decomposition

section Overrides

/-- What surrounds an override without meaning anything. -/
def isBlankOrSlash (char : Char) : Bool := isSpace char || isSlash char

def strip (text : Text) : Text := trim isBlankOrSlash text

variable {image override : Text}

theorem isBlankOrSlash_of_isSpace (char : Char) (space : isSpace char = true) : isBlankOrSlash char = true := by
  simp [isBlankOrSlash, space]

theorem isBlankOrSlash_of_isSlash (char : Char) (slash : isSlash char = true) : isBlankOrSlash char = true := by
  simp [isBlankOrSlash, slash]

theorem strip_trimmed (text : Text) : strip (trim isSlash (trimSpace text)) = strip text := by
  rw [strip, trim_trim_of_imp isBlankOrSlash_of_isSlash, trimSpace, trim_trim_of_imp isBlankOrSlash_of_isSpace]
  rfl

theorem trimmed_of_strip (stripped : strip override = override) : trim isSlash (trimSpace override) = override := by
  rw [trimSpace, trim_eq_self_of_imp isBlankOrSlash_of_isSpace stripped]
  exact trim_eq_self_of_imp isBlankOrSlash_of_isSlash stripped

theorem overriddenRepository_eq : overriddenRepository image override =
      if lastPart '/' (trim isSlash (trimSpace override)) = image then override
      else trim isSlash (trimSpace override) ++ '/' :: image := by
  rw [overriddenRepository, intercalate_splitOn]

theorem overriddenRepository_of_strip (stripped : strip override = override) : overriddenRepository image override =
      if lastPart '/' override = image then override else override ++ '/' :: image := by
  rw [overriddenRepository_eq, trimmed_of_strip stripped]

/-- An override is a repository, or a repository and the image in it. -/
def Overrides (image repository override : Text) : Prop :=
  strip override = override ∧
    (override = repository ++ '/' :: image ∨ override = repository ∧ lastPart '/' repository ≠ image)

theorem overriddenRepository_of_overrides {repository : Text} (slash : '/' ∉ image)
    (overrides : Overrides image repository override) :
    overriddenRepository image override = repository ++ '/' :: image := by
  obtain ⟨stripped, rfl | ⟨rfl, other⟩⟩ := overrides
  · rw [overriddenRepository_of_strip stripped, if_pos (lastPart_append slash)]
  · rw [overriddenRepository_of_strip stripped, if_neg other]

/-- Through the private registry, or through the images of the other operators. -/
def PointsTo (privateRegistry : Bool) (parts : Parts) (values : VPOHelmValuesTemplate) : Prop :=
  if privateRegistry then
    values.privateRegistry = true ∧ values.registry = parts.registry ∧
      values.repository = trimSuffix "/verrazzano".toList parts.repo
  else
    values.appOperatorImage = operatorImage "verrazzano-application-operator" parts ∧
      values.clusterOperatorImage = operatorImage "verrazzano-cluster-operator" parts

variable {spec : VerrazzanoPlatformOperator} {parts seen : Parts} {pullPolicy : Text}

theorem operatorImage_ne_nil (name : String) : operatorImage name parts ≠ [] := by
  simp [operatorImage, Parts.text]

theorem completed_pointsTo :
    PointsTo spec.privateRegistry parts (completed spec parts image pullPolicy) ↔
      spec.privateRegistry = true ∨ parts.registry ≠ verrazzanoPlatformOperatorRepo := by
  cases enabled : spec.privateRegistry with
  | true => simp [PointsTo, completed, enabled, withOperatorImages, withPrivateRegistry]
  | false =>
    by_cases default : parts.registry = verrazzanoPlatformOperatorRepo
    · simp [PointsTo, completed, enabled, withOperatorImages, withPrivateRegistry, default,
        (operatorImage_ne_nil _).symm]
    · simp [PointsTo, completed, enabled, withOperatorImages, withPrivateRegistry, default]

theorem not_pointsTo_of_port {host port repository image tag seenTag : Text} (overridden pullPolicy : Text) :
    ¬ PointsTo spec.privateRegistry ⟨host ++ ':' :: port, repository, image, tag⟩
      (completed spec ⟨host, host, host, seenTag⟩ overridden pullPolicy) := by
  cases enabled : spec.privateRegistry with
  | true => simp [PointsTo, completed, enabled, withOperatorImages, withPrivateRegistry]
  | false =>
    by_cases default : host = verrazzanoPlatformOperatorRepo
    · simp [PointsTo, completed, enabled, withOperatorImages, withPrivateRegistry, default,
        (operatorImage_ne_nil _).symm]
    · -- the texts differ right after the host
      simp [PointsTo, completed, enabled, withOperatorImages, withPrivateRegistry, default, operatorImage, Parts.text,
        Parts.untagged]

theorem platformOperatorHelmMeta_override {vpoImage : Text} {default seen : Parts} {overriding : ImageMeta}
    (chart : parseDefaultVPOImage vpoImage = .ok default) (given : spec.image = some overriding)
    (parsed : parseDefaultVPOImage (platformImage default overriding) = .ok seen) :
    platformOperatorHelmMeta vpoImage spec =
      .ok (completed spec seen (platformImage default overriding)
        (trimmedOr overriding.pullPolicy defaultImagePullPolicy)) := by
  rw [platformOperatorHelmMeta, chart]
  simp only [bind, Except.bind, given, parsed, pure, Except.pure]

end Overrides

/-- An image is taken apart if its registry has no port; then an override leads to its own parts, but for a repository
in the default registry that is not private. -/
theorem image_parts_iff (registry : Registry) (repository image tag : Text) (host : Bare registry.host)
    (path : ':' ∉ repository) (name : Bare image) (tagged : ':' ∉ tag) :
    (parseDefaultVPOImage (Parts.text ⟨registry.text, repository, image, tag⟩) =
      .ok ⟨registry.text, repository, image, tag⟩ ↔ registry.port = none) ∧
    ∀ vpoImage default spec overriding, parseDefaultVPOImage vpoImage = .ok default → default.image = image →
      spec.image = some overriding → Overrides image (registry.text ++ '/' :: repository) overriding.repository →
      trimmedOr overriding.tag default.tag = tag →
        ∃ values, platformOperatorHelmMeta vpoImage spec = .ok values ∧
          (PointsTo spec.privateRegistry ⟨registry.text, repository, image, tag⟩ values ↔
            registry.port = none ∧
              (spec.privateRegistry = true ∨ registry.text ≠ verrazzanoPlatformOperatorRepo)) := by
  refine ⟨parse_parts_iff host path name tagged, ?_⟩
  rintro vpoImage default spec overriding chart rfl given overrides rfl
  have nonempty : overriding.repository ≠ [] := by
    obtain ⟨-, same | ⟨same, -⟩⟩ := overrides <;> simp [same]
  have full : platformImage default overriding =
      Parts.text ⟨registry.text, repository, default.image, trimmedOr overriding.tag default.tag⟩ := by
    rw [platformImage, platformRepository, repositoryOr, if_neg nonempty,
      overriddenRepository_of_overrides name.1 overrides]
    rfl
  cases without : registry.port with
  | none =>
    have parsed := (parse_parts_iff host path name tagged).mpr without
    rw [← full] at parsed
    refine ⟨_, platformOperatorHelmMeta_override chart given parsed, ?_⟩
    rw [completed_pointsTo]
    simp
  | some port =>
    rw [Registry.text_of_port without] at full ⊢
    obtain ⟨seen, parsed⟩ := parseDefaultVPOImage_port host
      (port ++ '/' :: (repository ++ '/' :: (default.image ++ ':' :: trimmedOr overriding.tag default.tag)))
    have same : parseDefaultVPOImage (platformImage default overriding) =
        .ok ⟨registry.host, registry.host, registry.host, seen⟩ := by
      rw [full, ← parsed]
      simp [Parts.text, Parts.untagged]
    refine ⟨_, platformOperatorHelmMeta_override chart given same, ?_⟩
    exact iff_of_false (not_pointsTo_of_port _ _) (by simp)

private def chartImage : Text := "ghcr.io/verrazzano/verrazzano-platform-operator:v1.6.0".toList

private def ownBuild (repository : String) : VerrazzanoPlatformOperator :=
  ⟨some ⟨repository.toList, "v1.7.0".toList, []⟩, none, false⟩

theorem own_build_images :
    ∃ values, platformOperatorHelmMeta chartImage (ownBuild "registry.example.com/team/verrazzano") = .ok values ∧
      PointsTo false ⟨"registry.example.com".toList, "team/verrazzano".toList, "verrazzano-platform-operator".toList,
        "v1.7.0".toList⟩ values := by
  have host : Bare "registry.example.com".toList := ⟨by decide, by decide⟩
  have name : Bare "verrazzano-platform-operator".toList := ⟨by decide, by decide⟩
  have chart : parseDefaultVPOImage chartImage =
      .ok ⟨"ghcr.io".toList, "verrazzano".toList, "verrazzano-platform-operator".toList, "v1.6.0".toList⟩ := by
    decide +kernel
  have overrides : Overrides "verrazzano-platform-operator".toList
      ("registry.example.com".toList ++ '/' :: "team/verrazzano".toList)
      "registry.example.com/team/verrazzano".toList :=
    ⟨by decide +kernel, .inr ⟨by decide +kernel, by decide +kernel⟩⟩
  obtain ⟨-, all⟩ := image_parts_iff ⟨"registry.example.com".toList, none⟩ "team/verrazzano".toList
    "verrazzano-platform-operator".toList "v1.7.0".toList host (by decide) name (by decide)
  obtain ⟨values, computed, points⟩ := all chartImage _ (ownBuild "registry.example.com/team/verrazzano") _ chart rfl rfl
    (by simpa [Registry.text] using overrides) (by decide +kernel)
  refine ⟨values, computed, ?_⟩
  exact points.mpr ⟨rfl, .inr (by decide)⟩

/-- The port becomes part of the tag. -/
theorem port_misread : parseDefaultVPOImage "localhost:5000/verrazzano/verrazzano-platform-operator:v1.6.0".toList =
      .ok ⟨"localhost".toList, "localhost".toList, "localhost".toList,
        "5000/verrazzano/verrazzano-platform-operator".toList⟩ := by
  decide +kernel

section Normalisation

/-- The repository that an override gives is a normal form. -/
structure Normalised (repository : Text → Text) (image override : Text) : Prop where
  stripped : repository override = repository (strip override)
  clean : strip (repository override) = repository override
  named : lastPart '/' (repository override) = image
  stable : repository (repository override) = repository override

/-- Something is left of it, one pass strips everything, and it is stripped if it ends in the image. -/
def Regular (image override : Text) : Prop :=
  strip override ≠ [] ∧ trim isSlash (trimSpace override) = strip override ∧
    (lastPart '/' (strip override) = image → override = strip override)

structure ImageName (image : Text) : Prop where
  nonempty : image ≠ []
  slash : '/' ∉ image
  stripped : strip image = image

variable {image fallback override text : Text}

theorem ImageName.getLast? (name : ImageName image) (text : Text) :
    (text ++ '/' :: image).getLast? = image.getLast? := by
  rw [append_cons, getLast?_append_of_ne_nil _ name.nonempty]

theorem ImageName.strip_append (name : ImageName image) : strip (text ++ '/' :: image) = text ++ '/' :: image ↔
      text ≠ [] ∧ ∀ char ∈ text.head?, isBlankOrSlash char = false := by
  have back := (trim_eq_self_iff.mp name.stripped).2
  rw [strip, trim_eq_self_iff, name.getLast?, and_iff_left back]
  cases text with
  | nil => simp [isBlankOrSlash, isSlash]
  | cons first rest => simp

theorem strip_strip (text : Text) : strip (strip text) = strip text :=
  trim_trim

theorem repositoryOr_strip (left : strip override ≠ []) : repositoryOr fallback image (strip override) =
      if lastPart '/' (strip override) = image then strip override else strip override ++ '/' :: image := by
  rw [repositoryOr, if_neg left, overriddenRepository_of_strip (strip_strip _)]

theorem regular_of_normalised (name : ImageName image) (nonempty : override ≠ [])
    (normalised : Normalised (repositoryOr fallback image) image override) : Regular image override := by
  have result : repositoryOr fallback image override = overriddenRepository image override := if_neg nonempty
  obtain ⟨stripped, clean, -, -⟩ := normalised
  rw [result, overriddenRepository_eq] at stripped clean
  split at clean
  next =>
    -- the override is passed through, so it must be stripped already
    rw [Regular, trimmed_of_strip clean, clean]
    exact ⟨nonempty, rfl, fun _ => rfl⟩
  next other =>
    rw [if_neg other] at stripped
    obtain ⟨some_left, begins⟩ := name.strip_append.mp clean
    have left : strip override ≠ [] := by
      obtain ⟨first, rest, parts⟩ := exists_cons_of_ne_nil some_left
      rw [← strip_trimmed, parts]
      exact trim_ne_nil mem_cons_self (begins first (by rw [parts]; rfl))
    have shorter : (strip override).length ≤ (trim isSlash (trimSpace override)).length := by
      rw [← strip_trimmed]
      exact length_trim_le
    rw [repositoryOr_strip left] at stripped
    split at stripped
    next =>
      have longer := congrArg length stripped
      simp only [length_append, length_cons] at longer
      omega
    next another =>
      exact ⟨left, append_cancel_right stripped, fun ends => absurd ends another⟩

theorem repositoryOr_self (nonempty : text ≠ []) (stripped : strip text = text) (ends : lastPart '/' text = image) :
    repositoryOr fallback image text = text := by
  rw [repositoryOr, if_neg nonempty, overriddenRepository_of_strip stripped, if_pos ends]

theorem normalised_of_regular (name : ImageName image) (nonempty : override ≠ []) (regular : Regular image override) :
    Normalised (repositoryOr fallback image) image override := by
  obtain ⟨left, once, already⟩ := regular
  have result : repositoryOr fallback image override = repositoryOr fallback image (strip override) := by
    rw [repositoryOr_strip left, repositoryOr, if_neg nonempty, overriddenRepository_eq, once]
    split
    next ends => exact already ends
    next => rfl
  by_cases ends : lastPart '/' (strip override) = image
  · have same : repositoryOr fallback image override = strip override := by
      rw [result, repositoryOr_strip left, if_pos ends]
    refine ⟨result, ?_, ?_, ?_⟩
    · rw [same, strip_strip]
    · rw [same, ends]
    · rw [same, repositoryOr_self left (strip_strip _) ends]
  · have longer : repositoryOr fallback image override = strip override ++ '/' :: image := by
      rw [result, repositoryOr_strip left, if_neg ends]
    have begins := (trim_eq_self_iff.mp (strip_strip override)).1
    have clean : strip (strip override ++ '/' :: image) = strip override ++ '/' :: image :=
      name.strip_append.mpr ⟨left, begins⟩
    have named : lastPart '/' (strip override ++ '/' :: image) = image := lastPart_append name.slash
    refine ⟨result, ?_, ?_, ?_⟩
    · rw [longer, clean]
    · rw [longer, named]
    · rw [longer, repositoryOr_self (by simp) clean named]

theorem repositoryOr_normalised_iff (name : ImageName image) (nonempty : override ≠ []) :
    Normalised (repositoryOr fallback image) image override ↔ Regular image override :=
  ⟨regular_of_normalised name nonempty, normalised_of_regular name nonempty⟩

theorem moduleOperator_imageName : ImageName moduleOperatorImageName :=
  ⟨by decide, by decide, by decide⟩

end Normalisation

/-- The repositories of both operators are normal forms of exactly the regular overrides. -/
theorem repository_normalised_iff (default : Parts) (name : ImageName default.image) (override : Text)
    (nonempty : override ≠ []) :
    (Normalised moduleRepository moduleOperatorImageName override ↔ Regular moduleOperatorImageName override) ∧
      (Normalised (platformRepository default) default.image override ↔ Regular default.image override) :=
  ⟨repositoryOr_normalised_iff moduleOperator_imageName nonempty, repositoryOr_normalised_iff name nonempty⟩

private def chartParts : Parts :=
  ⟨"ghcr.io".toList, "verrazzano".toList, "verrazzano-platform-operator".toList, "v1.6.0".toList⟩

theorem surrounded_override_normalised :
    Normalised moduleRepository moduleOperatorImageName " /registry.example.com/team/ ".toList ∧
      Normalised (platformRepository chartParts) chartParts.image " /registry.example.com/team/ ".toList := by
  have named : ImageName chartParts.image := ⟨by decide, by decide, by decide⟩
  obtain ⟨ofModule, ofPlatform⟩ :=
    repository_normalised_iff chartParts named " /registry.example.com/team/ ".toList (by decide)
  exact ⟨ofModule.mpr ⟨by decide, by decide, by decide⟩, ofPlatform.mpr ⟨by decide, by decide, by decide⟩⟩

/-- A slash after the name of the image is kept. -/
theorem trailing_slash_kept :
    moduleRepository "ghcr.io/verrazzano/module-operator/".toList = "ghcr.io/verrazzano/module-operator/".toList ∧
      ¬ Normalised moduleRepository moduleOperatorImageName "ghcr.io/verrazzano/module-operator/".toList := by
  refine ⟨by decide, ?_⟩
  intro normalised
  have clean := normalised.clean
  revert clean
  decide

end OcneProvider.Helm.Images
