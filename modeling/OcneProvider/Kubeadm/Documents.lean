import OcneProvider.Data.Keyed
import OcneProvider.Kubeadm.Upstream
import OcneProvider.Semver.Compare

/-! The text forms of kubeadm's documents: the API version for a version of Kubernetes, and that what is
written for it is read back, in whatever order the known API versions are tried. -/

namespace OcneProvider.Kubeadm.Documents
open Api.Meta Api.Bootstrap Kubeadm.Updates List
open Semver.Compare (Version)

inductive GroupVersion where
  | v1beta1
  | v1beta2
  | v1beta3
  deriving DecidableEq

def GroupVersion.text : GroupVersion → String
  | v1beta1 => "kubeadm.k8s.io/v1beta1"
  | v1beta2 => "kubeadm.k8s.io/v1beta2"
  | v1beta3 => "kubeadm.k8s.io/v1beta3"

def v1beta1KubeadmVersion : Version := ⟨1, 13, 0, [], []⟩

def v1beta2KubeadmVersion : Version := ⟨1, 15, 0, [], []⟩

def v1beta3KubeadmVersion : Version := ⟨1, 22, 0, [], []⟩

def kubeVersionToKubeadmAPIGroupVersion (version : Version) : Except Err GroupVersion :=
  if Semver.Compare.compare version v1beta1KubeadmVersion [.withoutPreReleases] < 0 then
    .error (errorf "the bootstrap provider for kubeadm doesn't support Kubernetes version lower than v1.13.0")
  else if Semver.Compare.compare version v1beta2KubeadmVersion [.withoutPreReleases] < 0 then .ok .v1beta1
  else if Semver.Compare.compare version v1beta3KubeadmVersion [.withoutPreReleases] < 0 then .ok .v1beta2
  else .ok .v1beta3

/-- An API version's type, converted from and to the bootstrap API. -/
structure Convertible (Hub : Type) where
  groupVersion : GroupVersion
  Spoke : Type
  withTypeMeta : TypeMeta → Spoke → Spoke
  convertFrom : Hub → Spoke
  convertTo : Spoke → Hub → Hub

def legacyClusterConfiguration (groupVersion : GroupVersion) : Convertible ClusterConfiguration where
  groupVersion := groupVersion
  Spoke := Upstream.LegacyClusterConfiguration
  withTypeMeta typeMeta config := { config with typeMeta := typeMeta }
  convertFrom := .convertFrom
  convertTo := Upstream.LegacyClusterConfiguration.convertTo

def upstreamClusterConfiguration : Convertible ClusterConfiguration where
  groupVersion := .v1beta3
  Spoke := Upstream.ClusterConfiguration
  withTypeMeta typeMeta config := { config with typeMeta := typeMeta }
  convertFrom := .convertFrom
  convertTo := Upstream.ClusterConfiguration.convertTo

def upstreamClusterStatus (groupVersion : GroupVersion) : Convertible ClusterStatus where
  groupVersion := groupVersion
  Spoke := Upstream.ClusterStatus
  withTypeMeta typeMeta status := { status with typeMeta := typeMeta }
  convertFrom := .convertFrom
  convertTo := Upstream.ClusterStatus.convertTo

def clusterConfigurationVersionTypeMap : List (Convertible ClusterConfiguration) :=
  [upstreamClusterConfiguration, legacyClusterConfiguration .v1beta2, legacyClusterConfiguration .v1beta1]

/-- There is no cluster status any more in v1beta3. -/
def clusterStatusVersionTypeMap : List (Convertible ClusterStatus) :=
  [upstreamClusterStatus .v1beta2, upstreamClusterStatus .v1beta1]

structure Yaml (Hub : Type) where
  encode : (target : Convertible Hub) → target.Spoke → Except Err String
  decode : (target : Convertible Hub) → String → Except Err target.Spoke

section Marshalling

variable {Hub : Type} (yaml : Yaml Hub)

def marshalForVersion (obj : Hub) (version : Version) (typeMap : List (Convertible Hub)) : Except Err String := do
  let groupVersion ← kubeVersionToKubeadmAPIGroupVersion version
  match typeMap.find? (·.groupVersion == groupVersion) with
  | none => throw (errorf ("missing KubeadmAPI type mapping for version " ++ groupVersion.text))
  | some target =>
    match yaml.encode target (target.convertFrom obj) with
    | .ok text => pure text
    | .error error =>
      throw (error.wrap ("failed to generate yaml for the Kubeadm API for version " ++ groupVersion.text))

/-- The API versions are tried in the order in which the map is gone through. -/
def unmarshalFromVersions (text : String) (capiObj : Hub) : List (Convertible Hub) → Except Err Hub
  | [] => .error (errorf "unknown kubeadm types")
  | target :: rest =>
    match yaml.decode target text with
    | .ok kubeadmObj => .ok (target.convertTo kubeadmObj capiObj)
    | .error _ => unmarshalFromVersions text capiObj rest

end Marshalling

def marshalClusterConfigurationForVersion (yaml : Yaml ClusterConfiguration) (obj : ClusterConfiguration)
    (version : Version) : Except Err String :=
  marshalForVersion yaml obj version clusterConfigurationVersionTypeMap

def marshalClusterStatusForVersion (yaml : Yaml ClusterStatus) (obj : ClusterStatus) (version : Version) :
    Except Err String :=
  marshalForVersion yaml obj version clusterStatusVersionTypeMap

def unmarshalClusterConfiguration (yaml : Yaml ClusterConfiguration) (order : List (Convertible ClusterConfiguration))
    (text : String) : Except Err ClusterConfiguration :=
  unmarshalFromVersions yaml text emptyClusterConfiguration order

def unmarshalClusterStatus (yaml : Yaml ClusterStatus) (order : List (Convertible ClusterStatus)) (text : String) :
    Except Err ClusterStatus :=
  unmarshalFromVersions yaml text ⟨Upstream.emptyTypeMeta, none⟩ order

section Versions

variable {version : Version}

/-- A version counts as less if its release is, whatever its pre-release is. -/
theorem compare_releases_iff {major minor : Nat} {build : List String} :
    Semver.Compare.compare version ⟨major, minor, 0, [], build⟩ [.withoutPreReleases] < 0 ↔
      version.major < major ∨ version.major = major ∧ version.minor < minor := by
  simp only [Semver.Compare.compare, Semver.Compare.answer, mem_singleton, if_true, reduceCtorEq, if_false,
    Version.precedence, Data.Comparison.byKey, Data.Comparison.Answer.orElse]
  split_ifs <;> simp_all [Semver.Compare.code, Semver.Compare.comparePre, Data.Comparison.split]

theorem groupVersion_of_supported (supported : 1 < version.major ∨ version.major = 1 ∧ 13 ≤ version.minor) :
    ∃ groupVersion, kubeVersionToKubeadmAPIGroupVersion version = .ok groupVersion := by
  have known : ¬ Semver.Compare.compare version v1beta1KubeadmVersion [.withoutPreReleases] < 0 := by
    rw [v1beta1KubeadmVersion, compare_releases_iff]
    omega
  rw [kubeVersionToKubeadmAPIGroupVersion, if_neg known]
  split
  · exact ⟨_, rfl⟩
  · split <;> exact ⟨_, rfl⟩

theorem groupVersion_ne_v1beta3 (major : version.major = 1) (below : version.minor < 22) :
    kubeVersionToKubeadmAPIGroupVersion version ≠ .ok .v1beta3 := by
  have older : Semver.Compare.compare version v1beta3KubeadmVersion [.withoutPreReleases] < 0 := by
    rw [v1beta3KubeadmVersion, compare_releases_iff]
    omega
  rw [kubeVersionToKubeadmAPIGroupVersion, if_pos older]
  split
  · simp
  · split <;> simp

end Versions

section RoundTrip

variable {Hub : Type}

/-- The text gives the object back but for its type metadata, and other API versions refuse it. -/
def Yaml.Lossless (yaml : Yaml Hub) (typeMap : List (Convertible Hub)) (obj : Hub) : Prop :=
  ∀ target ∈ typeMap, ∃ text typeMeta, yaml.encode target (target.convertFrom obj) = .ok text ∧
    yaml.decode target text = .ok (target.withTypeMeta typeMeta (target.convertFrom obj)) ∧
    ∀ other ∈ typeMap, other.groupVersion ≠ target.groupVersion → ∃ error, yaml.decode other text = .error error

theorem marshalForVersion_eq {yaml : Yaml Hub} {obj : Hub} {version : Version} {typeMap : List (Convertible Hub)}
    {target : Convertible Hub} {text : String}
    (chosen : kubeVersionToKubeadmAPIGroupVersion version = .ok target.groupVersion)
    (found : typeMap.find? (·.groupVersion == target.groupVersion) = some target)
    (encoded : yaml.encode target (target.convertFrom obj) = .ok text) :
    marshalForVersion yaml obj version typeMap = .ok text := by
  rw [marshalForVersion, chosen]
  simp only [bind, Except.bind, found, encoded, pure, Except.pure]

theorem find_groupVersion {typeMap : List (Convertible Hub)} {target : Convertible Hub}
    (apart : (typeMap.map (·.groupVersion)).Nodup) (mem : target ∈ typeMap) :
    typeMap.find? (·.groupVersion == target.groupVersion) = some target :=
  (Data.Keyed.find?_eq_some_of_nodup apart fun _ => beq_iff_eq).mpr ⟨mem, rfl⟩

/-- Whatever comes before the one API version that accepts the text is passed over. -/
theorem unmarshalFromVersions_eq {yaml : Yaml Hub} {text : String} {capiObj : Hub} {target : Convertible Hub}
    {kubeadmObj : target.Spoke} (accepted : yaml.decode target text = .ok kubeadmObj) :
    ∀ {order : List (Convertible Hub)}, target ∈ order →
      (∀ other ∈ order, other ≠ target → ∃ error, yaml.decode other text = .error error) →
        unmarshalFromVersions yaml text capiObj order = .ok (target.convertTo kubeadmObj capiObj) := by
  intro order mem others
  induction order with
  | nil => exact absurd mem not_mem_nil
  | cons first rest ih =>
    by_cases same : first = target
    · subst same
      rw [unmarshalFromVersions, accepted]
    · obtain ⟨error, refused⟩ := others first mem_cons_self same
      have later : target ∈ rest := (mem_cons.mp mem).resolve_left (Ne.symm same)
      rw [unmarshalFromVersions, refused]
      exact ih later fun other among => others other (mem_cons_of_mem _ among)

theorem unmarshal_marshal {yaml : Yaml Hub} {typeMap order : List (Convertible Hub)} {obj capiObj restored : Hub}
    {version : Version} (lossless : yaml.Lossless typeMap obj) (apart : (typeMap.map (·.groupVersion)).Nodup)
    (restores : ∀ target ∈ typeMap, ∀ typeMeta,
      target.convertTo (target.withTypeMeta typeMeta (target.convertFrom obj)) capiObj = restored)
    (served : ∃ target ∈ typeMap, kubeVersionToKubeadmAPIGroupVersion version = .ok target.groupVersion)
    (tried : order.Perm typeMap) : ∃ text, marshalForVersion yaml obj version typeMap = .ok text ∧
      unmarshalFromVersions yaml text capiObj order = .ok restored := by
  obtain ⟨target, mem, chosen⟩ := served
  have found := find_groupVersion apart mem
  obtain ⟨text, typeMeta, encoded, accepted, refused⟩ := lossless target mem
  refine ⟨text, marshalForVersion_eq chosen found encoded, ?_⟩
  rw [unmarshalFromVersions_eq accepted (tried.mem_iff.mpr mem), restores target mem typeMeta]
  intro other among differs
  apply refused other (tried.mem_iff.mp among)
  intro same
  exact differs (inj_on_of_nodup_map apart (tried.mem_iff.mp among) mem same)

end RoundTrip

theorem clusterConfiguration_restores {config : ClusterConfiguration} {target : Convertible ClusterConfiguration}
    (mem : target ∈ clusterConfigurationVersionTypeMap) (typeMeta : TypeMeta) :
    target.convertTo (target.withTypeMeta typeMeta (target.convertFrom config)) emptyClusterConfiguration =
      { config with typeMeta := Upstream.emptyTypeMeta } := by
  simp only [clusterConfigurationVersionTypeMap, mem_cons, not_mem_nil, or_false] at mem
  obtain rfl | rfl | rfl := mem <;> rfl

theorem clusterStatus_restores {status : ClusterStatus} {target : Convertible ClusterStatus}
    (mem : target ∈ clusterStatusVersionTypeMap) (typeMeta : TypeMeta) :
    target.convertTo (target.withTypeMeta typeMeta (target.convertFrom status)) ⟨Upstream.emptyTypeMeta, none⟩ =
      { status with typeMeta := Upstream.emptyTypeMeta } := by
  simp only [clusterStatusVersionTypeMap, mem_cons, not_mem_nil, or_false] at mem
  obtain rfl | rfl := mem <;> rfl

theorem exists_clusterConfiguration_type (groupVersion : GroupVersion) :
    ∃ target ∈ clusterConfigurationVersionTypeMap, target.groupVersion = groupVersion := by
  cases groupVersion with
  | v1beta1 => exact ⟨legacyClusterConfiguration .v1beta1, by simp [clusterConfigurationVersionTypeMap], rfl⟩
  | v1beta2 => exact ⟨legacyClusterConfiguration .v1beta2, by simp [clusterConfigurationVersionTypeMap], rfl⟩
  | v1beta3 => exact ⟨upstreamClusterConfiguration, by simp [clusterConfigurationVersionTypeMap], rfl⟩

theorem exists_clusterStatus_type {groupVersion : GroupVersion} (older : groupVersion ≠ .v1beta3) :
    ∃ target ∈ clusterStatusVersionTypeMap, target.groupVersion = groupVersion := by
  cases groupVersion with
  | v1beta1 => exact ⟨upstreamClusterStatus .v1beta1, by simp [clusterStatusVersionTypeMap], rfl⟩
  | v1beta2 => exact ⟨upstreamClusterStatus .v1beta2, by simp [clusterStatusVersionTypeMap], rfl⟩
  | v1beta3 => exact absurd rfl older

theorem unmarshal_marshal_clusterConfiguration {yaml : Yaml ClusterConfiguration} {config : ClusterConfiguration}
    {version : Version} {order : List (Convertible ClusterConfiguration)}
    (lossless : yaml.Lossless clusterConfigurationVersionTypeMap config)
    (supported : 1 < version.major ∨ version.major = 1 ∧ 13 ≤ version.minor)
    (tried : order.Perm clusterConfigurationVersionTypeMap) :
    ∃ text, marshalClusterConfigurationForVersion yaml config version = .ok text ∧
      unmarshalClusterConfiguration yaml order text = .ok { config with typeMeta := Upstream.emptyTypeMeta } := by
  obtain ⟨groupVersion, chosen⟩ := groupVersion_of_supported supported
  obtain ⟨target, mem, rfl⟩ := exists_clusterConfiguration_type groupVersion
  exact unmarshal_marshal lossless (by decide) (fun _ among => clusterConfiguration_restores among)
    ⟨target, mem, chosen⟩ tried

theorem unmarshal_marshal_clusterStatus {yaml : Yaml ClusterStatus} {status : ClusterStatus}
    {version : Version} {order : List (Convertible ClusterStatus)}
    (lossless : yaml.Lossless clusterStatusVersionTypeMap status)
    (major : version.major = 1) (supported : 13 ≤ version.minor) (below : version.minor < 22)
    (tried : order.Perm clusterStatusVersionTypeMap) :
    ∃ text, marshalClusterStatusForVersion yaml status version = .ok text ∧
      unmarshalClusterStatus yaml order text = .ok { status with typeMeta := Upstream.emptyTypeMeta } := by
  obtain ⟨groupVersion, chosen⟩ := groupVersion_of_supported (.inr ⟨major, supported⟩)
  have older : groupVersion ≠ .v1beta3 := by
    rintro rfl
    exact groupVersion_ne_v1beta3 major below chosen
  obtain ⟨target, mem, rfl⟩ := exists_clusterStatus_type older
  exact unmarshal_marshal lossless (by decide) (fun _ among => clusterStatus_restores among)
    ⟨target, mem, chosen⟩ tried

/-- What is written for a version is read back but for the type metadata, in whatever order API versions are tried. -/
theorem documents_round_trip (configYaml : Yaml ClusterConfiguration) (statusYaml : Yaml ClusterStatus) :
    (∀ config, configYaml.Lossless clusterConfigurationVersionTypeMap config →
      ∀ version : Version, (1 < version.major ∨ version.major = 1 ∧ 13 ≤ version.minor) →
        ∀ order : List (Convertible ClusterConfiguration), order.Perm clusterConfigurationVersionTypeMap →
          ∃ text, marshalClusterConfigurationForVersion configYaml config version = .ok text ∧
            unmarshalClusterConfiguration configYaml order text =
              .ok { config with typeMeta := Upstream.emptyTypeMeta }) ∧
    (∀ status, statusYaml.Lossless clusterStatusVersionTypeMap status →
      ∀ version : Version, version.major = 1 → 13 ≤ version.minor → version.minor < 22 →
        ∀ order : List (Convertible ClusterStatus), order.Perm clusterStatusVersionTypeMap →
          ∃ text, marshalClusterStatusForVersion statusYaml status version = .ok text ∧
            unmarshalClusterStatus statusYaml order text =
              .ok { status with typeMeta := Upstream.emptyTypeMeta }) := by
  constructor
  · intro config lossless version supported order tried
    exact unmarshal_marshal_clusterConfiguration lossless supported tried
  · intro status lossless version major supported below order tried
    exact unmarshal_marshal_clusterStatus lossless major supported below tried

section Written

variable {Hub : Type}

private def yamlText (kind : String) (fields : List String) (groupVersion : GroupVersion) : String :=
  "\n".intercalate (["apiVersion: " ++ groupVersion.text, "kind: " ++ kind] ++ fields)

/-- The fields of an object under its API version; the text of one object is read. -/
private def written (blank obj : Hub) (kind : String) (fields : Hub → List String) : Yaml Hub where
  encode target document := .ok (yamlText kind (fields (target.convertTo document blank)) target.groupVersion)
  decode target text :=
    if text = yamlText kind (fields obj) target.groupVersion then
      .ok (target.withTypeMeta ⟨target.groupVersion.text, kind⟩ (target.convertFrom obj))
    else .error (errorf "no kind is registered")

private theorem written_lossless {blank obj : Hub} {kind : String} {fields : Hub → List String}
    {typeMap : List (Convertible Hub)}
    (same : ∀ target ∈ typeMap, fields (target.convertTo (target.convertFrom obj) blank) = fields obj)
    (apart : Function.Injective (yamlText kind (fields obj))) : (written blank obj kind fields).Lossless typeMap obj := by
  intro target mem
  refine ⟨yamlText kind (fields obj) target.groupVersion, _, ?_, if_pos rfl, ?_⟩
  · rw [← same target mem]
    rfl
  · intro other _ differs
    exact ⟨_, if_neg fun text => differs (apart text).symm⟩

end Written

private def named : ClusterConfiguration :=
  { emptyClusterConfiguration with clusterName := "prod", kubernetesVersion := "v1.22.0-rc.0" }

private def configYaml : Yaml ClusterConfiguration :=
  written emptyClusterConfiguration named "ClusterConfiguration" fun config =>
    ["clusterName: " ++ config.clusterName, "kubernetesVersion: " ++ config.kubernetesVersion]

private def endpoints : ClusterStatus :=
  ⟨⟨"kubeadm.k8s.io/v1beta2", "ClusterStatus"⟩, some (.singleton "cp-0" ⟨"10.0.0.1", 6443⟩)⟩

private def statusYaml : Yaml ClusterStatus :=
  written ⟨Upstream.emptyTypeMeta, none⟩ endpoints "ClusterStatus" fun status =>
    match status.apiEndpoints.bind (·.lookup "cp-0") with
    | some endpoint => ["apiEndpoints:", "  cp-0:", "    advertiseAddress: " ++ endpoint.advertiseAddress,
        "    bindPort: " ++ toString endpoint.bindPort]
    | none => []

/-- The first release candidate of 1.22 uses v1beta3; the status is written for 1.21. -/
theorem release_candidate_round_trip :
    (∃ text, marshalClusterConfigurationForVersion configYaml named
        ⟨1, 22, 0, [⟨"rc", 0, false⟩, ⟨"", 0, true⟩], []⟩ = .ok text ∧
      unmarshalClusterConfiguration configYaml clusterConfigurationVersionTypeMap.reverse text =
        .ok { named with typeMeta := Upstream.emptyTypeMeta }) ∧
    ∃ text, marshalClusterStatusForVersion statusYaml endpoints ⟨1, 21, 3, [], []⟩ = .ok text ∧
      unmarshalClusterStatus statusYaml clusterStatusVersionTypeMap.reverse text =
        .ok { endpoints with typeMeta := Upstream.emptyTypeMeta } := by
  have trips := documents_round_trip configYaml statusYaml
  constructor
  · apply trips.1 _ (written_lossless ?_ ?_) _ (by decide) _ (reverse_perm _)
    · intro target mem
      simp only [clusterConfigurationVersionTypeMap, mem_cons, not_mem_nil, or_false] at mem
      obtain rfl | rfl | rfl := mem <;> rfl
    · intro first second
      cases first <;> cases second <;> decide
  · apply trips.2 _ (written_lossless ?_ ?_) _ (by decide) (by decide) (by decide) _ (reverse_perm _)
    · intro target mem
      simp only [clusterStatusVersionTypeMap, mem_cons, not_mem_nil, or_false] at mem
      obtain rfl | rfl := mem <;> rfl
    · intro first second
      cases first <;> cases second <;> decide

end OcneProvider.Kubeadm.Documents
