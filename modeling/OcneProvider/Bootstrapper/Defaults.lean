import OcneProvider.Webhooks.Validation

/-! The OCNE defaults of a cluster configuration: what they leave alone, and when they settle. -/

namespace OcneProvider.Bootstrapper.Defaults
open Api.Meta Api.Bootstrap Webhooks.ConfigSpec Webhooks.Validation

variable {config : ClusterConfiguration} {dns : ImageMeta}

def etcdLocal (images : OCNEImages) : LocalEtcd :=
  ⟨⟨defaultOCNEImageRepository, images.etcd⟩, "", none, none, none⟩

def repositoryDefaults (imageRepository : String) : String :=
  if imageRepository = "" then defaultOCNEImageRepository else imageRepository

def dnsDefaults (images : OCNEImages) (dns : ImageMeta) : ImageMeta where
  imageRepository := repositoryDefaults dns.imageRepository
  imageTag :=
    if dns.imageTag = "" then images.coreDNS
    -- set to the OCNE tag only if the user asks for the OCNE registry
    else if dns.imageTag ≠ images.coreDNS ∧ dns.imageRepository = defaultOCNEImageRepository then images.coreDNS
    else dns.imageTag

def etcdDefaults (images : OCNEImages) : Option LocalEtcd → LocalEtcd
  | none => etcdLocal images
  | some localEtcd =>
    if localEtcd.imageMeta.imageRepository = defaultOCNEImageRepository ∧
        localEtcd.imageMeta.imageTag ≠ images.etcd then
      etcdLocal images
    else localEtcd

def withDefaults (images : OCNEImages) (config : ClusterConfiguration) : ClusterConfiguration :=
  { config with
    dns := dnsDefaults images config.dns
    etcd := { config.etcd with localEtcd := some (etcdDefaults images config.etcd.localEtcd) }
    imageRepository := repositoryDefaults config.imageRepository }

def setOCNEControlPlaneClusterConfigurationDefaults (metadata : Except Err OCNEMetadata)
    (config : ClusterConfiguration) (k8sVersion : String) : Except Err ClusterConfiguration := do
  let ocneMeta ← metadata
  return withDefaults (ocneMeta.images k8sVersion) config

def emptyLocalEtcd : LocalEtcd := ⟨emptyImageMeta, "", none, none, none⟩

/-- A configuration but for repositories and tags; a local etcd that is not there is an empty one. -/
def withoutImages (config : ClusterConfiguration) : ClusterConfiguration :=
  { config with
    dns := emptyImageMeta
    etcd := { config.etcd with
      localEtcd := some { config.etcd.localEtcd.getD emptyLocalEtcd with imageMeta := emptyImageMeta } }
    imageRepository := "" }

/-- Only images change, and there is not both a local and an external etcd. -/
def Respected (before after : ClusterConfiguration) : Prop :=
  withoutImages after = withoutImages before ∧
    ¬ (after.etcd.localEtcd.isSome ∧ after.etcd.external.isSome)

def OnlyImage (localEtcd : LocalEtcd) : Prop :=
  localEtcd.dataDir = "" ∧ localEtcd.extraArgs = none ∧ localEtcd.serverCertSANs = none ∧
    localEtcd.peerCertSANs = none

theorem onlyImage_iff {localEtcd : LocalEtcd} :
    OnlyImage localEtcd ↔ { localEtcd with imageMeta := emptyImageMeta } = emptyLocalEtcd := by
  simp [OnlyImage, emptyLocalEtcd]

theorem etcdDefaults_keeps_iff {images : OCNEImages} {given : Option LocalEtcd} :
    { etcdDefaults images given with imageMeta := emptyImageMeta } =
        { given.getD emptyLocalEtcd with imageMeta := emptyImageMeta } ↔
      ∀ localEtcd, given = some localEtcd → localEtcd.imageMeta.imageRepository = defaultOCNEImageRepository →
        localEtcd.imageMeta.imageTag ≠ images.etcd → OnlyImage localEtcd := by
  cases given with
  | none => simp [etcdDefaults, etcdLocal, emptyLocalEtcd]
  | some localEtcd =>
    simp only [etcdDefaults, Option.getD_some, Option.some.injEq, forall_eq']
    split
    next replaced =>
      simp only [replaced.1, forall_const, onlyImage_iff, ne_eq, replaced.2, not_false_eq_true]
      exact eq_comm
    next kept =>
      refine ⟨fun _ fromOCNE other => absurd ⟨fromOCNE, other⟩ kept, fun _ => rfl⟩

theorem withoutImages_withDefaults_iff {images : OCNEImages} :
    withoutImages (withDefaults images config) = withoutImages config ↔
      ∀ localEtcd, config.etcd.localEtcd = some localEtcd →
        localEtcd.imageMeta.imageRepository = defaultOCNEImageRepository →
          localEtcd.imageMeta.imageTag ≠ images.etcd → OnlyImage localEtcd := by
  rw [← etcdDefaults_keeps_iff]
  simp [withoutImages, withDefaults]

/-- The defaults respect the user without an external etcd, if a local etcd that gets another tag has only its image
set. -/
theorem defaults_respect_user_iff (metadata : OCNEMetadata) (config : ClusterConfiguration) (k8sVersion : String) :
    (∃ after, setOCNEControlPlaneClusterConfigurationDefaults (.ok metadata) config k8sVersion = .ok after ∧
      Respected config after) ↔
    config.etcd.external = none ∧
      ∀ localEtcd, config.etcd.localEtcd = some localEtcd →
        localEtcd.imageMeta.imageRepository = defaultOCNEImageRepository →
          localEtcd.imageMeta.imageTag ≠ (metadata.images k8sVersion).etcd → OnlyImage localEtcd := by
  have apart : ¬ ((withDefaults (metadata.images k8sVersion) config).etcd.localEtcd.isSome ∧
      (withDefaults (metadata.images k8sVersion) config).etcd.external.isSome) ↔ config.etcd.external = none := by
    simp [withDefaults]
  rw [← withoutImages_withDefaults_iff]
  constructor
  · rintro ⟨after, done, same, alone⟩
    cases done
    exact ⟨apart.mp alone, same⟩
  · rintro ⟨alone, same⟩
    exact ⟨_, rfl, same, apart.mpr alone⟩

private def table : OCNEMetadata :=
  Finmap.singleton "v1.24.8" ⟨⟨"3.5.3", "1.8.6"⟩, ⟨"1.24.8-2.el8"⟩⟩

private def withEtcd (etcd : Etcd) : ClusterConfiguration :=
  { emptyClusterConfiguration with etcd := etcd }

private def outside : Etcd := ⟨none, some ⟨some ["https://etcd:2379"], "ca.crt", "client.crt", "client.key"⟩⟩

private def onDisk : Etcd :=
  ⟨some ⟨⟨defaultOCNEImageRepository, "3.5.1"⟩, "/data/etcd", none, none, none⟩, none⟩

/-- Beside an external etcd a local one appears, and with a newer tag the data directory is lost. -/
theorem defaults_override_user :
    (∃ after, setOCNEControlPlaneClusterConfigurationDefaults (.ok table) (withEtcd outside) "v1.24.8" = .ok after ∧
      after.etcd.localEtcd.isSome ∧ after.etcd.external.isSome ∧ ¬ Respected (withEtcd outside) after) ∧
    ∃ after, setOCNEControlPlaneClusterConfigurationDefaults (.ok table) (withEtcd onDisk) "v1.24.8" = .ok after ∧
      after.etcd.localEtcd.map LocalEtcd.dataDir = some "" ∧ ¬ Respected (withEtcd onDisk) after := by
  refine ⟨⟨_, rfl, rfl, rfl, fun respected => respected.2 ⟨rfl, rfl⟩⟩, ⟨_, rfl, by decide, ?_⟩⟩
  rintro ⟨same, -⟩
  exact absurd (congrArg ClusterConfiguration.etcd same) (by decide)

section Settling

variable {images : OCNEImages}

/-- A tag of the user's own for the OCNE registry that is not asked for by name. -/
def Strays (images : OCNEImages) (dns : ImageMeta) : Prop :=
  dns.imageRepository = "" ∧ dns.imageTag ≠ "" ∧ dns.imageTag ≠ images.coreDNS

/-- An image of the OCNE registry has the tag that belongs to the version. -/
def Listed (tag : String) (image : ImageMeta) : Prop :=
  image.imageRepository = defaultOCNEImageRepository → image.imageTag = tag

theorem repositoryDefaults_ne_empty (imageRepository : String) : repositoryDefaults imageRepository ≠ "" := by
  rw [repositoryDefaults]
  split
  next => decide
  next named => exact named

theorem repositoryDefaults_of_ne_empty {imageRepository : String} (named : imageRepository ≠ "") :
    repositoryDefaults imageRepository = imageRepository :=
  if_neg named

theorem dnsDefaults_listed_iff : Listed images.coreDNS (dnsDefaults images dns) ↔ ¬ Strays images dns := by
  by_cases unnamed : dns.imageRepository = ""
  · have other : dns.imageRepository ≠ defaultOCNEImageRepository := by
      rw [unnamed]
      decide
    simp only [Listed, dnsDefaults, repositoryDefaults, Strays, unnamed, if_true, forall_const, true_and]
    grind
  · simp only [Listed, dnsDefaults, repositoryDefaults, Strays, unnamed, if_false, false_and, not_false_eq_true, iff_true]
    grind

theorem dnsDefaults_of_listed (named : dns.imageRepository ≠ "")
    (mem : Listed images.coreDNS dns) (tagged : dns.imageTag = "" → images.coreDNS = "") :
    dnsDefaults images dns = dns := by
  obtain ⟨imageRepository, imageTag⟩ := dns
  simp only [dnsDefaults, ImageMeta.mk.injEq]
  refine ⟨repositoryDefaults_of_ne_empty named, ?_⟩
  split
  next untagged => rw [tagged untagged, untagged]
  next given =>
    split
    next replaced => exact absurd (mem replaced.2) replaced.1
    next kept => rfl

theorem dnsDefaults_tagged (untagged : (dnsDefaults images dns).imageTag = "") : images.coreDNS = "" := by
  simp only [dnsDefaults] at untagged
  grind

theorem etcdDefaults_listed (given : Option LocalEtcd) : Listed images.etcd (etcdDefaults images given).imageMeta := by
  cases given with
  | none => exact fun _ => rfl
  | some localEtcd =>
    simp only [etcdDefaults]
    split
    next => exact fun _ => rfl
    next kept => exact fun fromOCNE => by_contra fun other => kept ⟨fromOCNE, other⟩

theorem etcdDefaults_of_listed {localEtcd : LocalEtcd} (mem : Listed images.etcd localEtcd.imageMeta) :
    etcdDefaults images (some localEtcd) = localEtcd :=
  if_neg fun replaced => replaced.2 (mem replaced.1)

theorem validateOCNEData_eq_nil {metadata : OCNEMetadata} {version : String}
    (dns : Listed (metadata.images version).coreDNS config.dns)
    (etcd : ∀ localEtcd, config.etcd.localEtcd = some localEtcd →
      Listed (metadata.images version).etcd localEtcd.imageMeta) :
    validateOCNEData (.ok metadata) (some config) version = [] := by
  simp only [Listed] at dns etcd
  simp only [validateOCNEData, List.append_eq_nil_iff, reject_eq_nil]
  constructor
  · grind
  · cases given : config.etcd.localEtcd with
    | none => rfl
    | some localEtcd =>
      simp only [reject_eq_nil]
      grind

/-- Applied again the defaults change nothing, and every image of the OCNE registry has the tag that the webhook asks
for. -/
def Settled (metadata : OCNEMetadata) (version : String) (config : ClusterConfiguration) : Prop :=
  setOCNEControlPlaneClusterConfigurationDefaults (.ok metadata) config version = .ok config ∧
    Listed (metadata.images version).coreDNS config.dns ∧
    (∀ localEtcd, config.etcd.localEtcd = some localEtcd →
      Listed (metadata.images version).etcd localEtcd.imageMeta) ∧
    validateOCNEData (.ok metadata) (some config) version = []

theorem withDefaults_withDefaults (asked : ¬ Strays images config.dns) :
    withDefaults images (withDefaults images config) = withDefaults images config := by
  have dns : dnsDefaults images (dnsDefaults images config.dns) = dnsDefaults images config.dns :=
    dnsDefaults_of_listed (repositoryDefaults_ne_empty _) (dnsDefaults_listed_iff.mpr asked) dnsDefaults_tagged
  have etcd : etcdDefaults images (some (etcdDefaults images config.etcd.localEtcd)) =
      etcdDefaults images config.etcd.localEtcd := etcdDefaults_of_listed (etcdDefaults_listed _)
  have repository : repositoryDefaults (repositoryDefaults config.imageRepository) =
      repositoryDefaults config.imageRepository := repositoryDefaults_of_ne_empty (repositoryDefaults_ne_empty _)
  simp only [withDefaults, dns, etcd, repository]

/-- The defaults settle at once, unless the image of CoreDNS has a tag but no repository. -/
theorem defaults_settle_iff (metadata : OCNEMetadata) (config : ClusterConfiguration) (k8sVersion : String) :
    (∃ once, setOCNEControlPlaneClusterConfigurationDefaults (.ok metadata) config k8sVersion = .ok once ∧
      Settled metadata k8sVersion once) ↔
    ¬ (config.dns.imageRepository = "" ∧ config.dns.imageTag ≠ "" ∧
      config.dns.imageTag ≠ (metadata.images k8sVersion).coreDNS) := by
  constructor
  · rintro ⟨once, done, -, listed, -⟩
    cases done
    exact dnsDefaults_listed_iff.mp listed
  · intro asked
    have dns : Listed (metadata.images k8sVersion).coreDNS (dnsDefaults (metadata.images k8sVersion) config.dns) :=
      dnsDefaults_listed_iff.mpr asked
    have etcd : ∀ localEtcd, (withDefaults (metadata.images k8sVersion) config).etcd.localEtcd = some localEtcd →
        Listed (metadata.images k8sVersion).etcd localEtcd.imageMeta := by
      rintro localEtcd given
      cases given
      exact etcdDefaults_listed _
    refine ⟨_, rfl, ?_, dns, etcd, validateOCNEData_eq_nil dns etcd⟩
    exact congrArg Except.ok (withDefaults_withDefaults asked)

private def ownTag : ClusterConfiguration :=
  { emptyClusterConfiguration with dns := ⟨"", "1.9.3"⟩ }

/-- A tag without a repository is kept, then refused by the webhook and replaced by the defaults. -/
theorem own_tag_unsettled :
    ∃ once twice, setOCNEControlPlaneClusterConfigurationDefaults (.ok table) ownTag "v1.24.8" = .ok once ∧
      once.dns = ⟨defaultOCNEImageRepository, "1.9.3"⟩ ∧
      validateOCNEData (.ok table) (some once) "v1.24.8" ≠ [] ∧
      setOCNEControlPlaneClusterConfigurationDefaults (.ok table) once "v1.24.8" = .ok twice ∧
      twice.dns = ⟨defaultOCNEImageRepository, "1.8.6"⟩ ∧ ¬ Settled table "v1.24.8" once := by
  refine ⟨_, _, rfl, by decide, by decide, rfl, by decide, fun settled => ?_⟩
  exact absurd (settled.2.1 (by decide)) (by decide)

end Settling

end OcneProvider.Bootstrapper.Defaults
