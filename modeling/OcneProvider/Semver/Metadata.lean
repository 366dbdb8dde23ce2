import OcneProvider.Data.Collect
import OcneProvider.Semver.Ocne

/-! The table of the images and packages that belong to a Kubernetes version, as it is built from what was read. -/

namespace OcneProvider.Semver.Metadata
open Api.Meta Data.Collect Effects.Fallible Ocne

structure OCNEImages where
  etcd : String
  coreDNS : String
  tigeraOperator : String
  calico : String
  pause : String
  kubeControllerManager : String
  kubeScheduler : String
  kubeApiServer : String
  kubeProxy : String
  moduleOperator : String
  deriving DecidableEq

structure OCNEPackages where
  kubeadm : String
  kubectl : String
  kubelet : String
  helm : String
  deriving DecidableEq

structure OCNEMetadata where
  images : OCNEImages
  packages : OCNEPackages
  release : String
  deriving DecidableEq

abbrev Mapping := Finmap fun _ : String => OCNEMetadata

/-- The entries of a map in the order they are met. -/
abbrev RawMapping := List (String × OCNEMetadata)

def defaultTigeraOperatorTag : String := "v1.29.0"

def defaultCalicoTag : String := "v3.25.0"

def minOCNEVersion : String := "v1.25.7"

def defaultModuleOperatorTag : String := "v0.1.0-20230613163219-eb4a2b94"

def k8sOcneVersionMaping : List (String × String) :=
  [("v1.26.6", "1.7"), ("v1.25.11", "1.6"), ("v1.25.7", "1.6"), ("v1.24.8", "1.5"), ("v1.24.5", "1.5"),
    ("v1.23.14", "1.5"), ("v1.23.11", "1.5"), ("v1.23.7", "1.5"), ("v1.22.16", "1.5"), ("v1.22.14", "1.5"),
    ("v1.22.8", "1.5")]

def isSupported (version : String) (minVersion : SemVersion) : Except Err Bool := do
  let parsed ← newSemVersion version
  return parsed.isGreaterThanOrEqualTo minVersion

def keyOf (version : String) : String :=
  if version.toList.head? = some 'v' then version else "v" ++ version

def orDefault (value fallback : String) : String :=
  if value = "" then fallback else value

/-- The release stays empty if the version is not in the table of releases. -/
def fill (version : String) (metadata : OCNEMetadata) : OCNEMetadata :=
  { metadata with
    images := { metadata.images with
      tigeraOperator := orDefault metadata.images.tigeraOperator defaultTigeraOperatorTag
      calico := orDefault metadata.images.calico defaultCalicoTag
      moduleOperator := orDefault metadata.images.moduleOperator defaultModuleOperatorTag }
    release := orDefault metadata.release ((k8sOcneVersionMaping.lookup version).getD "") }

/-- A version that cannot be read is not supported. -/
def entryFor (minVersion : SemVersion) (raw : String × OCNEMetadata) : Option (String × OCNEMetadata) :=
  match isSupported raw.1 minVersion with
  | .ok true => some (keyOf raw.1, fill (keyOf raw.1) raw.2)
  | _ => none

def buildMapping (rawMapping : RawMapping) : Except Err Mapping := do
  let minSupportedVersion ← newSemVersion minOCNEVersion
  return collect (entryFor minSupportedVersion) rawMapping

def minimum : SemVersion := ⟨1, 25, 7, "", ""⟩

def Supported (version : String) : Prop :=
  isSupported version minimum = .ok true

theorem buildMapping_eq (rawMapping : RawMapping) : buildMapping rawMapping = .ok (collect (entryFor minimum) rawMapping) := by
  rfl

theorem supported_iff_isOk {version : String} : Supported version ↔
    ∃ parsed, newSemVersion version = .ok parsed ∧ parsed.isGreaterThanOrEqualTo minimum = true := by
  unfold Supported isSupported
  rw [bind_eq_ok]
  exact exists_congr fun parsed => and_congr_right fun _ => ⟨Except.ok.inj, congrArg Except.ok⟩

theorem supported_iff {version : String} : Supported version ↔
    ∃ parsed, newSemVersion version = .ok parsed ∧ minimum.numbers ≤ parsed.numbers := by
  rw [supported_iff_isOk]
  refine exists_congr fun parsed => and_congr_right fun _ => ?_
  rw [SemVersion.isGreaterThanOrEqualTo, Bool.or_eq_true, isGreatherThan_iff, isEqualTo_iff]
  by_cases same : parsed = minimum
  · simp [same]
  · rw [le_iff_lt_or_eq]
    simp [same, eq_comm]

theorem entryFor_eq_some {raw entry : String × OCNEMetadata} : entryFor minimum raw = some entry ↔
    Supported raw.1 ∧ entry = (keyOf raw.1, fill (keyOf raw.1) raw.2) := by
  unfold entryFor Supported
  split
  next supported => simp [supported, eq_comm]
  next unsupported => exact iff_of_false nofun fun both => unsupported both.1

/-- A key for the version of another text: it starts with one small letter. -/
theorem keyOf_denotes {version : String} {body : List Char} (denotes : Denotes version body)
    (small : version.toList.head? ≠ some 'V') : (keyOf version).toList = 'v' :: body := by
  unfold keyOf
  rcases denotes.spelled with lower | upper | ⟨plain, first, rest, rfl, digit⟩
  · rw [if_pos (by rw [lower]; rfl), lower]
  · exact absurd (by rw [upper]; rfl) small
  · have other : version.toList.head? ≠ some 'v' := by
      rw [plain, List.head?_cons, Ne, Option.some.injEq]
      rintro rfl
      cases digit
    rw [if_neg other, String.toList_append, plain]
    rfl

theorem supported_key {version : String} (supported : Supported version) (small : version.toList.head? ≠ some 'V') :
    ∃ parsed, newSemVersion version = .ok parsed ∧ newSemVersion (keyOf version) = .ok parsed ∧
      (keyOf version).toList = 'v' :: parsed.toString.toList := by
  obtain ⟨parsed, accepted, _⟩ := supported_iff.mp supported
  have denotes := denotes_toString accepted
  have key := keyOf_denotes denotes small
  exact ⟨parsed, accepted, newSemVersion_congr denotes ⟨.inl key⟩ accepted, key⟩

section WellDefined

/-- Missing fields have their defaults, and the others are as they were read. -/
structure Filled (key : String) (raw metadata : OCNEMetadata) : Prop where
  tigeraOperator : metadata.images.tigeraOperator = orDefault raw.images.tigeraOperator "v1.29.0"
  calico : metadata.images.calico = orDefault raw.images.calico "v3.25.0"
  moduleOperator : metadata.images.moduleOperator = orDefault raw.images.moduleOperator "v0.1.0-20230613163219-eb4a2b94"
  release : metadata.release = orDefault raw.release ((k8sOcneVersionMaping.lookup key).getD "")
  others : { metadata with
    images := { metadata.images with
      tigeraOperator := raw.images.tigeraOperator, calico := raw.images.calico, moduleOperator := raw.images.moduleOperator }
    release := raw.release } = raw

theorem filled_fill (key : String) (raw : OCNEMetadata) : Filled key raw (fill key raw) :=
  ⟨rfl, rfl, rfl, rfl, rfl⟩

/-- What a table holds that is made of the entries that were read. -/
structure Maps (rawMapping : RawMapping) (mapping : Mapping) : Prop where
  entry : ∀ raw ∈ rawMapping, Supported raw.1 → ∃! key, key ∈ mapping ∧ newSemVersion key = newSemVersion raw.1
  filled : ∀ key metadata, mapping.lookup key = some metadata →
    ∃ raw ∈ rawMapping, Supported raw.1 ∧ newSemVersion key = newSemVersion raw.1 ∧ Filled key raw.2 metadata
  parses : ∀ key ∈ mapping, ∃ version, newSemVersion key = .ok version
  letter : ∀ key ∈ mapping, ∃ first rest, key.toList = 'v' :: first :: rest ∧ first.isDigit = true

/-- The tables for all orders of the entries are one. -/
def WellDefined (rawMapping : RawMapping) : Prop :=
  ∃ mapping, Maps rawMapping mapping ∧ ∀ order, rawMapping.Perm order → buildMapping order = .ok mapping

/-- No supported version starts with a capital letter, and entries with one key agree. -/
structure Clean (rawMapping : RawMapping) : Prop where
  small : ∀ raw ∈ rawMapping, Supported raw.1 → raw.1.toList.head? ≠ some 'V'
  agree : ∀ first ∈ rawMapping, ∀ second ∈ rawMapping, Supported first.1 → Supported second.1 →
    keyOf first.1 = keyOf second.1 → fill (keyOf first.1) first.2 = fill (keyOf second.1) second.2

variable {rawMapping : RawMapping}

theorem mem_mapping_iff {key : String} : key ∈ collect (entryFor minimum) rawMapping ↔
    ∃ raw ∈ rawMapping, Supported raw.1 ∧ key = keyOf raw.1 := by
  rw [mem_collect_iff]
  refine exists_congr fun raw => and_congr_right fun _ => ?_
  simp only [entryFor_eq_some, Prod.mk.injEq]
  exact ⟨fun ⟨_, supported, same, _⟩ => ⟨supported, same⟩, fun ⟨supported, same⟩ => ⟨_, supported, same, rfl⟩⟩

theorem consistent_iff : Consistent (entryFor minimum) rawMapping ↔
    ∀ first ∈ rawMapping, ∀ second ∈ rawMapping, Supported first.1 → Supported second.1 →
      keyOf first.1 = keyOf second.1 → fill (keyOf first.1) first.2 = fill (keyOf second.1) second.2 := by
  unfold Consistent
  simp only [entryFor_eq_some, Prod.mk.injEq]
  constructor
  · intro consistent first isFirst second isSecond supported supported' same
    exact consistent first isFirst second isSecond _ _ _ ⟨supported, rfl, rfl⟩ ⟨supported', same, rfl⟩
  · rintro agree first isFirst second isSecond _ _ _ ⟨supported, rfl, rfl⟩ ⟨supported', same, rfl⟩
    exact agree first isFirst second isSecond supported supported' same

theorem Clean.key (clean : Clean rawMapping) {key : String} (mem : key ∈ collect (entryFor minimum) rawMapping) :
    ∃ parsed, newSemVersion key = .ok parsed ∧ key.toList = 'v' :: parsed.toString.toList := by
  obtain ⟨raw, isRaw, supported, rfl⟩ := mem_mapping_iff.mp mem
  obtain ⟨parsed, -, read⟩ := supported_key supported (clean.small raw isRaw supported)
  exact ⟨parsed, read⟩

theorem Clean.maps (clean : Clean rawMapping) : Maps rawMapping (collect (entryFor minimum) rawMapping) := by
  refine ⟨?_, ?_, ?_, ?_⟩
  · intro raw isRaw supported
    obtain ⟨parsed, accepted, read, chars⟩ := supported_key supported (clean.small raw isRaw supported)
    refine ⟨keyOf raw.1, ⟨mem_mapping_iff.mpr ⟨raw, isRaw, supported, rfl⟩, read.trans accepted.symm⟩, ?_⟩
    rintro key ⟨mem, same⟩
    obtain ⟨parsed', read', chars'⟩ := clean.key mem
    obtain rfl := Except.ok.inj (read'.symm.trans (same.trans accepted))
    exact String.toList_inj.mp (chars'.trans chars.symm)
  · intro key metadata found
    obtain ⟨raw, isRaw, made⟩ := exists_of_lookup found
    obtain ⟨supported, entry⟩ := entryFor_eq_some.mp made
    obtain ⟨rfl, rfl⟩ := Prod.mk.inj entry
    obtain ⟨parsed, accepted, read, -⟩ := supported_key supported (clean.small raw isRaw supported)
    exact ⟨raw, isRaw, supported, read.trans accepted.symm, filled_fill _ _⟩
  · intro key mem
    obtain ⟨parsed, read, -⟩ := clean.key mem
    exact ⟨parsed, read⟩
  · intro key mem
    obtain ⟨parsed, -, chars⟩ := clean.key mem
    obtain ⟨first, rest, printed, digit⟩ := toString_cons parsed
    exact ⟨first, rest, printed ▸ chars, digit⟩

theorem Maps.small (maps : Maps rawMapping (collect (entryFor minimum) rawMapping)) :
    ∀ raw ∈ rawMapping, Supported raw.1 → raw.1.toList.head? ≠ some 'V' := by
  intro raw isRaw supported capital
  obtain ⟨first, rest, chars, digit⟩ := maps.letter _ (mem_mapping_iff.mpr ⟨raw, isRaw, supported, rfl⟩)
  obtain ⟨later, spelled⟩ := List.head?_eq_some_iff.mp capital
  rw [keyOf, if_neg (by rw [capital]; decide), String.toList_append, spelled] at chars
  obtain ⟨-, chars⟩ := List.cons.inj chars
  obtain ⟨rfl, -⟩ := List.cons.inj chars
  cases digit

theorem wellDefined_iff (rawMapping : RawMapping) : WellDefined rawMapping ↔ Clean rawMapping := by
  constructor
  · rintro ⟨mapping, maps, same⟩
    have built := same rawMapping (.refl _)
    obtain rfl := Except.ok.inj built
    refine ⟨maps.small, consistent_iff.mp (forall_perm_iff.mp fun order perm => ?_)⟩
    exact Except.ok.inj ((buildMapping_eq order).symm.trans (same order perm))
  · intro clean
    refine ⟨_, clean.maps, fun order perm => ?_⟩
    rw [buildMapping_eq, forall_perm_iff.mpr (consistent_iff.mpr clean.agree) order perm]

private def withCalico (calico : String) : OCNEMetadata :=
  ⟨⟨"3.5.6", "v1.9.3", "", calico, "3.8", "v1.25.7", "v1.25.7", "v1.25.7", "v1.25.7", ""⟩,
    ⟨"1.25.7-1", "1.25.7-1", "1.25.7-1", "3.11.1-1"⟩, ""⟩

private def calicoOf (version : String) (rawMapping : RawMapping) : Option String :=
  ((buildMapping rawMapping).toOption.bind (·.lookup version)).map (·.images.calico)

/-- The last of two entries stays, and a capital letter is kept after the small one. -/
theorem mapping_not_wellDefined :
    calicoOf "v1.25.7" [("1.25.7", withCalico "v3.24.0"), ("v1.25.7", withCalico "v3.26.0")] = some "v3.26.0" ∧
    calicoOf "v1.25.7" [("v1.25.7", withCalico "v3.26.0"), ("1.25.7", withCalico "v3.24.0")] = some "v3.24.0" ∧
    calicoOf "vV1.25.7" [("V1.25.7", withCalico "v3.24.0")] = some "v3.24.0" ∧
    newSemVersion "vV1.25.7" = .error (invalidVersionError "vV1.25.7") := by
  decide +kernel

end WellDefined

end OcneProvider.Semver.Metadata
