import OcneProvider.Semver.Lowest
import OcneProvider.Webhooks.ConfigSpec

/-! The versions that the topology of a Cluster may go through. The ceiling of an update is compared by the precedence
of semantic versions, in which pre-releases of the ceiling are below it. -/

namespace OcneProvider.Topology.VersionSkew
open Api.Meta Webhooks.ConfigSpec Semver.Compare Semver.Lowest Data.Comparison
open Api.Formats (kubeSemver)

/-- The rest of a topology is left open. -/
structure ClusterTopology (Body : Type) where
  className : String
  version : String
  body : Body

structure Cluster (Body : Type) where
  name : String
  ns : String
  annotations : StringMap
  topology : Option (ClusterTopology Body)

/-- How classes are read, and the checks of a topology that do not look at its version. -/
structure Checks (Class Body : Type) where
  get : String → String → Except Err Class
  againstClass : Cluster Body → Class → List FieldError
  compatible : Class → Class → List FieldError

def clusterTopologyUnsafeUpdateClassNameAnnotation : String :=
  "unsafe.topology.cluster.x-k8s.io/disable-update-class-name-check"

def isKubeSemver (version : String) : Bool :=
  match version.toList with
  | 'v' :: rest => (kubeSemver rest).isSome
  | _ => false

def versionText (version : Version) : String :=
  let tags (mark : String) (parts : List String) := if parts = [] then "" else mark ++ ".".intercalate parts
  toString version.major ++ "." ++ toString version.minor ++ "." ++ toString version.patch ++
    tags "-" (version.pre.map fun pre => if pre.isNum then toString pre.versionNum else pre.versionStr) ++
    tags "+" version.build

def zero : Version := ⟨0, 0, 0, [], []⟩

def ceilVersion (version : Version) : Version := ⟨version.major, (version.minor + 2) % 2 ^ 64, 0, [], []⟩

def isZero (version : Version) : Bool := version.precedence zero == .equal

def isLower (first second : Version) : Bool := compare first second [.withBuildTags] == -1

/-- The checks of an update; a version that cannot be parsed goes on as zero. -/
def validateVersion (field old new : String) : List FieldError :=
  let inVersion := (parseTolerant new).getD zero
  let oldVersion := (parseTolerant old).getD zero
  reject (parseTolerant new).isNone (invalid field (.text new) "version must be a valid semantic version") ++
  reject (parseTolerant old).isNone (invalid field (.text old) ("old version " ++ quoted (versionText oldVersion) ++
    " cannot be compared with " ++ quoted (versionText inVersion))) ++
  reject (!isZero inVersion && !isZero oldVersion && isLower inVersion oldVersion) (invalid field (.text new)
    ("version cannot be decreased from " ++ quoted (versionText oldVersion) ++ " to " ++ quoted (versionText inVersion))) ++
  reject (inVersion.precedence (ceilVersion oldVersion) ∈ [.equal, .greater]) (forbidden field
    ("version cannot be increased from " ++ quoted (versionText oldVersion) ++ " to " ++ quoted (versionText inVersion)))

section Checking

variable {Class Body : Type} (enabled : Bool) (checks : Checks Class Body) (path : String)

def validateUpdate (old new : Cluster Body) (topology : ClusterTopology Body) (clusterClass : Class) : List FieldError :=
  let unset := if (new.annotations.lookup clusterTopologyUnsafeUpdateClassNameAnnotation).isSome then []
    else [forbidden (child path ["class"]) "class cannot be set on an existing Cluster"]
  match old.topology with
  | none => unset
  | some oldTopology =>
    if oldTopology.className = "" then unset
    else validateVersion (child path ["version"]) oldTopology.version topology.version ++
      if oldTopology.className = topology.className then []
      else match checks.get old.ns oldTopology.className with
        | .error _ => [forbidden (child path ["class"]) ("ClusterClass with name " ++ quoted oldTopology.className ++
            " could not be found, change from class " ++ quoted oldTopology.className ++ " to class " ++
            quoted topology.className ++ " cannot be validated")]
        | .ok oldClass => checks.compatible oldClass clusterClass

def validateTopology (old : Option (Cluster Body)) (new : Cluster Body) (topology : ClusterTopology Body) :
    List FieldError :=
  if !enabled then [forbidden path "can be set only if the ClusterTopology feature flag is enabled"]
  else
    reject (topology.className == "") (required (child path ["class"]) "class cannot be empty") ++
    reject (!isKubeSemver topology.version)
      (invalid (child path ["version"]) (.text topology.version) "version must be a valid semantic version") ++
    match checks.get new.ns topology.className with
    | .error _ => [invalid (child path ["class"]) (.text new.name)
        ("ClusterClass with name " ++ quoted topology.className ++ " could not be found")]
    | .ok clusterClass => checks.againstClass new clusterClass ++
        old.elim [] fun old => validateUpdate checks path old new topology clusterClass

end Checking

/-- Not lower, and at most one minor version above. -/
def Skew (old new : Version) : Prop :=
  isLower new old = false ∧ new.major = old.major ∧ new.minor ≤ old.minor + 1

/-- A pre-release of the version two minor versions above. -/
def PreCeiling (old new : Version) : Prop :=
  new.major = old.major ∧ new.minor = old.minor + 2 ∧ new.patch = 0 ∧ new.pre ≠ []

theorem precedence_eq (first second : Version) : first.precedence second =
    if first.major ≠ second.major then if first.major < second.major then .less else .greater
    else if first.minor ≠ second.minor then if first.minor < second.minor then .less else .greater
    else if first.patch ≠ second.patch then if first.patch < second.patch then .less else .greater
    else comparePre first second := by
  unfold Version.precedence byKey Answer.orElse
  split_ifs <;> first | omega | simp_all

theorem le_of_not_isLower {first second : Version} (notLower : isLower first second = false) :
    second.major ≤ first.major ∧ (first.major = second.major → second.minor ≤ first.minor) := by
  have notLess : first.precedence second ≠ .less := by
    intro less
    simp [isLower, Semver.Compare.compare, answer, less, Answer.orElse, code] at notLower
  rw [precedence_eq] at notLess
  split_ifs at notLess <;> simp_all

theorem below_ceiling {version ceiling : Version} (bare : ceiling.patch = 0 ∧ ceiling.pre = [])
    (below : version.precedence ceiling ∉ [.equal, .greater]) : version.major ≤ ceiling.major ∧
      (version.major = ceiling.major → version.minor ≤ ceiling.minor ∧
        (version.minor = ceiling.minor → version.patch = 0 ∧ version.pre ≠ [])) := by
  have pre (none : version.pre = []) : comparePre version ceiling = .equal := by
    simp [comparePre, split, bare, none]
  rw [precedence_eq] at below
  split_ifs at below <;> simp_all <;> omega

section Updates

variable {Class Body : Type} {enabled : Bool} {checks : Checks Class Body} {path : String} {old new : Cluster Body}
  {oldTopology topology : ClusterTopology Body} (managed : old.topology = some oldTopology)
  (classed : oldTopology.className ≠ "") (accepted : validateTopology enabled checks path (some old) new topology = [])
include managed classed accepted

theorem versions_validated :
    validateVersion (child path ["version"]) oldTopology.version topology.version = [] := by
  unfold validateTopology at accepted
  split at accepted
  · cases accepted
  · have later := (List.append_eq_nil_iff.mp accepted).2
    split at later
    · cases later
    · have update := (List.append_eq_nil_iff.mp later).2
      simp only [Option.elim_some, validateUpdate, managed, classed, if_false] at update
      exact (List.append_eq_nil_iff.mp update).1

/-- An update keeps to the skew unless it goes down to zero or from zero, or to a pre-release of the ceiling. -/
theorem version_skew_iff : ∃ older newer, parseTolerant oldTopology.version = some older ∧
    parseTolerant topology.version = some newer ∧
    (Skew older newer ↔ ¬ (isLower newer older ∧ (isZero newer ∨ isZero older)) ∧ ¬ PreCeiling older newer) := by
  have fine := versions_validated managed classed accepted
  simp only [validateVersion, List.append_eq_nil_iff, reject_eq_nil, Option.isNone_eq_false_iff,
    Option.isSome_iff_exists] at fine
  obtain ⟨⟨⟨⟨newer, isNew⟩, older, isOld⟩, increasing⟩, below⟩ := fine
  simp only [isNew, isOld, Option.getD_some] at increasing below
  refine ⟨older, newer, isOld, isNew, ?_, ?_⟩
  · rintro ⟨notLower, sameMajor, most⟩
    refine ⟨fun lower => ?_, fun ceiling => ?_⟩
    · simp [notLower] at lower
    · have := ceiling.2.1
      omega
  · rintro ⟨nonzero, ceiling⟩
    have notLower : isLower newer older = false := by
      cases lower : isLower newer older with
      | false => rfl
      | true =>
        rw [not_and, not_or] at nonzero
        simp [lower, nonzero lower] at increasing
    obtain ⟨major, minor⟩ := le_of_not_isLower notLower
    obtain ⟨bound, close⟩ := below_ceiling ⟨rfl, rfl⟩ (of_decide_eq_false below)
    have sameMajor : newer.major = older.major := le_antisymm bound major
    obtain ⟨most, tight⟩ := close sameMajor
    refine ⟨notLower, sameMajor, ?_⟩
    by_contra more
    have wraps : (ceilVersion older).minor ≤ older.minor + 2 := Nat.mod_le _ _
    have isTwo : newer.minor = older.minor + 2 := by omega
    exact ceiling ⟨sameMajor, isTwo, tight (by omega)⟩

end Updates

private def anyClass : Checks Unit Unit := ⟨fun _ _ => .ok (), fun _ _ => [], fun _ _ => []⟩

private def topologyAt (version : String) : ClusterTopology Unit := ⟨"quick-start", version, ()⟩

private def clusterAt (version : String) : Cluster Unit := ⟨"c", "default", ∅, some (topologyAt version)⟩

theorem minor_update_skew : ∃ older newer, parseTolerant "v1.24.8" = some older ∧ parseTolerant "v1.25.7+1" = some newer ∧
    (Skew older newer ↔ ¬ (isLower newer older ∧ (isZero newer ∨ isZero older)) ∧ ¬ PreCeiling older newer) := by
  have accepted : validateTopology true anyClass "t" (some (clusterAt "v1.24.8")) (clusterAt "v1.25.7+1")
    (topologyAt "v1.25.7+1") = [] := by decide +kernel
  exact version_skew_iff rfl (by decide) accepted

/-- From 1.24 to a pre-release of 1.26. -/
theorem skipping_update_accepted :
    validateTopology true anyClass "t" (some (clusterAt "v1.24.8")) (clusterAt "v1.26.0-rc") (topologyAt "v1.26.0-rc") =
      [] ∧ parseTolerant "v1.24.8" = some ⟨1, 24, 8, [], []⟩ ∧
    parseTolerant "v1.26.0-rc" = some ⟨1, 26, 0, [⟨"rc", 0, false⟩], []⟩ ∧
    ¬ Skew ⟨1, 24, 8, [], []⟩ ⟨1, 26, 0, [⟨"rc", 0, false⟩], []⟩ := by
  refine ⟨by decide +kernel, by decide +kernel, by decide +kernel, fun skew => ?_⟩
  exact absurd skew.2.2 (by decide)

end OcneProvider.Topology.VersionSkew
