import Mathlib.Data.String.Basic
import OcneProvider.Api.Objects
import OcneProvider.Data.Comparison

/-! The comparison of versions. Build tags take part in it on demand, and can leave two versions unordered. -/

namespace OcneProvider.Semver.Compare
open Api.Objects Data.Comparison

structure PRVersion where
  versionStr : String
  versionNum : Nat
  isNum : Bool
  deriving DecidableEq

structure Version where
  major : Nat
  minor : Nat
  patch : Nat
  pre : List PRVersion
  build : List String
  deriving DecidableEq

/-- Numbers come before texts. -/
def PRVersion.compare : PRVersion → PRVersion → Answer :=
  split isNum (byKey versionNum) (byKey versionStr)

/-- Pre-releases of a version come before it. -/
def comparePre : Version → Version → Answer :=
  split (fun version => version.pre ≠ []) (fun first second => lists PRVersion.compare first.pre second.pre)
    fun _ _ => .equal

/-- The precedence of the semver library, transcribed. It ignores build tags. -/
def Version.precedence (first second : Version) : Answer :=
  (byKey major first second).orElse <| (byKey minor first second).orElse <|
    (byKey patch first second).orElse <| comparePre first second

structure BuildIdentifier where
  identifierInt : Nat
  identifierStr : String
  isNum : Bool
  deriving DecidableEq

/-- What `strconv.ParseUint` returns beside its error: zero, or the largest 64 bit number. -/
def parseUint64 (text : String) : Nat :=
  min (2 ^ 64 - 1) ((decimal? text.toList).getD 0)

def newBuildIdentifier (text : String) : BuildIdentifier :=
  if text.toList.all Char.isDigit then ⟨parseUint64 text, "", true⟩ else ⟨0, text, false⟩

/-- Numbers come before texts, which are only told apart. -/
def BuildIdentifier.compare (first second : BuildIdentifier) : Answer :=
  if first.isNum && !second.isNum then .less
  else if !first.isNum && second.isNum then .greater
  else if first.isNum && second.isNum then
    if first.identifierInt < second.identifierInt then .less
    else if first.identifierInt = second.identifierInt then .equal
    else .greater
  else if first.identifierStr = second.identifierStr then .equal
  else .unordered

/-- If everything else is equal the longer list is greater. -/
def compareBuild (first second : Version) : Answer :=
  lists BuildIdentifier.compare (first.build.map newBuildIdentifier) (second.build.map newBuildIdentifier)

inductive CompareOption where
  | withBuildTags
  | withoutPreReleases
  deriving DecidableEq

def code : Answer → Int
  | .less => -1
  | .equal => 0
  | .greater => 1
  | .unordered => 2

def answer (first second : Version) (options : List CompareOption) : Answer :=
  let first := if .withoutPreReleases ∈ options then { first with pre := [] } else first
  let second := if .withoutPreReleases ∈ options then { second with pre := [] } else second
  if .withBuildTags ∈ options then (first.precedence second).orElse (compareBuild first second)
  else first.precedence second

def compare (first second : Version) (options : List CompareOption) : Int :=
  code (answer first second options)

theorem PRVersion.compare_lawful : Lawful PRVersion.compare :=
  split_lawful _ (byKey_lawful _) (byKey_lawful _)

theorem BuildIdentifier.compare_lawful : Lawful BuildIdentifier.compare :=
  split_lawful BuildIdentifier.isNum (byKey_lawful identifierInt) (byEquality_lawful identifierStr)

theorem precedence_lawful : Lawful Version.precedence :=
  (byKey_lawful _).andThen <| (byKey_lawful _).andThen <| (byKey_lawful _).andThen <|
    split_lawful _ ((lists_lawful PRVersion.compare_lawful).on Version.pre) trivial_lawful

theorem answer_lawful (options : List CompareOption) : Lawful fun first second => answer first second options := by
  have build : Lawful compareBuild :=
    (lists_lawful BuildIdentifier.compare_lawful).on fun version : Version => version.build.map newBuildIdentifier
  have tagged : Lawful fun first second : Version =>
      if .withBuildTags ∈ options then (first.precedence second).orElse (compareBuild first second)
      else first.precedence second := by
    split
    · exact precedence_lawful.andThen build
    · exact precedence_lawful
  exact tagged.on fun version => if .withoutPreReleases ∈ options then { version with pre := [] } else version

theorem code_injective {first second : Answer} (same : code first = code second) : first = second := by
  cases first <;> cases second <;> first | rfl | cases same

/-- A partial order that says when two versions are unordered. -/
theorem compare_partial_order (first second third : Version) :
    (compare first second [.withBuildTags] ∈ ({-1, 0, 1} : Set Int) ∧
        compare first second [.withBuildTags] = -compare second first [.withBuildTags] ∨
      compare first second [.withBuildTags] = 2 ∧ compare second first [.withBuildTags] = 2) ∧
    compare first first [.withBuildTags] = 0 ∧
    (compare first second [.withBuildTags] = 0 →
      compare second first [.withBuildTags] = 0 ∧
      compare first third [.withBuildTags] = compare second third [.withBuildTags] ∧
      compare third first [.withBuildTags] = compare third second [.withBuildTags]) ∧
    (compare first second [.withBuildTags] = -1 → compare second third [.withBuildTags] = -1 →
      compare first third [.withBuildTags] = -1) := by
  have lawful := answer_lawful [.withBuildTags]
  unfold compare
  refine ⟨?_, by rw [lawful.refl]; rfl, fun same => ?_, fun less more => ?_⟩
  · rw [lawful.swap first second]
    cases answer first second [.withBuildTags] <;> simp [code, Answer.swap]
  · have equal : answer first second [.withBuildTags] = .equal := code_injective same
    exact ⟨congrArg code (lawful.symm equal), congrArg code (lawful.congr equal third),
      congrArg code (lawful.congr_right equal third)⟩
  · exact congrArg code (lawful.trans (code_injective less) (code_injective more))

theorem newBuildIdentifier_of_decimal {text : String} {value : Nat} (denotes : decimal? text.toList = some value) :
    newBuildIdentifier text = ⟨min (2 ^ 64 - 1) value, "", true⟩ := by
  have digits : text.toList.all Char.isDigit = true := by
    unfold decimal? at denotes
    split at denotes
    next valid => exact valid.2
    next => cases denotes
  rw [newBuildIdentifier, if_pos digits, parseUint64, denotes]
  rfl

theorem compare_numbers (version : Version) (before after : List String) {first second : String} {m n : Nat}
    (isFirst : decimal? first.toList = some m) (isSecond : decimal? second.toList = some n) :
    compare { version with build := before ++ first :: after } { version with build := before ++ second :: after }
      [.withBuildTags] = code (byKey (min (2 ^ 64 - 1)) m n) := by
  have same : Version.precedence { version with build := before ++ first :: after }
      { version with build := before ++ second :: after } = .equal := precedence_lawful.refl version
  have rest := (lists_lawful BuildIdentifier.compare_lawful).refl (after.map newBuildIdentifier)
  simp only [compare, answer, List.mem_singleton, reduceCtorEq, if_false, if_true, same, Answer.orElse, compareBuild,
    List.map_append, List.map_cons]
  rw [lists_append BuildIdentifier.compare_lawful, lists, newBuildIdentifier_of_decimal isFirst,
    newBuildIdentifier_of_decimal isSecond, rest]
  change code ((byKey (min (2 ^ 64 - 1)) m n).orElse .equal) = _
  cases byKey (min (2 ^ 64 - 1)) m n <;> rfl

/-- Numeric build identifiers compare as numbers, unless they differ and neither is below the largest 64 bit number. -/
theorem numeric_identifiers_compare_iff (version : Version) (before after : List String) {first second : String} {m n : Nat}
    (isFirst : decimal? first.toList = some m) (isSecond : decimal? second.toList = some n) :
    compare { version with build := before ++ first :: after } { version with build := before ++ second :: after }
        [.withBuildTags] = (if m < n then -1 else if m = n then 0 else 1) ↔
      m = n ∨ m < 2 ^ 64 - 1 ∨ n < 2 ^ 64 - 1 := by
  rw [compare_numbers version before after isFirst isSecond]
  unfold byKey
  split_ifs <;> simp [code] <;> omega

theorem short_identifiers_compare : compare ⟨1, 25, 7, [], ["el8", "007"]⟩ ⟨1, 25, 7, [], ["el8", "12"]⟩ [.withBuildTags] = -1 :=
  (numeric_identifiers_compare_iff ⟨1, 25, 7, [], []⟩ ["el8"] [] (m := 7) (n := 12) (by decide) (by decide)).mpr (by decide)

/-- Two numbers that do not fit in 64 bits are found equal. -/
theorem long_identifiers_equal : compare ⟨1, 25, 7, [], ["18446744073709551616"]⟩ ⟨1, 25, 7, [], ["18446744073709551617"]⟩
    [.withBuildTags] = 0 ∧ decimal? "18446744073709551616".toList = some 18446744073709551616 ∧
    decimal? "18446744073709551617".toList = some 18446744073709551617 := by
  decide

end OcneProvider.Semver.Compare
