import Mathlib.Data.List.Induction
import OcneProvider.Api.Objects
import OcneProvider.Data.Regex
import OcneProvider.Effects.Fallible

/-! The versions of releases: how they are read with a regular expression, printed and compared. -/

namespace OcneProvider.Semver.Ocne
open Api.Meta Api.Objects Data.Regex Effects.Fallible List

variable {char : Char} {version : String} {body : List Char}

structure SemVersion where
  major : Nat
  minor : Nat
  patch : Nat
  prerelease : String
  build : String
  deriving DecidableEq

def literal (char : Char) : Expr Char := .char (· == char)

def digits : Expr Char := .star (.char Char.isDigit)

def letterOrDash (char : Char) : Bool := char.isAlpha || char == '-'

def alphanumericOrDash (char : Char) : Bool := char.isAlphanum || char == '-'

/-- `0|[1-9]\d*` -/
def numeric : Expr Char :=
  .alt (literal '0') (.seq (.char fun char => '1' ≤ char && char ≤ '9') digits)

/-- `0|[1-9]\d*|\d*[a-zA-Z-][0-9a-zA-Z-]*` -/
def identifier : Expr Char :=
  .alt numeric (.seq digits (.seq (.char letterOrDash) (.star (.char alphanumericOrDash))))

/-- `[0-9a-zA-Z-]+` -/
def buildTag : Expr Char := .seq (.char alphanumericOrDash) (.star (.char alphanumericOrDash))

def dotted (part : Expr Char) : Expr Char := .seq part (.star (.seq (literal '.') part))

def tag (mark : Char) (part : Expr Char) : Pattern Char := .opt (.seq (.plain (literal mark)) (.group part))

def numbered : Pattern Char :=
  .seq (.group numeric) <| .seq (.plain (literal '.')) <| .seq (.group numeric) <| .seq (.plain (literal '.')) <|
    .seq (.group numeric) <| .seq (tag '-' (dotted identifier)) (tag '+' (dotted buildTag))

/-- The expression is for a whole text. -/
def semverRegex : Pattern Char := .seq (.plain (.char (· ∈ ['v', '|', 'V']))) numbered

def invalidVersionError (version : String) : Err :=
  errorf ("Invalid version string: " ++ version ++ " (valid format is vn.n.n or n.n.n)")

/-- As `strconv.ParseInt` reads 64 bits, without a sign. -/
def parseInt (text : List Char) : Except Err Nat :=
  match decimal? text with
  | none => .error (errorf ("strconv.ParseInt: parsing \"" ++ String.ofList text ++ "\": invalid syntax"))
  | some value =>
    if value < 2 ^ 63 then .ok value
    else .error (errorf ("strconv.ParseInt: parsing \"" ++ String.ofList text ++ "\": value out of range"))

/-- The text that is matched: a version may start with a digit. -/
def lettered (version : String) : Except Err (List Char) :=
  match version.toList with
  | [] => .error (errorf "SemVersion string cannot be empty")
  | first :: rest =>
    if first = 'v' ∨ first = 'V' then .ok (first :: rest)
    else if first.isDigit then .ok ('v' :: first :: rest)
    else .error (invalidVersionError version)

/-- The first component is the text as a whole. -/
def fromComponents (version : String) (components : List (List Char)) : Except Err SemVersion := do
  if components.length < 3 then
    throw (invalidVersionError version)
  let component (index : Nat) : List Char := components.getD index []
  let major ← parseInt (component 1)
  let minor ← parseInt (component 2)
  let patch ← if 3 < components.length then parseInt (component 3) else pure 0
  return ⟨major, minor, patch, String.ofList (component 4), String.ofList (component 5)⟩

def newSemVersion (version : String) : Except Err SemVersion := do
  let text ← lettered version
  match semverRegex.submatches text with
  | none => throw (invalidVersionError version)
  | some groups => fromComponents version (text :: groups)

def SemVersion.toString (version : SemVersion) : String :=
  let numbers := version.major.repr ++ "." ++ version.minor.repr ++ "." ++ version.patch.repr
  if version.build ≠ "" ∧ version.prerelease ≠ "" then numbers ++ "-" ++ version.prerelease ++ "+" ++ version.build
  else if version.build = "" ∧ version.prerelease ≠ "" then numbers ++ "-" ++ version.prerelease
  else if version.build ≠ "" ∧ version.prerelease = "" then numbers ++ "+" ++ version.build
  else numbers

theorem digit_bounds (digit : char.isDigit = true) : 48 ≤ char.toNat ∧ char.toNat ≤ 57 := by
  simpa [Char.isDigit, UInt32.le_iff_toNat_le] using digit

theorem digit_lt_ten (digit : char.isDigit = true) : char.toNat - '0'.toNat < 10 := by
  have bounds := digit_bounds digit
  have zero : '0'.toNat = 48 := rfl
  omega

theorem toDigits_digit (digit : char.isDigit = true) : Nat.toDigits 10 (char.toNat - '0'.toNat) = [char] := by
  rw [Nat.toDigits_of_lt_base (digit_lt_ten digit), cons.injEq]
  refine ⟨Char.toNat_inj.mp ?_, rfl⟩
  rw [Nat.toNat_digitChar_of_lt_ten (digit_lt_ten digit)]
  exact Nat.add_sub_cancel' (digit_bounds digit).1

theorem toDigits_of_decimal {digits : List Char} {value : Nat} (denotes : decimal? digits = some value)
    (canonical : digits.head? = some '0' → digits = ['0']) : Nat.toDigits 10 value = digits := by
  unfold decimal? at denotes
  split at denotes
  next valid =>
    obtain rfl := Option.some.inj denotes
    clear denotes
    obtain ⟨nonempty, all⟩ := valid
    rw [all_eq_true] at all
    -- From the end: the number read up to the last digit is positive, as it has no leading zero.
    induction digits using reverseRecOn with
    | nil => exact absurd rfl nonempty
    | append_singleton front last ih =>
      have digit := all last (mem_append_right _ (mem_singleton_self last))
      rw [foldl_append, foldl_cons, foldl_nil]
      by_cases first : front = []
      · rw [first, foldl_nil, Nat.mul_zero, Nat.zero_add]
        exact toDigits_digit digit
      · have noZero : front.head? ≠ some '0' := fun zero => by
          have single := canonical (head?_append_of_ne_nil front first ▸ zero)
          have sizes := congrArg length single
          exact first (length_eq_zero_iff.mp (by simpa using sizes))
        have before := ih (fun zero => absurd zero noZero) first fun char mem => all char (mem_append_left _ mem)
        have positive : 0 < front.foldl (fun value digit => 10 * value + (digit.toNat - '0'.toNat)) 0 := by
          refine Nat.pos_of_ne_zero fun zero => noZero ?_
          rw [zero] at before
          rw [← before]
          rfl
        rw [← Nat.toDigits_append_toDigits (by decide) positive (digit_lt_ten digit), before, toDigits_digit digit]
  next => cases denotes

section Components

variable {text : List Char}

theorem mem_literal : text ∈ (literal char).language ↔ text = [char] := by
  constructor
  · rintro ⟨only, same, rfl⟩
    rw [beq_iff_eq.mp same]
  · rintro rfl
    exact ⟨char, beq_self_eq_true char, rfl⟩

theorem mem_numeric (inside : text ∈ numeric.language) :
    (∃ first rest, text = first :: rest ∧ first.isDigit = true) ∧ (text.head? = some '0' → text = ['0']) := by
  rcases mem_alt.mp inside with zero | positive
  · obtain rfl := mem_literal.mp zero
    exact ⟨⟨'0', [], rfl, by decide⟩, fun _ => rfl⟩
  · obtain ⟨_, isFirst, rest, _, rfl⟩ := mem_seq.mp positive
    obtain ⟨first, bounds, rfl⟩ := mem_char.mp isFirst
    have range : '1' ≤ first ∧ first ≤ '9' := by simpa using bounds
    refine ⟨⟨first, rest, rfl, ?_⟩, fun zero => ?_⟩
    · have low : '0' ≤ first := Char.le_trans (show '0' ≤ '1' by decide) range.1
      exact Bool.and_eq_true_iff.mpr ⟨decide_eq_true low, decide_eq_true range.2⟩
    · obtain rfl := Option.some.inj zero
      exact absurd range.1 (by decide)

/-- How a tag stands in a text; there may be none. -/
def marked (mark : Char) (text : List Char) : List Char :=
  if text = [] then [] else mark :: text

theorem matches_tag {mark : Char} {part : Expr Char} (nonempty : part.nullable = false)
    {groups : List (List Char)} (matched : (tag mark part).Matches text groups) :
    ∃ content, groups = [content] ∧ text = marked mark content := by
  rcases matched with ⟨before, content, _, _, rfl, rfl, ⟨sign, rfl⟩, inside, rfl⟩ | ⟨rfl, rfl⟩
  · have filled : content ≠ [] := by
      rintro rfl
      rw [nil_mem_language_iff, nonempty] at inside
      cases inside
    rw [mem_literal.mp sign]
    exact ⟨content, rfl, (if_neg filled).symm⟩
  · exact ⟨[], rfl, rfl⟩

theorem matches_numbered {groups : List (List Char)} (matched : numbered.Matches text groups) :
    ∃ major minor patch prerelease build, groups = [major, minor, patch, prerelease, build] ∧
      (major ∈ numeric.language ∧ minor ∈ numeric.language ∧ patch ∈ numeric.language) ∧
      text = major ++ '.' :: (minor ++ '.' :: (patch ++ (marked '-' prerelease ++ marked '+' build))) := by
  obtain ⟨major, _, _, _, rfl, rfl, ⟨isMajor, rfl⟩, dot, _, _, _, rfl, rfl, ⟨isDot, rfl⟩, minor, _, _, _, rfl, rfl,
    ⟨isMinor, rfl⟩, dot', _, _, _, rfl, rfl, ⟨isDot', rfl⟩, patch, _, _, _, rfl, rfl, ⟨isPatch, rfl⟩, before, after,
    _, _, rfl, rfl, isBefore, isAfter⟩ := matched
  obtain ⟨prerelease, rfl, rfl⟩ := matches_tag rfl isBefore
  obtain ⟨build, rfl, rfl⟩ := matches_tag rfl isAfter
  obtain rfl := mem_literal.mp isDot
  obtain rfl := mem_literal.mp isDot'
  exact ⟨major, minor, patch, prerelease, build, rfl, ⟨isMajor, isMinor, isPatch⟩, rfl⟩

theorem parseInt_eq_ok {value : Nat} (inside : text ∈ numeric.language)
    (read : parseInt text = .ok value) : value.repr.toList = text := by
  unfold parseInt at read
  split at read
  next => cases read
  next number denotes =>
    split at read
    next =>
      obtain rfl := Except.ok.inj read
      rw [Nat.toList_repr]
      exact toDigits_of_decimal denotes (mem_numeric inside).2
    next => cases read

end Components

/-- A text without the letter it may start with. -/
structure Denotes (version : String) (body : List Char) : Prop where
  spelled : version.toList = 'v' :: body ∨ version.toList = 'V' :: body ∨
    (version.toList = body ∧ ∃ first rest, body = first :: rest ∧ first.isDigit = true)

theorem lettered_eq_ok {text : List Char} (read : lettered version = .ok text) :
    ∃ first body, text = first :: body ∧ first ∈ ['v', '|', 'V'] ∧ Denotes version body := by
  unfold lettered at read
  split at read
  next => cases read
  next first rest chars =>
    split at read
    next letter =>
      obtain rfl := Except.ok.inj read
      refine ⟨first, rest, rfl, ?_, ⟨?_⟩⟩
      · rcases letter with rfl | rfl <;> decide
      · rcases letter with rfl | rfl
        · exact .inl chars
        · exact .inr (.inl chars)
    next =>
      split at read
      next digit =>
        obtain rfl := Except.ok.inj read
        exact ⟨'v', first :: rest, rfl, by decide, ⟨.inr (.inr ⟨chars, first, rest, rfl, digit⟩)⟩⟩
      next => cases read

theorem Denotes.lettered (denotes : Denotes version body) :
    ∃ first, Ocne.lettered version = .ok (first :: body) ∧ first ∈ ['v', '|', 'V'] := by
  unfold Ocne.lettered
  rcases denotes.spelled with small | large | ⟨plain, first, rest, rfl, digit⟩
  · rw [small]
    exact ⟨'v', rfl, by decide⟩
  · rw [large]
    exact ⟨'V', rfl, by decide⟩
  · rw [plain]
    refine ⟨'v', ?_, by decide⟩
    have other : ¬ (first = 'v' ∨ first = 'V') := by
      rintro (rfl | rfl) <;> cases digit
    simp only [if_neg other, if_pos digit]

theorem newSemVersion_of_denotes (denotes : Denotes version body) :
    newSemVersion version = match numbered.submatches body with
      | none => .error (invalidVersionError version)
      | some groups => fromComponents version ([] :: groups) := by
  obtain ⟨first, read, letter⟩ := denotes.lettered
  have matched : semverRegex.submatches (first :: body) = numbered.submatches body := by
    rw [semverRegex, Pattern.submatches_char, if_pos (decide_eq_true letter)]
  unfold newSemVersion
  rw [read]
  change (match semverRegex.submatches (first :: body) with | none => _ | some groups => _) = _
  rw [matched]
  cases numbered.submatches body <;> rfl

theorem fromComponents_eq_ok {text : String} {major minor patch prerelease build : List Char} {version : SemVersion}
    (made : fromComponents text [[], major, minor, patch, prerelease, build] = .ok version) :
    parseInt major = .ok version.major ∧ parseInt minor = .ok version.minor ∧ parseInt patch = .ok version.patch ∧
      version.prerelease = String.ofList prerelease ∧ version.build = String.ofList build := by
  obtain ⟨first, isFirst, made⟩ := bind_eq_ok.mp made
  obtain ⟨second, isSecond, made⟩ := bind_eq_ok.mp made
  obtain ⟨third, isThird, made⟩ := bind_eq_ok.mp made
  obtain rfl := Except.ok.inj made
  exact ⟨isFirst, isSecond, isThird, rfl, rfl⟩

theorem toList_toString (version : SemVersion) : version.toString.toList =
    version.major.repr.toList ++ '.' :: (version.minor.repr.toList ++ '.' :: (version.patch.repr.toList ++
      (marked '-' version.prerelease.toList ++ marked '+' version.build.toList))) := by
  unfold SemVersion.toString marked
  by_cases noBuild : version.build = "" <;> by_cases noTag : version.prerelease = "" <;> simp [noBuild, noTag]

theorem newSemVersion_congr {first second : String} {version : SemVersion} (isFirst : Denotes first body)
    (isSecond : Denotes second body) (accepted : newSemVersion first = .ok version) : newSemVersion second = .ok version := by
  rw [newSemVersion_of_denotes isFirst] at accepted
  rw [newSemVersion_of_denotes isSecond]
  cases found : numbered.submatches body with
  | none =>
    rw [found] at accepted
    cases accepted
  | some groups =>
    rw [found] at accepted
    obtain ⟨_, _, _, _, _, rfl, _⟩ := matches_numbered (Pattern.matches_of_submatches found)
    exact accepted

theorem toString_cons (version : SemVersion) :
    ∃ first rest, version.toString.toList = first :: rest ∧ first.isDigit = true := by
  obtain ⟨first, rest, digits⟩ := exists_cons_of_ne_nil (Nat.toDigits_ne_nil (b := 10) (n := version.major))
  have digit : first.isDigit = true :=
    Nat.isDigit_of_mem_toDigits (by decide) (by decide) (digits ▸ mem_cons_self)
  rw [toList_toString, Nat.toList_repr, digits]
  exact ⟨first, _, rfl, digit⟩

/-- What is printed for a version is the text it was read from, without a letter. -/
theorem denotes_toString {text : String} {version : SemVersion} (accepted : newSemVersion text = .ok version) :
    Denotes text version.toString.toList := by
  obtain ⟨letters, read, _⟩ := bind_eq_ok.mp accepted
  obtain ⟨_, body, _, _, denotes⟩ := lettered_eq_ok read
  rw [newSemVersion_of_denotes denotes] at accepted
  cases found : numbered.submatches body with
  | none =>
    rw [found] at accepted
    cases accepted
  | some groups =>
    rw [found] at accepted
    obtain ⟨major, minor, patch, prerelease, build, rfl, ⟨isMajor, isMinor, isPatch⟩, whole⟩ :=
      matches_numbered (Pattern.matches_of_submatches found)
    obtain ⟨majorRead, minorRead, patchRead, hasTag, hasBuild⟩ := fromComponents_eq_ok accepted
    have printed : version.toString.toList = body := by
      rw [toList_toString, whole, parseInt_eq_ok isMajor majorRead, parseInt_eq_ok isMinor minorRead,
        parseInt_eq_ok isPatch patchRead, hasTag, hasBuild, String.toList_ofList, String.toList_ofList]
    rw [printed]
    exact denotes

theorem newSemVersion_toString {text : String} {version : SemVersion} (accepted : newSemVersion text = .ok version) :
    newSemVersion version.toString = .ok version := by
  have printed : Denotes version.toString version.toString.toList := ⟨.inr (.inr ⟨rfl, toString_cons version⟩)⟩
  exact newSemVersion_congr (denotes_toString accepted) printed accepted

theorem candidate_round_trip : newSemVersion "V1.25.7-rc.1+ocne" = .ok ⟨1, 25, 7, "rc.1", "ocne"⟩ ∧
    newSemVersion (SemVersion.toString ⟨1, 25, 7, "rc.1", "ocne"⟩) = .ok ⟨1, 25, 7, "rc.1", "ocne"⟩ := by
  have accepted : newSemVersion "V1.25.7-rc.1+ocne" = .ok ⟨1, 25, 7, "rc.1", "ocne"⟩ := by decide +kernel
  exact ⟨accepted, newSemVersion_toString accepted⟩

def compareVersion (v1 v2 : Nat) : Int :=
  if v1 < v2 then 1 else if v1 > v2 then -1 else 0

def compareVersionSubstring (v1 v2 : String) : Int :=
  if v1 = v2 then 0 else 1

/-- Positive if the version is greater than the other one. -/
def SemVersion.compareTo (version other : SemVersion) : Int :=
  let result := compareVersion other.major version.major
  if result ≠ 0 then result else
  let result := compareVersion other.minor version.minor
  if result ≠ 0 then result else
  let result := compareVersion other.patch version.patch
  if result ≠ 0 then result else
  let result := compareVersionSubstring other.prerelease version.prerelease
  if result ≠ 0 then result else
  compareVersionSubstring other.build version.build

def SemVersion.isEqualTo (version other : SemVersion) : Bool := version.compareTo other = 0

def SemVersion.isGreatherThan (version other : SemVersion) : Bool := 0 < version.compareTo other

def SemVersion.isGreaterThanOrEqualTo (version other : SemVersion) : Bool :=
  version.isGreatherThan other || version.isEqualTo other

def SemVersion.numbers (version : SemVersion) : Nat ×ₗ Nat ×ₗ Nat :=
  toLex (version.major, toLex (version.minor, version.patch))

theorem compareTo_eq (version other : SemVersion) : version.compareTo other =
    if version.numbers < other.numbers then -1 else if other.numbers < version.numbers then 1
    else if version = other then 0 else 1 := by
  obtain ⟨major, minor, patch, prerelease, build⟩ := version
  obtain ⟨major', minor', patch', prerelease', build'⟩ := other
  simp only [SemVersion.compareTo, SemVersion.numbers, compareVersion, compareVersionSubstring, Prod.Lex.toLex_lt_toLex,
    SemVersion.mk.injEq]
  rcases lt_trichotomy major major' with less | rfl | greater
  · simp [less, less.not_gt]
  · rcases lt_trichotomy minor minor' with less | rfl | greater
    · simp [less, less.not_gt]
    · rcases lt_trichotomy patch patch' with less | rfl | greater
      · simp [less, less.not_gt]
      · by_cases same : prerelease = prerelease' <;> simp [same, eq_comm]
      · simp [greater, greater.not_gt]
    · simp [greater, greater.not_gt, greater.ne']
  · simp [greater, greater.not_gt, greater.ne']

structure TotallyOrdered (versions : Set SemVersion) : Prop where
  antisymmetric : ∀ first ∈ versions, ∀ second ∈ versions, first.compareTo second = -second.compareTo first
  transitive : ∀ first ∈ versions, ∀ second ∈ versions, ∀ third ∈ versions,
    first.isGreatherThan second = true → second.isGreatherThan third = true → first.isGreatherThan third = true
  equal : ∀ first ∈ versions, ∀ second ∈ versions, first.isEqualTo second = true ↔ first = second
  lexicographic : ∀ first ∈ versions, ∀ second ∈ versions, first.numbers ≠ second.numbers →
    first.compareTo second = if first.numbers < second.numbers then -1 else 1

theorem isGreatherThan_iff {version other : SemVersion} : version.isGreatherThan other = true ↔
    other.numbers < version.numbers ∨ (version.numbers = other.numbers ∧ version ≠ other) := by
  rw [SemVersion.isGreatherThan, decide_eq_true_eq, compareTo_eq]
  rcases lt_trichotomy version.numbers other.numbers with less | same | greater
  · simp [less, less.not_gt, less.ne]
  · by_cases equal : version = other <;> simp [same, equal]
  · simp [greater, greater.not_gt]

theorem isEqualTo_iff {version other : SemVersion} : version.isEqualTo other = true ↔ version = other := by
  rw [SemVersion.isEqualTo, decide_eq_true_eq, compareTo_eq]
  rcases lt_trichotomy version.numbers other.numbers with less | same | greater
  · have differs : version ≠ other := fun equal => less.ne (congrArg _ equal)
    simp [less, differs]
  · by_cases equal : version = other <;> simp [same, equal]
  · have differs : version ≠ other := fun equal => greater.ne' (congrArg _ equal)
    simp [greater, greater.not_gt, differs]

/-- Totally ordered exactly if no two differ only in what follows the numbers. -/
theorem totallyOrdered_iff (versions : Set SemVersion) : TotallyOrdered versions ↔
    ∀ first ∈ versions, ∀ second ∈ versions, first.numbers = second.numbers → first = second := by
  constructor
  · intro ordered first isFirst second isSecond same
    by_contra different
    have swapped := ordered.antisymmetric first isFirst second isSecond
    rw [compareTo_eq, compareTo_eq, same] at swapped
    simp [different, Ne.symm different] at swapped
  · intro told
    refine ⟨?_, ?_, fun _ _ _ _ => isEqualTo_iff, ?_⟩
    · intro first isFirst second isSecond
      rw [compareTo_eq, compareTo_eq]
      rcases lt_trichotomy first.numbers second.numbers with less | same | greater
      · simp [less, less.not_gt]
      · simp [told first isFirst second isSecond same]
      · simp [greater, greater.not_gt]
    · intro first isFirst second isSecond third isThird greater greater'
      rw [isGreatherThan_iff] at greater greater' ⊢
      rcases greater with greater | ⟨same, different⟩
      · rcases greater' with greater' | ⟨same, different⟩
        · exact .inl (greater'.trans greater)
        · exact absurd (told second isSecond third isThird same) different
      · exact absurd (told first isFirst second isSecond same) different
    · intro first _ second _ different
      rw [compareTo_eq]
      rcases lt_or_gt_of_ne different with less | greater
      · rw [if_pos less, if_pos less]
      · rw [if_neg greater.not_gt, if_pos greater, if_neg greater.not_gt]

theorem prereleases_both_greater :
    newSemVersion "v1.25.7-alpha" = .ok ⟨1, 25, 7, "alpha", ""⟩ ∧ newSemVersion "v1.25.7-beta" = .ok ⟨1, 25, 7, "beta", ""⟩ ∧
    SemVersion.compareTo ⟨1, 25, 7, "alpha", ""⟩ ⟨1, 25, 7, "beta", ""⟩ = 1 ∧
    SemVersion.compareTo ⟨1, 25, 7, "beta", ""⟩ ⟨1, 25, 7, "alpha", ""⟩ = 1 := by
  decide +kernel

end OcneProvider.Semver.Ocne
