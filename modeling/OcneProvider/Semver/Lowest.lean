import Mathlib.Data.List.DropRight
import OcneProvider.Controller.Collections
import OcneProvider.Semver.Compare

/-! The lowest version among machines. The machines are sorted by a comparison that need not order them. -/

namespace OcneProvider.Semver.Lowest
open Api.Objects Controller.Collections Compare Data.Comparison Data.Sorted

/-- White space, as `strings.TrimSpace` has it. -/
def isSpace (char : Char) : Bool :=
  char.toNat ∈ [0x9, 0xA, 0xB, 0xC, 0xD, 0x20, 0x85, 0xA0, 0x1680, 0x2028, 0x2029, 0x202F, 0x205F, 0x3000] ||
    (0x2000 ≤ char.toNat && char.toNat ≤ 0x200A)

def isAlphanumericOrDash (char : Char) : Bool :=
  (char.toNat < 128 && char.isAlphanum) || char == '-'

def hasLeadingZeroes (digits : List Char) : Bool :=
  digits.length > 1 && digits.head? == some '0'

def parseNumber (digits : List Char) : Option Nat :=
  if hasLeadingZeroes digits then none else (decimal? digits).filter (· < 2 ^ 64)

def newPRVersion (text : List Char) : Option PRVersion :=
  if text = [] then none
  else if text.all Char.isDigit then (parseNumber text).map (⟨"", ·, true⟩)
  else if text.all isAlphanumericOrDash then some ⟨String.ofList text, 0, false⟩
  else none

def parseBuildTag (text : List Char) : Option String :=
  if text ≠ [] && text.all isAlphanumericOrDash then some (String.ofList text) else none

/-- What is before and after the first occurrence of a character. -/
def cut (char : Char) (text : List Char) : List Char × Option (List Char) :=
  match text.span (· != char) with
  | (before, []) => (before, none)
  | (before, _ :: after) => (before, some after)

def parse (major minor patch : List Char) : Option Version := do
  let (patch, build) := cut '+' patch
  let (patch, pre) := cut '-' patch
  return ⟨← parseNumber major, ← parseNumber minor, ← parseNumber patch,
    ← (pre.elim [] (·.splitOn '.')).mapM newPRVersion, ← (build.elim [] (·.splitOn '.')).mapM parseBuildTag⟩

/-- The semver library's tolerant parser, transcribed. Trailing numbers may be left out, but not before tags. -/
def parseTolerant (text : String) : Option Version :=
  let numbers := match (text.toList.dropWhile isSpace).rdropWhile isSpace with
    | 'v' :: rest => rest
    | chars => chars
  let tagged (last : List Char) : Bool := last.any fun char => char == '+' || char == '-'
  match cut '.' numbers with
  | (major, none) => if tagged major then none else parse major ['0'] ['0']
  | (major, some rest) =>
    match cut '.' rest with
    | (minor, none) => if tagged minor then none else parse major minor ['0']
    | (minor, some patch) => parse major minor patch

-- The versions of machines are read by the parser above; the results hold for any other.
variable (parser : String → Option Version)

def withVersion (machine : Machine) : Bool :=
  match machine.version with
  | none => false
  | some text => (parser text).isSome

/-- Zero if it cannot be parsed, which `withVersion` has ruled out. -/
def versionOf (machine : Machine) : Version :=
  (machine.version.bind parser).getD ⟨0, 0, 0, [], []⟩

/-- The order by version, with names breaking ties. -/
def byVersionLess (first second : Machine) : Bool :=
  let comp := compare (versionOf parser first) (versionOf parser second) [.withBuildTags]
  if comp = 0 then first.name < second.name else comp = -1

def sortedByVersion (sort : SortBy (byVersionLess parser)) (machines : Machines) : List Machine :=
  sort.sort machines.items

def lowestVersion (sort : SortBy (byVersionLess parser)) (machines : Machines) : Option String :=
  (sortedByVersion parser sort (machines.filter (withVersion parser))).head?.bind Machine.version

/-- Whether the version of a machine is below that of another. -/
def Below (first second : Machine) : Prop :=
  compare (versionOf parser first) (versionOf parser second) [.withBuildTags] = -1

variable {parser} {machines : Machines} {first second : Machine}

/-- A machine with the lowest version, which is the result. -/
structure IsLowest (parser : String → Option Version) (machines : Machines) (result : Option String) (lowest : Machine) :
    Prop where
  present : lowest ∈ machines
  parses : withVersion parser lowest = true
  result : result = lowest.version
  least : ∀ other ∈ machines, withVersion parser other = true → ¬ Below parser other lowest

theorem not_below_self (machine : Machine) : ¬ Below parser machine machine := by
  unfold Below Compare.compare
  rw [(answer_lawful [.withBuildTags]).refl]
  decide

theorem Below.congr_right {third : Machine} (below : Below parser first second) (same : second.version = third.version) :
    Below parser first third := by
  unfold Below versionOf at below ⊢
  rwa [← same]

theorem byVersionLess_of_below (below : Below parser first second) : byVersionLess parser first second = true := by
  unfold Below at below
  simp [byVersionLess, below]

theorem byVersionLess_iff : byVersionLess parser first second = true ↔
    ((answer (versionOf parser first) (versionOf parser second) [.withBuildTags]).orElse
      (byKey Machine.name first second)) = .less := by
  unfold byVersionLess Compare.compare
  cases answer (versionOf parser first) (versionOf parser second) [.withBuildTags]
  · simp [code, Answer.orElse]
  · simp [code, Answer.orElse, byKey_eq_less]
  · simp [code, Answer.orElse]
  · simp [code, Answer.orElse]

theorem orders_of_comparable {items : List Machine} (comparable : ∀ first ∈ items, ∀ second ∈ items,
    compare (versionOf parser first) (versionOf parser second) [.withBuildTags] ≠ 2) :
    Orders (byVersionLess parser) items := by
  have lawful : Lawful fun first second : Machine => (answer (versionOf parser first) (versionOf parser second)
      [.withBuildTags]).orElse (byKey Machine.name first second) :=
    ((answer_lawful [.withBuildTags]).on (versionOf parser)).andThen (byKey_lawful Machine.name)
  refine orders_of_lawful lawful (fun _ _ => byVersionLess_iff) fun first isFirst second isSecond => ?_
  have known := comparable first isFirst second isSecond
  unfold Compare.compare at known
  cases same : answer (versionOf parser first) (versionOf parser second) [.withBuildTags]
  · simp [Answer.orElse]
  · unfold byKey
    split_ifs <;> simp [Answer.orElse]
  · simp [Answer.orElse]
  · rw [same] at known
    exact absurd rfl known

theorem exists_head (sort : SortBy (byVersionLess parser)) (present : first ∈ machines)
    (parses : withVersion parser first = true) : ∃ head ∈ machines, withVersion parser head = true ∧
      (sortedByVersion parser sort (machines.filter (withVersion parser))).head? = some head := by
  have mem : first ∈ sortedByVersion parser sort (machines.filter (withVersion parser)) :=
    (sort.perm _).mem_iff.mpr (mem_filter.mpr ⟨present, parses⟩)
  obtain ⟨head, isHead⟩ := Option.isSome_iff_exists.mp (List.isSome_head?.mpr (List.ne_nil_of_mem mem))
  obtain ⟨isPresent, isParsed⟩ := mem_filter.mp ((sort.perm _).mem_iff.mp (List.mem_of_head? isHead))
  exact ⟨head, isPresent, isParsed, isHead⟩

theorem not_below_head {sort : SortBy (byVersionLess parser)} {head other : Machine}
    (orders : Orders (byVersionLess parser) (machines.filter (withVersion parser)).items)
    (isHead : (sortedByVersion parser sort (machines.filter (withVersion parser))).head? = some head)
    (present : other ∈ machines) (parses : withVersion parser other = true) : ¬ Below parser other head := by
  have sorted := sort.sorted _ orders
  have mem : other ∈ sort.sort (machines.filter (withVersion parser)).items :=
    (sort.perm _).mem_iff.mpr (mem_filter.mpr ⟨present, parses⟩)
  obtain ⟨rest, split⟩ := List.head?_eq_some_iff.mp isHead
  rw [sortedByVersion] at split
  rw [split] at sorted mem
  rcases List.mem_cons.mp mem with rfl | later
  · exact not_below_self other
  · intro below
    have apart := (List.pairwise_cons.mp sorted).1 other later
    rw [byVersionLess_of_below below] at apart
    cases apart

/-- The lowest version is found, exactly if the comparison orders the machines with a version, or no version is below
another. -/
theorem lowestVersion_minimal_iff (parser : String → Option Version) (machines : Machines)
    (some : ∃ machine ∈ machines, withVersion parser machine = true) :
    (∀ (sort : SortBy (byVersionLess parser)) (others : Machines), others.items.Perm machines.items →
      ∃ lowest, IsLowest parser machines (lowestVersion parser sort others) lowest) ↔
    Orders (byVersionLess parser) (machines.filter (withVersion parser)).items ∨
      ∀ first ∈ machines, withVersion parser first = true → ∀ second ∈ machines, withVersion parser second = true →
        ¬ Below parser first second := by
  constructor
  · intro minimal
    by_contra neither
    obtain ⟨unordered, apart⟩ := not_or.mp neither
    push Not at apart
    obtain ⟨first, isFirst, parsesFirst, second, isSecond, parsesSecond, below⟩ := apart
    obtain ⟨sort, isHead⟩ := SortBy.exists_head unordered (mem_filter.mpr ⟨isSecond, parsesSecond⟩)
    obtain ⟨lowest, found⟩ := minimal sort machines (.refl _)
    have result : lowestVersion parser sort machines = second.version := by
      rw [lowestVersion, sortedByVersion, isHead]
      rfl
    exact found.least first isFirst parsesFirst (below.congr_right (result.symm.trans found.result))
  · intro condition sort others same
    obtain ⟨machine, present, parses⟩ := some
    obtain ⟨head, isPresent, isParsed, isHead⟩ := exists_head sort (same.mem_iff.mpr present) parses
    refine ⟨head, same.mem_iff.mp isPresent, isParsed, ?_, fun other isOther parsesOther => ?_⟩
    · rw [lowestVersion, isHead]
      rfl
    · rcases condition with orders | apart
      · have reordered := orders.perm (same.symm.filter (withVersion parser))
        exact not_below_head reordered isHead (same.mem_iff.mpr isOther) parsesOther
      · exact apart other isOther parsesOther head (same.mem_iff.mp isPresent) isParsed

private def versioned (name : String) (version : String) : Machine :=
  { (default : Machine) with name := name, version := some version }

private def upgrading : Machines := ⟨[versioned "a" "v1.26.6", versioned "b" "v1.25.7+2", versioned "c" "unknown"], by decide⟩

theorem upgrading_lowest : (∃ machine ∈ upgrading, withVersion parseTolerant machine = true) ∧
    ∃ lowest, IsLowest parseTolerant upgrading (lowestVersion parseTolerant (SortBy.insertion _) upgrading) lowest := by
  have some : ∃ machine ∈ upgrading, withVersion parseTolerant machine = true := by decide
  refine ⟨some, ?_⟩
  refine (lowestVersion_minimal_iff parseTolerant upgrading some).mpr (.inl ?_) (SortBy.insertion _) upgrading (.refl _)
  exact orders_of_comparable (by decide)

/-- Two builds that are ordered, and one that is unordered with either. -/
private def builds : Machines :=
  ⟨[versioned "a" "v1.25.7+a.1", versioned "b" "v1.25.7+b", versioned "c" "v1.25.7+a"], by decide⟩

/-- The machine in between keeps the lowest version from being compared. -/
theorem lowest_missed : lowestVersion parseTolerant (SortBy.insertion _) builds = some "v1.25.7+a.1" ∧
    Below parseTolerant (versioned "c" "v1.25.7+a") (versioned "a" "v1.25.7+a.1") := by
  unfold Below
  decide

end OcneProvider.Semver.Lowest
