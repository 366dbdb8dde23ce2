import OcneProvider.Effects.Fallible
import OcneProvider.Semver.Lowest
import OcneProvider.Webhooks.Validation

/-! The versions that are admitted, and which of them the controllers can parse later. -/

namespace OcneProvider.Semver.Admitted
open Api.Meta Api.Bootstrap Api.Objects Api.Formats Webhooks.Validation Lowest Effects.Fallible List

variable {char : Char} {found : List (List Char)} {version : String}

section Numbers

variable {digits rest chars : List Char}

structure Number (digits : List Char) : Prop where
  nonempty : digits ≠ []
  decimal : ∀ char ∈ digits, char.isDigit = true
  canonical : hasLeadingZeroes digits = false

def NoDigitHead (rest : List Char) : Prop :=
  ∀ char ∈ rest.head?, char.isDigit = false

def Fits (digits : List Char) : Prop :=
  ∃ value < 2 ^ 64, decimal? digits = some value

theorem number_zero : Number ['0'] := ⟨by decide, all_eq_true.mp rfl, by decide⟩

theorem Number.eq_zero (number : Number ('0' :: rest)) : rest = [] := by
  have canonical := number.canonical
  cases rest with
  | nil => rfl
  | cons char rest => simp [hasLeadingZeroes] at canonical

theorem takeWhile_exact (inside : ∀ char ∈ digits, char.isDigit = true) (boundary : NoDigitHead rest) :
    (digits ++ rest).takeWhile Char.isDigit = digits := by
  rw [takeWhile_append_of_pos inside]
  cases rest with
  | nil => simp
  | cons char rest => simp [boundary char rfl]

theorem drop_takeWhile :
    chars.drop (chars.takeWhile Char.isDigit).length = chars.dropWhile Char.isDigit := by
  have split := takeWhile_append_dropWhile (p := Char.isDigit) (l := chars)
  nth_rewrite 2 [← split]
  exact drop_left

theorem noDigitHead_dropWhile : NoDigitHead (chars.dropWhile Char.isDigit) := by
  intro char head
  have stops := head?_dropWhile_not Char.isDigit chars
  rw [Option.mem_def.mp head] at stops
  exact stops

theorem hasLeadingZeroes_takeWhile (other : ∀ rest, chars ≠ '0' :: rest) :
    hasLeadingZeroes (chars.takeWhile Char.isDigit) = false := by
  unfold hasLeadingZeroes
  rw [head?_takeWhile]
  cases chars with
  | nil => simp
  | cons char rest =>
    have other : char ≠ '0' := fun zero => other rest (by rw [zero])
    simp [Option.filter, other]

theorem number_of_takeNumber (read : takeNumber chars = some (digits, rest)) :
    chars = digits ++ rest ∧ Number digits ∧ (digits = ['0'] ∨ NoDigitHead rest) := by
  unfold takeNumber at read
  split at read
  next rest' =>
    obtain ⟨rfl, rfl⟩ := Prod.mk.inj (Option.some.inj read)
    exact ⟨rfl, number_zero, .inl rfl⟩
  next other =>
    dsimp only at read
    split at read
    · cases read
    next nonempty =>
      rw [drop_takeWhile] at read
      obtain ⟨rfl, rfl⟩ := Prod.mk.inj (Option.some.inj read)
      refine ⟨takeWhile_append_dropWhile.symm, ⟨nonempty, fun char => mem_takeWhile_imp, ?_⟩, .inr ?_⟩
      · exact hasLeadingZeroes_takeWhile other
      · exact noDigitHead_dropWhile

theorem takeNumber_append (number : Number digits) (boundary : digits = ['0'] ∨ NoDigitHead rest) :
    takeNumber (digits ++ rest) = some (digits, rest) := by
  by_cases zero : digits = ['0']
  · subst zero
    rfl
  · have boundary := boundary.resolve_left zero
    unfold takeNumber
    split
    next rest' same =>
      cases digits with
      | nil => exact absurd rfl number.nonempty
      | cons char more =>
        obtain ⟨rfl, -⟩ := cons.inj same
        exact absurd (by rw [number.eq_zero]) zero
    next =>
      rw [takeWhile_exact number.decimal boundary]
      simp [number.nonempty]

/-- As much is read as there is of a number, but nothing after a zero. -/
theorem takeNumber_eq_some_iff : takeNumber chars = some (digits, rest) ↔
    chars = digits ++ rest ∧ Number digits ∧ (digits = ['0'] ∨ NoDigitHead rest) := by
  refine ⟨number_of_takeNumber, ?_⟩
  rintro ⟨rfl, number, boundary⟩
  exact takeNumber_append number boundary

theorem decimal?_eq_some_iff : (∃ value, decimal? digits = some value) ↔
    digits ≠ [] ∧ ∀ char ∈ digits, char.isDigit = true := by
  unfold decimal?
  split
  next held => simpa using held
  next failed => simpa using failed

theorem parseUint_eq_ok_iff (name version : String) : (∃ value, parseUint name version digits = .ok value) ↔ Fits digits := by
  unfold parseUint Fits
  cases decimal? digits with
  | none => simp
  | some value =>
    dsimp only
    split
    next small => simpa using small
    next large => simpa using large

theorem parseNumber_isSome_iff : (parseNumber digits).isSome ↔ hasLeadingZeroes digits = false ∧ Fits digits := by
  unfold parseNumber Fits
  cases hasLeadingZeroes digits with
  | true => simp
  | false =>
    cases decimal? digits with
    | none => simp
    | some value => simp [Option.filter]

end Numbers

section Tags

variable {text before after : List Char} {mark : Char}

/-- Letters, digits and dashes, and if it is a number, one that can be read. -/
structure Identifier (text : List Char) : Prop where
  nonempty : text ≠ []
  allowed : ∀ char ∈ text, isAlphanumericOrDash char = true
  number : (∀ char ∈ text, char.isDigit = true) → hasLeadingZeroes text = false ∧ Fits text

structure BuildTag (text : List Char) : Prop where
  nonempty : text ≠ []
  allowed : ∀ char ∈ text, isAlphanumericOrDash char = true

/-- Identifiers with dots between them after a mark, or nothing if there are none. -/
def tags (mark : Char) (identifiers : List (List Char)) : List Char :=
  if identifiers = [] then [] else mark :: ['.'].intercalate identifiers

/-- What may stand after the numbers: a pre-release, a build, both or neither. -/
def Suffix (suffix : List Char) : Prop :=
  ∃ pre build, suffix = tags '-' pre ++ tags '+' build ∧ (∀ identifier ∈ pre, Identifier identifier) ∧
    ∀ tag ∈ build, BuildTag tag

theorem ascii_of_isDigit (digit : char.isDigit = true) : char.toNat < 128 := by
  have bounds : 48 ≤ char.toNat ∧ char.toNat ≤ 57 := by
    simpa [Char.isDigit, UInt32.le_iff_toNat_le] using digit
  omega

theorem isAlphanumericOrDash_of_isDigit (digit : char.isDigit = true) : isAlphanumericOrDash char = true := by
  simp [isAlphanumericOrDash, Char.isAlphanum, digit, ascii_of_isDigit digit]

theorem newPRVersion_isSome_iff : (newPRVersion text).isSome ↔ Identifier text := by
  unfold newPRVersion
  split
  next empty => exact ⟨fun absurd => by simp at absurd, fun identifier => absurd empty identifier.nonempty⟩
  next nonempty =>
    split
    next decimal =>
      have decimal : ∀ char ∈ text, char.isDigit = true := by simpa using decimal
      rw [Option.isSome_map, parseNumber_isSome_iff]
      exact ⟨fun number => ⟨nonempty, fun char mem => isAlphanumericOrDash_of_isDigit (decimal char mem),
        fun _ => number⟩, fun identifier => identifier.number decimal⟩
    next mixed =>
      have mixed : ¬ ∀ char ∈ text, char.isDigit = true := by simpa using mixed
      split
      next allowed =>
        exact ⟨fun _ => ⟨nonempty, by simpa using allowed, fun decimal => absurd decimal mixed⟩, fun _ => rfl⟩
      next other =>
        exact ⟨fun absurd => by simp at absurd, fun identifier => absurd (by simpa using identifier.allowed) other⟩

theorem parseBuildTag_isSome_iff : (parseBuildTag text).isSome ↔ BuildTag text := by
  unfold parseBuildTag
  split
  next read =>
    obtain ⟨nonempty, allowed⟩ : text ≠ [] ∧ ∀ char ∈ text, isAlphanumericOrDash char = true := by simpa using read
    exact ⟨fun _ => ⟨nonempty, allowed⟩, fun _ => rfl⟩
  next other =>
    exact ⟨fun absurd => by simp at absurd, fun tag => absurd (by simpa using ⟨tag.nonempty, tag.allowed⟩) other⟩

theorem mapM_isSome_iff {α β : Type} {read : α → Option β} {items : List α} :
    (items.mapM read).isSome ↔ ∀ item ∈ items, (read item).isSome := by
  induction items with
  | nil => simp
  | cons item rest ih =>
    rw [mapM_cons, forall_mem_cons, ← ih]
    cases read item <;> cases rest.mapM read <;> simp

theorem cut_cons : cut mark (char :: text) =
    if char = mark then ([], some text) else (char :: (cut mark text).1, (cut mark text).2) := by
  unfold cut
  rw [span_eq_takeWhile_dropWhile, span_eq_takeWhile_dropWhile]
  by_cases same : char = mark
  · simp [same]
  · simp only [takeWhile_cons, dropWhile_cons, bne_iff_ne, ne_eq, same, not_false_eq_true, if_true, if_false]
    cases text.dropWhile (· != mark) <;> rfl

theorem cut_append (absent : mark ∉ before) :
    cut mark (before ++ after) = (before ++ (cut mark after).1, (cut mark after).2) := by
  induction before with
  | nil => rfl
  | cons char before ih =>
    have other : char ≠ mark := fun same => absent (by simp [same])
    rw [cons_append, cut_cons, if_neg other, ih fun mem => absent (.tail _ mem)]
    rfl

theorem cut_join (mark : Char) (text : List Char) :
    text = (cut mark text).1 ++ (cut mark text).2.elim [] (mark :: ·) := by
  induction text with
  | nil => rfl
  | cons char text ih =>
    rw [cut_cons]
    split
    next same => rw [same]; rfl
    next other => rw [cons_append, ← ih]

def identifiers (rest : Option (List Char)) : List (List Char) :=
  rest.elim [] (·.splitOn '.')

theorem tags_identifiers (rest : Option (List Char)) : tags mark (identifiers rest) = rest.elim [] (mark :: ·) := by
  cases rest with
  | none => rfl
  | some text =>
    simp only [tags, identifiers, Option.elim_some, splitOn_ne_nil, if_false]
    rw [intercalate_splitOn]

theorem cut_tags (mark : Char) (absent : ∀ text ∈ found, '.' ∉ text) :
    (cut mark (tags mark found)).1 = [] ∧ identifiers (cut mark (tags mark found)).2 = found := by
  unfold tags
  split
  next none => simp [none, cut, identifiers]
  next some =>
    rw [cut_cons, if_pos rfl]
    exact ⟨rfl, splitOn_intercalate '.' absent some⟩

theorem not_mem_intercalate (dot : char ≠ '.')
    (absent : ∀ text ∈ found, char ∉ text) : char ∉ ['.'].intercalate found := by
  induction found with
  | nil => simp
  | cons text rest ih =>
    obtain ⟨first, others⟩ := forall_mem_cons.mp absent
    cases rest with
    | nil => simpa using first
    | cons next rest => simpa [intercalate_cons_cons, dot, first] using ih others

theorem not_mem_tags (other : char ≠ mark) (dot : char ≠ '.')
    (absent : ∀ text ∈ found, char ∉ text) : char ∉ tags mark found := by
  unfold tags
  split
  · simp
  · simp [other, not_mem_intercalate dot absent]

theorem not_mem_of_allowed (special : isAlphanumericOrDash char = false)
    (allowed : ∀ char ∈ text, isAlphanumericOrDash char = true) : char ∉ text := by
  intro mem
  rw [allowed char mem] at special
  cases special

theorem suffix_iff {suffix : List Char} : Suffix suffix ↔
    (cut '-' (cut '+' suffix).1).1 = [] ∧ (∀ identifier ∈ identifiers (cut '-' (cut '+' suffix).1).2, Identifier identifier) ∧
      ∀ tag ∈ identifiers (cut '+' suffix).2, BuildTag tag := by
  constructor
  · rintro ⟨pre, build, rfl, prerelease, tagged⟩
    have dots : ∀ text ∈ pre, '.' ∉ text := fun text mem => not_mem_of_allowed (by decide) (prerelease text mem).allowed
    have buildDots : ∀ text ∈ build, '.' ∉ text := fun text mem => not_mem_of_allowed (by decide) (tagged text mem).allowed
    have plus : '+' ∉ tags '-' pre := not_mem_tags (by decide) (by decide) fun text mem =>
      not_mem_of_allowed (by decide) (prerelease text mem).allowed
    obtain ⟨buildStart, buildRead⟩ := cut_tags '+' buildDots
    obtain ⟨preStart, preRead⟩ := cut_tags '-' dots
    rw [cut_append plus, buildStart, buildRead, append_nil, preStart, preRead]
    exact ⟨rfl, prerelease, tagged⟩
  · rintro ⟨none, prerelease, tagged⟩
    refine ⟨_, _, ?_, prerelease, tagged⟩
    rw [tags_identifiers, tags_identifiers]
    have first := cut_join '-' (cut '+' suffix).1
    rw [none, nil_append] at first
    rw [← first]
    exact cut_join '+' suffix

end Tags

section Parsing

variable {major minor patch suffix chars : List Char}

/-- What may stand after the numbers of a version that is admitted. -/
def isSuffixChar (char : Char) : Bool :=
  isAlphanumeric char || char ∈ ['-', '_', '.', '+']

/-- Three numbers, the last not followed by a digit unless it is zero. -/
structure Parts (chars major minor patch suffix : List Char) : Prop where
  join : chars = major ++ '.' :: (minor ++ '.' :: (patch ++ suffix))
  first : Number major
  second : Number minor
  third : Number patch
  boundary : patch = ['0'] ∨ NoDigitHead suffix
  allowed : ∀ char ∈ suffix, isSuffixChar char = true

theorem takeNumber_dot {digits rest : List Char} (number : Number digits) :
    takeNumber (digits ++ '.' :: rest) = some (digits, '.' :: rest) := by
  refine takeNumber_eq_some_iff.mpr ⟨rfl, number, .inr fun char head => ?_⟩
  cases head
  decide

theorem kubeSemver_eq_some_iff :
    kubeSemver chars = some (major, minor, patch) ↔ ∃ suffix, Parts chars major minor patch suffix := by
  constructor
  · intro read
    obtain ⟨⟨first, rest⟩, firstRead, read⟩ := Option.bind_eq_some_iff.mp read
    dsimp only at read
    split at read
    next rest =>
      obtain ⟨⟨second, rest⟩, secondRead, read⟩ := Option.bind_eq_some_iff.mp read
      dsimp only at read
      split at read
      next rest =>
        obtain ⟨⟨third, suffix⟩, thirdRead, read⟩ := Option.bind_eq_some_iff.mp read
        obtain ⟨allowed, same⟩ := Option.ite_none_right_eq_some.mp read
        obtain ⟨rfl, rfl, rfl⟩ : first = major ∧ second = minor ∧ third = patch := by simpa using same
        obtain ⟨rfl, firstNumber, -⟩ := takeNumber_eq_some_iff.mp firstRead
        obtain ⟨rfl, secondNumber, -⟩ := takeNumber_eq_some_iff.mp secondRead
        obtain ⟨rfl, thirdNumber, boundary⟩ := takeNumber_eq_some_iff.mp thirdRead
        exact ⟨suffix, rfl, firstNumber, secondNumber, thirdNumber, boundary, all_eq_true.mp allowed⟩
      next => cases read
    next => cases read
  · rintro ⟨suffix, rfl, first, second, third, boundary, allowed⟩
    have last : takeNumber (patch ++ suffix) = some (patch, suffix) := takeNumber_eq_some_iff.mpr ⟨rfl, third, boundary⟩
    simp only [kubeSemver, takeNumber_dot first, takeNumber_dot second, last, Option.bind_eq_bind, Option.bind_some]
    exact if_pos (all_eq_true.mpr allowed)

theorem digits_of_fits {digits : List Char} (fits : Fits digits) : ∀ char ∈ digits, char.isDigit = true := by
  obtain ⟨value, -, denotes⟩ := fits
  exact (decimal?_eq_some_iff.mp ⟨value, denotes⟩).2

section

variable (parts : Parts chars major minor patch suffix)
include parts

theorem core_eq_nil {core rest : List Char} (split : suffix = core ++ rest)
    (canonical : hasLeadingZeroes (patch ++ core) = false) (fits : Fits (patch ++ core)) : core = [] := by
  rcases parts.boundary with rfl | boundary
  · cases core with
    | nil => rfl
    | cons char more => simp [hasLeadingZeroes] at canonical
  · cases core with
    | nil => rfl
    | cons char more =>
      have digit := digits_of_fits fits char (by simp)
      have other := boundary char (by simp [split])
      rw [digit] at other
      cases other

omit parts in
theorem parse_isSome (major minor text : List Char) : (parse major minor text).isSome ↔
    (parseNumber major).isSome ∧ (parseNumber minor).isSome ∧ (parseNumber (cut '-' (cut '+' text).1).1).isSome ∧
      ((identifiers (cut '-' (cut '+' text).1).2).mapM newPRVersion).isSome ∧
      ((identifiers (cut '+' text).2).mapM parseBuildTag).isSome := by
  unfold parse identifiers
  generalize cut '+' text = plus
  obtain ⟨before, build⟩ := plus
  dsimp only
  generalize cut '-' before = minus
  obtain ⟨core, pre⟩ := minus
  cases parseNumber major <;> cases parseNumber minor <;> cases parseNumber core <;> try simp
  cases (pre.elim [] fun x => splitOn '.' x).mapM newPRVersion <;>
    cases (build.elim [] fun x => splitOn '.' x).mapM parseBuildTag <;> simp

theorem parse_isSome_iff :
    (parse major minor (patch ++ suffix)).isSome ↔ Fits major ∧ Fits minor ∧ Fits patch ∧ Suffix suffix := by
  have noMark : ∀ mark : Char, mark.isDigit = false → mark ∉ patch := by
    intro mark other mem
    rw [parts.third.decimal mark mem] at other
    cases other
  rw [parse_isSome, cut_append (noMark '+' (by decide)), cut_append (noMark '-' (by decide)), mapM_isSome_iff,
    mapM_isSome_iff, parseNumber_isSome_iff, parseNumber_isSome_iff, parseNumber_isSome_iff, suffix_iff]
  simp only [newPRVersion_isSome_iff, parseBuildTag_isSome_iff, parts.first.canonical, parts.second.canonical, true_and]
  refine and_congr_right fun _ => and_congr_right fun _ => ?_
  constructor
  · rintro ⟨⟨canonical, fits⟩, prerelease, build⟩
    have split : suffix = (cut '-' (cut '+' suffix).1).1 ++ ((cut '-' (cut '+' suffix).1).2.elim [] ('-' :: ·) ++
        (cut '+' suffix).2.elim [] ('+' :: ·)) := by
      rw [← append_assoc, ← cut_join, ← cut_join]
    have none := core_eq_nil parts split canonical fits
    rw [none, append_nil] at fits
    exact ⟨fits, none, prerelease, build⟩
  · rintro ⟨fits, none, prerelease, build⟩
    rw [none, append_nil]
    exact ⟨⟨parts.third.canonical, fits⟩, prerelease, build⟩

omit parts in
theorem not_isSpace (allowed : isSuffixChar char = true) : isSpace char = false := by
  have ascii : ∀ code < 128, isSuffixChar (Char.ofNat code) = true → isSpace (Char.ofNat code) = false := by decide
  have small : char.toNat < 128 := by
    simp only [isSuffixChar, isAlphanumeric, Bool.or_eq_true, Bool.and_eq_true, decide_eq_true_eq, mem_cons,
      not_mem_nil, or_false] at allowed
    rcases allowed with ⟨small, -⟩ | rfl | rfl | rfl | rfl
    · exact small
    all_goals decide
  simpa using ascii char.toNat small (by simpa using allowed)

omit parts in
theorem isSuffixChar_of_isDigit (digit : char.isDigit = true) : isSuffixChar char = true := by
  simp [isSuffixChar, isAlphanumeric, Char.isAlphanum, digit, ascii_of_isDigit digit]

theorem Parts.not_isSpace : ∀ char ∈ 'v' :: chars, isSpace char = false := by
  have digits : ∀ {digits : List Char}, Number digits → ∀ char ∈ digits, isSpace char = false :=
    fun number char mem => Admitted.not_isSpace (isSuffixChar_of_isDigit (number.decimal char mem))
  have dot : isSpace '.' = false := by decide
  have letter : isSpace 'v' = false := by decide
  rw [parts.join]
  simp only [forall_mem_cons, forall_mem_append]
  exact ⟨letter, digits parts.first, dot, digits parts.second, dot, digits parts.third,
    fun char mem => Admitted.not_isSpace (parts.allowed char mem)⟩

theorem parseTolerant_eq
    (lettered : version.toList = 'v' :: chars) : parseTolerant version = parse major minor (patch ++ suffix) := by
  have plain := parts.not_isSpace
  have trimmed : (('v' :: chars).dropWhile isSpace).rdropWhile isSpace = 'v' :: chars := by
    rw [dropWhile_cons_of_neg (by simp [plain 'v' (by simp)]), rdropWhile_eq_self_iff]
    intro nonempty
    simp [plain _ (getLast_mem nonempty)]
  have noDot : ∀ {digits : List Char}, Number digits → '.' ∉ digits := by
    intro digits number mem
    exact absurd (number.decimal '.' mem) (by decide)
  have first : cut '.' chars = (major, some (minor ++ '.' :: (patch ++ suffix))) := by
    rw [parts.join, cut_append (noDot parts.first), cut_cons, if_pos rfl]
    simp
  have second : cut '.' (minor ++ '.' :: (patch ++ suffix)) = (minor, some (patch ++ suffix)) := by
    rw [cut_append (noDot parts.second), cut_cons, if_pos rfl]
    simp
  simp only [parseTolerant, lettered, trimmed, first, second]

/-- What the controllers do with the version of a control plane later. -/
structure Usable (version : String) : Prop where
  strict : ∃ parsed, parseMajorMinorPatch version false = .ok parsed
  tolerant : ∃ parsed, parseMajorMinorPatchTolerant version = .ok parsed
  semver : ∃ parsed, parseTolerant version = some parsed

/-- Numbers that fit into 64 bits, with a pre-release and a build, if any. -/
def Readable (version : String) : Prop :=
  ∃ major minor patch suffix, version.toList = 'v' :: (major ++ '.' :: (minor ++ '.' :: (patch ++ suffix))) ∧
    (Number major ∧ Fits major) ∧ (Number minor ∧ Fits minor) ∧ (Number patch ∧ Fits patch) ∧ Suffix suffix

omit parts in
theorem Suffix.noDigitHead (valid : Suffix suffix) : NoDigitHead suffix := by
  obtain ⟨pre, build, rfl, -⟩ := valid
  have marked : ∀ mark : Char, mark.isDigit = false → ∀ found, ∀ char ∈ (tags mark found).head?, char.isDigit = false := by
    intro mark other found char head
    unfold tags at head
    split at head
    · cases head
    · cases head
      exact other
  intro char head
  rw [head?_append, Option.mem_def, Option.or_eq_some_iff] at head
  rcases head with head | ⟨-, head⟩
  · exact marked '-' (by decide) pre char head
  · exact marked '+' (by decide) build char head

omit parts in
theorem Suffix.allowed (valid : Suffix suffix) : ∀ char ∈ suffix, isSuffixChar char = true := by
  obtain ⟨pre, build, rfl, prerelease, tagged⟩ := valid
  intro char mem
  by_contra other
  have differs : ∀ mark, isSuffixChar mark = true → char ≠ mark := fun mark known same => other (same ▸ known)
  have special : isAlphanumericOrDash char = false := by
    have dash := differs '-' (by decide)
    simp only [isSuffixChar, Bool.or_eq_true, not_or, Bool.not_eq_true] at other
    simpa [isAlphanumericOrDash, isAlphanumeric, dash] using other.1
  rcases mem_append.mp mem with mem | mem
  · exact not_mem_tags (differs '-' (by decide)) (differs '.' (by decide))
      (fun text known => not_mem_of_allowed special (prerelease text known).allowed) mem
  · exact not_mem_tags (differs '+' (by decide)) (differs '.' (by decide))
      (fun text known => not_mem_of_allowed special (tagged text known).allowed) mem

theorem parseMajorMinorPatch_eq_ok_iff
    (lettered : version.toList = 'v' :: chars) (tolerant : Bool) :
    (∃ parsed, parseMajorMinorPatch version tolerant = .ok parsed) ↔ Fits major ∧ Fits minor ∧ Fits patch := by
  have numbers : kubeSemver chars = some (major, minor, patch) := kubeSemver_eq_some_iff.mpr ⟨suffix, parts⟩
  unfold parseMajorMinorPatch
  simp only [lettered, numbers]
  rw [← parseUint_eq_ok_iff "major" version, ← parseUint_eq_ok_iff "minor" version, ← parseUint_eq_ok_iff "patch" version]
  cases parseUint "major" version major <;> cases parseUint "minor" version minor <;>
    cases parseUint "patch" version patch <;> simp [bind, Except.bind, pure, Except.pure]

theorem usable_iff (lettered : version.toList = 'v' :: chars) :
    Usable version ↔ Fits major ∧ Fits minor ∧ Fits patch ∧ Suffix suffix := by
  have semver := parse_isSome_iff parts
  rw [← parseTolerant_eq parts lettered, Option.isSome_iff_exists] at semver
  have numbers := parseMajorMinorPatch_eq_ok_iff parts lettered
  constructor
  · intro usable
    exact semver.mp usable.semver
  · intro readable
    have fits : Fits major ∧ Fits minor ∧ Fits patch := ⟨readable.1, readable.2.1, readable.2.2.1⟩
    exact ⟨(numbers false).mpr fits, (numbers true).mpr fits, semver.mpr readable⟩

end

theorem isKubeSemver_of_validateCreate {ignitionEnabled : Bool} {metadata : Except Err OCNEMetadata}
    {ocnecp : OCNEControlPlane} (admitted : validateCreate ignitionEnabled metadata ocnecp = .ok []) :
    isKubeSemver ocnecp.spec.version = true := by
  obtain ⟨specErrs, checked, rest⟩ := bind_eq_ok.mp admitted
  have none : specErrs = [] := by
    simp only [pure, Except.pure, Except.ok.injEq, append_eq_nil_iff] at rest
    tauto
  subst none
  exact ((validateKubeadmControlPlaneSpec_eq_ok_nil _ _ _).mp checked).2.2.2.1

theorem parts_of_isKubeSemver (valid : isKubeSemver version = true) :
    ∃ chars major minor patch suffix, version.toList = 'v' :: chars ∧ Parts chars major minor patch suffix := by
  unfold isKubeSemver at valid
  split at valid
  next chars lettered =>
    obtain ⟨⟨major, minor, patch⟩, read⟩ := Option.isSome_iff_exists.mp valid
    obtain ⟨suffix, parts⟩ := kubeSemver_eq_some_iff.mp read
    exact ⟨chars, major, minor, patch, suffix, lettered, parts⟩
  next => cases valid

/-- An admitted version can be used by all controllers exactly if it can be read. -/
theorem admitted_usable_iff (ignitionEnabled : Bool) (metadata : Except Err OCNEMetadata) (ocnecp : OCNEControlPlane)
    (admitted : validateCreate ignitionEnabled metadata ocnecp = .ok []) :
    Usable ocnecp.spec.version ↔ Readable ocnecp.spec.version := by
  constructor
  · intro usable
    obtain ⟨chars, major, minor, patch, suffix, lettered, parts⟩ := parts_of_isKubeSemver (isKubeSemver_of_validateCreate admitted)
    obtain ⟨first, second, third, valid⟩ := (usable_iff parts lettered).mp usable
    exact ⟨major, minor, patch, suffix, lettered.trans (by rw [parts.join]), ⟨parts.first, first⟩,
      ⟨parts.second, second⟩, ⟨parts.third, third⟩, valid⟩
  · rintro ⟨major, minor, patch, suffix, lettered, first, second, third, valid⟩
    have parts : Parts (major ++ '.' :: (minor ++ '.' :: (patch ++ suffix))) major minor patch suffix :=
      ⟨rfl, first.1, second.1, third.1, .inr valid.noDigitHead, valid.allowed⟩
    exact (usable_iff parts lettered).mpr ⟨first.2, second.2, third.2, valid⟩

private def versioned (version : String) : OCNEControlPlane :=
  { name := "cp", ns := "default", uid := "u", deletionTimestamp := none, initialized := false, conditions := []
    spec := { (default : OCNEControlPlaneSpec) with
      replicas := some 1, version := version
      machineTemplate := { (default : MachineTemplate) with
        infrastructureRef := ⟨"infrastructure.cluster.x-k8s.io/v1beta1", "MachineTemplate", "default", "template", ""⟩ }
      controlPlaneConfig := { (default : OCNEConfigSpec) with format := "cloud-config" } } }

theorem release_usable : Usable (versioned "v1.25.7").spec.version := by
  have major : Number ['1'] := ⟨by decide, all_eq_true.mp rfl, by decide⟩
  have minor : Number ['2', '5'] := ⟨by decide, all_eq_true.mp rfl, by decide⟩
  have patch : Number ['7'] := ⟨by decide, all_eq_true.mp rfl, by decide⟩
  have readable : Readable "v1.25.7" :=
    ⟨['1'], ['2', '5'], ['7'], [], rfl, ⟨major, 1, by decide, rfl⟩, ⟨minor, 25, by decide, rfl⟩,
      ⟨patch, 7, by decide, rfl⟩, [], [], rfl, by simp, by simp⟩
  exact (admitted_usable_iff false (.ok ∅) (versioned "v1.25.7") rfl).mpr readable

/-- An underscore is allowed by the check of the version but not by the parser. -/
theorem underscore_unusable :
    (∀ metadata, validateCreate false metadata (versioned "v1.25.7_ocne") = .ok []) ∧ ¬ Usable "v1.25.7_ocne" := by
  refine ⟨fun metadata => rfl, fun usable => ?_⟩
  obtain ⟨parsed, read⟩ := usable.semver
  cases read

end Parsing

end OcneProvider.Semver.Admitted
