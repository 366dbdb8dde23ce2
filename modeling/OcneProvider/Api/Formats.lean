import OcneProvider.Api.Objects

/-! Label values and version numbers, as the controllers format and parse them. -/

namespace OcneProvider.Api.Formats
open Meta Objects

def isAlphanumeric (char : Char) : Bool :=
  char.toNat < 128 && char.isAlphanum

/-- Empty, or at most 63 characters, with alphanumeric ends. -/
def isValidLabelValue (value : String) : Bool :=
  value.utf8ByteSize ≤ 63 &&
    value.toList.all (fun char => isAlphanumeric char || char == '-' || char == '_' || char == '.') &&
    value.toList.head?.all isAlphanumeric && value.toList.getLast?.all isAlphanumeric

def fnv32a (bytes : List UInt8) : UInt32 :=
  bytes.foldl (fun hash byte => (hash ^^^ byte.toUInt32) * 16777619) 2166136261

def base64URLDigits : List Char :=
  "ABCDEFGHIJKLMNOPQRSTUVWXYZabcdefghijklmnopqrstuvwxyz0123456789-_".toList

/-- The unpadded encoding of four bytes. -/
def base64URLEncode (word : UInt32) : String :=
  String.ofList ([30, 24, 18, 12, 6, 0].map fun shift =>
    base64URLDigits.getD ((word.toNat * 16) / 2 ^ shift % 64) 'A')

/-- A value that can stand in a label: the text itself, or its hash if it cannot. -/
def mustFormatValue (text : String) : String :=
  if isValidLabelValue text then text
  else "hash_" ++ base64URLEncode (fnv32a text.toUTF8.toList) ++ "_z"

def mustEqualValue (text labelValue : String) : Bool :=
  labelValue == mustFormatValue text

structure GroupVersion where
  group : String
  version : String
  deriving DecidableEq

/-- An API version is a version, or a group and a version. -/
def parseGroupVersion (text : String) : Except Err GroupVersion :=
  match text.toList.splitOn '/' with
  | [version] => .ok ⟨"", String.ofList version⟩
  | [group, version] => .ok ⟨String.ofList group, String.ofList version⟩
  | _ => .error (errorf ("unexpected GroupVersion string: " ++ text))

structure Version where
  major : Nat
  minor : Nat
  patch : Nat
  deriving DecidableEq

/-- Splits off a decimal number without leading zeros. -/
def takeNumber (chars : List Char) : Option (List Char × List Char) :=
  match chars with
  | '0' :: rest => some (['0'], rest)
  | _ =>
    let digits := chars.takeWhile Char.isDigit
    if digits = [] then none else some (digits, chars.drop digits.length)

/-- The three numbers of a version, if only allowed characters follow. -/
def kubeSemver (chars : List Char) : Option (List Char × List Char × List Char) := do
  let (major, rest) ← takeNumber chars
  let '.' :: rest := rest | none
  let (minor, rest) ← takeNumber rest
  let '.' :: rest := rest | none
  let (patch, rest) ← takeNumber rest
  if rest.all (fun char => isAlphanumeric char || char ∈ ['-', '_', '.', '+']) then
    some (major, minor, patch)
  else none

def parseUint (name version : String) (digits : List Char) : Except Err Nat :=
  match decimal? digits with
  | some value => if value < 2 ^ 64 then .ok value
    else .error ((errorf ("strconv.ParseUint: parsing " ++ quoted (String.ofList digits) ++
      ": value out of range")).wrap ("failed to parse " ++ name ++ " version from " ++ quoted version))
  | none => .error (errorf ("strconv.ParseUint: parsing " ++ quoted (String.ofList digits) ++
      ": invalid syntax"))

def parseMajorMinorPatch (version : String) (tolerant : Bool) : Except Err Version :=
  let numbers := match version.toList with
    | 'v' :: rest => kubeSemver rest
    | chars => if tolerant then kubeSemver chars else none
  match numbers with
  | none => .error (errorf ("failed to parse major.minor.patch from " ++ quoted version))
  | some (major, minor, patch) => do
    let major ← parseUint "major" version major
    let minor ← parseUint "minor" version minor
    let patch ← parseUint "patch" version patch
    return ⟨major, minor, patch⟩

def parseMajorMinorPatchTolerant (version : String) : Except Err Version :=
  parseMajorMinorPatch version true

def isSupportedVersionSkew (first second : Version) : Bool :=
  first.major == second.major &&
    if second.minor < first.minor then first.minor - second.minor == 1
    else second.minor - first.minor ≤ 1

end OcneProvider.Api.Formats
