import OcneProvider.Api.Formats

/-! The errors of admission, and the checks of a bootstrap configuration. -/

namespace OcneProvider.Webhooks.ConfigSpec
open Api.Meta Api.Bootstrap

inductive FieldErrorType where
  | required
  | forbidden
  | invalid
  | notSupported
  | internal
  deriving DecidableEq

/-- The value an error shows beside its field. -/
inductive BadValue where
  | empty
  | text (value : String)
  | number (value : Int32)
  | file (value : File)
  | user (value : User)
  deriving DecidableEq

structure FieldError where
  type : FieldErrorType
  field : String
  badValue : BadValue
  detail : String
  deriving DecidableEq

def required (field detail : String) : FieldError :=
  ⟨.required, field, .empty, detail⟩

def forbidden (field detail : String) : FieldError :=
  ⟨.forbidden, field, .empty, detail⟩

def invalid (field : String) (value : BadValue) (detail : String) : FieldError :=
  ⟨.invalid, field, value, detail⟩

def notSupported (field value : String) (valid : List String) : FieldError :=
  ⟨.notSupported, field, .text value, "supported values: " ++ ", ".intercalate (valid.map quoted)⟩

def internalError (field : String) (error : Err) : FieldError :=
  ⟨.internal, field, .empty, error.message⟩

def child (path : String) (names : List String) : String :=
  ".".intercalate (path :: names)

def index (path : String) (position : Nat) : String :=
  path ++ "[" ++ toString position ++ "]"

/-- One error if a check fails. -/
def reject (failed : Bool) (error : FieldError) : List FieldError :=
  if failed then [error] else []

@[simp] theorem reject_eq_nil (failed : Bool) (error : FieldError) : reject failed error = [] ↔ failed = false := by
  cases failed <;> simp [reject]

def ignitionFormat : String := "ignition"

def cannotUseWithIgnition : String := "not supported when spec.format is set to " ++ quoted ignitionFormat

def conflictingFileSourceMsg : String :=
  "only one of content or contentFrom may be specified for a single file"

def conflictingUserSourceMsg : String :=
  "only one of passwd or passwdFrom may be specified for a single user"

def kubeadmBootstrapFormatIgnitionFeatureDisabledMsg : String :=
  "can be set only if the KubeadmBootstrapFormatIgnition feature gate is enabled"

def missingSecretNameMsg : String := "secret file source must specify non-empty secret name"

def missingSecretKeyMsg : String := "secret file source must specify non-empty secret key"

def pathConflictMsg : String := "path property must be unique among all files"

/-- The errors of a secret that a file or a password is read from. -/
def validateSecretSource (path : String) : Option SecretKeySource → List FieldError
  | none => []
  | some source =>
    reject (source.name == "") (required (child path ["secret", "name"]) missingSecretNameMsg) ++
    reject (source.key == "") (required (child path ["secret", "key"]) missingSecretKeyMsg)

/-- Checks the files from a position on, after those whose paths are known. -/
def validateFilesFrom (path : String) (position : Nat) (knownPaths : List String) : List File → List FieldError
  | [] => []
  | file :: files =>
    let entry := index (child path ["files"]) position
    reject (file.content != "" && file.contentFrom.isSome)
      (invalid entry (.file file) conflictingFileSourceMsg) ++
    validateSecretSource (child entry ["contentFrom"]) file.contentFrom ++
    reject (file.path ∈ knownPaths) (invalid (child entry ["path"]) (.file file) pathConflictMsg) ++
    validateFilesFrom path (position + 1) (file.path :: knownPaths) files

def validateFiles (config : OCNEConfigSpec) (path : String) : List FieldError :=
  validateFilesFrom path 0 [] (config.files.getD [])

/-- Checks each entry of a slice at its own path. -/
def forEach {α : Type} (path : String) (entries : Slice α) (check : String → α → List FieldError) :
    List FieldError :=
  (entries.getD []).zipIdx.flatMap fun (entry, position) => check (index path position) entry

def validateUsers (config : OCNEConfigSpec) (path : String) : List FieldError :=
  forEach (child path ["users"]) config.users fun entry user =>
    reject (user.passwd.isSome && user.passwdFrom.isSome)
      (invalid entry (.user user) conflictingUserSourceMsg) ++
    validateSecretSource (child entry ["passwdFrom"]) user.passwdFrom

def validateDiskSetup (disk : DiskSetup) (path : String) : List FieldError :=
  (forEach (child path ["diskSetup", "partitions"]) disk.partitions fun entry partition =>
    match partition.tableType with
    | none => []
    | some tableType => reject (tableType != "gpt") (invalid (child entry ["tableType"]) (.text tableType)
        ("only partition type " ++ quoted "gpt" ++ " is supported when spec.format is set to " ++
          quoted ignitionFormat))) ++
  forEach (child path ["diskSetup", "filesystems"]) disk.filesystems fun entry filesystem =>
    reject filesystem.replaceFS.isSome (forbidden (child entry ["replaceFS"]) cannotUseWithIgnition) ++
    reject filesystem.partition.isSome (forbidden (child entry ["partition"]) cannotUseWithIgnition)

/-- What a configuration may not hold unless it uses Ignition, and what then. -/
def validateIgnition (ignitionEnabled : Bool) (config : OCNEConfigSpec) (path : String) : List FieldError :=
  if !ignitionEnabled then
    reject (config.format == ignitionFormat)
      (forbidden (child path ["format"]) kubeadmBootstrapFormatIgnitionFeatureDisabledMsg) ++
    reject config.ignition.isSome
      (forbidden (child path ["ignition"]) kubeadmBootstrapFormatIgnitionFeatureDisabledMsg)
  else if config.format != ignitionFormat then
    reject config.ignition.isSome (invalid (child path ["format"]) (.text config.format)
      ("must be set to " ++ quoted ignitionFormat ++ " if spec.ignition is set"))
  else
    (forEach (child path ["users"]) config.users fun entry user =>
      reject (user.inactive == some true) (forbidden (child entry ["inactive"]) cannotUseWithIgnition)) ++
    reject config.useExperimentalRetryJoin
      (forbidden (child path ["useExperimentalRetryJoin"]) cannotUseWithIgnition) ++
    (forEach (child path ["files"]) config.files fun entry file =>
      reject (file.encoding == "gzip" || file.encoding == "gzip+base64")
        (forbidden (child entry ["encoding"]) cannotUseWithIgnition)) ++
    match config.diskSetup with
    | none => []
    | some disk => validateDiskSetup disk path

def validate (ignitionEnabled : Bool) (config : OCNEConfigSpec) (path : String) : List FieldError :=
  validateFiles config path ++ validateUsers config path ++ validateIgnition ignitionEnabled config path

end OcneProvider.Webhooks.ConfigSpec
