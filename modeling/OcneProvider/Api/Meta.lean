import Mathlib.Data.Finmap

/-! Object metadata and errors, as far as the controllers read them. -/

namespace OcneProvider.Api.Meta

abbrev StringMap := Finmap (fun _ : String => String)

/-- A Go slice, which tells nil from empty. -/
abbrev Slice (α : Type) := Option (List α)

/-- A Go map from strings, which tells nil from empty. -/
abbrev GoMap (α : Type) := Option (Finmap (fun _ : String => α))

/-- Nanoseconds since the epoch; the zero time of an unset timestamp is `none`. -/
abbrev Time := Int

abbrev Duration := Int

def second : Duration := 1000000000

def clusterLabelName : String := "cluster.x-k8s.io/cluster-name"

structure TypeMeta where
  kind : String
  apiVersion : String
  deriving DecidableEq

structure OwnerReference where
  apiVersion : String
  kind : String
  name : String
  uid : String
  controller : Option Bool
  blockOwnerDeletion : Option Bool
  deriving DecidableEq

structure ObjectReference where
  apiVersion : String
  kind : String
  ns : String
  name : String
  uid : String
  deriving DecidableEq, Inhabited

/-- The group of an API version, none if the version has more than one slash. -/
def parseGroup (apiVersion : String) : Option String :=
  match apiVersion.toList.splitOn '/' with
  | [_] => some ""
  | [group, _] => some (String.ofList group)
  | _ => none

/-- What an owner reference is compared with. -/
structure ObjectIdentity where
  group : String
  kind : String
  name : String
  deriving DecidableEq

def refersTo (ref : OwnerReference) (obj : ObjectIdentity) : Bool :=
  match parseGroup ref.apiVersion with
  | none => false
  | some group => group == obj.group && ref.kind == obj.kind && ref.name == obj.name

def isOwnedByObject (ownerReferences : List OwnerReference) (target : ObjectIdentity) : Bool :=
  ownerReferences.any (refersTo · target)

def getControllerOf (ownerReferences : List OwnerReference) : Option OwnerReference :=
  ownerReferences.find? (·.controller == some true)

/-- The sentinel errors and API reasons that callers test for. -/
inductive ErrorKind where
  | notFound
  | conflict
  | etcdNodeConnection
  | controlPlaneMinNodes
  deriving DecidableEq

/-- An error by the texts it prints: one, or one for each error of an aggregate. -/
structure Err where
  texts : List String
  kinds : List ErrorKind
  deriving DecidableEq

def Err.is (error : Err) (kind : ErrorKind) : Bool :=
  kind ∈ error.kinds

/-- Distinct texts by first appearance, bracketed unless there is only one. -/
def Err.message (error : Err) : String :=
  match error.texts.reverse.dedup.reverse with
  | [text] => text
  | distinct => "[" ++ ", ".intercalate distinct ++ "]"

def errorf (text : String) : Err :=
  ⟨[text], []⟩

def nilPointerDereference : Err :=
  errorf "runtime error: invalid memory address or nil pointer dereference"

def Err.wrap (text : String) (error : Err) : Err :=
  ⟨[text ++ ": " ++ error.message], error.kinds⟩

/-- An aggregate keeps the sentinels of its members, but not their API reasons. -/
def aggregate (errors : List Err) : Err :=
  ⟨errors.flatMap Err.texts, (errors.flatMap Err.kinds).filter fun kind => kind ≠ .notFound ∧ kind ≠ .conflict⟩

def newAggregate : List Err → Option Err
  | [] => none
  | errors => some (aggregate errors)

/-- A name in quotes, for names without characters to escape. -/
def quoted (name : String) : String :=
  "\"" ++ name ++ "\""

def failIfAny {m : Type → Type} [Monad m] {α : Type} (errors : List Err) (value : α) : ExceptT Err m α :=
  match newAggregate errors with
  | none => pure value
  | some error => throw error

end OcneProvider.Api.Meta
