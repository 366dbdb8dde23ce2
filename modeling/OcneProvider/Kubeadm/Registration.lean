import OcneProvider.Api.Json
import OcneProvider.Data.MergePatch
import OcneProvider.Kubeadm.Documents

/-! The taints of a node in the documents with which kubeadm starts and joins a cluster. No list of taints
means the default ones and an empty list means none, which only the last API version writes differently. -/

namespace OcneProvider.Kubeadm.Registration
open Api.Meta Api.Bootstrap Data.MergePatch Kubeadm.Documents List Api.Json
open Semver.Compare (Version)

section Fields

/-- What stands in a document where an object has no fields. -/
inductive Content where
  | text (value : String)
  | number (value : Int)
  | flag (value : Bool)
  | duration (value : Duration)
  | texts (items : List String)
  | table (entries : Finmap (fun _ : String => String))
  | tokens (items : List BootstrapToken)
  | taints (items : List Taint)

abbrev Tree := Json Content

def present (fields : List (String × Option Tree)) : List (String × Tree) :=
  fields.filterMap fun entry => entry.2.map (entry.1, ·)

def record (fields : List (String × Option Tree)) : Tree :=
  .object (present fields)

def nonemptyText (value : String) : Option Tree :=
  if value = "" then none else some (.value (.text value))

def nonzero (value : Int) : Option Tree :=
  if value = 0 then none else some (.value (.number value))

def set (value : Bool) : Option Tree :=
  if value then some (.value (.flag true)) else none

def nonempty {α : Type} (content : List α → Content) : Slice α → Option Tree
  | none => none
  | some [] => none
  | some items => some (.value (content items))

/-- A list that is written even when it is empty or not there. -/
def always {α : Type} (content : List α → Content) : Slice α → Option Tree
  | none => some .null
  | some items => some (.value (content items))

def nonemptyTable : GoMap String → Option Tree
  | none => none
  | some entries => if entries = ∅ then none else some (.value (.table entries))

variable {fields : List (String × Option Tree)}

theorem lookup_present (apart : (fields.map Prod.fst).Nodup) (key : String) :
    (present fields).lookup key = (fields.lookup key).join := by
  induction fields with
  | nil => rfl
  | cons first rest ih =>
    obtain ⟨name, content⟩ := first
    rw [map_cons, nodup_cons] at apart
    by_cases same : key = name
    · subst same
      cases content with
      | none =>
        have absent : rest.lookup key = none := by
          rw [lookup_eq_none_iff]
          intro entry mem
          rw [bne_iff_ne]
          intro same
          exact apart.1 (mem_map.mpr ⟨entry, mem, same.symm⟩)
        rw [lookup_cons_self]
        calc (present ((key, none) :: rest)).lookup key
          _ = (rest.lookup key).join := ih apart.2
          _ = none := by rw [absent]; rfl
      | some tree => rw [lookup_cons_self]; exact lookup_cons_self
    · rw [lookup_cons_ne content same, ← ih apart.2]
      cases content with
      | none => rfl
      | some tree => exact lookup_cons_ne tree same

theorem field_record (apart : (fields.map Prod.fst).Nodup) (key : String) :
    field (some (record fields)) key = (fields.lookup key).join :=
  lookup_present apart key

end Fields

/-- The taints as they are written: a time loses what is below a second. -/
def writtenTaints (taints : Slice Taint) : Slice Taint :=
  taints.map (List.map Api.Json.taint)

def nodeRegistrationV1beta1 (options : Upstream.NodeRegistrationOptionsV1beta1) : Tree :=
  record [
    ("name", nonemptyText options.name),
    ("criSocket", nonemptyText options.criSocket),
    ("taints", nonempty .taints (writtenTaints options.taints)),
    ("kubeletExtraArgs", nonemptyTable options.kubeletExtraArgs)]

def nodeRegistrationV1beta2 (options : Upstream.NodeRegistrationOptions) : Tree :=
  record [
    ("name", nonemptyText options.name),
    ("criSocket", nonemptyText options.criSocket),
    ("taints", nonempty .taints (writtenTaints options.taints)),
    ("kubeletExtraArgs", nonemptyTable options.kubeletExtraArgs),
    ("ignorePreflightErrors", nonempty .texts options.ignorePreflightErrors)]

def nodeRegistrationV1beta3 (options : Upstream.NodeRegistrationOptions) : Tree :=
  record [
    ("name", nonemptyText options.name),
    ("criSocket", nonemptyText options.criSocket),
    ("taints", always .taints (writtenTaints options.taints)),
    ("kubeletExtraArgs", nonemptyTable options.kubeletExtraArgs),
    ("ignorePreflightErrors", nonempty .texts options.ignorePreflightErrors)]

def typeMeta (groupVersion : GroupVersion) (kind : String) : List (String × Option Tree) :=
  [("kind", some (.value (.text kind))), ("apiVersion", some (.value (.text groupVersion.text)))]

/-- The address and the port are always written in v1beta1. -/
def apiEndpointV1beta1 (endpoint : APIEndpoint) : Tree :=
  record [
    ("advertiseAddress", some (.value (.text endpoint.advertiseAddress))),
    ("bindPort", some (.value (.number endpoint.bindPort)))]

def apiEndpoint (endpoint : APIEndpoint) : Tree :=
  record [
    ("advertiseAddress", nonemptyText endpoint.advertiseAddress),
    ("bindPort", nonzero endpoint.bindPort)]

def patches (patches : Patches) : Tree :=
  record [("directory", nonemptyText patches.directory)]

/-- In v1beta1 it is always written whether the authority is left unchecked. -/
def bootstrapTokenDiscovery (groupVersion : GroupVersion) (discovery : BootstrapTokenDiscovery) : Tree :=
  record [
    ("token", some (.value (.text discovery.token))),
    ("apiServerEndpoint", nonemptyText discovery.apiServerEndpoint),
    ("caCertHashes", nonempty .texts discovery.caCertHashes),
    ("unsafeSkipCAVerification",
      if groupVersion = .v1beta1 then some (.value (.flag discovery.unsafeSkipCAVerification))
      else set discovery.unsafeSkipCAVerification)]

def discovery (groupVersion : GroupVersion) (discovery : Discovery) : Tree :=
  record [
    ("bootstrapToken", discovery.bootstrapToken.map (bootstrapTokenDiscovery groupVersion)),
    ("file", discovery.file.map fun path => record [("kubeConfigPath", some (.value (.text path)))]),
    ("tlsBootstrapToken", nonemptyText discovery.tlsBootstrapToken),
    ("timeout", discovery.timeout.map fun timeout => .value (.duration timeout))]

def joinControlPlane (controlPlane : Upstream.JoinControlPlane) : Tree :=
  record [
    ("localAPIEndpoint", some (apiEndpoint controlPlane.localAPIEndpoint)),
    ("certificateKey", nonemptyText controlPlane.certificateKey)]

def bootstrapTokens (tokens : Slice BootstrapToken) : Option Tree :=
  nonempty .tokens (tokens.map (List.map Api.Json.bootstrapToken))

structure Document (Hub : Type) extends Convertible Hub where
  tree : Spoke → Tree

def initConfigurationV1beta1 : Document InitConfiguration where
  groupVersion := .v1beta1
  Spoke := Upstream.InitConfigurationV1beta1
  withTypeMeta typeMeta config := { config with typeMeta := typeMeta }
  convertFrom := .convertFrom
  convertTo := Upstream.InitConfigurationV1beta1.convertTo
  tree config := record (typeMeta .v1beta1 "InitConfiguration" ++ [
    ("bootstrapTokens", bootstrapTokens config.bootstrapTokens),
    ("nodeRegistration", some (nodeRegistrationV1beta1 config.nodeRegistration)),
    ("localAPIEndpoint", some (apiEndpointV1beta1 config.localAPIEndpoint))])

def initConfigurationV1beta2 : Document InitConfiguration where
  groupVersion := .v1beta2
  Spoke := Upstream.InitConfigurationV1beta2
  withTypeMeta typeMeta config := { config with typeMeta := typeMeta }
  convertFrom := .convertFrom
  convertTo := Upstream.InitConfigurationV1beta2.convertTo
  tree config := record (typeMeta .v1beta2 "InitConfiguration" ++ [
    ("bootstrapTokens", bootstrapTokens config.bootstrapTokens),
    ("nodeRegistration", some (nodeRegistrationV1beta2 config.nodeRegistration)),
    ("localAPIEndpoint", some (apiEndpoint config.localAPIEndpoint)),
    ("certificateKey", nonemptyText config.certificateKey)])

def initConfigurationV1beta3 : Document InitConfiguration where
  groupVersion := .v1beta3
  Spoke := Upstream.InitConfigurationV1beta3
  withTypeMeta typeMeta config := { config with typeMeta := typeMeta }
  convertFrom := .convertFrom
  convertTo := Upstream.InitConfigurationV1beta3.convertTo
  tree config := record (typeMeta .v1beta3 "InitConfiguration" ++ [
    ("bootstrapTokens", bootstrapTokens config.bootstrapTokens),
    ("nodeRegistration", some (nodeRegistrationV1beta3 config.nodeRegistration)),
    ("localAPIEndpoint", some (apiEndpoint config.localAPIEndpoint)),
    ("certificateKey", nonemptyText config.certificateKey),
    ("skipPhases", nonempty .texts config.skipPhases),
    ("patches", config.patches.map patches)])

def initDocuments : List (Document InitConfiguration) :=
  [initConfigurationV1beta3, initConfigurationV1beta2, initConfigurationV1beta1]

def initConfigurationVersionTypeMap : List (Convertible InitConfiguration) :=
  initDocuments.map (·.toConvertible)

def marshalInitConfigurationForVersion (yaml : Yaml InitConfiguration) (obj : InitConfiguration)
    (version : Version) : Except Err String :=
  marshalForVersion yaml obj version initConfigurationVersionTypeMap

def joinConfigurationV1beta1 : Document JoinConfiguration where
  groupVersion := .v1beta1
  Spoke := Upstream.JoinConfigurationV1beta1
  withTypeMeta typeMeta config := { config with typeMeta := typeMeta }
  convertFrom := .convertFrom
  convertTo := Upstream.JoinConfigurationV1beta1.convertTo
  tree config := record (typeMeta .v1beta1 "JoinConfiguration" ++ [
    ("nodeRegistration", some (nodeRegistrationV1beta1 config.nodeRegistration)),
    ("caCertPath", nonemptyText config.caCertPath),
    ("discovery", some (discovery .v1beta1 config.discovery)),
    ("controlPlane", config.controlPlane.map fun controlPlane =>
      record [("localAPIEndpoint", some (apiEndpointV1beta1 controlPlane.localAPIEndpoint))])])

def joinConfigurationV1beta2 : Document JoinConfiguration where
  groupVersion := .v1beta2
  Spoke := Upstream.JoinConfigurationV1beta2
  withTypeMeta typeMeta config := { config with typeMeta := typeMeta }
  convertFrom := .convertFrom
  convertTo := Upstream.JoinConfigurationV1beta2.convertTo
  tree config := record (typeMeta .v1beta2 "JoinConfiguration" ++ [
    ("nodeRegistration", some (nodeRegistrationV1beta2 config.nodeRegistration)),
    ("caCertPath", nonemptyText config.caCertPath),
    ("discovery", some (discovery .v1beta2 config.discovery)),
    ("controlPlane", config.controlPlane.map joinControlPlane)])

def joinConfigurationV1beta3 : Document JoinConfiguration where
  groupVersion := .v1beta3
  Spoke := Upstream.JoinConfigurationV1beta3
  withTypeMeta typeMeta config := { config with typeMeta := typeMeta }
  convertFrom := .convertFrom
  convertTo := Upstream.JoinConfigurationV1beta3.convertTo
  tree config := record (typeMeta .v1beta3 "JoinConfiguration" ++ [
    ("nodeRegistration", some (nodeRegistrationV1beta3 config.nodeRegistration)),
    ("caCertPath", nonemptyText config.caCertPath),
    ("discovery", some (discovery .v1beta3 config.discovery)),
    ("controlPlane", config.controlPlane.map joinControlPlane),
    ("skipPhases", nonempty .texts config.skipPhases),
    ("patches", config.patches.map patches)])

def joinDocuments : List (Document JoinConfiguration) :=
  [joinConfigurationV1beta3, joinConfigurationV1beta2, joinConfigurationV1beta1]

def joinConfigurationVersionTypeMap : List (Convertible JoinConfiguration) :=
  joinDocuments.map (·.toConvertible)

def marshalJoinConfigurationForVersion (yaml : Yaml JoinConfiguration) (obj : JoinConfiguration)
    (version : Version) : Except Err String :=
  marshalForVersion yaml obj version joinConfigurationVersionTypeMap

section Taints

/-- Without the key or with a null there is no list. -/
def taintsOf (nodeRegistration : Option Tree) : Slice Taint :=
  match field nodeRegistration "taints" with
  | some (.value (.taints taints)) => some taints
  | _ => none

/-- A document carries exactly the taints of a registration. -/
def KeepsTaints (options : NodeRegistrationOptions) (document : Tree) : Prop :=
  taintsOf (look (some document) ["nodeRegistration"]) = writtenTaints options.taints

variable {groupVersion : GroupVersion}

/-- What an API version keeps of the taints. -/
def keptTaints (groupVersion : GroupVersion) (taints : Slice Taint) : Slice Taint :=
  if groupVersion = .v1beta3 then writtenTaints taints else Api.Json.omitEmpty (writtenTaints taints)

variable (options : NodeRegistrationOptions) {nodeRegistration : Option Tree} {taints : Slice Taint}

private theorem taints_of_nonempty (written : field nodeRegistration "taints" = nonempty .taints taints) :
    taintsOf nodeRegistration = omitEmpty taints := by
  rw [taintsOf, written]
  match taints with
  | none => rfl
  | some [] => rfl
  | some (_ :: _) => rfl

private theorem taints_of_always
    (written : field nodeRegistration "taints" = always .taints taints) : taintsOf nodeRegistration = taints := by
  rw [taintsOf, written]
  match taints with
  | none => rfl
  | some _ => rfl

theorem taintsOf_v1beta1 :
    taintsOf (some (nodeRegistrationV1beta1 (.convertFrom options))) = keptTaints .v1beta1 options.taints :=
  taints_of_nonempty (field_record (by simp) "taints")

theorem taintsOf_v1beta2 :
    taintsOf (some (nodeRegistrationV1beta2 (.convertFrom options))) = keptTaints .v1beta2 options.taints :=
  taints_of_nonempty (field_record (by simp) "taints")

theorem taintsOf_v1beta3 :
    taintsOf (some (nodeRegistrationV1beta3 (.convertFrom options))) = keptTaints .v1beta3 options.taints :=
  taints_of_always (field_record (by simp) "taints")

theorem writtenTaints_eq_empty : writtenTaints taints = some [] ↔ taints = some [] := by
  simp [writtenTaints]

theorem keptTaints_eq_iff :
    keptTaints groupVersion taints = writtenTaints taints ↔ groupVersion = .v1beta3 ∨ taints ≠ some [] := by
  unfold keptTaints
  split
  next last => simp [last]
  next earlier =>
    rw [or_iff_right earlier, ne_eq, ← writtenTaints_eq_empty]
    match writtenTaints taints with
    | none => simp [omitEmpty]
    | some [] => simp [omitEmpty]
    | some (_ :: _) => simp [omitEmpty]

private theorem taints_of_record {fields : List (String × Option Tree)} {nodeRegistration : Tree}
    (apart : (fields.map Prod.fst).Nodup) (found : fields.lookup "nodeRegistration" = some (some nodeRegistration)) :
    taintsOf (look (some (record fields)) ["nodeRegistration"]) = taintsOf (some nodeRegistration) := by
  have there : field (some (record fields)) "nodeRegistration" = some nodeRegistration := by
    rw [field_record apart, found]
    rfl
  exact congrArg taintsOf there

theorem init_taints {target : Document InitConfiguration} (mem : target ∈ initDocuments)
    (config : InitConfiguration) :
    taintsOf (look (some (target.tree (target.convertFrom config))) ["nodeRegistration"]) =
      keptTaints target.groupVersion config.nodeRegistration.taints := by
  simp only [initDocuments, mem_cons, not_mem_nil, or_false] at mem
  obtain rfl | rfl | rfl := mem
  · exact (taints_of_record (by simp [typeMeta]) rfl).trans (taintsOf_v1beta3 _)
  · exact (taints_of_record (by simp [typeMeta]) rfl).trans (taintsOf_v1beta2 _)
  · exact (taints_of_record (by simp [typeMeta]) rfl).trans (taintsOf_v1beta1 _)

theorem join_taints {target : Document JoinConfiguration} (mem : target ∈ joinDocuments)
    (config : JoinConfiguration) :
    taintsOf (look (some (target.tree (target.convertFrom config))) ["nodeRegistration"]) =
      keptTaints target.groupVersion config.nodeRegistration.taints := by
  simp only [joinDocuments, mem_cons, not_mem_nil, or_false] at mem
  obtain rfl | rfl | rfl := mem
  · exact (taints_of_record (by simp [typeMeta]) rfl).trans (taintsOf_v1beta3 _)
  · exact (taints_of_record (by simp [typeMeta]) rfl).trans (taintsOf_v1beta2 _)
  · exact (taints_of_record (by simp [typeMeta]) rfl).trans (taintsOf_v1beta1 _)

end Taints

section Rendering

variable {Hub : Type} {yaml : Yaml Hub} {parse : String → Option Tree} {documents : List (Document Hub)} {obj : Hub}
  {version : Version}

/-- The text form of an object is read as the tree of each API version. -/
def Prints (yaml : Yaml Hub) (parse : String → Option Tree) (documents : List (Document Hub)) (obj : Hub) : Prop :=
  ∀ target ∈ documents, ∃ text, yaml.encode target.toConvertible (target.convertFrom obj) = .ok text ∧
    parse text = some (target.tree (target.convertFrom obj))

theorem marshalForVersion_prints {target : Document Hub} (prints : Prints yaml parse documents obj)
    (apart : (documents.map (·.groupVersion)).Nodup) (mem : target ∈ documents)
    (chosen : kubeVersionToKubeadmAPIGroupVersion version = .ok target.groupVersion) :
    ∃ text, marshalForVersion yaml obj version (documents.map (·.toConvertible)) = .ok text ∧
      parse text = some (target.tree (target.convertFrom obj)) := by
  obtain ⟨text, encoded, parsed⟩ := prints target mem
  refine ⟨text, marshalForVersion_eq chosen (find_groupVersion ?_ (mem_map_of_mem mem)) encoded, parsed⟩
  rw [map_map]
  exact apart

theorem groupVersion_eq_v1beta3_iff {groupVersion : GroupVersion}
    (chosen : kubeVersionToKubeadmAPIGroupVersion version = .ok groupVersion) :
    groupVersion = .v1beta3 ↔ 1 < version.major ∨ version.major = 1 ∧ 22 ≤ version.minor := by
  simp only [kubeVersionToKubeadmAPIGroupVersion, v1beta1KubeadmVersion, v1beta2KubeadmVersion, v1beta3KubeadmVersion,
    compare_releases_iff] at chosen
  split at chosen
  next => cases chosen
  next =>
    split at chosen
    next =>
      cases chosen
      simp only [reduceCtorEq, false_iff]
      omega
    next =>
      split at chosen
      next =>
        cases chosen
        simp only [reduceCtorEq, false_iff]
        omega
      next =>
        cases chosen
        simp only [true_iff]
        omega

theorem exists_document
    (complete : documents.map (·.groupVersion) = [.v1beta3, .v1beta2, .v1beta1]) (groupVersion : GroupVersion) :
    ∃ target ∈ documents, target.groupVersion = groupVersion := by
  have known : groupVersion ∈ documents.map (·.groupVersion) := by
    rw [complete]
    cases groupVersion <;> decide
  exact mem_map.mp known

theorem rendered_taints {options : NodeRegistrationOptions} (prints : Prints yaml parse documents obj)
    (complete : documents.map (·.groupVersion) = [.v1beta3, .v1beta2, .v1beta1]) (kept : ∀ target ∈ documents,
      taintsOf (look (some (target.tree (target.convertFrom obj))) ["nodeRegistration"]) =
        keptTaints target.groupVersion options.taints)
    (supported : 1 < version.major ∨ version.major = 1 ∧ 13 ≤ version.minor) :
    ∃ text document, marshalForVersion yaml obj version (documents.map (·.toConvertible)) = .ok text ∧
      parse text = some document ∧ (KeepsTaints options document ↔
        (1 < version.major ∨ version.major = 1 ∧ 22 ≤ version.minor) ∨ options.taints ≠ some []) := by
  obtain ⟨groupVersion, chosen⟩ := groupVersion_of_supported supported
  obtain ⟨target, mem, rfl⟩ := exists_document complete groupVersion
  have apart : (documents.map (·.groupVersion)).Nodup := by
    rw [complete]
    decide
  obtain ⟨text, rendered, parsed⟩ := marshalForVersion_prints prints apart mem chosen
  refine ⟨text, _, rendered, parsed, ?_⟩
  rw [KeepsTaints, kept target mem, keptTaints_eq_iff, groupVersion_eq_v1beta3_iff chosen]

end Rendering

/-- The documents carry the taints, an empty list and no list included, except that before 1.22 an empty list is left
out. -/
theorem taints_kept_iff (parse : String → Option Tree) (initYaml : Yaml InitConfiguration)
    (joinYaml : Yaml JoinConfiguration) (version : Version)
    (supported : 1 < version.major ∨ version.major = 1 ∧ 13 ≤ version.minor) :
    (∀ config, Prints initYaml parse initDocuments config →
      ∃ text document, marshalInitConfigurationForVersion initYaml config version = .ok text ∧
        parse text = some document ∧
        (KeepsTaints config.nodeRegistration document ↔
          (1 < version.major ∨ version.major = 1 ∧ 22 ≤ version.minor) ∨
            config.nodeRegistration.taints ≠ some [])) ∧
    ∀ config, Prints joinYaml parse joinDocuments config →
      ∃ text document, marshalJoinConfigurationForVersion joinYaml config version = .ok text ∧
        parse text = some document ∧
        (KeepsTaints config.nodeRegistration document ↔
          (1 < version.major ∨ version.major = 1 ∧ 22 ≤ version.minor) ∨
            config.nodeRegistration.taints ≠ some []) := by
  constructor
  · intro config prints
    exact rendered_taints prints rfl (fun target mem => init_taints mem config) supported
  · intro config prints
    exact rendered_taints prints rfl (fun target mem => join_taints mem config) supported

private def untainted : InitConfiguration :=
  ⟨⟨"", ""⟩, none, ⟨"cp-0", "", some [], none, none⟩, ⟨"", 6443⟩, none, none⟩

/-- The scalars of the document above. -/
private def scalar : Content → String
  | .text value => value
  | .number value => toString value
  | .taints items => toString (items.map Taint.key)
  | _ => ""

mutual

private def yamlField (indent key : String) : Tree → List String
  | .null => [indent ++ key ++ ": null"]
  | .value content => [indent ++ key ++ ": " ++ scalar content]
  | .object fields => (indent ++ key ++ ":") :: yamlFields (indent ++ "  ") fields

private def yamlFields (indent : String) : List (String × Tree) → List String
  | [] => []
  | (key, tree) :: rest => yamlField indent key tree ++ yamlFields indent rest

end

private def documentText (tree : Tree) : String := "\n".intercalate (yamlFields "" (fieldsOf (some tree)))

private def initYaml : Yaml InitConfiguration where
  encode target config := match initDocuments.find? (·.groupVersion == target.groupVersion) with
    | some document => .ok (documentText (document.tree (document.convertFrom (target.convertTo config untainted))))
    | none => .error (errorf "no kind is registered")
  decode _ _ := .error (errorf "no kind is registered")

/-- The document of a text, among those of the configuration above. -/
private def readDocument (text : String) : Option Tree :=
  (initDocuments.map fun document => document.tree (document.convertFrom untainted)).find? (documentText · == text)

private theorem initYaml_prints : Prints initYaml readDocument initDocuments untainted := by
  intro target mem
  simp only [initDocuments, mem_cons, not_mem_nil, or_false] at mem
  obtain rfl | rfl | rfl := mem
  · exact ⟨_, rfl, rfl⟩
  · exact ⟨_, rfl, rfl⟩
  · exact ⟨_, rfl, rfl⟩

/-- For 1.22 the document has the empty list. -/
theorem no_taints_kept :
    ∃ text document, marshalInitConfigurationForVersion initYaml untainted ⟨1, 22, 0, [], []⟩ = .ok text ∧
      readDocument text = some document ∧ KeepsTaints untainted.nodeRegistration document := by
  obtain ⟨text, document, rendered, parsed, kept⟩ :=
    (taints_kept_iff readDocument initYaml ⟨fun _ _ => .ok "", fun _ text => .error (errorf text)⟩
      ⟨1, 22, 0, [], []⟩ (by decide)).1 untainted initYaml_prints
  exact ⟨text, document, rendered, parsed, kept.mpr (.inl (by decide))⟩

/-- For 1.21 it has no taints at all, which kubeadm reads as the default ones. -/
theorem no_taints_lost : ∃ text document, text = "kind: InitConfiguration\napiVersion: kubeadm.k8s.io/v1beta2\n" ++
        "nodeRegistration:\n  name: cp-0\nlocalAPIEndpoint:\n  bindPort: 6443" ∧
      marshalInitConfigurationForVersion initYaml untainted ⟨1, 21, 0, [], []⟩ = .ok text ∧
      readDocument text = some document ∧ untainted.nodeRegistration.taints = some [] ∧
      look (some document) ["nodeRegistration", "taints"] = none ∧
      ¬ KeepsTaints untainted.nodeRegistration document := by
  refine ⟨_, _, rfl, rfl, rfl, rfl, rfl, ?_⟩
  intro kept
  have lost : (none : Slice Taint) = some [] := kept
  cases lost

end OcneProvider.Kubeadm.Registration
