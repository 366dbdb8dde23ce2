import Mathlib.Order.CompletePartialOrder
import OcneProvider.Api.Formats
import OcneProvider.Data.Keyed
import OcneProvider.Effects.Interleaving

/-! The documents in the config map of kubeadm: read, changed and written back, and
tried again if the config map has been written in between. -/

namespace OcneProvider.Kubeadm.Updates
open Api.Meta Api.Bootstrap Api.Formats Effects.Program Effects.Fallible Effects.Interleaving

def clusterStatusKey : String := "ClusterStatus"

def clusterConfigurationKey : String := "ClusterConfiguration"

structure ClusterStatus where
  typeMeta : TypeMeta
  apiEndpoints : GoMap APIEndpoint
  deriving DecidableEq

structure ConfigMap where
  resourceVersion : Nat
  data : StringMap

/-- A document of the config map, with its text form for each version. -/
structure Document (α : Type) where
  key : String
  unmarshal : String → Except Err α
  marshalForVersion : α → Version → Except Err String

inductive Call where
  | getConfigMap
  | updateConfigMap (configMap : ConfigMap)

def Call.Answer : Call → Type
  | getConfigMap => Except Err ConfigMap
  | updateConfigMap _ => Except Err Unit

abbrev signature : Signature := ⟨Call, Call.Answer⟩

abbrev Api := Try signature Err

def getConfigMap : Api ConfigMap :=
  adaptError (Err.wrap "error getting kube-system/kubeadm-config configmap from target cluster")
    (ExceptT.mk (Prog.perform (S := signature) .getConfigMap))

def updateConfigMap (configMap : ConfigMap) : Api Unit :=
  ExceptT.mk (Prog.perform (S := signature) (.updateConfigMap configMap))

def given {α : Type} (value : Except Err α) : Api α :=
  ExceptT.mk (pure value)

def defaultBackoffSteps : Nat := 4

def retryOnConflict (part : Api Unit) : Nat → Api Unit
  | 0 => throw (errorf "timed out waiting for the condition")
  | 1 => part
  | steps + 2 => do
    match ← attempt part with
    | .ok _ => return ()
    | .error error => if error.is .conflict then retryOnConflict part (steps + 1) else throw error

variable {α : Type} [DecidableEq α]

def updateOnce (document : Document α) (mutator : α → α) (version : Version) : Api Unit := do
  let configMap ← adaptError (Err.wrap "failed to get ocneConfigMap") getConfigMap
  let some currentData := configMap.data.lookup document.key
    | throw (errorf ("unable to find " ++ quoted document.key ++ " in the ocne-config ConfigMap"))
  let current ← adaptError (Err.wrap ("unable to decode " ++ quoted document.key ++
    " in the ocne-config ConfigMap's from YAML")) (given (document.unmarshal currentData))
  if current = mutator current then return ()
  else
    let updatedData ← adaptError (Err.wrap ("unable to encode " ++ quoted document.key ++
      " ocne-config ConfigMap's to YAML")) (given (document.marshalForVersion (mutator current) version))
    adaptError (Err.wrap "failed to upgrade the ocneConfigMap")
      (updateConfigMap { configMap with data := configMap.data.insert document.key updatedData })

def updateDocument (document : Document α) (mutator : α → α) (version : Version) : Api Unit :=
  retryOnConflict (updateOnce document mutator version) defaultBackoffSteps

structure Codec where
  unmarshalClusterStatus : String → Except Err ClusterStatus
  marshalClusterStatusForVersion : ClusterStatus → Version → Except Err String
  unmarshalClusterConfiguration : String → Except Err ClusterConfiguration
  marshalClusterConfigurationForVersion : ClusterConfiguration → Version → Except Err String

def clusterStatusDocument (codec : Codec) : Document ClusterStatus :=
  ⟨clusterStatusKey, codec.unmarshalClusterStatus, codec.marshalClusterStatusForVersion⟩

def clusterConfigurationDocument (codec : Codec) : Document ClusterConfiguration :=
  ⟨clusterConfigurationKey, codec.unmarshalClusterConfiguration, codec.marshalClusterConfigurationForVersion⟩

def updateClusterStatus (codec : Codec) (mutator : ClusterStatus → ClusterStatus) (version : Version) : Api Unit :=
  updateDocument (clusterStatusDocument codec) mutator version

def updateClusterConfiguration (codec : Codec) (mutator : ClusterConfiguration → ClusterConfiguration)
    (version : Version) : Api Unit :=
  updateDocument (clusterConfigurationDocument codec) mutator version

def versionText (version : Version) : String :=
  toString version.major ++ "." ++ toString version.minor ++ "." ++ toString version.patch

def updateImageRepositoryInOCNEConfigMap (codec : Codec) (imageRepository : String) (version : Version) : Api Unit :=
  updateClusterConfiguration codec
    (fun c => if imageRepository = "" then c else { c with imageRepository := imageRepository }) version

def updateKubernetesVersionInOCNEConfigMap (codec : Codec) (version : Version) : Api Unit :=
  updateClusterConfiguration codec (fun c => { c with kubernetesVersion := "v" ++ versionText version }) version

def updateAPIServerInOCNEConfigMap (codec : Codec) (apiServer : APIServer) (version : Version) : Api Unit :=
  updateClusterConfiguration codec (fun c => { c with apiServer := apiServer }) version

def updateControllerManagerInOCNEConfigMap (codec : Codec) (controllerManager : ControlPlaneComponent)
    (version : Version) : Api Unit :=
  updateClusterConfiguration codec (fun c => { c with controllerManager := controllerManager }) version

def updateSchedulerInOCNEConfigMap (codec : Codec) (scheduler : ControlPlaneComponent) (version : Version) : Api Unit :=
  updateClusterConfiguration codec (fun c => { c with scheduler := scheduler }) version

inductive Kind where
  | status
  | configuration
  deriving DecidableEq

def Kind.Content : Kind → Type
  | status => ClusterStatus
  | configuration => ClusterConfiguration

instance : (kind : Kind) → DecidableEq kind.Content
  | .status => inferInstanceAs (DecidableEq ClusterStatus)
  | .configuration => inferInstanceAs (DecidableEq ClusterConfiguration)

def document (codec : Codec) : (kind : Kind) → Document kind.Content
  | .status => clusterStatusDocument codec
  | .configuration => clusterConfigurationDocument codec

def Kind.key : Kind → String
  | status => clusterStatusKey
  | configuration => clusterConfigurationKey

@[simp] theorem document_key (codec : Codec) (kind : Kind) : (document codec kind).key = kind.key := by
  cases kind <;> rfl

theorem key_ne {first second : Kind} (differs : first ≠ second) : first.key ≠ second.key := by
  cases first <;> cases second
  all_goals first | exact absurd rfl differs | simp [Kind.key, clusterStatusKey, clusterConfigurationKey]

def content (codec : Codec) (kind : Kind) (configMap : ConfigMap) : Option kind.Content :=
  (configMap.data.lookup kind.key).bind fun text => ((document codec kind).unmarshal text).toOption

/-- A call that overwrites places, as `look` sees them, with fixed values. -/
structure Job {Place Value : Type} (look : (kind : Kind) → kind.Content → Place → Value) where
  kind : Kind
  mutator : kind.Content → kind.Content
  version : Version
  touched : Set Place
  value : Place → Value
  writes : ∀ doc, ∀ place ∈ touched, look kind (mutator doc) place = value place
  leaves : ∀ doc, ∀ place ∉ touched, look kind (mutator doc) place = look kind doc place

/-- A write must be based on the config map as it is; any call may fail, and a failed write may have been taken. -/
def env : Env signature ConfigMap := fun stored call => match call with
  | .getConfigMap => fun answer next => next = stored ∧ ∀ configMap, answer = .ok configMap → configMap = stored
  | .updateConfigMap configMap => fun answer next =>
    (configMap.resourceVersion = stored.resourceVersion ∧ next = ⟨stored.resourceVersion + 1, configMap.data⟩) ∨
      next = stored ∧ ∃ error, answer = .error error

section Concurrent

variable {ι Place Value : Type} {look : (kind : Kind) → kind.Content → Place → Value}

def workers (codec : Codec) (jobs : ι → Job look) : Workers signature ConfigMap ι Empty (Except Err Unit) where
  env := env
  program call := (updateDocument (document codec (jobs call).kind) (jobs call).mutator (jobs call).version).run
  start _ stored := some stored
  finish _ _ stored := stored
  happen event _ := event.elim

def seen (codec : Codec) (look : (kind : Kind) → kind.Content → Place → Value) (kind : Kind) (stored : ConfigMap) :
    Option (Place → Value) :=
  (content codec kind stored).map (look kind)

def Done (codec : Codec) (job : Job look) (stored : ConfigMap) : Prop :=
  ∃ view, seen codec look job.kind stored = some view ∧ ∀ place ∈ job.touched, view place = job.value place

/-- A version of the config map stays as it is, and nobody else writes to the places of the call. -/
structure Steady (codec : Codec) (job : Job look) (stored later : ConfigMap) : Prop where
  version : stored.resourceVersion ≤ later.resourceVersion
  same : stored.resourceVersion = later.resourceVersion → later = stored
  places : ∀ view, seen codec look job.kind stored = some view → ∃ view', seen codec look job.kind later = some view' ∧
    ∀ place ∈ job.touched, view' place = view place ∨ view' place = job.value place

/-- As it was, or only the places of calls have changed, to their values. -/
def Evolved (codec : Codec) (jobs : ι → Job look) (start stored : ConfigMap) (kind : Kind) : Prop :=
  stored.data.lookup kind.key = start.data.lookup kind.key ∨
    (∃ call, (jobs call).kind = kind) ∧
    ∃ before after, seen codec look kind start = some before ∧ seen codec look kind stored = some after ∧
      ∀ place, after place = before place ∨
        ∃ call, (jobs call).kind = kind ∧ place ∈ (jobs call).touched ∧ after place = (jobs call).value place

structure Sound (codec : Codec) (jobs : ι → Job look) (start stored : ConfigMap) : Prop where
  others : ∀ key, (∀ kind : Kind, key ≠ kind.key) → stored.data.lookup key = start.data.lookup key
  evolved : ∀ kind, Evolved codec jobs start stored kind

def terms (codec : Codec) (jobs : ι → Job look) (start : ConfigMap) : Terms ConfigMap ι (Except Err Unit) where
  good := Sound codec jobs start
  rely call := Steady codec (jobs call)
  settled call result stored := result = .ok () → Done codec (jobs call) stored

theorem Steady.refl (codec : Codec) (job : Job look) (stored : ConfigMap) : Steady codec job stored stored :=
  ⟨le_rfl, fun _ => rfl, fun view known => ⟨view, known, fun _ _ => .inl rfl⟩⟩

theorem Steady.trans {codec : Codec} {job : Job look} {first second third : ConfigMap}
    (before : Steady codec job first second) (after : Steady codec job second third) : Steady codec job first third where
  version := before.version.trans after.version
  same equal := by
    have middle := before.same (le_antisymm before.version (equal ▸ after.version))
    subst middle
    exact after.same equal
  places view known := by
    obtain ⟨middle, known, places⟩ := before.places view known
    obtain ⟨last, known, places'⟩ := after.places middle known
    refine ⟨last, known, fun place touched => ?_⟩
    rcases places' place touched with same | written
    · rw [same]
      exact places place touched
    · exact .inr written

theorem Done.steady {codec : Codec} {job : Job look} {stored later : ConfigMap} (done : Done codec job stored)
    (steady : Steady codec job stored later) : Done codec job later := by
  obtain ⟨view, known, written⟩ := done
  obtain ⟨view', known', places⟩ := steady.places view known
  refine ⟨view', known', fun place touched => ?_⟩
  rcases places place touched with same | written'
  · rw [same, written place touched]
  · exact written'

variable {codec : Codec} {jobs : ι → Job look} {start stored : ConfigMap} {call : ι}

def written (stored : ConfigMap) (kind : Kind) (text : String) : ConfigMap :=
  ⟨stored.resourceVersion + 1, stored.data.insert kind.key text⟩

theorem seen_written {kind : Kind} {text : String} {doc : kind.Content}
    (decoded : (document codec kind).unmarshal text = .ok doc) :
    seen codec look kind (written stored kind text) = some (look kind doc) := by
  simp [seen, content, written, decoded, Except.toOption]

theorem seen_written_other {kind other : Kind} (differs : other ≠ kind) (text : String) :
    seen codec look other (written stored kind text) = seen codec look other stored := by
  unfold seen content written
  rw [Finmap.lookup_insert_of_ne _ (key_ne differs)]

theorem seen_eq {kind : Kind} {doc : kind.Content} (known : content codec kind stored = some doc) :
    seen codec look kind stored = some (look kind doc) := by
  simp [seen, known]

section Write

variable {text : String} {doc : (jobs call).kind.Content}

variable (decoded : (document codec (jobs call).kind).unmarshal text = .ok ((jobs call).mutator doc))
include decoded

theorem done_written : Done codec (jobs call) (written stored (jobs call).kind text) :=
  ⟨_, seen_written decoded, (jobs call).writes doc⟩

theorem steady_written (apart : ∀ first second, first ≠ second → (jobs first).kind = (jobs second).kind →
      Disjoint (jobs first).touched (jobs second).touched) (known : content codec (jobs call).kind stored = some doc)
    (other : ι) : Steady codec (jobs other) stored (written stored (jobs call).kind text) := by
  refine ⟨Nat.le_succ _, fun same => absurd same (Nat.succ_ne_self _).symm, fun view known' => ?_⟩
  by_cases kinds : (jobs other).kind = (jobs call).kind
  · rw [kinds] at known' ⊢
    cases (seen_eq known).symm.trans known'
    refine ⟨_, seen_written decoded, fun place touched => ?_⟩
    by_cases own : other = call
    · subst own
      exact .inr ((jobs other).writes doc place touched)
    · exact .inl ((jobs call).leaves doc place (Set.disjoint_left.mp (apart other call own kinds) touched))
  · exact ⟨view, (seen_written_other kinds text).trans known', fun _ _ => .inl rfl⟩

theorem sound_written (known : content codec (jobs call).kind stored = some doc)
    (sound : Sound codec jobs start stored) : Sound codec jobs start (written stored (jobs call).kind text) where
  others key other := by
    rw [← sound.others key other]
    exact Finmap.lookup_insert_of_ne _ (other (jobs call).kind)
  evolved kind := by
    by_cases own : kind = (jobs call).kind
    · subst own
      have evolved : ∃ before, seen codec look (jobs call).kind start = some before ∧ ∀ place,
          look (jobs call).kind doc place = before place ∨ ∃ other, (jobs other).kind = (jobs call).kind ∧
            place ∈ (jobs other).touched ∧ look (jobs call).kind doc place = (jobs other).value place := by
        rcases sound.evolved (jobs call).kind with same | ⟨_, before, after, first, last, places⟩
        · refine ⟨_, seen_eq ?_, fun _ => .inl rfl⟩
          rw [← known]
          unfold content
          rw [same]
        · cases (seen_eq known).symm.trans last
          exact ⟨before, first, places⟩
      obtain ⟨before, first, places⟩ := evolved
      refine .inr ⟨⟨call, rfl⟩, before, _, first, seen_written decoded, fun place => ?_⟩
      by_cases touched : place ∈ (jobs call).touched
      · exact .inr ⟨call, rfl, touched, (jobs call).writes doc place touched⟩
      · rw [(jobs call).leaves doc place touched]
        exact places place
    · have unchanged : (written stored (jobs call).kind text).data.lookup kind.key = stored.data.lookup kind.key :=
        Finmap.lookup_insert_of_ne _ (key_ne own)
      rcases sound.evolved kind with same | ⟨called, before, after, first, last, places⟩
      · exact .inl (unchanged.trans same)
      · exact .inr ⟨called, before, after, first, (seen_written_other own text).trans last, places⟩

end Write

/-- What a part brings about unless it fails, whatever other calls do. -/
abbrev Goes (codec : Codec) (jobs : ι → Job look) (start : ConfigMap) (call : ι) (ok : α → ConfigMap → Prop)
    (part : Api α) (stored : ConfigMap) : Prop :=
  wpE ((terms codec jobs start).among env call) ((terms codec jobs start).Polite env call) ok (fun _ _ => True) part stored

omit [DecidableEq α] in
theorem goes_given {value : Except Err α} {ok : α → ConfigMap → Prop} (done : ∀ result, value = .ok result → ok result stored) :
    Goes codec jobs start call ok (given value) stored := by
  cases value with
  | ok result => exact done result rfl
  | error error => trivial

theorem goes_getConfigMap {ok : ConfigMap → ConfigMap → Prop}
    (done : ∀ later, Sound codec jobs start later → ok later later) :
    Goes codec jobs start call ok getConfigMap stored := by
  refine wpE_adaptError.mpr (Terms.perform_intro (workers codec jobs) fun later answer _ _ sound made => ?_)
  obtain ⟨rfl, read⟩ := made
  refine ⟨⟨sound, fun other => .refl codec (jobs other) _⟩, ?_⟩
  cases answer with
  | ok configMap =>
    cases read configMap rfl
    exact done _ sound
  | error error => trivial

section

variable (apart : ∀ first second, first ≠ second → (jobs first).kind = (jobs second).kind → Disjoint (jobs first).touched (jobs second).touched)
include apart

theorem goes_updateConfigMap
    {text : String} {doc : (jobs call).kind.Content} (known : content codec (jobs call).kind stored = some doc)
    (decoded : (document codec (jobs call).kind).unmarshal text = .ok ((jobs call).mutator doc)) :
    Goes codec jobs start call (fun _ => Done codec (jobs call))
      (updateConfigMap { stored with data := stored.data.insert (jobs call).kind.key text }) stored := by
  refine Terms.perform_intro (workers codec jobs) fun later answer after steady sound made => ?_
  rcases made with ⟨version, rfl⟩ | ⟨rfl, error, rfl⟩
  · cases steady.same version
    refine ⟨⟨sound_written decoded known sound, steady_written decoded apart known⟩, ?_⟩
    cases answer with
    | ok _ => exact done_written decoded
    | error error => trivial
  · exact ⟨⟨sound, fun other => .refl codec (jobs other) _⟩, trivial⟩

theorem goes_updateOnce
    (lossless : ∀ kind doc version text, (document codec kind).marshalForVersion doc version = .ok text →
      (document codec kind).unmarshal text = .ok doc) : Goes codec jobs start call (fun _ => Done codec (jobs call))
      (updateOnce (document codec (jobs call).kind) (jobs call).mutator (jobs call).version) stored := by
  refine wpE_bind.mpr (wpE_adaptError.mpr (goes_getConfigMap fun later sound => ?_))
  rw [document_key]
  cases found : later.data.lookup (jobs call).kind.key with
  | none => trivial
  | some text =>
    refine wpE_bind.mpr (wpE_adaptError.mpr (goes_given fun doc decoded => ?_))
    have known : content codec (jobs call).kind later = some doc := by simp [content, found, decoded, Except.toOption]
    split
    next unchanged =>
      refine wpE_pure.mpr ⟨_, seen_eq known, fun place touched => ?_⟩
      rw [unchanged]
      exact (jobs call).writes doc place touched
    refine wpE_bind.mpr (wpE_adaptError.mpr (goes_given fun text' encoded => ?_))
    exact wpE_adaptError.mpr (goes_updateConfigMap apart known (lossless _ _ _ _ encoded))

omit apart in
theorem goes_retryOnConflict {part : Api Unit} {reached : ConfigMap → Prop}
    (goes : ∀ stored, Goes codec jobs start call (fun _ => reached) part stored) (steps : Nat) :
    Goes codec jobs start call (fun _ => reached) (retryOnConflict part steps) stored := by
  induction steps generalizing stored with
  | zero => trivial
  | succ steps ih =>
    cases steps with
    | zero => exact goes stored
    | succ steps =>
      refine wpE_bind.mpr (wpE_attempt.mpr (wpE_mono (goes stored)
        (fun _ _ held => wpE_pure.mpr held) fun error later _ => ?_))
      dsimp only
      split
      · exact ih
      · trivial

theorem terms_honoured
    (lossless : ∀ kind doc version text, (document codec kind).marshalForVersion doc version = .ok text →
      (document codec kind).unmarshal text = .ok doc) :
    (terms codec jobs start).Honoured (workers codec jobs) where
  refl call stored _ := .refl codec (jobs call) stored
  trans _ _ _ _ := Steady.trans
  stable _ _ _ _ settled steady succeeded := (settled succeeded).steady steady
  happen event := event.elim
  start call stored next sound started := by
    cases started
    have kept : ∀ {later}, Sound codec jobs start later → (terms codec jobs start).Kept later later :=
      fun sound => ⟨sound, fun other => .refl codec (jobs other) _⟩
    refine ⟨kept sound, ?_⟩
    refine wp_mono (goes_retryOnConflict (fun _ => goes_updateOnce apart lossless) defaultBackoffSteps) fun result later held sound => ⟨kept sound, fun succeeded => ?_⟩
    cases succeeded
    exact held

end

/-- If every call has succeeded, the places of each have its values, and everything else is as it was. -/
theorem no_lost_update (apart : ∀ first second, first ≠ second → (jobs first).kind = (jobs second).kind →
      Disjoint (jobs first).touched (jobs second).touched)
    (lossless : ∀ kind doc version text, (document codec kind).marshalForVersion doc version = .ok text →
      (document codec kind).unmarshal text = .ok doc)
    {system : System signature ConfigMap ι (Except Err Unit)} (reached : (workers codec jobs).Reached start system)
    (returned : ∀ call, ⟨call, .done (.ok ())⟩ ∈ system.tasks) :
    (∀ key, (∀ kind : Kind, key = kind.key → ∀ call, (jobs call).kind ≠ kind) →
      system.state.data.lookup key = start.data.lookup key) ∧
    ∀ call, ∃ before after, content codec (jobs call).kind start = some before ∧
      content codec (jobs call).kind system.state = some after ∧
      (∀ other, (jobs other).kind = (jobs call).kind → ∀ place ∈ (jobs other).touched,
        look (jobs call).kind after place = (jobs other).value place) ∧
      ∀ place, (∀ other, (jobs other).kind = (jobs call).kind → place ∉ (jobs other).touched) →
        look (jobs call).kind after place = look (jobs call).kind before place := by
  obtain ⟨sound, settled⟩ := (terms_honoured apart lossless).reached ⟨fun _ _ => rfl, fun _ => .inl rfl⟩ reached
  have done : ∀ call, Done codec (jobs call) system.state := fun call => settled _ (returned call) rfl
  refine ⟨fun key free => ?_, fun call => ?_⟩
  · by_cases named : ∃ kind : Kind, key = kind.key
    · obtain ⟨kind, rfl⟩ := named
      exact (sound.evolved kind).resolve_right fun ⟨⟨call, same⟩, _⟩ => free kind rfl call same
    · exact sound.others key fun kind same => named ⟨kind, same⟩
  · obtain ⟨view, known, _⟩ := done call
    obtain ⟨after, last, rfl⟩ := Option.map_eq_some_iff.mp known
    -- the changes of the calls about this document
    have changes : ∀ other, (jobs other).kind = (jobs call).kind → ∀ place ∈ (jobs other).touched,
        look (jobs call).kind after place = (jobs other).value place := by
      intro other kinds
      obtain ⟨view, known', written⟩ := done other
      rw [kinds] at known'
      cases known.symm.trans known'
      exact written
    rcases sound.evolved (jobs call).kind with same | ⟨_, before, after', first, last', places⟩
    · refine ⟨after, after, ?_, last, changes, fun _ _ => rfl⟩
      rw [← last]
      unfold content
      rw [same]
    · cases known.symm.trans last'
      obtain ⟨before, known', rfl⟩ := Option.map_eq_some_iff.mp first
      refine ⟨before, after, known', last, changes, fun place untouched => ?_⟩
      exact (places place).resolve_right fun ⟨other, kinds, touched, _⟩ => untouched other kinds touched

end Concurrent

inductive Field where
  | kubernetesVersion
  | apiServer
  | scheduler

def field : (kind : Kind) → kind.Content → Field → ClusterConfiguration
  | .status, _, _ => emptyClusterConfiguration
  | .configuration, (c : ClusterConfiguration), .kubernetesVersion =>
    { emptyClusterConfiguration with kubernetesVersion := c.kubernetesVersion }
  | .configuration, (c : ClusterConfiguration), .apiServer => { emptyClusterConfiguration with apiServer := c.apiServer }
  | .configuration, (c : ClusterConfiguration), .scheduler => { emptyClusterConfiguration with scheduler := c.scheduler }

def exampleScheduler : ControlPlaneComponent := ⟨some (.singleton "v" "2"), none⟩

def exampleJobs : Bool → Job field
  | true => {
      kind := .configuration
      mutator := fun (c : ClusterConfiguration) => { c with kubernetesVersion := "v1.22.3" }
      version := ⟨1, 22, 3⟩
      touched := {.kubernetesVersion}
      value := fun _ => { emptyClusterConfiguration with kubernetesVersion := "v1.22.3" }
      writes := by rintro doc _ rfl; rfl
      leaves := by
        intro doc place other
        cases place with
        | kubernetesVersion => exact absurd rfl other
        | apiServer | scheduler => rfl }
  | false => {
      kind := .configuration
      mutator := fun (c : ClusterConfiguration) => { c with scheduler := exampleScheduler }
      version := ⟨1, 22, 3⟩
      touched := {.scheduler}
      value := fun _ => { emptyClusterConfiguration with scheduler := exampleScheduler }
      writes := by rintro doc _ rfl; rfl
      leaves := by
        intro doc place other
        cases place with
        | scheduler => exact absurd rfl other
        | apiServer | kubernetesVersion => rfl }

theorem exampleJobs_apart (first second : Bool) (differs : first ≠ second)
    (_ : (exampleJobs first).kind = (exampleJobs second).kind) :
    Disjoint (exampleJobs first).touched (exampleJobs second).touched := by
  cases first <;> cases second
  all_goals first | exact absurd rfl differs | simp [exampleJobs]

def exampleDocuments : List ClusterConfiguration :=
  [emptyClusterConfiguration, { emptyClusterConfiguration with kubernetesVersion := "v1.22.3" },
    { emptyClusterConfiguration with scheduler := exampleScheduler },
    { emptyClusterConfiguration with kubernetesVersion := "v1.22.3", scheduler := exampleScheduler }]

def exampleText (c : ClusterConfiguration) : String :=
  "\n".intercalate (["apiVersion: kubeadm.k8s.io/v1beta3", "kind: ClusterConfiguration"] ++
    (if c.kubernetesVersion = "" then [] else ["kubernetesVersion: " ++ c.kubernetesVersion]) ++
    if c.scheduler = exampleScheduler then ["scheduler:", "  extraArgs:", "    v: \"2\""] else [])

/-- Writes and reads the documents that two changes can lead to. -/
def exampleCodec : Codec where
  unmarshalClusterStatus _ := .error (errorf "no status")
  marshalClusterStatusForVersion _ _ := .error (errorf "no status")
  unmarshalClusterConfiguration text :=
    (exampleDocuments.find? (exampleText · = text)).elim (.error (errorf "no configuration")) .ok
  marshalClusterConfigurationForVersion c _ :=
    if c ∈ exampleDocuments then .ok (exampleText c) else .error (errorf "no configuration")

theorem exampleCodec_lossless (kind : Kind) (doc : kind.Content) (version : Version) (text : String)
    (encoded : (document exampleCodec kind).marshalForVersion doc version = .ok text) :
    (document exampleCodec kind).unmarshal text = .ok doc := by
  cases kind with
  | status => cases encoded
  | configuration =>
    have apart : (exampleDocuments.map exampleText).Nodup := by decide +kernel
    dsimp only [document, clusterConfigurationDocument, exampleCodec] at encoded ⊢
    split at encoded
    next known =>
      cases encoded
      rw [(Data.Keyed.find?_eq_some_of_nodup apart fun _ => decide_eq_true_iff).mpr ⟨known, rfl⟩]
      rfl
    next => cases encoded

def answering (stored : ConfigMap) : (call : Call) → Call.Answer call × ConfigMap
  | .getConfigMap => (.ok stored, stored)
  | .updateConfigMap configMap =>
    if configMap.resourceVersion = stored.resourceVersion then (.ok (), ⟨stored.resourceVersion + 1, configMap.data⟩)
    else (.error ⟨["conflict"], [.conflict]⟩, stored)

theorem answering_env (stored : ConfigMap) (call : Call) :
    env stored call (answering stored call).1 (answering stored call).2 := by
  cases call with
  | getConfigMap => exact ⟨rfl, fun configMap same => (Except.ok.inj same).symm⟩
  | updateConfigMap configMap =>
    by_cases based : configMap.resourceVersion = stored.resourceVersion
    · rw [show answering stored (.updateConfigMap configMap) = _ from if_pos based]
      exact .inl ⟨based, rfl⟩
    · rw [show answering stored (.updateConfigMap configMap) = _ from if_neg based]
      exact .inr ⟨rfl, _, rfl⟩

def exampleStart : ConfigMap := ⟨7, (∅ : StringMap).insert clusterConfigurationKey (exampleText emptyClusterConfiguration)⟩

/-- The second call writes between the read and the write of the first, which then tries again. -/
theorem exampleJobs_both_there : ∃ system, (workers exampleCodec exampleJobs).Reached exampleStart system ∧
    ∃ before after : ClusterConfiguration, content exampleCodec .configuration exampleStart = some before ∧
      content exampleCodec .configuration system.state = some after ∧
      (∀ call, ∀ place ∈ (exampleJobs call).touched, field .configuration after place = (exampleJobs call).value place) ∧
      field .configuration after .apiServer = field .configuration before .apiServer := by
  obtain ⟨system, reached, wanted⟩ := exists_reached (workers exampleCodec exampleJobs) answering answering_env
    [.start true, .call 0, .start false, .call 1, .call 1, .call 0, .call 0, .call 0] exampleStart
    (fun system => [true, false].all fun call => system.tasks.any fun task =>
      task.label == call && task.returns fun result => result == .ok ()) (by decide +kernel)
  have returned : ∀ call, ⟨call, .done (.ok ())⟩ ∈ system.tasks := by
    intro call
    obtain ⟨⟨label, rest⟩, mem, same⟩ := List.any_eq_true.mp (List.all_eq_true.mp wanted call (by cases call <;> simp))
    obtain ⟨rfl, value, rfl, rfl⟩ : label = call ∧ ∃ value, rest = .done value ∧ value = .ok () := by
      simpa [Task.returns_eq_true] using same
    exact mem
  obtain ⟨before, after, known, known', changes, others⟩ :=
    (no_lost_update exampleJobs_apart exampleCodec_lossless reached returned).2 true
  refine ⟨_, reached, before, after, known, known', fun call => changes call (by cases call <;> rfl), others .apiServer ?_⟩
  intro call _
  cases call <;> simp [exampleJobs]

end OcneProvider.Kubeadm.Updates
