import OcneProvider.Api.Objects
import OcneProvider.Effects.Interleaving

/-! The lock that lets one machine initialize the cluster: a config map that names the
machine, taken and released by calls that other machines' calls may come between. -/

namespace OcneProvider.Bootstrapper.Locking
open Api.Meta Api.Objects Effects.Program Effects.Fallible Effects.Interleaving

def semaphoreInformationKey : String := "lock-information"

structure Information where
  machineName : String
  deriving DecidableEq

structure Codec where
  marshal : Information → Except Err String
  unmarshal : String → Except Err Information

structure ConfigMap where
  ns : String
  name : String
  labels : StringMap
  ownerReferences : List OwnerReference
  data : StringMap

def configMapName (clusterName : String) : String := clusterName ++ "-lock"

def information (codec : Codec) (sema : ConfigMap) : Except Err Information :=
  (codec.unmarshal ((sema.data.lookup semaphoreInformationKey).getD "")).mapError
    (Err.wrap "failed to unmarshal semaphore information")

def setInformation (codec : Codec) (info : Information) : Except Err StringMap := do
  let text ← (codec.marshal info).mapError (Err.wrap "failed to marshal semaphore information")
  return (∅ : StringMap).insert semaphoreInformationKey text

def setMetadata (clusterType : TypeMeta) (cluster : Cluster) (data : StringMap) : ConfigMap where
  ns := cluster.ns
  name := configMapName cluster.name
  labels := (∅ : StringMap).insert clusterLabelName cluster.name
  ownerReferences := [⟨clusterType.apiVersion, clusterType.kind, cluster.name, cluster.uid, none, none⟩]
  data := data

/-- The calls about the config map of one cluster, and the look at a machine. -/
inductive Call where
  | getSemaphore
  | getMachine (name : String)
  | createSemaphore (sema : ConfigMap)
  | deleteSemaphore

def Call.Answer : Call → Type
  | getSemaphore => Except Err ConfigMap
  | getMachine _ | createSemaphore _ | deleteSemaphore => Except Err Unit

abbrev signature : Signature := ⟨Call, Call.Answer⟩

abbrev Api := Prog signature

def getSemaphore : Api (Except Err ConfigMap) := Prog.perform (S := signature) .getSemaphore

def getMachine (name : String) : Api (Except Err Unit) := Prog.perform (S := signature) (.getMachine name)

def createSemaphore (sema : ConfigMap) : Api (Except Err Unit) :=
  Prog.perform (S := signature) (.createSemaphore sema)

def deleteSemaphore : Api (Except Err Unit) := Prog.perform (S := signature) .deleteSemaphore

def unlock : Api Bool := do
  match ← getSemaphore with
  | .error error => return error.is .notFound
  | .ok _ =>
    match ← deleteSemaphore with
    | .error error => return error.is .notFound
    | .ok _ => return true

def acquire (codec : Codec) (clusterType : TypeMeta) (cluster : Cluster) (machine : String) : Api Bool := do
  match setInformation codec ⟨machine⟩ with
  | .error _ => return false
  | .ok data =>
    match ← createSemaphore (setMetadata clusterType cluster data) with
    | .error _ => return false
    | .ok _ => return true

def lock (codec : Codec) (clusterType : TypeMeta) (cluster : Cluster) (machine : String) : Api Bool := do
  match ← getSemaphore with
  | .error error => if error.is .notFound then acquire codec clusterType cluster machine else return false
  | .ok sema =>
    match information codec sema with
    | .error _ => return false
    | .ok info =>
      if info.machineName = machine then return true
      else
        match ← getMachine info.machineName with
        | .error error =>
          -- the machine that took the lock is gone
          if error.is .notFound then
            let _ ← unlock
            return false
          else return false
        | .ok _ => return false

structure World where
  semaphore : Option ConfigMap
  machines : Finset String
  holders : Finset String

def Unheld (world : World) : Prop :=
  ∀ machine ∈ world.holders, machine ∉ world.machines

/-- Any call may fail, and may have taken effect nevertheless. The config map is deleted only where `may` holds. -/
def env (may : World → Prop) : Env signature World := fun world call => match call with
  | .getSemaphore => fun answer next => next = world ∧ match answer with
    | .ok sema => world.semaphore = some sema
    | .error error => error.is .notFound → world.semaphore = none
  | .getMachine name => fun answer next => next = world ∧ match answer with
    | .ok _ => name ∈ world.machines
    | .error error => error.is .notFound → name ∉ world.machines
  | .createSemaphore sema => fun answer next =>
    (world.semaphore = none ∧ next = { world with semaphore := some sema }) ∨ next = world ∧ ∃ error, answer = .error error
  | .deleteSemaphore => fun answer next => may world ∧
    (next = { world with semaphore := none } ∨ next = world ∧ ∃ error, answer = .error error)

inductive Attempt where
  | lock (machine : String)
  | unlock (machine : String)
  deriving DecidableEq

inductive Change where
  | create (machine : String)
  | delete (machine : String)

/-- A machine holds the lock from the return of its attempt until it is deleted or releases it. -/
def workers (codec : Codec) (clusterType : TypeMeta) (cluster : Cluster) (may : World → Prop) :
    Workers signature World Attempt Change Bool where
  env := env may
  program
    | .lock machine => lock codec clusterType cluster machine
    | .unlock _ => unlock
  start attempt world := match attempt with
    | .lock _ => some world
    | .unlock machine =>
      if machine ∈ world.holders then some { world with holders := world.holders.erase machine } else none
  finish attempt result world := match attempt, result with
    | .lock machine, true => { world with holders := insert machine world.holders }
    | _, _ => world
  happen change world := match change with
    | .create machine =>
      if machine ∈ world.machines then none
      else some { world with machines := insert machine world.machines, holders := world.holders.erase machine }
    | .delete machine => some { world with
        machines := world.machines.erase machine, holders := world.holders.erase machine }

/-- The config map names every machine that exists and holds the lock. -/
def Named (codec : Codec) (world : World) : Prop :=
  ∀ machine ∈ world.holders, machine ∈ world.machines →
    ∃ sema, world.semaphore = some sema ∧ information codec sema = .ok ⟨machine⟩

theorem Named.eq {codec : Codec} {world : World} (named : Named codec world) {first second : String}
    (holds : first ∈ world.holders) (alive : first ∈ world.machines)
    (holds' : second ∈ world.holders) (alive' : second ∈ world.machines) : first = second := by
  obtain ⟨sema, stored, info⟩ := named first holds alive
  obtain ⟨sema', stored', info'⟩ := named second holds' alive'
  cases stored.symm.trans stored'
  cases info.symm.trans info'
  rfl

theorem Unheld.named {codec : Codec} {world next : World} (unheld : Unheld world)
    (holders : next.holders = world.holders) (machines : next.machines = world.machines) : Named codec next := by
  intro machine holds alive
  exact absurd (machines ▸ alive) (unheld machine (holders ▸ holds))

theorem Named.unheld {codec : Codec} {world : World} (named : Named codec world) (free : world.semaphore = none) :
    Unheld world := by
  intro machine holds alive
  obtain ⟨sema, stored, _⟩ := named machine holds alive
  rw [free] at stored
  cases stored

theorem Named.fewer {codec : Codec} {world next : World} (named : Named codec world)
    (same : next.semaphore = world.semaphore)
    (fewer : ∀ machine ∈ next.holders, machine ∈ world.holders ∧ (machine ∈ next.machines → machine ∈ world.machines)) :
    Named codec next := by
  intro machine holds alive
  rw [same]
  exact named machine (fewer machine holds).1 ((fewer machine holds).2 alive)

/-- The terms of the attempts: none relies on anything of the others. -/
def terms (codec : Codec) : Terms World Attempt Bool where
  good := Named codec
  rely _ _ _ := True
  settled _ _ _ := True

section Exclusion

variable {codec : Codec} {clusterType : TypeMeta} {cluster : Cluster} {world : World} {attempt : Attempt}

theorem kept_iff {next : World} : (terms codec).Kept world next ↔ Named codec next :=
  ⟨And.left, fun named => ⟨named, fun _ => trivial⟩⟩

/-- What is left of an attempt keeps the lock with at most one machine. -/
abbrev Keeps (codec : Codec) (clusterType : TypeMeta) (cluster : Cluster) (attempt : Attempt) (rest : Api Bool)
    (world : World) : Prop :=
  (terms codec).Owes (workers codec clusterType cluster Unheld) attempt rest world

theorem keeps_false : Keeps codec clusterType cluster attempt (pure false) world := by
  intro named
  cases attempt <;> exact ⟨kept_iff.mpr named, trivial⟩

theorem keeps_unlock (machine : String) (result : Bool) :
    Keeps codec clusterType cluster (.unlock machine) (pure result) world :=
  fun named => ⟨kept_iff.mpr named, trivial⟩

theorem keeps_true {machine : String} {sema : ConfigMap} (stored : world.semaphore = some sema)
    (info : information codec sema = .ok ⟨machine⟩) :
    Keeps codec clusterType cluster (.lock machine) (pure true) world := by
  refine fun named => ⟨kept_iff.mpr fun other holds alive => ?_, trivial⟩
  rcases Finset.mem_insert.mp holds with rfl | holds
  · exact ⟨sema, stored, info⟩
  · exact named other holds alive

theorem keeps_getSemaphore {next : Except Err ConfigMap → Api Bool}
    (found : ∀ later sema, later.semaphore = some sema → Keeps codec clusterType cluster attempt (next (.ok sema)) later)
    (failed : ∀ later error, Keeps codec clusterType cluster attempt (next (.error error)) later) :
    Keeps codec clusterType cluster attempt (getSemaphore >>= next) world := by
  refine wp_bind.mpr (Terms.perform_intro (workers codec clusterType cluster Unheld) fun later answer _ _ named made => ?_)
  obtain ⟨rfl, report⟩ := made
  refine ⟨kept_iff.mpr named, ?_⟩
  cases answer with
  | ok sema => exact found _ sema report
  | error error => exact failed _ error

theorem keeps_deleteSemaphore {next : Except Err Unit → Api Bool}
    (done : ∀ later answer, Keeps codec clusterType cluster attempt (next answer) later) :
    Keeps codec clusterType cluster attempt (deleteSemaphore >>= next) world := by
  refine wp_bind.mpr (Terms.perform_intro (workers codec clusterType cluster Unheld) fun later answer after _ named made => ?_)
  refine ⟨kept_iff.mpr ?_, done after answer⟩
  obtain ⟨unheld, rfl | ⟨rfl, _⟩⟩ := made
  · exact unheld.named rfl rfl
  · exact named

theorem keeps_unlock_then {next : Bool → Api Bool}
    (done : ∀ later result, Keeps codec clusterType cluster attempt (next result) later) :
    Keeps codec clusterType cluster attempt (unlock >>= next) world := by
  refine keeps_getSemaphore (fun _ _ _ => ?_) fun later error => done later _
  refine keeps_deleteSemaphore fun later answer => ?_
  cases answer with
  | ok _ => exact done later true
  | error error => exact done later _

section

variable (lossless : ∀ info text, codec.marshal info = .ok text → codec.unmarshal text = .ok info)
include lossless

theorem information_setMetadata
    {info : Information} {data : StringMap} (encoded : setInformation codec info = .ok data) :
    information codec (setMetadata clusterType cluster data) = .ok info := by
  obtain ⟨text, marshalled, encoded⟩ := bind_eq_ok.mp encoded
  cases encoded
  simp [information, setMetadata, lossless info text (mapError_eq_ok.mp marshalled)]

theorem keeps_acquire
    (machine : String) :
    Keeps codec clusterType cluster (.lock machine) (acquire codec clusterType cluster machine) world := by
  unfold acquire
  cases encoded : setInformation codec ⟨machine⟩ with
  | error error => exact keeps_false
  | ok data =>
    refine wp_bind.mpr (Terms.perform_intro (workers codec clusterType cluster Unheld) fun later answer after _ named made => ?_)
    rcases made with ⟨free, rfl⟩ | ⟨rfl, error, rfl⟩
    · refine ⟨kept_iff.mpr ((named.unheld free).named rfl rfl), ?_⟩
      cases answer with
      | ok _ => exact keeps_true rfl (information_setMetadata lossless encoded)
      | error error => exact keeps_false
    · exact ⟨kept_iff.mpr named, keeps_false⟩

theorem keeps_lock
    (machine : String) :
    Keeps codec clusterType cluster (.lock machine) (lock codec clusterType cluster machine) world := by
  refine keeps_getSemaphore (fun later sema stored => ?_) fun later error => ?_
  · dsimp only
    cases named : information codec sema with
    | error error => exact keeps_false
    | ok info =>
      dsimp only
      split
      next own =>
        cases own
        exact keeps_true stored named
      refine wp_bind.mpr (Terms.perform_intro (workers codec clusterType cluster Unheld) fun later answer _ _ good made => ?_)
      obtain ⟨rfl, _⟩ := made
      refine ⟨kept_iff.mpr good, ?_⟩
      cases answer with
      | ok _ => exact keeps_false
      | error error =>
        dsimp only
        split
        · exact keeps_unlock_then fun _ _ => keeps_false
        · exact keeps_false
  · dsimp only
    split
    · exact keeps_acquire lossless machine
    · exact keeps_false

theorem terms_honoured : (terms codec).Honoured (workers codec clusterType cluster Unheld) where
  refl _ _ _ := trivial
  trans _ _ _ _ _ _ := trivial
  stable _ _ _ _ _ _ := trivial
  happen change world next named changed := by
    refine kept_iff.mpr ?_
    cases change with
    | create machine =>
      dsimp only [workers] at changed
      split at changed
      next => cases changed
      cases changed
      refine named.fewer rfl fun other holds => ?_
      obtain ⟨differs, holds⟩ := Finset.mem_erase.mp holds
      exact ⟨holds, fun alive => (Finset.mem_insert.mp alive).resolve_left differs⟩
    | delete machine =>
      cases changed
      exact named.fewer rfl fun other holds =>
        ⟨Finset.mem_of_mem_erase holds, fun alive => Finset.mem_of_mem_erase alive⟩
  start attempt world next named started := by
    cases attempt with
    | lock machine =>
      cases started
      exact ⟨kept_iff.mpr named, keeps_lock lossless machine⟩
    | unlock machine =>
      dsimp only [workers] at started
      split at started
      next =>
        cases started
        refine ⟨kept_iff.mpr (named.fewer rfl fun other holds => ⟨Finset.mem_of_mem_erase holds, id⟩), ?_⟩
        have owes : Keeps codec clusterType cluster (.unlock machine) (unlock >>= pure)
            { world with holders := world.holders.erase machine } :=
          keeps_unlock_then fun _ result => keeps_unlock machine result
        rwa [bind_pure] at owes
      next => cases started

end

/-- If the config map is never deleted while a machine holds the lock, no two machines hold it. -/
theorem lock_exclusive (lossless : ∀ info text, codec.marshal info = .ok text → codec.unmarshal text = .ok info)
    {start : World} (free : start.holders = ∅) {system : System signature World Attempt Bool}
    (reached : (workers codec clusterType cluster Unheld).Reached start system) {first second : String}
    (holds : first ∈ system.state.holders) (alive : first ∈ system.state.machines)
    (holds' : second ∈ system.state.holders) (alive' : second ∈ system.state.machines) : first = second := by
  have initial : Named codec start := fun machine holds => by simp [free] at holds
  exact ((terms_honoured lossless).reached initial reached).1.eq holds alive holds' alive'

/-- Once the config map is gone while a machine holds the lock, any other can take it. -/
theorem exclusion_lost {may : World → Prop} {start : World} {system : System signature World Attempt Bool}
    (reached : (workers codec clusterType cluster may).Reached start system) (gone : system.state.semaphore = none)
    {second text : String} (encoded : codec.marshal ⟨second⟩ = .ok text) :
    ∃ later, (workers codec clusterType cluster may).Reached start later ∧
      later.state.holders = insert second system.state.holders ∧ later.state.machines = system.state.machines := by
  obtain ⟨world, tasks⟩ := system
  let data := (∅ : StringMap).insert semaphoreInformationKey text
  have encodes : setInformation codec ⟨second⟩ = .ok data := by
    simp [setInformation, encoded, bind, Except.bind, pure, Except.pure, data]
  let missing : Except Err ConfigMap := .error ⟨["not found"], [.notFound]⟩
  let taken : World := { world with semaphore := some (setMetadata clusterType cluster data) }
  have acquires : Run (env may) (acquire codec clusterType cluster second) world
      [⟨world, .createSemaphore (setMetadata clusterType cluster data), .ok (), taken⟩] (.done true) taken := by
    unfold acquire
    rw [encodes]
    exact .step (.inl ⟨gone, rfl⟩) (.here _ _)
  have run : Run (env may) (lock codec clusterType cluster second) world (⟨world, .getSemaphore, missing, world⟩ :: _)
      (.done true) taken := .step ⟨rfl, fun _ => gone⟩ acquires
  have started : (workers codec clusterType cluster may).start (.lock second) world = some world := rfl
  exact ⟨_, (workers codec clusterType cluster may).reached_complete reached started run, rfl, rfl⟩

end Exclusion

def opening : String := "\x7b\"machineName\":\""

def closing : String := "\"\x7d"

/-- The JSON text of the information, for the letters that the name of a machine may have. -/
def exampleCodec : Codec where
  marshal info :=
    if info.machineName.toList.all fun letter => letter.isAlphanum || letter == '-' || letter == '.' then
      .ok (opening ++ info.machineName ++ closing)
    else .error (errorf "not the name of a machine")
  unmarshal text :=
    match (opening.toList.isPrefixOf? text.toList).bind fun rest => closing.toList.isSuffixOf? rest with
    | some name => .ok ⟨String.ofList name⟩
    | none => .error (errorf "unexpected end of JSON input")

theorem exampleCodec_lossless (info : Information) (text : String) (encoded : exampleCodec.marshal info = .ok text) :
    exampleCodec.unmarshal text = .ok info := by
  dsimp only [exampleCodec] at encoded ⊢
  split at encoded
  · cases encoded
    have opened : opening.toList.isPrefixOf? (opening ++ info.machineName ++ closing).toList =
        some (info.machineName.toList ++ closing.toList) := List.isPrefixOf?_eq_some_iff_append_eq.mpr (by simp)
    have closed : closing.toList.isSuffixOf? (info.machineName.toList ++ closing.toList) =
        some info.machineName.toList := List.isSuffixOf?_eq_some_iff_append_eq.mpr rfl
    rw [opened, Option.bind_some, closed]
    simp
  · cases encoded

def exampleCluster : Cluster := { (default : Cluster) with name := "cluster" }

def exampleWorkers (may : World → Prop) : Workers signature World Attempt Change Bool :=
  workers exampleCodec ⟨"Cluster", "cluster.x-k8s.io/v1beta1"⟩ exampleCluster may

def exampleStart : World := ⟨none, {"a", "b", "c"}, ∅⟩

theorem exampleStart_locked : ∃ system, (exampleWorkers Unheld).Reached exampleStart system ∧
    "a" ∈ system.state.holders ∧ "a" ∈ system.state.machines ∧
    ∀ other ∈ system.state.holders, other ∈ system.state.machines → other = "a" := by
  have start : (exampleWorkers Unheld).Reached exampleStart ⟨exampleStart, []⟩ := .refl
  have encoded : exampleCodec.marshal ⟨"a"⟩ = .ok (opening ++ "a" ++ closing) := rfl
  obtain ⟨system, reached, holders, machines⟩ := exclusion_lost start rfl encoded
  have holds : "a" ∈ system.state.holders := by simp [holders]
  have alive : "a" ∈ system.state.machines := by simp [machines, exampleStart]
  exact ⟨system, reached, holds, alive, fun other holds' alive' => lock_exclusive
    exampleCodec_lossless rfl reached holds' alive' holds alive⟩

def answering (world : World) : (call : Call) → Call.Answer call × World
  | .getSemaphore => match world.semaphore with
    | some sema => (.ok sema, world)
    | none => (.error ⟨["not found"], [.notFound]⟩, world)
  | .getMachine name =>
    if name ∈ world.machines then (.ok (), world) else (.error ⟨["not found"], [.notFound]⟩, world)
  | .createSemaphore sema => match world.semaphore with
    | some _ => (.error (errorf "already exists"), world)
    | none => (.ok (), { world with semaphore := some sema })
  | .deleteSemaphore => (.ok (), { world with semaphore := none })

theorem answering_env (world : World) (call : Call) :
    env (fun _ => True) world call (answering world call).1 (answering world call).2 := by
  cases call with
  | getSemaphore =>
    cases stored : world.semaphore <;> simp [answering, env, stored]
  | getMachine name =>
    by_cases alive : name ∈ world.machines
    · simp [answering, env, alive]
    · simp [answering, env, alive]
  | createSemaphore sema =>
    cases stored : world.semaphore with
    | some other =>
      have refused : answering world (.createSemaphore sema) = (.error (errorf "already exists"), world) := by
        unfold answering
        rw [stored]
      rw [refused]
      exact .inr ⟨rfl, _, rfl⟩
    | none => exact .inl (by simp [answering, stored])
  | deleteSemaphore => simp [answering, env]

/-- Machine c is deleted with the lock. Both others notice, and b takes the lock before a deletes the config map. -/
theorem stale_release_lets_second_in : ∃ system, (exampleWorkers fun _ => True).Reached exampleStart system ∧
      "a" ∈ system.state.holders ∧ "a" ∈ system.state.machines ∧
      "b" ∈ system.state.holders ∧ "b" ∈ system.state.machines := by
  obtain ⟨system, reached, wanted⟩ := exists_reached (exampleWorkers fun _ => True) answering answering_env
    [.start (.lock "c"), .call 0, .call 0, .happen (.delete "c"),
      .start (.lock "a"), .call 1, .call 1, .call 1,
      .start (.lock "b"), .call 2, .call 2, .call 2, .call 2,
      .start (.lock "b"), .call 3, .call 3,
      .call 1, .start (.lock "a"), .call 4, .call 4] exampleStart
    (fun system => decide ("a" ∈ system.state.holders ∧ "a" ∈ system.state.machines ∧
      "b" ∈ system.state.holders ∧ "b" ∈ system.state.machines)) (by decide)
  exact ⟨system, reached, of_decide_eq_true wanted⟩

end OcneProvider.Bootstrapper.Locking
