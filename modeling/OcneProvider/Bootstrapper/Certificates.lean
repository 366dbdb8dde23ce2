import OcneProvider.Api.Bootstrap
import OcneProvider.Effects.Interleaving

/-! The certificates of a cluster: looked up in secrets, generated where there is none,
and saved, by any number of runs whose calls come in any order. -/

namespace OcneProvider.Bootstrapper.Certificates
open Api.Meta Api.Bootstrap Effects.Program Effects.Interleaving Relation List

def tlsKeyDataName : String := "tls.key"

def tlsCrtDataName : String := "tls.crt"

def clusterSecretType : String := "cluster.x-k8s.io/secret"

inductive Purpose where
  | kubeconfig
  | clusterCA
  | etcdCA
  | serviceAccount
  | frontProxyCA
  | apiServerEtcdClient
  deriving DecidableEq

def Purpose.text : Purpose → String
  | kubeconfig => "kubeconfig"
  | clusterCA => "ca"
  | etcdCA => "etcd"
  | serviceAccount => "sa"
  | frontProxyCA => "proxy"
  | apiServerEtcdClient => "apiserver-etcd-client"

structure KeyPair where
  cert : List UInt8
  key : List UInt8
  deriving DecidableEq

structure Certificate where
  generated : Bool
  external : Bool
  purpose : Purpose
  keyPair : Option KeyPair
  deriving DecidableEq

structure Secret where
  ns : String
  name : String
  labels : StringMap
  ownerReferences : List OwnerReference
  data : Finmap (fun _ : String => List UInt8)
  type : String
  deriving DecidableEq

structure ObjectKey where
  ns : String
  name : String

def secretName (cluster : String) (suffix : Purpose) : String := cluster ++ "-" ++ suffix.text

def blankCertificate (purpose : Purpose) (external : Bool) : Certificate :=
  ⟨false, external, purpose, none⟩

def newCertificatesForInitialControlPlane (config : Option ClusterConfiguration) : List Certificate :=
  let certificates := [blankCertificate .clusterCA false, blankCertificate .serviceAccount false,
    blankCertificate .frontProxyCA false]
  match config.bind (·.etcd.external) with
  | some _ => certificates ++ [blankCertificate .apiServerEtcdClient true, blankCertificate .etcdCA true]
  | none => certificates ++ [blankCertificate .etcdCA false]

def secretToKeyPair (secret : Secret) : Except Err KeyPair :=
  match secret.data.lookup tlsCrtDataName with
  | none => .error (errorf ("missing data for key " ++ tlsCrtDataName))
  | some cert => .ok ⟨cert, (secret.data.lookup tlsKeyDataName).getD []⟩

def asSecret (cluster : ObjectKey) (owner : OwnerReference) (certificate : Certificate) (keyPair : KeyPair) :
    Secret where
  ns := cluster.ns
  name := secretName cluster.name certificate.purpose
  labels := (∅ : StringMap).insert clusterLabelName cluster.name
  ownerReferences := if certificate.generated then [owner] else []
  data := ((∅ : Finmap fun _ : String => List UInt8).insert tlsKeyDataName keyPair.key).insert
    tlsCrtDataName keyPair.cert
  type := clusterSecretType

inductive Call where
  | getSecret (name : String)
  | createSecret (secret : Secret)
  | generateCACert
  | generateServiceAccountKeys

def Call.Answer : Call → Type
  | getSecret _ => Except Err Secret
  | createSecret _ => Except Err Unit
  | generateCACert | generateServiceAccountKeys => Except Err KeyPair

abbrev signature : Signature := ⟨Call, Call.Answer⟩

/-- A run changes the certificates it is given, whether it fails or not. -/
abbrev Outcome := List Certificate × Except Err Unit

abbrev Api := Prog signature

def getSecret (name : String) : Api (Except Err Secret) := Prog.perform (S := signature) (.getSecret name)

def createSecret (secret : Secret) : Api (Except Err Unit) := Prog.perform (S := signature) (.createSecret secret)

def generateCACert : Api (Except Err KeyPair) := Prog.perform (S := signature) .generateCACert

def generateServiceAccountKeys : Api (Except Err KeyPair) :=
  Prog.perform (S := signature) .generateServiceAccountKeys

def after (certificate : Certificate) (rest : Api Outcome) : Api Outcome := do
  let (certificates, result) ← rest
  return (certificate :: certificates, result)

def lookup (cluster : ObjectKey) : List Certificate → Api Outcome
  | [] => return ([], .ok ())
  | certificate :: rest => do
    match ← getSecret (secretName cluster.name certificate.purpose) with
    | .error error =>
      if error.is .notFound then
        if certificate.external then
          return (certificate :: rest, .error (error.wrap "external certificate not found"))
        else after certificate (lookup cluster rest)
      else return (certificate :: rest, .error error)
    | .ok secret =>
      match secretToKeyPair secret with
      | .error error => return (certificate :: rest, .error error)
      | .ok keyPair => after { certificate with keyPair := some keyPair } (lookup cluster rest)

def generator (purpose : Purpose) : Api (Except Err KeyPair) :=
  if purpose = .serviceAccount then generateServiceAccountKeys else generateCACert

/-- The one of the API server's etcd client is user supplied. -/
def Certificate.generate (certificate : Certificate) : Api (Certificate × Except Err Unit) := do
  if certificate.purpose = .apiServerEtcdClient then return (certificate, .ok ())
  else
    match ← generator certificate.purpose with
    | .error error => return (certificate, .error error)
    | .ok keyPair => return ({ certificate with keyPair := some keyPair, generated := true }, .ok ())

def generate : List Certificate → Api Outcome
  | [] => return ([], .ok ())
  | certificate :: rest => do
    if certificate.keyPair.isNone then
      match ← certificate.generate with
      | (certificate, .error error) => return (certificate :: rest, .error error)
      | (certificate, .ok _) => after certificate (generate rest)
    else after certificate (generate rest)

def saveGenerated (cluster : ObjectKey) (owner : OwnerReference) : List Certificate → Api Outcome
  | [] => return ([], .ok ())
  | certificate :: rest => do
    if !certificate.generated then after certificate (saveGenerated cluster owner rest)
    else
      match certificate.keyPair with
      | none => return (certificate :: rest, .error nilPointerDereference)
      | some keyPair =>
        match ← createSecret (asSecret cluster owner certificate keyPair) with
        | .error error => return (certificate :: rest, .error error)
        | .ok _ => after certificate (saveGenerated cluster owner rest)

/-- Goes on with a further part unless one has failed. -/
def andThen (part : Api Outcome) (next : List Certificate → Api Outcome) : Api Outcome := do
  match ← part with
  | (certificates, .error error) => return (certificates, .error error)
  | (certificates, .ok _) => next certificates

def lookupOrGenerate (cluster : ObjectKey) (owner : OwnerReference) (certificates : List Certificate) : Api Outcome :=
  andThen (andThen (lookup cluster certificates) generate) (saveGenerated cluster owner)

/-- Tried again with the certificates a failure has left. -/
def retried (cluster : ObjectKey) (owner : OwnerReference) : Nat → List Certificate → Api Outcome
  | 0, certificates => lookupOrGenerate cluster owner certificates
  | retries + 1, certificates => do
    match ← lookupOrGenerate cluster owner certificates with
    | (certificates, .ok _) => return (certificates, .ok ())
    | (certificates, .error _) => retried cluster owner retries certificates

abbrev World := Finmap (fun _ : String => Secret)

/-- A secret may be missed, any call may fail, and a secret is created only under a free name, even if the call fails.
-/
def env : Env signature World := fun world call => match call with
  | .getSecret name => fun answer next => next = world ∧ ∀ secret, answer = .ok secret → world.lookup name = some secret
  | .createSecret secret => fun answer next =>
    (world.lookup secret.name = none ∧ next = world.insert secret.name secret) ∨
      next = world ∧ ∃ error, answer = .error error
  | .generateCACert | .generateServiceAccountKeys => fun _ next => next = world

/-- A new certificate: no key pair, and it says whether it is user supplied. -/
structure Blank (certificate : Certificate) : Prop where
  keyPair : certificate.keyPair = none
  generated : certificate.generated = false
  supplied : certificate.purpose = .apiServerEtcdClient → certificate.external = true

theorem newCertificatesForInitialControlPlane_blank (config : Option ClusterConfiguration) :
    ∀ certificate ∈ newCertificatesForInitialControlPlane config, Blank certificate := by
  have blank : ∀ purpose external, (purpose = .apiServerEtcdClient → external = true) →
      Blank (blankCertificate purpose external) := fun _ _ supplied => ⟨rfl, rfl, supplied⟩
  intro certificate mem
  unfold newCertificatesForInitialControlPlane at mem
  split at mem
  all_goals
    simp only [cons_append, nil_append, mem_cons, not_mem_nil, or_false] at mem
    rcases mem with rfl | rfl | rfl | rfl | rfl <;> exact blank _ _ (by decide)

structure Job where
  certificates : List Certificate
  owner : OwnerReference
  retries : Nat
  blank : ∀ certificate ∈ certificates, Blank certificate

def workers (cluster : ObjectKey) : Workers signature World Job Empty Outcome where
  env := env
  program job := retried cluster job.owner job.retries job.certificates
  start _ world := some world
  finish _ _ world := world
  happen event _ := event.elim

def Grows (world later : World) : Prop :=
  ∀ name secret, world.lookup name = some secret → later.lookup name = some secret

theorem Grows.refl (world : World) : Grows world world := fun _ _ => id

theorem Grows.trans {first second third : World} (before : Grows first second) (later : Grows second third) :
    Grows first third := fun name secret found => later name secret (before name secret found)

theorem grows_insert {world : World} {name : String} (free : world.lookup name = none) (secret : Secret) :
    Grows world (world.insert name secret) := by
  intro other found known
  have differs : other ≠ name := by
    rintro rfl
    rw [free] at known
    cases known
  rwa [Finmap.lookup_insert_of_ne _ differs]

/-- The key pair of a certificate is the one in its secret. -/
def Agrees (cluster : ObjectKey) (world : World) (certificate : Certificate) : Prop :=
  ∃ secret keyPair, world.lookup (secretName cluster.name certificate.purpose) = some secret ∧
    secretToKeyPair secret = .ok keyPair ∧ certificate.keyPair = some keyPair

theorem Agrees.grows {cluster : ObjectKey} {world later : World} {certificate : Certificate}
    (agrees : Agrees cluster world certificate) (grows : Grows world later) : Agrees cluster later certificate := by
  obtain ⟨secret, keyPair, stored, same⟩ := agrees
  exact ⟨secret, keyPair, grows _ secret stored, same⟩

/-- A key pair that was not generated agrees. -/
structure Tidy (cluster : ObjectKey) (world : World) (certificate : Certificate) : Prop where
  supplied : certificate.purpose = .apiServerEtcdClient → certificate.external = true
  looked : certificate.keyPair.isSome → certificate.generated = false → Agrees cluster world certificate

theorem Blank.tidy {cluster : ObjectKey} {world : World} {certificate : Certificate} (blank : Blank certificate) :
    Tidy cluster world certificate :=
  ⟨blank.supplied, fun known => by simp [blank.keyPair] at known⟩

theorem Tidy.grows {cluster : ObjectKey} {world later : World} {certificate : Certificate}
    (tidy : Tidy cluster world certificate) (grows : Grows world later) : Tidy cluster later certificate :=
  ⟨tidy.supplied, fun known fresh => (tidy.looked known fresh).grows grows⟩

/-- The secrets and the purposes are kept, and all certificates meet `reached` unless the part has failed. -/
structure Progress (cluster : ObjectKey) (reached : World → Certificate → Prop) (before : World)
    (certificates : List Certificate) (outcome : Outcome) (world : World) : Prop where
  grows : Grows before world
  purposes : outcome.1.map Certificate.purpose = certificates.map Certificate.purpose
  tidy : ∀ certificate ∈ outcome.1, Tidy cluster world certificate
  ok : outcome.2 = .ok () → ∀ certificate ∈ outcome.1, reached world certificate

section Runs

variable {cluster : ObjectKey} {reached : World → Certificate → Prop} {before world : World}
variable {certificate : Certificate} {certs : List Certificate}

theorem Progress.stop (grows : Grows before world) (tidy : ∀ certificate ∈ certs, Tidy cluster before certificate)
    (error : Err) : Progress cluster reached before certs (certs, .error error) world :=
  ⟨grows, rfl, fun certificate mem => (tidy certificate mem).grows grows, fun succeeded => by cases succeeded⟩

variable (owner : OwnerReference) {changed : Certificate} {later : World} {between : World}

theorem Progress.cons {outcome : Outcome} (grows : Grows before between)
    (same : changed.purpose = certificate.purpose) (tidy : Tidy cluster between changed)
    (done : reached between changed)
    (stable : ∀ later, Grows between later → reached between changed → reached later changed)
    (rest : Progress cluster reached between certs outcome world) :
    Progress cluster reached before (certificate :: certs) (changed :: outcome.1, outcome.2) world where
  grows := grows.trans rest.grows
  purposes := by simp [same, rest.purposes]
  tidy := by
    intro other mem
    rcases mem_cons.mp mem with rfl | mem
    · exact tidy.grows rest.grows
    · exact rest.tidy other mem
  ok := by
    intro succeeded other mem
    rcases mem_cons.mp mem with rfl | mem
    · exact stable world rest.grows done
    · exact rest.ok succeeded other mem

/-- The terms of the runs: each relies on secrets that exist to stay as they are. -/
def terms (cluster : ObjectKey) : Terms World Job Outcome where
  good _ := True
  rely _ := Grows
  settled job outcome world := outcome.1.map Certificate.purpose = job.certificates.map Certificate.purpose ∧
    (outcome.2 = .ok () → ∀ certificate ∈ outcome.1, Agrees cluster world certificate)

variable {α : Type} {job : Job}

abbrev Goes (cluster : ObjectKey) (job : Job) (post : α → World → Prop) (part : Api α) (world : World) : Prop :=
  part.wp ((terms cluster).among env job) ((terms cluster).Polite env job) post world

theorem kept_of_grows (grows : Grows world later) : (terms cluster).Kept world later :=
  ⟨trivial, fun _ => grows⟩

theorem goes_getSecret {name : String} {post : Except Err Secret → World → Prop}
    (found : ∀ later secret, Grows world later → later.lookup name = some secret → post (.ok secret) later)
    (failed : ∀ later error, Grows world later → post (.error error) later) :
    Goes cluster job post (getSecret name) world := by
  refine Terms.perform_intro (workers cluster) fun later answer _ grows _ made => ?_
  obtain ⟨rfl, report⟩ := made
  refine ⟨kept_of_grows (.refl _), ?_⟩
  cases answer with
  | ok secret => exact found _ secret grows (report secret rfl)
  | error error => exact failed _ error grows

theorem goes_createSecret {secret : Secret} {post : Except Err Unit → World → Prop}
    (stored : ∀ later, Grows world later → later.lookup secret.name = some secret → post (.ok ()) later)
    (failed : ∀ later error, Grows world later → post (.error error) later) :
    Goes cluster job post (createSecret secret) world := by
  refine Terms.perform_intro (workers cluster) fun later answer after grows _ made => ?_
  rcases made with ⟨free, rfl⟩ | ⟨rfl, error, rfl⟩
  · have growing := grows_insert free secret
    refine ⟨kept_of_grows growing, ?_⟩
    cases answer with
    | ok _ => exact stored _ (grows.trans growing) (Finmap.lookup_insert _)
    | error error => exact failed _ error (grows.trans growing)
  · exact ⟨kept_of_grows (.refl _), failed _ error grows⟩

theorem goes_generator (purpose : Purpose) {post : Except Err KeyPair → World → Prop}
    (done : ∀ later answer, Grows world later → post answer later) :
    Goes cluster job post (generator purpose) world := by
  unfold generator
  split
  all_goals
    refine Terms.perform_intro (workers cluster) fun later answer _ grows _ made => ?_
    cases made
    exact ⟨kept_of_grows (.refl _), done _ answer grows⟩

theorem goes_after {rest : Api Outcome} (grows : Grows before between)
    (same : changed.purpose = certificate.purpose) (tidy : Tidy cluster between changed)
    (done : reached between changed)
    (stable : ∀ later, Grows between later → reached between changed → reached later changed)
    (goes : Goes cluster job (Progress cluster reached between certs) rest between) :
    Goes cluster job (Progress cluster reached before (certificate :: certs)) (after changed rest) between :=
  wp_bind.mpr (wp_mono goes fun _ _ progress =>
    progress.cons grows same tidy done stable)

def Found (cluster : ObjectKey) (world : World) (certificate : Certificate) : Prop :=
  Agrees cluster world certificate ∨ certificate.external = false

theorem Found.grows (grows : Grows world later) (found : Found cluster world certificate) :
    Found cluster later certificate :=
  found.imp (fun agrees => agrees.grows grows) id

section

variable (tidy : ∀ certificate ∈ certs, Tidy cluster world certificate)
include tidy

theorem goes_lookup :
    Goes cluster job (Progress cluster (Found cluster) world certs) (lookup cluster certs) world := by
  induction certs generalizing world with
  | nil => exact ⟨.refl _, rfl, by simp, by simp⟩
  | cons certificate rest ih =>
    obtain ⟨head, others⟩ := forall_mem_cons.mp tidy
    have later : ∀ {between}, Grows world between → ∀ certificate ∈ rest, Tidy cluster between certificate :=
      fun grows certificate mem => (others certificate mem).grows grows
    refine wp_bind.mpr (goes_getSecret (fun between secret grows stored => ?_) fun between error grows => ?_)
    · dsimp only
      cases known : secretToKeyPair secret with
      | error error => exact Progress.stop grows tidy error
      | ok keyPair =>
        have agrees : Agrees cluster between { certificate with keyPair := some keyPair } :=
          ⟨secret, keyPair, stored, known, rfl⟩
        exact goes_after grows rfl ⟨head.supplied, fun _ _ => agrees⟩ (.inl agrees) (fun _ => Found.grows)
          (ih (later grows))
    · dsimp only
      split
      · split
        · exact Progress.stop grows tidy _
        next internal =>
          exact goes_after grows rfl (head.grows grows) (.inr (by simpa using internal)) (fun _ => Found.grows)
            (ih (later grows))
      · exact Progress.stop grows tidy error

omit tidy in
theorem goes_generate_one (tidy : Tidy cluster world certificate) (found : Found cluster world certificate)
    (missing : certificate.keyPair.isNone) {post : Certificate × Except Err Unit → World → Prop}
    (failed : ∀ later error, Grows world later → post (certificate, .error error) later)
    (done : ∀ later keyPair, Grows world later →
      post ({ certificate with keyPair := some keyPair, generated := true }, .ok ()) later) :
    Goes cluster job post certificate.generate world := by
  unfold Certificate.generate
  split
  next client =>
    -- the user supplied one has been found, or the look-up has failed
    rcases found with ⟨_, keyPair, _, _, known⟩ | internal
    · simp [known] at missing
    · rw [tidy.supplied client] at internal
      cases internal
  refine wp_bind.mpr (goes_generator certificate.purpose fun later answer grows => ?_)
  cases answer with
  | ok keyPair => exact done later keyPair grows
  | error error => exact failed later error grows

theorem goes_generate
    (found : ∀ certificate ∈ certs, Found cluster world certificate) :
    Goes cluster job (Progress cluster (fun _ certificate => certificate.keyPair.isSome) world certs)
      (generate certs) world := by
  induction certs generalizing world with
  | nil => exact ⟨.refl _, rfl, by simp, by simp⟩
  | cons certificate rest ih =>
    obtain ⟨head, others⟩ := forall_mem_cons.mp tidy
    obtain ⟨headFound, othersFound⟩ := forall_mem_cons.mp found
    have goes : ∀ {between}, Grows world between → Goes cluster job
        (Progress cluster (fun _ certificate => certificate.keyPair.isSome) between rest) (generate rest) between :=
      fun grows => ih (fun certificate mem => (others certificate mem).grows grows)
        fun certificate mem => (othersFound certificate mem).grows grows
    unfold generate
    split
    next missing =>
      refine wp_bind.mpr (goes_generate_one head headFound missing (fun between error grows => ?_)
        fun between keyPair grows => ?_)
      · exact Progress.stop grows tidy error
      · exact goes_after grows rfl ⟨head.supplied, fun _ fresh => by cases fresh⟩ rfl (fun _ _ => id) (goes grows)
    next known =>
      have present : certificate.keyPair.isSome := by simpa [Option.isSome_iff_ne_none] using known
      exact goes_after (.refl _) rfl head present (fun _ _ => id) (goes (.refl _))

omit tidy in
theorem secretToKeyPair_asSecret (keyPair : KeyPair) :
    secretToKeyPair (asSecret cluster owner certificate keyPair) = .ok keyPair := by
  rfl

theorem goes_saveGenerated
    (present : ∀ certificate ∈ certs, certificate.keyPair.isSome) :
    Goes cluster job (Progress cluster (Agrees cluster) world certs) (saveGenerated cluster owner certs) world := by
  induction certs generalizing world with
  | nil => exact ⟨.refl _, rfl, by simp, by simp⟩
  | cons certificate rest ih =>
    obtain ⟨head, others⟩ := forall_mem_cons.mp tidy
    obtain ⟨headPresent, othersPresent⟩ := forall_mem_cons.mp present
    have goes : ∀ {between}, Grows world between → Goes cluster job (Progress cluster (Agrees cluster) between rest)
        (saveGenerated cluster owner rest) between :=
      fun grows => ih (fun certificate mem => (others certificate mem).grows grows) othersPresent
    have stable : ∀ between later, Grows between later → Agrees cluster between certificate →
        Agrees cluster later certificate := fun _ _ grows agrees => agrees.grows grows
    unfold saveGenerated
    split
    next old =>
      have agrees := head.looked headPresent (by simpa using old)
      exact goes_after (.refl _) rfl head agrees (stable _) (goes (.refl _))
    obtain ⟨keyPair, known⟩ := Option.isSome_iff_exists.mp headPresent
    rw [known]
    refine wp_bind.mpr (goes_createSecret (fun between grows stored => ?_) fun between error grows => ?_)
    · have agrees : Agrees cluster between certificate := ⟨_, keyPair, stored, secretToKeyPair_asSecret owner keyPair, known⟩
      exact goes_after grows rfl (head.grows grows) agrees (stable _) (goes grows)
    · exact Progress.stop grows tidy error

omit tidy in
theorem goes_andThen {further : World → Certificate → Prop} {part : Api Outcome} {next : List Certificate → Api Outcome}
    (first : Goes cluster job (Progress cluster reached world certs) part world)
    (second : ∀ between changed, (∀ certificate ∈ changed, Tidy cluster between certificate) →
      (∀ certificate ∈ changed, reached between certificate) →
      Goes cluster job (Progress cluster further between changed) (next changed) between) :
    Goes cluster job (Progress cluster further world certs) (andThen part next) world := by
  refine wp_bind.mpr (wp_mono first ?_)
  rintro ⟨changed, result⟩ between progress
  cases result with
  | error error => exact ⟨progress.grows, progress.purposes, progress.tidy, fun succeeded => by cases succeeded⟩
  | ok _ =>
    refine wp_mono (second between changed progress.tidy (progress.ok rfl)) ?_
    intro outcome later further
    exact ⟨progress.grows.trans further.grows, further.purposes.trans progress.purposes, further.tidy, further.ok⟩

theorem goes_lookupOrGenerate : Goes cluster job (Progress cluster (Agrees cluster) world certs)
      (lookupOrGenerate cluster owner certs) world :=
  goes_andThen (goes_andThen (goes_lookup tidy) fun _ _ => goes_generate) fun _ _ => goes_saveGenerated owner

theorem goes_retried (retries : Nat) : Goes cluster job (Progress cluster (Agrees cluster) world certs)
      (retried cluster owner retries certs) world := by
  induction retries generalizing world certs with
  | zero => exact goes_lookupOrGenerate owner tidy
  | succ retries ih =>
    refine wp_bind.mpr (wp_mono (goes_lookupOrGenerate owner tidy) ?_)
    rintro ⟨changed, result⟩ between progress
    cases result with
    | ok _ => exact progress
    | error error =>
      refine wp_mono (ih progress.tidy) fun outcome later again => ?_
      exact ⟨progress.grows.trans again.grows, again.purposes.trans progress.purposes, again.tidy, again.ok⟩

end

theorem terms_honoured (cluster : ObjectKey) : (terms cluster).Honoured (workers cluster) where
  refl _ world _ := .refl world
  trans _ _ _ _ := Grows.trans
  stable _ _ _ _ settled grows :=
    ⟨settled.1, fun succeeded certificate mem => (settled.2 succeeded certificate mem).grows grows⟩
  happen event := event.elim
  start job world next _ started := by
    cases started
    refine ⟨kept_of_grows (.refl _), ?_⟩
    refine wp_mono (goes_retried job.owner (fun certificate mem => (job.blank certificate mem).tidy) job.retries)
      fun outcome later progress _ => ?_
    exact ⟨kept_of_grows (.refl _), progress.purposes, progress.ok⟩

/-- Whatever the order of the calls, no secret is replaced, and a run that succeeds has the key pairs of its secrets. -/
theorem certificates_agree {start : World} {system later : System signature World Job Outcome}
    (reached : (workers cluster).Reached start system) (steps : ReflTransGen (workers cluster).Step system later) :
    (∀ name secret, system.state.lookup name = some secret → later.state.lookup name = some secret) ∧
    ∀ job certs, ⟨job, .done (certs, .ok ())⟩ ∈ later.tasks →
      certs.map Certificate.purpose = job.certificates.map Certificate.purpose ∧
      ∀ certificate ∈ certs, Agrees cluster later.state certificate := by
  have runs := (terms_honoured cluster).reached trivial reached
  obtain ⟨further, kept⟩ := (terms_honoured cluster).steps runs steps
  refine ⟨kept.2 ⟨[], ⟨"", "", "", "", none, none⟩, 0, by simp⟩, fun job certs finished => ?_⟩
  obtain ⟨purposes, agrees⟩ := further.2 _ finished
  exact ⟨purposes, agrees rfl⟩

end Runs

def exampleCluster : ObjectKey := ⟨"default", "cluster"⟩

def exampleJob : Job where
  certificates := newCertificatesForInitialControlPlane none
  owner := ⟨"bootstrap.cluster.x-k8s.io/v1alpha1", "OCNEConfig", "cluster-0", "1", none, none⟩
  retries := 0
  blank := newCertificatesForInitialControlPlane_blank none

def reported (stored : Option Secret) : Except Err Secret :=
  match stored with
  | some secret => .ok secret
  | none => .error ⟨["not found"], [.notFound]⟩

def created (world : World) (secret : Secret) : Except Err Unit × World :=
  match world.lookup secret.name with
  | some _ => (.error (errorf "already exists"), world)
  | none => (.ok (), world.insert secret.name secret)

def answering (world : World) : (call : Call) → Call.Answer call × World
  | .getSecret name => (reported (world.lookup name), world)
  | .createSecret secret => created world secret
  | .generateCACert => (.ok ⟨[1], [2]⟩, world)
  | .generateServiceAccountKeys => (.ok ⟨[3], [4]⟩, world)

theorem answering_env (world : World) (call : Call) :
    env world call (answering world call).1 (answering world call).2 := by
  cases call with
  | getSecret name =>
    refine ⟨rfl, fun secret same => ?_⟩
    change reported (world.lookup name) = .ok secret at same
    cases stored : world.lookup name with
    | some other =>
      rw [stored] at same
      exact congrArg some (Except.ok.inj same)
    | none =>
      rw [stored] at same
      cases same
  | createSecret secret =>
    change (world.lookup secret.name = none ∧ (created world secret).2 = world.insert secret.name secret) ∨
      (created world secret).2 = world ∧ ∃ error, (created world secret).1 = .error error
    cases stored : world.lookup secret.name with
    | some other => exact .inr (by simp [created, stored])
    | none => exact .inl (by simp [created, stored])
  | generateCACert | generateServiceAccountKeys => rfl

/-- A second run reads each secret right after the first has created it. -/
theorem exampleJobs_agree : ∃ system, (workers exampleCluster).Reached ∅ system ∧ system.tasks.length = 2 ∧
    ∀ task ∈ system.tasks, ∃ certs, task.rest = .done (certs, .ok ()) ∧ certs.length = 4 ∧
      ∀ certificate ∈ certs, Agrees exampleCluster system.state certificate := by
  obtain ⟨system, reached, wanted⟩ := exists_reached (workers exampleCluster) answering answering_env
    (.start exampleJob :: replicate 9 (.call 0) ++ [.start exampleJob, .call 1, .call 0, .call 1, .call 0, .call 1,
      .call 0, .call 1]) ∅
    (fun system => system.tasks.length == 2 && system.tasks.all (Task.returns fun outcome =>
      outcome.1.length == 4 && outcome.2 == .ok ())) (by decide +kernel)
  obtain ⟨two, returned⟩ : system.tasks.length = 2 ∧ ∀ task ∈ system.tasks, ∃ outcome : Outcome,
      task.rest = .done outcome ∧ outcome.1.length = 4 ∧ outcome.2 = .ok () := by
    simpa [Task.returns_eq_true] using wanted
  refine ⟨system, reached, two, fun ⟨job, rest⟩ mem => ?_⟩
  obtain ⟨⟨certs, _⟩, rfl, four, rfl⟩ := returned _ mem
  exact ⟨certs, rfl, four, ((certificates_agree reached .refl).2 job certs mem).2⟩

end OcneProvider.Bootstrapper.Certificates
