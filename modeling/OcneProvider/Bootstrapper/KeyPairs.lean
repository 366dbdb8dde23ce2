import OcneProvider.Bootstrapper.Certificates
import OcneProvider.Data.Keyed

/-! What the certificates of a cluster are for once they have been looked up: they are checked, hashed for joining
nodes to pin, and written to the disks of control plane nodes. -/

namespace OcneProvider.Bootstrapper.KeyPairs
open Api.Meta Api.Bootstrap Effects.Fallible Certificates List

/-- The certificates of a joining control plane node are those of the first one. -/
def newControlPlaneJoinCerts (config : Option ClusterConfiguration) : List Certificate :=
  newCertificatesForInitialControlPlane config

def newCertificatesForWorker : List Certificate := [blankCertificate .clusterCA false]

def getByPurpose (certificates : List Certificate) (purpose : Purpose) : Option Certificate :=
  certificates.find? (·.purpose = purpose)

def errMissingCertificate : Err := errorf "missing certificate"

def errMissingCrt : Err := errorf "missing crt data"

def errMissingKey : Err := errorf "missing key data"

def ensureExists (certificate : Certificate) : Except Err Unit :=
  match certificate.keyPair with
  | none => .error errMissingCertificate
  | some keyPair =>
    if keyPair.cert.isEmpty then .error (errMissingCrt.wrap ("for certificate: " ++ certificate.purpose.text))
    else if !certificate.external && keyPair.key.isEmpty then
      .error (errMissingKey.wrap ("for certificate: " ++ certificate.purpose.text))
    else .ok ()

def ensureAllExist : List Certificate → Except Err Unit
  | [] => .ok ()
  | certificate :: rest => do
    ensureExists certificate
    ensureAllExist rest

/-- The hashes of the certificates in a file, which are read by `parseCertsPEM`. -/
def Certificate.hashes {X509 : Type} (parseCertsPEM : List UInt8 → Except Err (List X509)) (hashCert : X509 → String)
    (certificate : Certificate) : Except Err (List String) :=
  match certificate.keyPair with
  | none => .error nilPointerDereference
  | some keyPair =>
    match parseCertsPEM keyPair.cert with
    | .error error => .error (error.wrap ("unable to parse " ++ certificate.purpose.text ++ " certificate"))
    | .ok certificates => .ok (certificates.map hashCert)

inductive Half where
  | crt
  | key
  deriving DecidableEq

/-- One half of a key pair; its path follows from the purpose and the half. -/
structure CertificateFile where
  purpose : Purpose
  half : Half
  owner : String
  permissions : String
  content : List UInt8
  deriving DecidableEq

def rootOwnerValue : String := "root:root"

def fileOf (purpose : Purpose) (half : Half) (permissions : String) (content : List UInt8) : List CertificateFile :=
  if content.isEmpty then [] else [⟨purpose, half, rootOwnerValue, permissions, content⟩]

def Certificate.asFiles (certificate : Certificate) : Except Err (List CertificateFile) :=
  match certificate.keyPair with
  | none => .error nilPointerDereference
  | some keyPair => .ok (fileOf certificate.purpose .crt "0640" keyPair.cert ++
      fileOf certificate.purpose .key "0600" keyPair.key)

/-- The purposes written to the disk, in the order of their files. -/
def filePurposes : List Purpose := [.clusterCA, .etcdCA, .frontProxyCA, .serviceAccount, .apiServerEtcdClient]

def asFiles (certificates : List Certificate) : Except Err (List CertificateFile) := do
  return (← (filePurposes.filterMap (getByPurpose certificates)).mapM Certificate.asFiles).flatten

/-- The answers of a cluster whose secrets all hold one key pair. -/
def foundSecrets (keyPair : KeyPair) : (call : Call) → call.Answer
  | .getSecret name => .ok ⟨"default", name, ∅, [],
      ((∅ : Finmap fun _ : String => List UInt8).insert tlsKeyDataName keyPair.key).insert tlsCrtDataName keyPair.cert,
      clusterSecretType⟩
  | .createSecret _ => .ok ()
  | .generateCACert | .generateServiceAccountKeys => .ok keyPair

section Present

variable {certs : List Certificate}

def Present (certificates : List Certificate) : Prop :=
  ∀ certificate ∈ certificates, certificate.keyPair.isSome

theorem Certificate.asFiles_eq_ok_iff {cert : Certificate} :
    (∃ files, Certificate.asFiles cert = .ok files) ↔ cert.keyPair.isSome := by
  unfold Certificate.asFiles
  cases cert.keyPair <;> simp

theorem mapM_asFiles_eq_ok_iff :
    (∃ files, certs.mapM Certificate.asFiles = .ok files) ↔ Present certs := by
  have range := Set.ext_iff.mp (Set.range_list_map Except.ok) (certs.map Certificate.asFiles)
  simp only [mapM_eq_ok, Present, ← Certificate.asFiles_eq_ok_iff]
  simpa only [Set.mem_range, Set.mem_ofPred_eq, forall_mem_map, eq_comm] using range

theorem getByPurpose_eq_some (apart : (certs.map Certificate.purpose).Nodup) {purpose : Purpose} {cert : Certificate} :
    getByPurpose certs purpose = some cert ↔ cert ∈ certs ∧ cert.purpose = purpose :=
  Data.Keyed.find?_eq_some_of_nodup apart fun _ => decide_eq_true_iff

theorem asFiles_eq_ok_iff (apart : (certs.map Certificate.purpose).Nodup)
    (written : ∀ cert ∈ certs, cert.purpose ∈ filePurposes) :
    (∃ files, asFiles certs = .ok files) ↔ Present certs := by
  have same : Present (filePurposes.filterMap (getByPurpose certs)) ↔ Present certs := by
    constructor
    · intro present cert mem
      exact present cert (mem_filterMap.mpr
        ⟨cert.purpose, written cert mem, (getByPurpose_eq_some apart).mpr ⟨mem, rfl⟩⟩)
    · intro present cert mem
      obtain ⟨purpose, -, found⟩ := mem_filterMap.mp mem
      exact present cert ((getByPurpose_eq_some apart).mp found).1
  rw [← same, ← mapM_asFiles_eq_ok_iff]
  constructor
  · rintro ⟨_, collected⟩
    obtain ⟨files, done, -⟩ := bind_eq_ok.mp collected
    exact ⟨files, done⟩
  · rintro ⟨files, done⟩
    exact ⟨files.flatten, by rw [asFiles, done]; rfl⟩

end Present

end OcneProvider.Bootstrapper.KeyPairs
