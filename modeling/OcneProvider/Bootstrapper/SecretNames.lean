import OcneProvider.Bootstrapper.Certificates
import OcneProvider.Data.Strings

/-! The names of the secrets of a cluster, and how they are read back. A name is read from its last dash, which may be
one of the purpose itself. -/

namespace OcneProvider.Bootstrapper.SecretNames
open Api.Meta Certificates Data.Strings

def allSecretPurposes : List Purpose :=
  [.kubeconfig, .clusterCA, .etcdCA, .serviceAccount, .frontProxyCA, .apiServerEtcdClient]

-- Which characters beyond the ASCII ones can be printed.
variable (isPrint : Char → Bool)

def parseSecretName (name : String) : Except Err (String × Purpose) :=
  match lastIndex '-' name.toList with
  | none => .error (errorf (quote isPrint name ++ " is not a valid cluster secret name. The purpose suffix is missing"))
  | some separatorPos =>
    let clusterName := String.ofList (name.toList.take separatorPos)
    let purposeSuffix := String.ofList (name.toList.drop (separatorPos + 1))
    match allSecretPurposes.find? (·.text == purposeSuffix) with
    | some purpose => .ok (clusterName, purpose)
    | none => .error (errorf (quote isPrint name ++ " is not a valid cluster secret name. Invalid purpose suffix"))

variable {isPrint} {cluster name suffix : String} {purpose : Purpose}

theorem find?_purpose : allSecretPurposes.find? (·.text == purpose.text) = some purpose := by
  cases purpose <;> decide

/-- A suffix without a dash is what is looked up among the purposes. -/
theorem parseSecretName_append (plain : '-' ∉ suffix.toList) : parseSecretName isPrint (cluster ++ "-" ++ suffix) =
    match allSecretPurposes.find? (·.text == suffix) with
    | some purpose => .ok (cluster, purpose)
    | none => .error (errorf (quote isPrint (cluster ++ "-" ++ suffix) ++
        " is not a valid cluster secret name. Invalid purpose suffix")) := by
  have chars : (cluster ++ "-" ++ suffix).toList = cluster.toList ++ '-' :: suffix.toList := by simp
  have index := lastIndex_append cluster.toList plain
  rw [← chars] at index
  have clusterName : (cluster ++ "-" ++ suffix).toList.take cluster.toList.length = cluster.toList := by
    rw [chars, List.take_left]
  have purposeSuffix : (cluster ++ "-" ++ suffix).toList.drop (cluster.toList.length + 1) = suffix.toList := by
    rw [chars, ← List.drop_drop, List.drop_left, List.drop_one, List.tail_cons]
  unfold parseSecretName
  simp only [index, clusterName, purposeSuffix, String.ofList_toList]

theorem plain_of_ne (other : purpose ≠ .apiServerEtcdClient) : '-' ∉ purpose.text.toList := by
  cases purpose with
  | apiServerEtcdClient => exact absurd rfl other
  | _ => decide

/-- A name is read back exactly if its purpose is not the one with dashes. -/
theorem secretName_roundTrip_iff (isPrint : Char → Bool) (cluster : String) (purpose : Purpose) :
    parseSecretName isPrint (secretName cluster purpose) = .ok (cluster, purpose) ↔ purpose ≠ .apiServerEtcdClient := by
  constructor
  · rintro read rfl
    -- The last dash is in the purpose, and what follows it is no purpose.
    have split : secretName cluster .apiServerEtcdClient = (cluster ++ "-apiserver-etcd") ++ "-" ++ "client" := by
      simp [secretName, Purpose.text, String.append_assoc]
    rw [split, parseSecretName_append (by decide)] at read
    cases read
  · intro other
    rw [secretName, parseSecretName_append (plain_of_ne other), find?_purpose]

theorem secretName_of_parseSecretName (read : parseSecretName isPrint name = .ok (cluster, purpose)) :
    name = secretName cluster purpose := by
  unfold parseSecretName at read
  split at read
  · cases read
  next index found =>
    dsimp only at read
    split at read
    next known =>
      cases read
      have text := List.find?_some known
      rw [beq_iff_eq] at text
      apply String.toList_injective
      rw [secretName, text]
      simpa using eq_of_lastIndex found
    · cases read

theorem kubeconfig_name_restored : "prod-kubeconfig" = secretName "prod" .kubeconfig := by
  have read : parseSecretName (fun _ => false) "prod-kubeconfig" = .ok ("prod", .kubeconfig) := by decide
  exact secretName_of_parseSecretName read

theorem etcdClient_name_unread : parseSecretName (fun _ => false) (secretName "prod" .apiServerEtcdClient) =
      .error (errorf "\"prod-apiserver-etcd-client\" is not a valid cluster secret name. Invalid purpose suffix") := by
  decide

end OcneProvider.Bootstrapper.SecretNames
