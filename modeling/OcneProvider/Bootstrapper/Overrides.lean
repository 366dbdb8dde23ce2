import OcneProvider.Semver.Metadata
import Mathlib.Data.List.Infix

/-! The commands that prepare a node of an OCNE cluster, and the hosts they keep away from its proxy. -/

namespace OcneProvider.Bootstrapper.Overrides
open Api.Meta Api.Bootstrap Semver.Metadata Effects.Fallible List

def defaultOCNECSISocket : String := "/var/run/shared-tmpfs/csi.sock"

def k8sVersionOneTwoFiveSeven : String := "v1.25.7"

structure OCNEOverrideData where
  kubernetesVersion : String
  ocneImageRepository : String
  proxy : Option ProxySpec
  podSubnet : String
  serviceSubnet : String
  skipInstall : Bool

def contains (text part : String) : Bool :=
  part.toList <:+: text.toList

def constructNoProxy (noProxy podSubnet serviceSubnet : String) : String :=
  let localHostPresent := contains noProxy "localhost"
  let socketPresent := contains noProxy defaultOCNECSISocket
  if noProxy = "" then "localhost," ++ podSubnet ++ "," ++ serviceSubnet ++ "," ++ defaultOCNECSISocket
  else if localHostPresent && socketPresent then noProxy
  else if !localHostPresent && !socketPresent then "localhost," ++ noProxy ++ "," ++ defaultOCNECSISocket
  else if !localHostPresent then "localhost," ++ noProxy
  else noProxy ++ "," ++ defaultOCNECSISocket

section Commands

variable (userData : OCNEOverrideData) (metadata : OCNEMetadata) (proxy : ProxySpec)

def yumOrdnfProxyOverrides : List String :=
  [r#"echo "proxy="# ++ proxy.httpProxy ++ r#""| sudo tee -a /etc/yum.conf"#,
    r#"echo "proxy="# ++ proxy.httpProxy ++ r#""| sudo tee -a /etc/dnf/dnf.conf"#]

def writeProxyConf (noProxy : String) : String :=
  r#"echo -e "[Service]\nEnvironment="HTTP_PROXY="# ++ proxy.httpProxy ++ r#""\nEnvironment="HTTPS_PROXY="# ++
    proxy.httpsProxy ++ r#""\nEnvironment="NO_PROXY="# ++ noProxy ++
    r#"""| sudo tee /etc/systemd/system/crio.service.d/proxy.conf"#

def crioProxyOverrides : List String :=
  ["mkdir -p /etc/systemd/system/crio.service.d && sudo touch /etc/systemd/system/crio.service.d/proxy.conf",
    writeProxyConf proxy (constructNoProxy proxy.noProxy userData.podSubnet userData.serviceSubnet)]

def ocneBasicConfig : List String :=
  ["sudo dd iflag=direct if=/dev/oracleoci/oraclevda of=/dev/null count=1",
    "echo 1 | sudo tee /sys/class/block/`readlink /dev/oracleoci/oraclevda | cut -d'/' -f 2`/device/rescan",
    "sudo /usr/libexec/oci-growfs -y",
    r#"sed -ri '/\sswap\s/s/^#?/#/' /etc/fstab"#,
    "swapoff -a",
    "sudo modprobe overlay && sudo modprobe br_netfilter",
    r#"sudo sh -c 'echo "br_netfilter" > /etc/modules-load.d/br_netfilter.conf'"#,
    r#"sudo sh -c 'echo -e "overlay\nbr_netfilter" | sudo tee /etc/modules-load.d/k8s.conf'"#,
    r#"sudo sh -c 'echo -e "net.bridge.bridge-nf-call-iptables  = 1\nnet.bridge.bridge-nf-call-ip6tables = 1\n"# ++
      r#"net.ipv4.ip_forward = 1" | sudo tee /etc/sysctl.d/k8s.conf'"#,
    "sudo sysctl --system"]

def installPackages : String :=
  "sudo dnf install -y kubelet-" ++ metadata.packages.kubelet ++ ".el8 kubeadm-" ++ metadata.packages.kubeadm ++
    ".el8 kubectl-" ++ metadata.packages.kubectl ++ ".el8 helm-" ++ metadata.packages.helm ++ ".el8"

def writeCrioConf : String :=
  r#"sudo sh -c 'echo -e "[ crio ]\n[ crio.api ]\n[ crio.image ]\npause_image = \""# ++
    userData.ocneImageRepository ++ r#"/pause:"# ++ metadata.images.pause ++
    r#"\"\npause_image_auth_file = \"/run/containers/0/auth.json\"\nregistries = [\"docker.io\", \""# ++
    userData.ocneImageRepository ++
    r#"\"]\n[ crio.metrics ]\n[ crio.network ]\nplugin_dirs = [\"/opt/cni/bin\"]\n[crio.runtime]\n"# ++
    r#"cgroup_manager = \"systemd\"\nconmon = \"/usr/bin/conmon\"\nconmon_cgroup = \"system.slice\"\n"# ++
    r#"manage_network_ns_lifecycle = true\nmanage_ns_lifecycle = true\nselinux = false\n"# ++
    r#"[ crio.runtime.runtimes ]\n[ crio.runtime.runtimes.kata ]\n"# ++
    r#"runtime_path = \"/usr/bin/kata-runtime\"\nruntime_type = \"oci\"\n"# ++
    r#"[ crio.runtime.runtimes.runc ]\nallowed_annotations = [\"io.containers.trace-syscall\"]\n"# ++
    r#"monitor_cgroup = \"system.slice\"\n"# ++
    r#"monitor_env = [\"PATH=/usr/local/sbin:/usr/local/bin:/usr/sbin:/usr/bin:/sbin:/bin\"]\n"# ++
    r#"monitor_exec_cgroup = \"\"\nmonitor_path = \"/usr/bin/conmon\"\n"# ++
    r#"privileged_without_host_devices = false\nruntime_config_path = \"\"\nruntime_path = \"\"\n"# ++
    r#"runtime_root = \"/run/runc\"\nruntime_type = \"oci\"\n[ crio.stats ]\n[ crio.tracing ]\n"# ++
    r#""| sudo tee /etc/crio/crio.conf'"#

def ocneDependenciesInstall : List String :=
  ["sudo dnf install -y oracle-olcne-release-el8",
    "sudo dnf config-manager --enable ol8_olcne17 ol8_olcne16 ol8_olcne15 ol8_addons ol8_baseos_latest " ++
      "ol8_appstream ol8_UEKR6",
    "sudo dnf config-manager --disable ol8_olcne14 ol8_olcne13 ol8_olcne12 ol8_developer",
    installPackages metadata,
    "sudo dnf install -y oraclelinux-developer-release-el8 python36-oci-cli olcnectl olcne-api-server olcne-utils",
    writeCrioConf userData metadata]

def ocneServicesStart : List String :=
  ["sudo rm -rf /etc/cni/net.d/100-crio-bridge.conf && sudo systemctl enable crio && " ++
      "sudo systemctl restart crio && sudo systemctl enable kubelet",
    "sudo systemctl disable firewalld && sudo systemctl stop firewalld",
    r#"sudo echo "(allow iscsid_t self (capability (dac_override)))" > /tmp/dac_override.cil"#,
    "sudo semodule -i /tmp/dac_override.cil",
    "sudo systemctl restart iscsid.service",
    "sudo rm -rf /tmp/dac_override.cil"]

/-- One that is given and names at least one server. -/
def usedProxy : Option ProxySpec :=
  userData.proxy.filter fun proxy => proxy.httpProxy ≠ "" || proxy.httpsProxy ≠ ""

def emptyMetadata : OCNEMetadata :=
  ⟨⟨"", "", "", "", "", "", "", "", "", ""⟩, ⟨"", "", "", ""⟩, ""⟩

def overrideVersion : String :=
  if userData.kubernetesVersion = "" then k8sVersionOneTwoFiveSeven else userData.kubernetesVersion

def ocneNodeOverrides : List String :=
  (usedProxy userData).elim [] yumOrdnfProxyOverrides ++ ocneBasicConfig ++
    (if userData.skipInstall then [] else ocneDependenciesInstall userData metadata) ++
    (usedProxy userData).elim [] (crioProxyOverrides userData) ++ ocneServicesStart

def getOCNEOverrides (ocneMeta : Except Err Mapping) : Except Err (List String) := do
  let metadata := ((← ocneMeta).lookup (overrideVersion userData)).getD emptyMetadata
  if metadata.packages.kubeadm = "" then
    throw (errorf ("k8s version '" ++ overrideVersion userData ++ "' not supported with ocne provider."))
  return ocneNodeOverrides userData metadata

/-- The version has packages. -/
def Packaged (ocneMeta : Except Err Mapping) : Prop :=
  ∃ mapping metadata, ocneMeta = .ok mapping ∧ mapping.lookup (overrideVersion userData) = some metadata ∧
    metadata.packages.kubeadm ≠ ""

theorem getOCNEOverrides_eq_ok_iff (ocneMeta : Except Err Mapping) :
    (∃ commands, getOCNEOverrides userData ocneMeta = .ok commands) ↔ Packaged userData ocneMeta := by
  unfold getOCNEOverrides Packaged
  cases ocneMeta with
  | error error => simp [bind, Except.bind]
  | ok mapping =>
    cases known : mapping.lookup (overrideVersion userData) with
    | none => simp [bind, Except.bind, known, emptyMetadata]
    | some metadata => by_cases packaged : metadata.packages.kubeadm = "" <;>
        simp [bind, Except.bind, pure, Except.pure, known, packaged]

end Commands

/-- What stands between commas, unless it is empty. -/
def entries (text : String) : List String :=
  ((text.toList.splitOn ',').filter (· ≠ [])).map String.ofList

theorem mem_entries {text entry : String} :
    entry ∈ entries text ↔ entry ≠ "" ∧ entry.toList ∈ text.toList.splitOn ',' := by
  unfold entries
  constructor
  · simp only [mem_map, mem_filter, decide_eq_true_eq]
    rintro ⟨chars, ⟨mem, nonempty⟩, rfl⟩
    exact ⟨by simpa [← String.toList_inj] using nonempty, by simpa using mem⟩
  · rintro ⟨nonempty, mem⟩
    refine mem_map.mpr ⟨entry.toList, mem_filter.mpr ⟨mem, ?_⟩, String.ofList_toList⟩
    simpa using nonempty

@[simp] theorem mem_entries_join {first rest entry : String} :
    entry ∈ entries (first ++ "," ++ rest) ↔ entry ∈ entries first ∨ entry ∈ entries rest := by
  have split : (first ++ "," ++ rest).toList.splitOn ',' =
      first.toList.splitOn ',' ++ rest.toList.splitOn ',' := by
    simp only [String.toList_append, append_assoc, splitOn_eq_splitOnP]
    exact splitOnP_append_cons _ _ (by decide)
  simp only [mem_entries, split, mem_append]
  tauto

@[simp] theorem mem_entries_localhost {rest entry : String} :
    entry ∈ entries ("localhost," ++ rest) ↔ entry = "localhost" ∨ entry ∈ entries rest := by
  have only : entries "localhost" = ["localhost"] := by decide
  rw [show "localhost," ++ rest = "localhost" ++ "," ++ rest from rfl, mem_entries_join, only, mem_singleton]

@[simp] theorem entries_socket : entries defaultOCNECSISocket = [defaultOCNECSISocket] := by decide

@[simp] theorem entries_empty : entries "" = [] := by decide

section Completeness

variable (noProxy podSubnet serviceSubnet : String)

/-- The user's entries, the local host, the socket and the subnets are all entries. -/
structure Complete (value : String) : Prop where
  user : ∀ entry ∈ entries noProxy, entry ∈ entries value
  localhost : "localhost" ∈ entries value
  socket : defaultOCNECSISocket ∈ entries value
  pods : ∀ entry ∈ entries podSubnet, entry ∈ entries value
  services : ∀ entry ∈ entries serviceSubnet, entry ∈ entries value

variable {noProxy podSubnet serviceSubnet}

variable {entry : String}

theorem mem_entries_constructNoProxy (given : noProxy ≠ "") :
    entry ∈ entries (constructNoProxy noProxy podSubnet serviceSubnet) ↔ entry ∈ entries noProxy ∨
      (entry = "localhost" ∧ contains noProxy "localhost" = false) ∨
      (entry = defaultOCNECSISocket ∧ contains noProxy defaultOCNECSISocket = false) := by
  unfold constructNoProxy
  rw [if_neg given]
  cases contains noProxy "localhost" <;> cases contains noProxy defaultOCNECSISocket
  -- What the user lists comes after the local host.
  · simpa [or_assoc] using or_left_comm
  · simpa using or_comm
  · simp
  · simp

theorem mem_entries_constructNoProxy_of_mem (mem : entry ∈ entries noProxy) :
    entry ∈ entries (constructNoProxy noProxy podSubnet serviceSubnet) := by
  have given : noProxy ≠ "" := by
    rintro rfl
    simp at mem
  exact (mem_entries_constructNoProxy given).mpr (.inl mem)

theorem mem_entries_constructNoProxy_empty :
    entry ∈ entries (constructNoProxy "" podSubnet serviceSubnet) ↔ entry = "localhost" ∨ entry ∈ entries podSubnet ∨
      entry ∈ entries serviceSubnet ∨ entry = defaultOCNECSISocket := by
  simp [constructNoProxy, or_assoc]

/-- The host is an entry unless the user's text has its letters but not the entry. -/
theorem localhost_mem_iff (given : noProxy ≠ "") :
    "localhost" ∈ entries (constructNoProxy noProxy podSubnet serviceSubnet) ↔
      (contains noProxy "localhost" → "localhost" ∈ entries noProxy) := by
  have other : "localhost" ≠ defaultOCNECSISocket := by decide
  rw [mem_entries_constructNoProxy given]
  cases contains noProxy "localhost" <;> simp [other]

theorem socket_mem_iff (given : noProxy ≠ "") :
    defaultOCNECSISocket ∈ entries (constructNoProxy noProxy podSubnet serviceSubnet) ↔
      (contains noProxy defaultOCNECSISocket → defaultOCNECSISocket ∈ entries noProxy) := by
  have other : defaultOCNECSISocket ≠ "localhost" := by decide
  rw [mem_entries_constructNoProxy given]
  cases contains noProxy defaultOCNECSISocket <;> simp [other]

/-- The subnets are only written if the user lists nothing; otherwise the user has to list them. -/
theorem constructNoProxy_complete_iff (noProxy podSubnet serviceSubnet : String) :
    Complete noProxy podSubnet serviceSubnet (constructNoProxy noProxy podSubnet serviceSubnet) ↔
      noProxy = "" ∨
        (contains noProxy "localhost" → "localhost" ∈ entries noProxy) ∧
        (contains noProxy defaultOCNECSISocket → defaultOCNECSISocket ∈ entries noProxy) ∧
        ∀ entry ∈ entries podSubnet ++ entries serviceSubnet,
          entry ∈ entries noProxy ∨ entry = "localhost" ∨ entry = defaultOCNECSISocket := by
  by_cases given : noProxy = ""
  · subst given
    simp only [true_or, iff_true]
    constructor <;> simp +contextual [mem_entries_constructNoProxy_empty]
  · simp only [given, false_or, mem_append]
    constructor
    · rintro ⟨-, localhost, socket, pods, services⟩
      refine ⟨(localhost_mem_iff given).mp localhost, (socket_mem_iff given).mp socket, fun entry mem => ?_⟩
      have written := mem.elim (pods entry) (services entry)
      rcases (mem_entries_constructNoProxy given).mp written with listed | ⟨isLocalhost, -⟩ | ⟨isSocket, -⟩
      · exact .inl listed
      · exact .inr (.inl isLocalhost)
      · exact .inr (.inr isSocket)
    · rintro ⟨localhost, socket, subnets⟩
      have written : ∀ entry, entry ∈ entries podSubnet ∨ entry ∈ entries serviceSubnet →
          entry ∈ entries (constructNoProxy noProxy podSubnet serviceSubnet) := by
        intro entry mem
        rcases subnets entry mem with listed | rfl | rfl
        · exact mem_entries_constructNoProxy_of_mem listed
        · exact (localhost_mem_iff given).mpr localhost
        · exact (socket_mem_iff given).mpr socket
      exact ⟨fun entry => mem_entries_constructNoProxy_of_mem, (localhost_mem_iff given).mpr localhost,
        (socket_mem_iff given).mpr socket, fun entry mem => written entry (.inl mem),
        fun entry mem => written entry (.inr mem)⟩

/-- With one host of the user's own the subnets go through the proxy, and one with the same letters keeps the local
host out. -/
theorem constructNoProxy_incomplete : constructNoProxy "localhost.example.com" "10.244.0.0/16" "10.96.0.0/12" =
        "localhost.example.com,/var/run/shared-tmpfs/csi.sock" ∧
      ¬ Complete "localhost.example.com" "10.244.0.0/16" "10.96.0.0/12"
        (constructNoProxy "localhost.example.com" "10.244.0.0/16" "10.96.0.0/12") := by
  refine ⟨by decide +kernel, fun complete => ?_⟩
  have missing : "localhost" ∉ entries (constructNoProxy "localhost.example.com" "10.244.0.0/16" "10.96.0.0/12") := by
    decide +kernel
  exact missing complete.localhost

end Completeness

end OcneProvider.Bootstrapper.Overrides
