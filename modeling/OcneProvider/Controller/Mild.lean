import OcneProvider.Controller.Reconcile

/-! The parts of a pass that neither create nor delete machines nor change who owns
them: what they return about the control plane, whatever the answers to their calls. -/

namespace OcneProvider.Controller.Mild
open Api.Meta Api.Conditions Api.Bootstrap Api.Objects Api.Formats Collections Calls Plane Health
open Remediation Scale Reconcile Etcd.Workload Effects.Program Effects.Fallible

variable {post : Unit → Prop}

def isMild : Call → Bool
  | .listMachines _ | .createMachine _ | .deleteMachine _ => false
  | .patchMachine _ patch => patch.ownerReferences.isNone
  | _ => true

abbrev MildE {ε α : Type} (post : α → Prop) (part : Try signature ε α) : Prop :=
  WithinE (fun call => isMild call = true) post part

abbrev MildP {α : Type} (post : α → Prop) (program : Prog signature α) : Prop :=
  program.Within (fun call => isMild call = true) post

abbrev Mildly {ε α : Type} (part : Try signature ε α) : Prop := MildE (fun _ => True) part

theorem Mildly.run {ε α : Type} {part : Try signature ε α} (mild : Mildly part) {after : Except ε α → Prop}
    (onOk : ∀ value, after (.ok value)) (onError : ∀ error, after (.error error)) : MildP after part.run :=
  WithinE.run mild (fun value _ => onOk value) onError

/-- What is left of a machine without the parts that a pass writes on it. -/
def bare (machine : Machine) : Machine :=
  { machine with labels := ∅, conditions := [] }

/-- The same machines in the same order, up to labels and conditions. -/
def Alike (before after : Machines) : Prop :=
  after.items.map bare = before.items.map bare

/-- The same up to what a pass writes on machines and its own conditions. -/
structure Kept (before after : ControlPlane) : Prop where
  machines : Alike before.machines after.machines
  ocnecp : after.ocnecp = { before.ocnecp with conditions := after.ocnecp.conditions }
  cluster : after.cluster = before.cluster

section Alike

variable {before middle after : Machines}

variable (now : Time) (machines : Machines) (name : String)

theorem Alike.refl : Alike machines machines := rfl

theorem Alike.trans (first : Alike before middle) (second : Alike middle after) : Alike before after :=
  Eq.trans second first

theorem alike_of_map {change : Machine → Machine} (items : after.items = before.items.map change)
    (same : ∀ machine, bare (change machine) = bare machine) : Alike before after := by
  unfold Alike
  rw [items, List.map_map]
  exact List.map_congr_left fun machine _ => same machine

theorem Alike.filter (alike : Alike before after) {keep : Machine → Bool}
    (ignores : ∀ machine, keep (bare machine) = keep machine) : Alike (before.filter keep) (after.filter keep) := by
  have filtered : ∀ items : List Machine, (items.filter keep).map bare = (items.map bare).filter keep := by
    intro items
    rw [List.filter_map]
    congr 2
    exact funext fun machine => (ignores machine).symm
  unfold Alike Machines.filter
  rw [filtered, filtered, alike]

theorem Alike.len (alike : Alike before after) : after.len = before.len := by
  simpa [Machines.len] using congrArg List.length alike

theorem Alike.exists_mem (alike : Alike before after) {machine : Machine} (member : machine ∈ after) :
    ∃ old ∈ before, bare old = bare machine := by
  have mem : bare machine ∈ before.items.map bare := alike ▸ List.mem_map_of_mem member
  simpa using mem

theorem alike_setMachineCondition (condition : Condition) :
    Alike machines (setMachineCondition now machines name condition) := by
  refine alike_of_map rfl fun machine => ?_
  split <;> rfl

theorem alike_setMachineConditions
    (conditions : List Condition) : Alike machines (setMachineConditions now machines name conditions) := by
  induction conditions generalizing machines with
  | nil => exact Alike.refl machines
  | cons condition rest ih => exact (alike_setMachineCondition now machines name condition).trans (ih _)

end Alike

theorem Kept.refl (plane : ControlPlane) : Kept plane plane := ⟨rfl, rfl, rfl⟩

theorem Kept.trans {before middle after : ControlPlane} (first : Kept before middle) (second : Kept middle after) :
    Kept before after where
  machines := first.machines.trans second.machines
  ocnecp := by rw [second.ocnecp, first.ocnecp]
  cluster := second.cluster.trans first.cluster

section Calls

private theorem answers {P : Prop} {α : Type} {post : α → Prop} (mild : P) :
    (P ∧ ∀ (answer : Except Err α) value, answer = .ok value → post value) ↔ ∀ value, post value :=
  ⟨fun valid value => valid.2 (.ok value) value rfl, fun valid => ⟨mild, fun _ value _ => valid value⟩⟩

variable (node : String) (name : String) (ref : ObjectReference) (id : Nat)

@[simp] theorem mild_runTask (task : Task) : MildE post (runTask task) ↔ ∀ value, post value := answers rfl

@[simp] theorem mild_reconcileKubeconfig {post : Result → Prop} :
    MildE post reconcileKubeconfig ↔ ∀ value, post value := answers rfl

@[simp] theorem mild_getControlPlaneUncached {post : Option Time → Prop} :
    MildE post getControlPlaneUncached ↔ ∀ value, post value := answers rfl

@[simp] theorem mild_getInfra {post : InfraObject → Prop} :
    MildE post (getInfra ref) ↔ ∀ value, post value := answers rfl

@[simp] theorem mild_getOCNEConfig (ns name : String) {post : OCNEConfig → Prop} :
    MildE post (getOCNEConfig ns name) ↔ ∀ value, post value := answers rfl

@[simp] theorem mild_now {post : Time → Prop} : MildE post now ↔ ∀ value, post value :=
  (withinE_lift _).trans ⟨And.right, fun valid => ⟨rfl, valid⟩⟩

@[simp] theorem mild_generateName (base : String) {post : String → Prop} :
    MildE post (generateName base) ↔ ∀ value, post value :=
  (withinE_lift _).trans ⟨And.right, fun valid => ⟨rfl, valid⟩⟩

@[simp] theorem mild_createFromTemplate (input : CreateFromTemplateInput) {post : ObjectReference → Prop} :
    MildE post (createFromTemplate input) ↔ ∀ value, post value := answers rfl

@[simp] theorem mild_createOCNEConfig (config : OCNEConfig) {post : String → Prop} :
    MildE post (createOCNEConfig config) ↔ ∀ value, post value := answers rfl

theorem mild_patchMachine {patch : MachinePatch} (kept : patch.ownerReferences = none) :
    MildE post (patchMachine name patch) ↔ ∀ value, post value :=
  answers (by simp [isMild, kept])

@[simp] theorem mild_getPod {post : Pod → Prop} : MildE post (getPod name) ↔ ∀ value, post value := answers rfl

@[simp] theorem mild_getAPIServerCertificateExpiry {post : Time → Prop} :
    MildE post (getAPIServerCertificateExpiry node) ↔ ∀ value, post value := answers rfl

@[simp] theorem mild_listNodes (label : String) {post : List Node → Prop} :
    MildE post (listNodes label) ↔ ∀ value, post value := answers rfl

@[simp] theorem mild_newEtcdClient {post : EtcdClient → Prop} :
    MildE post (newEtcdClient node) ↔ ∀ value, post value := answers rfl

@[simp] theorem mild_memberList {post : Nat × List PbMember → Prop} :
    MildE post (memberList node) ↔ ∀ value, post value := answers rfl

@[simp] theorem mild_alarmList {post : List MemberAlarm → Prop} :
    MildE post (alarmList node) ↔ ∀ value, post value := answers rfl

@[simp] theorem mild_memberRemove : MildE post (memberRemove node id) ↔ ∀ value, post value := answers rfl

@[simp] theorem mild_moveLeaderTo : MildE post (moveLeaderTo node id) ↔ ∀ value, post value := answers rfl

@[simp] theorem mild_compute {ε α : Type} {result : Except ε α} {post : α → Prop} :
    MildE post (ExceptT.mk (pure result) : Try signature ε α) ↔ ∀ value, result = .ok value → post value := Iff.rfl

end Calls

section Etcd

theorem getControlPlaneNodes_mild : Mildly getControlPlaneNodes := by
  simp [getControlPlaneNodes]

variable (machine : Machine) (client : EtcdClient) (name : String) (nodeNames : List String) (version : Version)
  (nodeName : String) (known : List Member)

theorem members_mild : Mildly (members client) := by
  simp [members]

theorem connectFirst_mild (errors : List Err) (nodeNames : List String) :
    Mildly (connectFirst errors nodeNames) := by
  induction nodeNames generalizing errors with
  | nil => simp [connectFirst]
  | cons node rest ih =>
    simp only [connectFirst, withinE_bind, withinE_attempt]
    exact Mildly.run (by simp) (fun client => by simp) fun error => ih _

theorem forFirstAvailableNode_mild : Mildly (forFirstAvailableNode nodeNames) := by
  unfold forFirstAvailableNode
  split
  · simp
  · exact connectFirst_mild [] nodeNames

theorem getLeaderClient_mild (allNodes : List String) : Mildly (getLeaderClient nodeName allNodes) := by
  simp only [getLeaderClient, withinE_bind, withinE_adaptError]
  refine (forFirstAvailableNode_mild _).mono fun client _ => (members_mild client).mono fun known _ => ?_
  split
  · split
    · exact forFirstAvailableNode_mild _
    · simp
  · simp

theorem firstLeaderClient_mild (allNodes : List String) (errors : List Err) (nodeNames : List String) :
    Mildly (firstLeaderClient allNodes errors nodeNames) := by
  induction nodeNames generalizing errors with
  | nil => simp [firstLeaderClient]
  | cons node rest ih =>
    simp only [firstLeaderClient, withinE_bind, withinE_attempt]
    refine (getLeaderClient_mild node allNodes).run (fun client => by simp) fun error => ?_
    by_cases connection : error.is .etcdNodeConnection <;> simp [connection, ih]

theorem forLeader_mild : Mildly (forLeader nodeNames) := by
  unfold forLeader
  split
  · simp
  · exact firstLeaderClient_mild _ _ _

theorem removeMemberForNode_mild : Mildly (removeMemberForNode name) := by
  simp only [removeMemberForNode, withinE_bind]
  refine getControlPlaneNodes_mild.mono fun nodes _ => ?_
  split
  · simp
  · simp only [withinE_bind, withinE_adaptError]
    refine (forFirstAvailableNode_mild _).mono fun client _ => (members_mild client).mono fun known _ => ?_
    split
    · simp
    · simp [removeMember]

theorem removeNodeFromOCNEConfigMap_mild : Mildly (removeNodeFromOCNEConfigMap name version) := by
  unfold removeNodeFromOCNEConfigMap
  split <;> simp

theorem removeEtcdMemberForMachine_mild : Mildly (removeEtcdMemberForMachine machine) := by
  unfold removeEtcdMemberForMachine
  split
  · simp
  · exact removeMemberForNode_mild _

theorem removeMachineFromOCNEConfigMap_mild :
    Mildly (removeMachineFromOCNEConfigMap machine version) := by
  unfold removeMachineFromOCNEConfigMap
  split
  · simp
  · exact removeNodeFromOCNEConfigMap_mild _ _

theorem etcdMembers_mild : Mildly etcdMembers := by
  simp only [etcdMembers, withinE_bind, withinE_adaptError]
  refine getControlPlaneNodes_mild.mono fun nodes _ => (forLeader_mild _).mono fun client _ => ?_
  exact (members_mild client).mono fun known _ => by simp

theorem moveLeadership_mild (node candidateNode : String) :
    Mildly (moveLeadership client known node candidateNode) := by
  unfold moveLeadership
  split
  · simp
  · split
    · simp
    · split <;> simp [moveLeader]

theorem forwardEtcdLeadership_mild {leaderCandidate : Option Machine} :
    Mildly (forwardEtcdLeadership machine leaderCandidate) := by
  unfold forwardEtcdLeadership
  split
  · simp
  · split
    · split
      · simp only [withinE_bind, withinE_adaptError]
        refine getControlPlaneNodes_mild.mono fun nodes _ => (forLeader_mild _).mono fun client _ => ?_
        exact (members_mild client).mono fun known _ => moveLeadership_mild client known _ _
      · simp
    · simp

theorem removeOrphans_mild : MildP (fun _ => True) (removeOrphans nodeNames version known) := by
  induction known with
  | nil => simp [removeOrphans]
  | cons mem rest ih =>
    unfold removeOrphans
    split
    · exact ih
    · simp only [removeOrphan, within_bind, within_pure]
      refine (removeMemberForNode_mild _).run (fun _ => ?_) fun _ => ?_
      all_goals exact (removeNodeFromOCNEConfigMap_mild _ _).run (fun _ => ih) fun _ => ih

theorem reconcileEtcdMember_mild : MildP (fun _ => True) (reconcileEtcdMember nodeNames version nodeName) := by
  simp only [reconcileEtcdMember, within_bind]
  refine (forFirstAvailableNode_mild _).run (fun client => ?_) (by simp)
  rw [within_bind]
  exact (members_mild client).run (fun known => removeOrphans_mild _ _ known) (by simp)

theorem reconcileMembersOf_mild (nodes : List String) :
    MildP (fun _ => True) (reconcileMembersOf nodeNames version nodes) := by
  induction nodes with
  | nil => simp [reconcileMembersOf]
  | cons node rest ih =>
    simp only [reconcileMembersOf, within_bind]
    exact within_mono (reconcileEtcdMember_mild _ _ node) fun _ _ => within_mono ih (by simp)

theorem reconcileMembers_mild : MildP (fun _ => True) (Etcd.Workload.reconcileEtcdMembers nodeNames version) := by
  simp only [Etcd.Workload.reconcileEtcdMembers, within_bind]
  exact within_mono (reconcileMembersOf_mild _ _ _) (by simp)

end Etcd

section Health

variable (now : Time) (plane : ControlPlane) (node : Node) (pods : List (String × ConditionType))
  (found : Inspection) (nodeName : String)

theorem getCurrentEtcdMembers_mild : MildP (fun _ => True) (getCurrentEtcdMembers nodeName) := by
  simp only [getCurrentEtcdMembers, within_bind]
  refine (forFirstAvailableNode_mild _).run (fun client => ?_) (by simp)
  by_cases errors : client.errors = []
  · simp only [errors, ne_eq, not_true_eq_false, if_false, within_bind]
    exact (members_mild client).run (by simp) (by simp)
  · simp [errors]

theorem inspectNode_mild : MildE (fun next => Alike found.machines next.machines) (inspectNode now found nodeName) := by
  have reported : ∀ name condition, Alike found.machines (setMachineCondition now found.machines name condition) :=
    alike_setMachineCondition now found.machines
  unfold inspectNode
  split
  · split <;> simpa using Alike.refl _
  · split
    · simpa using reported _ _
    · simp only [withinE_bind, withinE_lift]
      refine within_mono (getCurrentEtcdMembers_mild nodeName) fun current _ => ?_
      split
      · simpa using reported _ _
      · simp only [withinE_bind, mild_compute, withinE_pure]
        exact fun _ _ => reported _ _

theorem compareMachinesAndMembers_alike : Alike found.machines (compareMachinesAndMembers now found).1 := by
  unfold compareMachinesAndMembers
  split
  · exact Alike.refl _
  · refine alike_of_map rfl fun machine => ?_
    split <;> rfl

theorem updateManagedEtcdConditions_mild : MildE (Kept plane) (updateManagedEtcdConditions plane) := by
  simp only [updateManagedEtcdConditions, withinE_bind, withinE_attempt]
  refine getControlPlaneNodes_mild.run (fun nodes => ?_) fun error => ?_
  · simp only [withinE_bind]
    refine (withinE_foldlM (fun found => Alike plane.machines found.machines)
      (fun found nodeName alike => (inspectNode_mild _ found nodeName).mono fun next => alike.trans)
      (Alike.refl _)).mono fun found alike => ?_
    simp only [withinE_pure]
    exact ⟨alike.trans (compareMachinesAndMembers_alike _ found), rfl, rfl⟩
  · simp only [withinE_pure]
    exact ⟨alike_of_map rfl fun _ => rfl, rfl, rfl⟩

theorem updateEtcdConditions_mild : MildE (Kept plane) (updateEtcdConditions plane) := by
  unfold updateEtcdConditions
  split
  · exact updateManagedEtcdConditions_mild plane
  · simp only [withinE_pure]
    exact ⟨rfl, rfl, rfl⟩

theorem staticPodCondition_mild (component : String) (type : ConditionType) :
    MildP (fun _ => True) (staticPodCondition node component type) := by
  unfold staticPodCondition
  split
  · simp
  · simp only [within_bind]
    refine Mildly.run (by simp) (fun pod => by simp) fun error => ?_
    by_cases missing : error.is .notFound <;> simp [missing]

theorem staticPodConditions_mild : MildP (fun _ => True) (staticPodConditions node pods) := by
  induction pods with
  | nil => simp [staticPodConditions]
  | cons pod rest ih =>
    simp only [staticPodConditions, within_bind]
    exact within_mono (staticPodCondition_mild node _ _) fun _ _ => within_mono ih (by simp)

theorem podReports_mild (machine : Machine) (node : Node) : MildP (fun _ => True) (podReports pods machine node) := by
  unfold podReports
  split
  · simp
  · split
    · simp
    · exact staticPodConditions_mild node pods

theorem inspectStaticPods_mild (found : Machines × List String)
    (node : Node) : MildP (fun next => Alike found.1 next.1) (inspectStaticPods now pods found node) := by
  have reported : ∀ name conditions, Alike found.1 (setMachineConditions now found.1 name conditions) :=
    alike_setMachineConditions now found.1
  unfold inspectStaticPods
  split
  · split <;> simpa using Alike.refl _
  · simp only [within_bind, within_pure]
    exact within_mono (podReports_mild pods _ node) fun _ _ => reported _ _

theorem updateStaticPodConditions_mild : MildP (Kept plane) (updateStaticPodConditions plane) := by
  simp only [updateStaticPodConditions, within_bind]
  refine getControlPlaneNodes_mild.run (fun nodes => ?_) fun error => ?_
  · rw [within_bind]
    refine within_mono (within_foldlM (fun found : Machines × List String => Alike plane.machines found.1)
      (fun found node alike => within_mono (inspectStaticPods_mild _ _ found node) fun next => alike.trans)
      (Alike.refl _)) fun found alike => ?_
    have missing : ∀ pods nodes machines,
        Alike machines (reportMissingNodes plane.reconciliationTime pods nodes machines) := by
      intro pods nodes machines
      refine alike_of_map rfl fun machine => ?_
      split <;> rfl
    exact ⟨alike.trans (missing _ _ _), rfl, rfl⟩
  · exact ⟨alike_of_map rfl fun _ => rfl, rfl, rfl⟩

end Health

section Stages

variable (machines : List Machine) (runtime : Runtime) (cluster : Cluster) {α : Type} (plane : ControlPlane)
  (machine : Machine) (ocnecp : OCNEControlPlane)

theorem getInfraResources_mild : Mildly (getInfraResources machines) := by
  induction machines with
  | nil => simp [getInfraResources]
  | cons machine rest ih =>
    simp only [getInfraResources, withinE_bind, withinE_attempt]
    refine Mildly.run (by simp) (fun infraObj => by simpa using ih) fun error => ?_
    by_cases missing : error.is .notFound <;> simp [missing, ih]

theorem getOCNEConfigs_mild : Mildly (getOCNEConfigs machines) := by
  induction machines with
  | nil => simp [getOCNEConfigs]
  | cons machine rest ih =>
    unfold getOCNEConfigs
    split
    · exact ih
    · simp only [withinE_bind, withinE_attempt]
      refine Mildly.run (by simp) (fun config => by simpa using ih) fun error => ?_
      by_cases missing : error.is .notFound <;> simp [missing, ih]

theorem newPatchHelpers_mild : Mildly (newPatchHelpers machines) := by
  induction machines with
  | nil => simp [newPatchHelpers]
  | cons machine rest ih => simpa [newPatchHelpers] using ih

theorem newControlPlane_mild (owned : Machines) :
    MildE (fun plane => plane.ocnecp = ocnecp ∧ plane.cluster = cluster ∧
      plane.machines = owned) (newControlPlane cluster ocnecp owned) := by
  simp only [newControlPlane, withinE_bind, mild_now, withinE_pure]
  refine (getInfraResources_mild _).mono fun _ _ => (getOCNEConfigs_mild _).mono fun _ _ => ?_
  exact (newPatchHelpers_mild _).mono fun _ _ => by simp

theorem patchEach_mild : Mildly (patchEach machines) := by
  induction machines with
  | nil => simp [patchEach]
  | cons machine rest ih =>
    simp only [patchEach, withinE_bind, withinE_attempt]
    exact Mildly.run ((mild_patchMachine _ rfl).mpr fun _ => trivial) (fun _ => ih.mono (by simp))
      fun _ => ih.mono (by simp)

theorem failIfAny_mild (errors : List Err) (value : α) (post : α → Prop) (held : post value) :
    MildE post (failIfAny errors value : Api α) := by
  unfold failIfAny
  split
  · simpa using held
  · simp

theorem patchMachines_mild : Mildly plane.patchMachines := by
  simp only [ControlPlane.patchMachines, withinE_bind]
  exact (patchEach_mild _).mono fun _ _ => failIfAny_mild _ _ _ trivial

theorem labelMachines_kept : Kept plane (labelMachines plane) := by
  refine ⟨alike_of_map rfl fun machine => ?_, rfl, rfl⟩
  split <;> rfl

theorem reconcileControlPlaneConditions_mild :
    MildE (Kept plane) (reconcileControlPlaneConditions plane) := by
  unfold reconcileControlPlaneConditions
  split
  · simpa using Kept.refl _
  · simp only [runStage, withinE_bind, withinE_adaptError, mild_runTask, withinE_lift, withinE_pure, forall_const]
    refine within_mono (updateStaticPodConditions_mild plane) fun pods kept => ?_
    refine (updateEtcdConditions_mild pods).mono fun members keptToo => ?_
    exact (patchMachines_mild members).mono fun _ _ => kept.trans keptToo

theorem reconcileEtcdMembers_mild : Mildly (Reconcile.reconcileEtcdMembers runtime plane) := by
  unfold Reconcile.reconcileEtcdMembers
  split_ifs
  iterate 4 simp
  simp only [runStage, parseVersion, withinE_bind, withinE_adaptError, mild_runTask, mild_compute, withinE_lift,
    forall_const]
  intro version _
  refine within_mono (reconcileMembers_mild _ version) fun result _ => ?_
  split <;> simp

theorem clearRemediation_mild : MildP (fun _ => True) (clearRemediation machine) := by
  simp only [clearRemediation, within_bind]
  refine Mildly.run (by simp) (fun _ => ?_) (by simp)
  rw [within_bind]
  exact Mildly.run ((mild_patchMachine _ rfl).mpr fun _ => trivial) (by simp) (by simp)

theorem cleanupRemediation_mild : MildP (fun _ => True) (cleanupRemediation machines) := by
  induction machines with
  | nil => simp [cleanupRemediation]
  | cons machine rest ih =>
    unfold cleanupRemediation
    split
    · simp only [within_bind]
      exact within_mono (clearRemediation_mild machine) fun _ _ => within_mono ih (by simp)
    · exact ih

theorem canSafelyRemoveEtcdMember_mild : Mildly (canSafelyRemoveEtcdMember plane machine) := by
  simp only [canSafelyRemoveEtcdMember, withinE_bind, withinE_adaptError, mild_runTask, withinE_pure, forall_const]
  exact etcdMembers_mild

theorem reconcileExpiries_mild (configs : String → Option OCNEConfig) (machines : List Machine) :
    Mildly (reconcileExpiries runtime configs machines) := by
  induction machines generalizing configs with
  | nil => simp [reconcileExpiries]
  | cons machine rest ih =>
    unfold reconcileExpiries
    split
    · split
      · exact ih _
      · simp only [noteExpiry, runStage, withinE_bind, withinE_adaptError, mild_getAPIServerCertificateExpiry,
          mild_runTask, withinE_pure, forall_const]
        exact fun _ => ih _
    · exact ih _

theorem reconcileCertificateExpiries_mild :
    MildE (Kept plane) (reconcileCertificateExpiries runtime plane) := by
  unfold reconcileCertificateExpiries
  split
  · simpa using Kept.refl _
  · split
    · simpa using Kept.refl _
    · simp only [runStage, withinE_bind, withinE_adaptError, mild_runTask, withinE_pure, forall_const]
      exact (reconcileExpiries_mild _ _ _).mono fun _ _ => ⟨rfl, rfl, rfl⟩

theorem updateOCNEConfigMap_mild (spec : OCNEControlPlaneSpec) : Mildly (updateOCNEConfigMap spec) := by
  simp only [updateOCNEConfigMap, runStage, parseVersion, withinE_bind, withinE_adaptError, mild_runTask, forall_const]
  split
  · simp only [withinE_bind, withinE_adaptError, mild_compute, mild_runTask, forall_const]
    intro _ _
    split <;> simp
  · simp

theorem reconcileWorkload_mild : Mildly (reconcileWorkload plane ocnecp) := by
  simp only [reconcileWorkload, withinE_bind, withinE_attempt]
  refine Mildly.run (by simp) (fun _ => ?_) (by simp)
  simp only [runStage, parseVersion, withinE_bind, withinE_adaptError, mild_runTask, mild_compute, forall_const]
  intro _ _
  split
  · split <;> simp
  · split <;> simp

theorem generateKubeadmConfig_mild (spec : OCNEConfigSpec) :
    Mildly (generateKubeadmConfig cluster ocnecp spec) := by
  simp [generateKubeadmConfig]

theorem cleanupFromGeneration_within {allowed : Call → Prop} (deletes : ∀ ref, allowed (.deleteObject ref))
    (refs : List ObjectReference) : (cleanupFromGeneration refs).Within allowed fun _ => True := by
  induction refs with
  | nil => simp [cleanupFromGeneration]
  | cons ref rest ih =>
    refine (within_bind _ _ _).mpr ⟨deletes ref, fun deleted => (within_bind _ _ _).mpr (within_mono ih fun _ _ => ?_)⟩
    cases deleted with
    | ok _ => simp
    | error error => by_cases missing : error.is .notFound <;> simp [missing]

theorem abandonGeneration_within {allowed : Call → Prop} (deletes : ∀ ref, allowed (.deleteObject ref)) (error : Err)
    (refs : List ObjectReference) (post : α → Prop) : WithinE allowed post (abandonGeneration error refs : Api α) := by
  simp only [abandonGeneration, withinE_bind, withinE_lift]
  refine within_mono (cleanupFromGeneration_within deletes refs) fun errors _ => ?_
  split <;> simp

theorem abandonGeneration_mild (error : Err) (refs : List ObjectReference) (post : α → Prop) :
    MildE post (abandonGeneration error refs : Api α) :=
  abandonGeneration_within (fun _ => rfl) error refs post

end Stages

end OcneProvider.Controller.Mild
