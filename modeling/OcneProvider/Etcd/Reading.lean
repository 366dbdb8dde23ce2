import OcneProvider.Controller.Clusters
import OcneProvider.Etcd.Workload

/-! Rules for the etcd functions: what they do to the clusters and when they can
fail. Most of them only read. -/

namespace OcneProvider.Etcd.Reading
open Api.Meta Api.Objects Api.Formats Controller.Calls Controller.Clusters Workload
open Effects.Fallible List

variable {ok : EtcdClient → World → Prop}

def Member.toPb (member : Member) : PbMember :=
  ⟨member.id, member.name⟩

/-- The nodes with one of the control plane labels, each once. -/
def controlPlaneNodes (world : World) : List Node :=
  addNewNodes
    (addNewNodes [] (world.nodes.filter (·.labels.lookup labelNodeRoleOldControlPlane = some "")))
    (world.nodes.filter (·.labels.lookup labelNodeRoleControlPlane = some ""))

def memberNamed (members : List PbMember) (name : String) : Option PbMember :=
  members.find? (·.name == name)

theorem memberForName_toPb {known : List Member} {members : List PbMember}
    (same : known.map Member.toPb = members) (name : String) :
    (memberForName known name).map Member.toPb = memberNamed members name := by
  rw [memberNamed, ← same, find?_map]
  rfl

theorem memberNamed_mem {members : List PbMember} {name : String} {mem : PbMember}
    (found : memberNamed members name = some mem) : mem ∈ members ∧ mem.name = name :=
  ⟨mem_of_find?_eq_some found, by simpa using find?_some found⟩

theorem controlPlaneNodes_congr {world next : World} (nodes : next.nodes = world.nodes) :
    controlPlaneNodes next = controlPlaneNodes world := by
  simp only [controlPlaneNodes, nodes]

theorem addNewNodes_nodup (known found : List Node) (apart : (known.map Node.name).Nodup) :
    ((addNewNodes known found).map Node.name).Nodup := by
  induction found generalizing known with
  | nil => exact apart
  | cons node rest ih =>
    rw [addNewNodes, foldl_cons]
    split
    · exact ih known apart
    · rename_i absent
      apply ih
      rw [map_append]
      refine nodup_append.mpr ⟨apart, by simp, ?_⟩
      intro name mem other single same
      rw [map_cons, map_nil, mem_singleton] at single
      exact absent (single ▸ same ▸ mem)

theorem controlPlaneNodes_nodup (world : World) : ((controlPlaneNodes world).map Node.name).Nodup :=
  addNewNodes_nodup _ _ (addNewNodes_nodup _ _ nodup_nil)

theorem exists_remaining (world : World) (many : 2 ≤ (controlPlaneNodes world).length) (name : String) :
    ((controlPlaneNodes world).map Node.name).filter (· ≠ name) ≠ [] := by
  intro none
  have all : ∀ other ∈ (controlPlaneNodes world).map Node.name, other = name := by
    simpa [filter_eq_nil_iff] using none
  have single : ((controlPlaneNodes world).map Node.name).length ≤ 1 := by
    have apart := controlPlaneNodes_nodup world
    rw [eq_replicate_of_mem all] at apart ⊢
    simpa [nodup_replicate] using apart
  rw [length_map] at single
  omega

section Rules

variable {mayFail : Prop} {permit : World → Call → Prop} {world : World} {α : Type}
variable {fail : Err → World → Prop} (reads : ∀ world call, changes call = false → permit world call)

include reads

theorem getControlPlaneNodes_wp {ok : List Node → World → Prop} (onOk : ok (controlPlaneNodes world) world)
    (onFail : mayFail → ∀ error, fail error world) : wpE (env mayFail) permit ok fail getControlPlaneNodes world := by
  simp only [getControlPlaneNodes, wpE_bind, wpE_listNodes, wpE_pure]
  exact ⟨reads _ _ rfl, ⟨reads _ _ rfl, onOk, onFail⟩, onFail⟩

theorem members_wp {client : EtcdClient} {ok : List Member → World → Prop}
    (onOk : ∀ known, known.map Member.toPb = world.etcd.members → ok known world)
    (onFail : mayFail → ∀ error, fail error world) : wpE (env mayFail) permit ok fail (members client) world := by
  simp only [members, wpE_bind, wpE_adaptError, wpE_memberList, wpE_alarmList, wpE_pure]
  refine ⟨reads _ _ rfl, fun clusterID => ⟨reads _ _ rfl, fun alarms => onOk _ ?_, ?_⟩, ?_⟩
  · rw [map_map]
    exact map_id _
  · exact fun failing error => onFail failing _
  · exact fun failing error => onFail failing _

theorem connectFirst_wp (errors : List Err) (nodeNames : List String)
    (onOk : ∀ node ∈ nodeNames, ∀ errors, ok ⟨node, world.etcd.leader, errors⟩ world)
    (onFail : nodeNames = [] ∨ mayFail → ∀ error, fail error world) :
    wpE (env mayFail) permit ok fail (connectFirst errors nodeNames) world := by
  induction nodeNames generalizing errors with
  | nil => exact onFail (.inl rfl) _
  | cons node rest ih =>
    simp only [connectFirst, wpE_bind, wpE_attempt, wpE_newEtcdClient, wpE_pure]
    refine ⟨reads _ _ rfl, fun errors => onOk node (by simp) errors, fun failing error => ?_⟩
    exact ih _ (fun other mem => onOk other (mem_cons_of_mem _ mem))
      (fun _ => onFail (.inr failing))

theorem forFirstAvailableNode_wp (nodeNames : List String)
    (onOk : ∀ node ∈ nodeNames, ∀ errors, ok ⟨node, world.etcd.leader, errors⟩ world)
    (onFail : nodeNames = [] ∨ mayFail → ∀ error, fail error world) :
    wpE (env mayFail) permit ok fail (forFirstAvailableNode nodeNames) world := by
  unfold forFirstAvailableNode
  split
  · exact onFail (.inl ‹_›) _
  · exact connectFirst_wp reads [] nodeNames onOk onFail

/-- The leader is a member that runs on one of the nodes. -/
def LeaderKnown (world : World) (nodeNames : List String) : Prop :=
  ∃ member ∈ world.etcd.members, member.id = world.etcd.leader ∧ member.name ∈ nodeNames

omit reads in
theorem find?_leader {known : List Member} (same : known.map Member.toPb = world.etcd.members)
    {member : PbMember} (mem : member ∈ world.etcd.members) (leads : member.id = world.etcd.leader) :
    ∃ found, known.find? (·.id == world.etcd.leader) = some found ∧ found.name = member.name := by
  obtain ⟨old, present, rfl⟩ := mem_map.mp (same ▸ mem)
  have listedId : (known.find? (·.id == world.etcd.leader)).isSome := by
    rw [find?_isSome]
    exact ⟨old, present, beq_iff_eq.mpr leads⟩
  obtain ⟨found, picked⟩ := Option.isSome_iff_exists.mp listedId
  have id : found.id = world.etcd.leader := by simpa using find?_some picked
  have listedFound : Member.toPb found ∈ world.etcd.members :=
    same ▸ mem_map_of_mem (mem_of_find?_eq_some picked)
  have unique : Member.toPb found = Member.toPb old :=
    inj_on_of_nodup_map world.etcd.distinct listedFound mem (id.trans leads.symm)
  exact ⟨found, picked, congrArg PbMember.name unique⟩

section

variable (onOk : ∀ node errors, ok ⟨node, world.etcd.leader, errors⟩ world)
include onOk

theorem getLeaderClient_wp (nodeName : String) {allNodes : List String}
    (onFail : mayFail ∨ ¬ LeaderKnown world allNodes → ∀ error, fail error world) :
    wpE (env mayFail) permit ok fail (getLeaderClient nodeName allNodes) world := by
  simp only [getLeaderClient, wpE_bind, wpE_adaptError]
  refine forFirstAvailableNode_wp reads [nodeName] (fun node _ errors => ?_) ?_
  · refine members_wp reads (fun known same => ?_) (fun failing error => onFail (.inl failing) _)
    split
    · split
      · refine forFirstAvailableNode_wp reads _ (fun node _ errors => onOk node errors) ?_
        rintro (empty | failing) error
        · simp at empty
        · exact onFail (.inl failing) error
      · rename_i leader found unlisted
        refine onFail (.inr ?_) _
        rintro ⟨member, mem, leads, named⟩
        obtain ⟨other, picked, name⟩ := find?_leader same mem leads
        obtain rfl : leader = other := Option.some.inj (found.symm.trans picked)
        exact unlisted (name ▸ named)
    · rename_i missing
      refine onFail (.inr ?_) _
      rintro ⟨member, mem, leads, -⟩
      obtain ⟨other, picked, _⟩ := find?_leader same mem leads
      exact absurd (missing.symm.trans picked) (by simp)
  · rintro (empty | failing) error
    · simp at empty
    · exact onFail (.inl failing) _

theorem firstLeaderClient_wp {allNodes : List String} (errors : List Err) (nodeNames : List String)
    (onFail : nodeNames = [] ∨ mayFail ∨ ¬ LeaderKnown world allNodes → ∀ error, fail error world) :
    wpE (env mayFail) permit ok fail (firstLeaderClient allNodes errors nodeNames) world := by
  induction nodeNames generalizing errors with
  | nil => exact onFail (.inl rfl) _
  | cons nodeName rest ih =>
    simp only [firstLeaderClient, wpE_bind, wpE_attempt, wpE_pure]
    refine getLeaderClient_wp reads onOk nodeName fun lost error => ?_
    by_cases connection : error.is .etcdNodeConnection = true
    · simp only [connection, if_true]
      exact ih _ fun _ => onFail (.inr lost)
    · simp only [connection, Bool.false_eq_true, if_false, wpE_throw]
      exact onFail (.inr lost) error

theorem forLeader_wp (nodeNames : List String)
    (onFail : mayFail ∨ ¬ LeaderKnown world nodeNames → ∀ error, fail error world) :
    wpE (env mayFail) permit ok fail (forLeader nodeNames) world := by
  unfold forLeader
  split
  · rename_i empty
    refine onFail (.inr fun ⟨mem, _, _, named⟩ => ?_) _
    simp [empty] at named
  · rename_i nonempty
    refine firstLeaderClient_wp reads onOk [] nodeNames ?_
    rintro (empty | lost) error
    · exact absurd empty nonempty
    · exact onFail lost error

end

theorem etcdMembers_wp {ok : List String → World → Prop} (onOk : ok (world.etcd.members.map PbMember.name) world)
    (onFail : mayFail ∨ ¬ LeaderKnown world ((controlPlaneNodes world).map Node.name) → ∀ error, fail error world) :
    wpE (env mayFail) permit ok fail etcdMembers world := by
  simp only [etcdMembers, wpE_bind, wpE_adaptError, wpE_pure]
  refine getControlPlaneNodes_wp reads ?_ (fun failing error => onFail (.inl failing) _)
  refine forLeader_wp reads (fun node errors => ?_) _ (fun lost error => onFail lost _)
  refine members_wp reads (fun known same => ?_) (fun failing error => onFail (.inl failing) _)
  have names : known.map Member.name = world.etcd.members.map PbMember.name := by
    rw [← same, map_map]
    rfl
  rw [names]
  exact onOk

theorem removeMemberForNode_wp {name : String} {ok : Unit → World → Prop}
    (removes : ∀ node member, memberNamed world.etcd.members name = some member →
      permit world (.memberRemove node member.id))
    (onAbsent : memberNamed world.etcd.members name = none → ok () world)
    (onRemoved : ∀ member, memberNamed world.etcd.members name = some member → ∀ leader,
      (world.etcd.leader ≠ member.id → leader = world.etcd.leader) → ok () (world.removeMember member.id leader))
    (onFail : mayFail ∨ (controlPlaneNodes world).length < 2 → ∀ error, fail error world)
    (onFailRemoved : mayFail → ∀ error member, memberNamed world.etcd.members name = some member →
      ∀ leader, fail error (world.removeMember member.id leader)) :
    wpE (env mayFail) permit ok fail (removeMemberForNode name) world := by
  have onReadFail : mayFail → ∀ error, fail error world := fun failing => onFail (.inl failing)
  simp only [removeMemberForNode, wpE_bind]
  apply getControlPlaneNodes_wp reads _ onReadFail
  split
  · exact onFail (.inr ‹_›) _
  · rename_i many
    have remaining := exists_remaining world (by omega) name
    simp only [wpE_bind, wpE_adaptError]
    refine forFirstAvailableNode_wp reads _ (fun node _ errors => ?_) (fun failing error => ?_)
    · refine members_wp reads (fun known same => ?_) (fun failing error => onReadFail failing _)
      have mem := memberForName_toPb same name
      cases found : memberForName known name with
      | none =>
        rw [found] at mem
        exact onAbsent mem.symm
      | some member =>
        rw [found] at mem
        simp only [removeMember, wpE_adaptError, wpE_memberRemove]
        exact ⟨removes _ _ mem.symm, fun leader elected => onRemoved _ mem.symm leader elected,
          fun failing error => ⟨onReadFail failing _, fun leader _ => onFailRemoved failing _ _ mem.symm leader⟩⟩
    · exact onReadFail (failing.resolve_left remaining) _

omit reads in
theorem moveLeadership_wp {client : EtcdClient} {known : List Member} {node candidateNode : String}
    {ok : Unit → World → Prop} (same : known.map Member.toPb = world.etcd.members)
    (leaderID : client.leaderID = world.etcd.leader) (moves : ∀ node id, permit world (.moveLeader node id))
    (onStay : (∀ current, memberNamed world.etcd.members node = some current → current.id ≠ world.etcd.leader) →
      ok () world)
    (onMove : ∀ next, memberNamed world.etcd.members candidateNode = some next → ok () (world.moveLeader next.id))
    (onFail : mayFail ∨ memberNamed world.etcd.members candidateNode = none → ∀ error, fail error world)
    (onFailMoved : mayFail → ∀ error id, fail error (world.moveLeader id)) :
    wpE (env mayFail) permit ok fail (moveLeadership client known node candidateNode) world := by
  have mem := memberForName_toPb same node
  have listedNext := memberForName_toPb same candidateNode
  unfold moveLeadership
  rw [leaderID]
  cases found : memberForName known node with
  | none =>
    rw [found] at mem
    exact onStay fun current is => absurd (mem.trans is) (by simp)
  | some current =>
    rw [found] at mem
    by_cases leads : current.id = world.etcd.leader
    · simp only [leads, ne_eq, not_true_eq_false, if_false]
      cases foundNext : memberForName known candidateNode with
      | none =>
        rw [foundNext] at listedNext
        exact onFail (.inr listedNext.symm) _
      | some next =>
        rw [foundNext] at listedNext
        simp only [moveLeader, wpE_adaptError, wpE_moveLeaderTo]
        exact ⟨moves _ _, onMove _ listedNext.symm,
          fun failing error => ⟨onFail (.inl failing) _, onFailMoved failing _ _⟩⟩
    · simp only [leads, ne_eq, not_false_eq_true, if_true, wpE_pure]
      refine onStay fun other is => ?_
      obtain rfl := Option.some.inj (mem.trans is)
      exact leads

/-- A candidate can take over from a machine: it has a member. -/
structure Forwardable (world : World) (machine : Machine) (leaderCandidate : Option Machine) : Prop where
  leader : machine.nodeRef ≠ none → LeaderKnown world ((controlPlaneNodes world).map Node.name)
  candidate : machine.nodeRef ≠ none → ∃ candidate node, leaderCandidate = some candidate ∧
    candidate.nodeRef = some node ∧ memberNamed world.etcd.members node ≠ none

theorem forwardEtcdLeadership_wp {machine : Machine} {leaderCandidate : Option Machine} {ok : Unit → World → Prop}
    (moves : ∀ node id, permit world (.moveLeader node id)) (onStay : (∀ node current, machine.nodeRef = some node →
      memberNamed world.etcd.members node = some current → current.id ≠ world.etcd.leader) → ok () world)
    (onMove : ∀ candidate node next, leaderCandidate = some candidate → candidate.nodeRef = some node →
      memberNamed world.etcd.members node = some next → ok () (world.moveLeader next.id))
    (onFail : mayFail ∨ ¬ Forwardable world machine leaderCandidate → ∀ error, fail error world)
    (onFailMoved : mayFail → ∀ error id, fail error (world.moveLeader id)) :
    wpE (env mayFail) permit ok fail (forwardEtcdLeadership machine leaderCandidate) world := by
  have onReadFail : mayFail → ∀ error, fail error world := fun failing => onFail (.inl failing)
  unfold forwardEtcdLeadership
  cases hasNode : machine.nodeRef with
  | none => exact onStay (by simp [hasNode])
  | some node =>
    have runs : machine.nodeRef ≠ none := by simp [hasNode]
    cases leaderCandidate with
    | none =>
      refine onFail (.inr fun able => ?_) _
      obtain ⟨candidate, _, given, _⟩ := able.candidate runs
      exact absurd given (by simp)
    | some candidate =>
      have unable : ∀ {candidateNode}, candidate.nodeRef = candidateNode →
          (∀ node, candidateNode = some node → memberNamed world.etcd.members node = none) →
          ¬ Forwardable world machine (some candidate) := by
        intro candidateNode onNode absent able
        obtain ⟨other, otherNode, given, is, mem⟩ := able.candidate runs
        obtain rfl := Option.some.inj given
        exact mem (absent otherNode (onNode.symm.trans is))
      cases candidateHasNode : candidate.nodeRef with
      | none =>
        simp only [candidateHasNode, wpE_throw]
        exact onFail (.inr (unable candidateHasNode (by simp))) _
      | some candidateNode =>
        simp only [candidateHasNode, wpE_bind, wpE_adaptError]
        refine getControlPlaneNodes_wp reads ?_ (fun failing error => onReadFail failing _)
        refine forLeader_wp reads (fun client errors => ?_) _ ?_
        · refine members_wp reads (fun known same => ?_) (fun failing error => onReadFail failing _)
          refine moveLeadership_wp same rfl moves ?_ ?_ ?_ onFailMoved
          · exact fun stays => onStay fun other current onNode is =>
              stays current (Option.some.inj (hasNode.symm.trans onNode) ▸ is)
          · exact fun next is => onMove candidate candidateNode next rfl candidateHasNode is
          · rintro (failing | absent) error
            · exact onReadFail failing error
            · exact onFail (.inr (unable candidateHasNode fun node is => Option.some.inj is ▸ absent)) error
        · rintro (failing | unknown) error
          · exact onReadFail failing _
          · exact onFail (.inr fun able => unknown (able.leader runs)) _

omit reads in
theorem removeNodeFromOCNEConfigMap_wp (name : String) (version : Version)
    {ok : Unit → World → Prop} (permitted : permit world (.task (.updateClusterStatus name)))
    (onOk : ok () world) (onFail : mayFail → ∀ error, fail error world) :
    wpE (env mayFail) permit ok fail (removeNodeFromOCNEConfigMap name version) world := by
  unfold removeNodeFromOCNEConfigMap
  split
  · exact onOk
  · rw [wpE_runTask]
    exact ⟨permitted, onOk, onFail⟩

omit reads in
theorem removeMachineFromOCNEConfigMap_wp (machine : Machine) (version : Version)
    {ok : Unit → World → Prop} (permitted : ∀ name, permit world (.task (.updateClusterStatus name)))
    (onOk : ok () world) (onFail : mayFail → ∀ error, fail error world) :
    wpE (env mayFail) permit ok fail (removeMachineFromOCNEConfigMap machine version) world := by
  unfold removeMachineFromOCNEConfigMap
  split
  · exact onOk
  · exact removeNodeFromOCNEConfigMap_wp _ version (permitted _) onOk onFail

end Rules

end OcneProvider.Etcd.Reading
