import OcneProvider.Etcd.Reading

/-! Reconciliation of the etcd members with the nodes: it removes the members
whose node is gone, and only those. -/

namespace OcneProvider.Etcd.Orphans
open Api.Meta Api.Objects Api.Formats Controller.Calls Controller.Clusters Workload Reading
open Effects.Program Effects.Fallible List

/-- A member that has started, but whose node is not among those listed. -/
def isOrphan (nodeNames : List String) (name : String) : Prop :=
  name ≠ "" ∧ name ∉ nodeNames

instance (nodeNames : List String) (name : String) : Decidable (isOrphan nodeNames name) :=
  inferInstanceAs (Decidable (_ ∧ _))

/-- No two members share a name, but for those that have none yet. -/
def NamesDistinct (members : List PbMember) : Prop :=
  ∀ first ∈ members, ∀ second ∈ members, first.name ≠ "" → first.name = second.name → first = second

theorem NamesDistinct.sublist {members fewer : List PbMember} (apart : NamesDistinct members)
    (sublist : fewer.Sublist members) : NamesDistinct fewer :=
  fun first member second other => apart first (sublist.subset member) second (sublist.subset other)

/-- The members of one name are gone, and else only the leader has changed. -/
structure Removed (name : String) (world next : World) : Prop where
  machines : next.machines = world.machines
  nodes : next.nodes = world.nodes
  members : next.etcd.members = world.etcd.members.filter (·.name ≠ name)

theorem Removed.of_absent {name : String} {world : World}
    (absent : ∀ member ∈ world.etcd.members, member.name ≠ name) : Removed name world world where
  machines := rfl
  nodes := rfl
  members := by
    symm
    simpa using absent

theorem Removed.of_remove {world : World} {member : PbMember} (apart : NamesDistinct world.etcd.members)
    (mem : member ∈ world.etcd.members) (named : member.name ≠ "") (leader : Nat) :
    Removed member.name world (world.removeMember member.id leader) where
  machines := rfl
  nodes := rfl
  members := by
    apply filter_congr
    intro other present
    have same : other.id = member.id ↔ other.name = member.name := by
      constructor
      · intro ids
        rw [inj_on_of_nodup_map world.etcd.distinct present mem ids]
      · intro names
        rw [apart member mem other present named names.symm]
    simp [same]

/-- Some members are removed, and all of the given names if no call fails and there are two nodes. -/
structure Swept (mayFail : Prop) (names : List String) (world : World)
    (result : List String × List Err) (next : World) : Prop where
  machines : next.machines = world.machines
  nodes : next.nodes = world.nodes
  members : next.etcd.members.Sublist world.etcd.members
  complete : ¬ mayFail → 2 ≤ (controlPlaneNodes world).length →
    result = (names, []) ∧ next.etcd.members = world.etcd.members.filter (·.name ∉ names)

theorem Swept.nothing (mayFail : Prop) (world : World) : Swept mayFail [] world ([], []) world where
  machines := rfl
  nodes := rfl
  members := .refl _
  complete _ _ := ⟨rfl, by simp⟩

theorem Swept.cons {mayFail : Prop} {name : String} {names : List String} {world middle next : World}
    {result : List String × List Err} {errors : List Err} (removal : middle = world ∨ Removed name world middle)
    (whole : ¬ mayFail → 2 ≤ (controlPlaneNodes world).length → errors = [] ∧ Removed name world middle)
    (later : Swept mayFail names middle result next) :
    Swept mayFail (name :: names) world (name :: result.1, errors ++ result.2) next := by
  have nodes : middle.nodes = world.nodes := by
    rcases removal with rfl | removed
    · rfl
    · exact removed.nodes
  have machines : middle.machines = world.machines := by
    rcases removal with rfl | removed
    · rfl
    · exact removed.machines
  have members : middle.etcd.members.Sublist world.etcd.members := by
    rcases removal with rfl | removed
    · exact .refl _
    · rw [removed.members]
      exact filter_sublist
  refine ⟨later.machines.trans machines, later.nodes.trans nodes, later.members.trans members, ?_⟩
  intro working many
  obtain ⟨rfl, removed⟩ := whole working many
  obtain ⟨rfl, rest⟩ := later.complete working (by rwa [controlPlaneNodes_congr nodes])
  refine ⟨rfl, ?_⟩
  rw [rest, removed.members, filter_filter]
  apply filter_congr
  intro member _
  simp only [mem_cons, not_or, Bool.decide_and, Bool.and_comm, ne_eq]

def orphanNames (nodeNames : List String) (members : List PbMember) : List String :=
  (members.map PbMember.name).filter (isOrphan nodeNames ·)

theorem mem_orphanNames {nodeNames : List String} {members : List PbMember} {name : String} :
    name ∈ orphanNames nodeNames members ↔ (∃ member ∈ members, member.name = name) ∧ isOrphan nodeNames name := by
  simp [orphanNames]

theorem orphanNames_nodup (nodeNames : List String) {members : List PbMember} (apart : NamesDistinct members)
    (ids : (members.map PbMember.id).Nodup) : (orphanNames nodeNames members).Nodup := by
  have mem : orphanNames nodeNames members =
      (members.filter fun member => isOrphan nodeNames member.name).map PbMember.name := by
    rw [orphanNames, filter_map]
    rfl
  rw [mem]
  refine List.Nodup.map_on ?_ ((List.Nodup.of_map _ ids).filter _)
  intro first firstListed second secondListed same
  rw [mem_filter, decide_eq_true_iff] at firstListed secondListed
  exact apart first firstListed.1 second secondListed.1 firstListed.2.1 same

theorem orphanNames_swept (nodeNames : List String) (members : List PbMember) :
    orphanNames nodeNames (members.filter (·.name ∉ orphanNames nodeNames members)) = [] := by
  apply eq_nil_iff_forall_not_mem.mpr
  intro name found
  obtain ⟨⟨member, kept, rfl⟩, orphan⟩ := mem_orphanNames.mp found
  obtain ⟨mem, spared⟩ := mem_filter.mp kept
  exact of_decide_eq_true spared (mem_orphanNames.mpr ⟨⟨member, mem, rfl⟩, orphan⟩)

section Rules

variable {mayFail : Prop} {permit : World → Call → Prop} {world : World} {nodeNames : List String}
variable (reads : ∀ world call, changes call = false → permit world call)

include reads

variable (apart : NamesDistinct world.etcd.members)
include apart

theorem removeMemberForNode_removed {name : String} (named : name ≠ "")
    {ok : Unit → World → Prop} {fail : Err → World → Prop}
    (removes : ∀ node, ∀ member ∈ world.etcd.members, member.name = name →
      permit world (.memberRemove node member.id)) (onOk : ∀ next, Removed name world next → ok () next)
    (onFail : mayFail ∨ (controlPlaneNodes world).length < 2 → ∀ error next,
      next = world ∨ Removed name world next → fail error next) :
    wpE (env mayFail) permit ok fail (removeMemberForNode name) world := by
  have gone : ∀ member, memberNamed world.etcd.members name = some member → ∀ leader,
      Removed name world (world.removeMember member.id leader) := by
    intro member found leader
    obtain ⟨mem, rfl⟩ := memberNamed_mem found
    exact Removed.of_remove apart mem named leader
  refine removeMemberForNode_wp reads ?_ ?_ ?_ ?_ ?_
  · intro node member found
    obtain ⟨mem, called⟩ := memberNamed_mem found
    exact removes node member mem called
  · intro missing
    apply onOk
    apply Removed.of_absent
    simpa [memberNamed] using missing
  · exact fun member found leader _ => onOk _ (gone member found leader)
  · exact fun failing error => onFail failing error world (.inl rfl)
  · exact fun failing error member found leader => onFail (.inl failing) error _ (.inr (gone member found leader))

/-- What the removal of one orphan leaves, and the errors it collects. -/
def OneRemoved (mayFail : Prop) (name : String) (world : World) (errors : List Err) (next : World) : Prop :=
  (next = world ∨ Removed name world next) ∧
    (¬ mayFail → 2 ≤ (controlPlaneNodes world).length → errors = [] ∧ Removed name world next)

theorem removeOrphan_wp {name : String} (version : Version) (named : name ≠ "")
    (removes : ∀ node, ∀ member ∈ world.etcd.members, member.name = name →
      permit world (.memberRemove node member.id)) :
    (removeOrphan name version).wp (env mayFail) permit (OneRemoved mayFail name world) world := by
  simp only [removeOrphan, wp_bind, wp_outcomes, wp_pure]
  have cleanup : ∀ (removal : Except Err Unit) (next : World), (next = world ∨ Removed name world next) →
      (¬ mayFail → 2 ≤ (controlPlaneNodes world).length → errorsOf removal = [] ∧ Removed name world next) →
      wpE (env mayFail) permit
        (fun value => OneRemoved mayFail name world (errorsOf removal ++ errorsOf (.ok value)))
        (fun error => OneRemoved mayFail name world (errorsOf removal ++ errorsOf (.error error : Except Err Unit)))
        (removeNodeFromOCNEConfigMap name version) next := by
    intro removal next removed whole
    refine removeNodeFromOCNEConfigMap_wp _ _ (reads _ _ rfl) ⟨removed, fun working many => ?_⟩ ?_
    · obtain ⟨none, gone⟩ := whole working many
      exact ⟨by rw [none]; rfl, gone⟩
    · exact fun failing error => ⟨removed, fun working => absurd failing working⟩
  refine removeMemberForNode_removed reads apart named removes ?_ ?_
  · intro next removed
    exact cleanup (.ok ()) next (.inr removed) fun _ _ => ⟨rfl, removed⟩
  · intro failing error next removed
    refine cleanup (.error error) next removed fun working many => ?_
    rcases failing with failing | few
    · exact absurd failing working
    · omega

variable (removes : ∀ world node, ∀ member ∈ world.etcd.members, isOrphan nodeNames member.name →
  permit world (.memberRemove node member.id))

include removes

theorem removeOrphans_wp (version : Version) (known : List Member) :
    (removeOrphans nodeNames version known).wp (env mayFail) permit
      (Swept mayFail ((known.map Member.name).filter (isOrphan nodeNames ·)) world) world := by
  induction known generalizing world with
  | nil => exact Swept.nothing mayFail world
  | cons member rest ih =>
    unfold removeOrphans
    split
    · rename_i spared
      have skip : ¬ isOrphan nodeNames member.name := by
        simp only [isOrphan]
        tauto
      simpa [skip] using ih apart
    · rename_i lost
      have orphan : isOrphan nodeNames member.name := by
        simpa only [isOrphan, not_or] using lost
      rw [map_cons, filter_cons_of_pos (by simpa using orphan), wp_bind]
      refine wp_mono (removeOrphan_wp reads apart version orphan.1 ?_) ?_
      · intro node other mem called
        exact removes world node other mem (called ▸ orphan)
      · rintro errors middle ⟨removed, whole⟩
        have sublist : middle.etcd.members.Sublist world.etcd.members := by
          rcases removed with rfl | removed
          · exact .refl _
          · rw [removed.members]
            exact filter_sublist
        rw [wp_bind]
        exact wp_mono (ih (apart.sublist sublist))
          fun result next swept => Swept.cons removed whole swept

theorem reconcileEtcdMember_wp (version : Version) (nodeName : String) :
    (reconcileEtcdMember nodeNames version nodeName).wp (env mayFail) permit
      (Swept mayFail (orphanNames nodeNames world.etcd.members) world) world := by
  have idle : mayFail → Swept mayFail (orphanNames nodeNames world.etcd.members) world ([], []) world :=
    fun failing => { Swept.nothing mayFail world with complete := fun working => absurd failing working }
  simp only [reconcileEtcdMember, wp_bind, wp_outcomes]
  refine forFirstAvailableNode_wp reads _ (fun node _ errors => ?_) (fun failing error => ?_)
  · refine members_wp reads (fun known mem => ?_) (fun failing error => idle failing)
    have names : known.map Member.name = world.etcd.members.map PbMember.name := by
      rw [← mem, map_map]
      rfl
    rw [orphanNames, ← names]
    exact removeOrphans_wp reads apart removes version known
  · exact idle (failing.resolve_left (by simp))

theorem reconcileMembersOf_wp (version : Version) (nodes : List String) :
    (reconcileMembersOf nodeNames version nodes).wp (env mayFail) permit
      (Swept mayFail (if nodes = [] then [] else orphanNames nodeNames world.etcd.members) world) world := by
  induction nodes generalizing world with
  | nil => exact Swept.nothing mayFail world
  | cons node rest ih =>
    simp only [reconcileMembersOf, wp_bind, reduceCtorEq, if_false]
    refine wp_mono (reconcileEtcdMember_wp reads apart removes version node) ?_
    rintro ⟨removed, errors⟩ middle first
    refine wp_mono (ih (apart.sublist first.members)) ?_
    rintro ⟨laterRemoved, laterErrors⟩ next second
    refine ⟨second.machines.trans first.machines, second.nodes.trans first.nodes,
      second.members.trans first.members, fun working many => ?_⟩
    obtain ⟨swept, members⟩ := first.complete working many
    obtain ⟨again, rest⟩ := second.complete working (by rwa [controlPlaneNodes_congr first.nodes])
    rw [members, orphanNames_swept, ite_self] at again rest
    cases swept
    cases again
    exact ⟨by simp, by simpa using rest⟩

end Rules

section Permits

variable (nodeNames : List String)

def permitted (world : World) (call : Call) : Prop :=
  changes call = false ∨ ∃ node, ∃ member ∈ world.etcd.members,
    isOrphan nodeNames member.name ∧ call = .memberRemove node member.id

theorem reconcileEtcdMembers_wp (mayFail : Prop) {world : World} (version : Version) (some : nodeNames ≠ [])
    (apart : NamesDistinct world.etcd.members) :
    (reconcileEtcdMembers nodeNames version).wp (env mayFail) (permitted nodeNames)
      (fun result next => ∃ errors, result.2 = newAggregate errors ∧
        Swept mayFail (orphanNames nodeNames world.etcd.members) world (result.1, errors) next) world := by
  have removes : ∀ world node, ∀ member ∈ world.etcd.members, isOrphan nodeNames member.name →
      permitted nodeNames world (.memberRemove node member.id) :=
    fun _ node member mem orphan => .inr ⟨node, member, mem, orphan, rfl⟩
  simp only [reconcileEtcdMembers, wp_bind, wp_pure]
  refine wp_mono (reconcileMembersOf_wp (fun _ _ quiet => .inl quiet) apart removes version nodeNames) fun result next swept => ⟨result.2, rfl, ?_⟩
  rwa [if_neg some] at swept

/-- A permitted call never takes away a member without a name or with a node. -/
theorem permitted_keeps {mayFail : Prop} {world next : World} {call : Call} {answer : call.Answer}
    (issued : permitted nodeNames world call) (answered : env mayFail world call answer next)
    {member : PbMember} (spared : ¬ isOrphan nodeNames member.name) (mem : member ∈ world.etcd.members) :
    member ∈ next.etcd.members := by
  rcases issued with quiet | ⟨node, other, present, orphan, rfl⟩
  · rwa [env_unchanged quiet answered]
  · have stays : ∀ leader, member ∈ (world.etcd.remove other.id leader).members := by
      intro leader
      refine mem_filter.mpr ⟨mem, ?_⟩
      have differs : member.id ≠ other.id := by
        intro same
        rw [inj_on_of_nodup_map world.etcd.distinct mem present same] at spared
        exact spared orphan
      simpa using differs
    cases answer with
    | ok value =>
      obtain ⟨leader, _, rfl⟩ := answered
      exact stays leader
    | error error =>
      obtain ⟨_, rfl | ⟨leader, _, rfl⟩⟩ := answered
      · exact mem
      · exact stays leader

theorem permitted_answered {world : World} {call : Call} (issued : permitted nodeNames world call) :
    ∃ answer next, env False world call answer next := by
  refine exists_answer fun machine same => ?_
  subst same
  simp [permitted, changes] at issued

end Permits

/-- A member without a name or with a listed node is never removed. If no call fails and there are two nodes, only
such members are left, and each removed name is returned once. -/
theorem reconcileEtcdMembers_removes_orphans (nodeNames : List String) (listed : nodeNames ≠ [])
    (version : Version) (world : World) (distinct : NamesDistinct world.etcd.members) :
    (∀ trace rest next, Run (env True) (reconcileEtcdMembers nodeNames version) world trace rest next →
      ∀ member ∈ world.etcd.members, member.name = "" ∨ member.name ∈ nodeNames → member ∈ next.etcd.members) ∧
    (2 ≤ (controlPlaneNodes world).length →
      (∃ trace result next,
        Run (env False) (reconcileEtcdMembers nodeNames version) world trace (.done result) next) ∧
      ∀ trace removed error next,
        Run (env False) (reconcileEtcdMembers nodeNames version) world trace (.done (removed, error)) next →
        (∀ member ∈ next.etcd.members, member.name ≠ "" → member.name ∈ nodeNames) ∧
        removed.Nodup ∧
        ∀ name, name ∈ removed ↔
          ∃ member ∈ world.etcd.members, member ∉ next.etcd.members ∧ member.name = name) := by
  refine ⟨fun trace rest next run member present spared => ?_, fun many => ⟨?_, fun trace removed error next run => ?_⟩⟩
  · refine wp_keeps (fun later => member ∈ later.etcd.members) run
      (reconcileEtcdMembers_wp nodeNames True version listed distinct)
      (fun _ _ _ _ issued answered => permitted_keeps nodeNames issued answered ?_) present
    simp only [isOrphan]
    tauto
  · obtain ⟨trace, result, next, run, _⟩ := exists_finished_run
      (reconcileEtcdMembers_wp nodeNames False version listed distinct)
      (fun _ _ => permitted_answered nodeNames)
    exact ⟨trace, result, next, run⟩
  · obtain ⟨errors, _, swept⟩ := wp_done run (reconcileEtcdMembers_wp nodeNames False version listed distinct)
    obtain ⟨returned, left⟩ := swept.complete id many
    obtain ⟨rfl, _⟩ := Prod.mk.injEq .. ▸ returned
    have kept : ∀ member ∈ world.etcd.members,
        member ∈ next.etcd.members ↔ ¬ isOrphan nodeNames member.name := by
      intro member present
      rw [left, mem_filter, decide_eq_true_iff, mem_orphanNames]
      constructor
      · exact fun spared orphan => spared.2 ⟨⟨member, present, rfl⟩, orphan⟩
      · exact fun spared => ⟨present, fun orphan => spared orphan.2⟩
    refine ⟨fun member present named => ?_, orphanNames_nodup nodeNames distinct world.etcd.distinct, fun name => ?_⟩
    · have spared := (kept member (swept.members.subset present)).mp present
      by_contra missing
      exact spared ⟨named, missing⟩
    · rw [mem_orphanNames]
      constructor
      · rintro ⟨⟨member, present, rfl⟩, orphan⟩
        exact ⟨member, present, fun stays => (kept member present).mp stays orphan, rfl⟩
      · rintro ⟨member, present, gone, rfl⟩
        exact ⟨⟨member, present, rfl⟩, by_contra fun spared => gone ((kept member present).mpr spared)⟩

private def controlPlaneNode (name : String) : Node :=
  ⟨name, (∅ : StringMap).insert labelNodeRoleControlPlane "", [], []⟩

def threeMembers : World where
  machines := ⟨[], List.nodup_nil⟩
  nodes := [controlPlaneNode "first", controlPlaneNode "second"]
  etcd := ⟨[⟨1, "first"⟩, ⟨2, "second"⟩, ⟨3, "third"⟩], 1, by decide⟩

theorem reconcileEtcdMembers_removes_third : ∃ trace removed error next,
      Run (env False) (reconcileEtcdMembers ["first", "second"] ⟨1, 25, 0⟩) threeMembers trace
        (.done (removed, error)) next ∧ "third" ∈ removed := by
  have distinct : NamesDistinct threeMembers.etcd.members := by
    unfold NamesDistinct threeMembers
    decide
  obtain ⟨⟨trace, ⟨removed, error⟩, next, run⟩, finished⟩ :=
    (reconcileEtcdMembers_removes_orphans ["first", "second"] (by decide) ⟨1, 25, 0⟩ threeMembers distinct).2
      (by decide)
  obtain ⟨left, _, names⟩ := finished trace removed error next run
  refine ⟨trace, removed, error, next, run, (names "third").mpr ⟨⟨3, "third"⟩, by decide, fun stays => ?_, rfl⟩⟩
  exact absurd (left ⟨3, "third"⟩ stays (by decide)) (by decide)

end OcneProvider.Etcd.Orphans
