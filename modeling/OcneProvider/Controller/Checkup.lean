import OcneProvider.Controller.Calm
import OcneProvider.Controller.EtcdHealth
import OcneProvider.Controller.Leadership
import OcneProvider.Data.Pairs

/-! The inspection of the machines in calm surroundings: every condition it reports on is true in the end,
and all others stay. -/

namespace OcneProvider.Controller.Checkup
open Api.Meta Api.Conditions Api.Bootstrap Api.Objects Api.Formats Collections Calls Clusters Plane Health Scale Reconcile
open Discipline Calm EtcdScan EtcdHealth Leadership Etcd.Workload Etcd.Reading Data Effects.Program Effects.Fallible List

variable {first : Machine} {node : Node} {plane : ControlPlane}

def Confirms (types : List ConditionType) (machine : Machine) : Prop :=
  ∀ type ∈ types, isTrue machine.conditions type = true

/-- The same machine; health conditions that were true still are, and all others stay. -/
structure Improves (before after : Machine) : Prop where
  rest : after = { before with conditions := after.conditions }
  others : ∀ type, type ∉ healthTypes → get after.conditions type = get before.conditions type
  held : ∀ type ∈ healthTypes, isTrue before.conditions type = true → isTrue after.conditions type = true

def Improved (before after : Machines) : Prop := Forall₂ Improves before.items after.items

section Improvement

variable {before middle after machines : Machines} {machine : Machine} {types : List ConditionType}

theorem Improves.refl (machine : Machine) : Improves machine machine := ⟨rfl, fun _ _ => rfl, fun _ _ => id⟩

theorem Improves.trans {second third : Machine} (earlier : Improves first second) (later : Improves second third) :
    Improves first third where
  rest := by rw [later.rest, earlier.rest]
  others type outside := (later.others type outside).trans (earlier.others type outside)
  held type inside holds := later.held type inside (earlier.held type inside holds)

theorem Improves.confirms {second : Machine} (improves : Improves first second) (inside : types ⊆ healthTypes)
    (confirms : Confirms types first) : Confirms types second :=
  fun type mem => improves.held type (inside mem) (confirms type mem)

theorem Improves.nodeRef {second : Machine} (improves : Improves first second) : second.nodeRef = first.nodeRef := by
  rw [improves.rest]

theorem Improves.name {second : Machine} (improves : Improves first second) : second.name = first.name := by
  rw [improves.rest]

theorem Improved.refl (machines : Machines) : Improved machines machines :=
  forall₂_same.mpr fun machine _ => Improves.refl machine

theorem Improved.trans (earlier : Improved before middle) (later : Improved middle after) : Improved before after :=
  Pairs.trans earlier later fun _ _ _ => Improves.trans

theorem Improved.exists_before (improved : Improved before after) (member : machine ∈ after) :
    ∃ old ∈ before, Improves old machine :=
  Pairs.exists_left improved member

theorem Improved.exists_after (improved : Improved before after) (mem : machine ∈ before) :
    ∃ renewed ∈ after, Improves machine renewed :=
  Pairs.exists_right improved mem

theorem improves_set (now : Time) {type : ConditionType} (inside : type ∈ healthTypes) :
    Improves machine { machine with conditions := set now machine.conditions (trueCondition type) } where
  rest := rfl
  others other outside := get_set_other now _ _ fun same => outside (same ▸ inside)
  held other _ holds := by
    by_cases same : other = type
    · subst same
      exact hasStatus_set now machine.conditions (trueCondition other) .True
    · have kept := get_set_other now machine.conditions (trueCondition type) same
      simpa [Api.Conditions.isTrue, hasStatus, kept] using holds

theorem improved_setMachineCondition (now : Time) (machines : Machines) (name : String) {type : ConditionType}
    (inside : type ∈ healthTypes) :
    Improved machines (setMachineCondition now machines name (trueCondition type)) := by
  refine Pairs.map_right fun machine _ => ?_
  split
  · exact improves_set now inside
  · exact Improves.refl machine

theorem confirms_setMachineCondition {now : Time} {name : String} {type : ConditionType}
    (mem : machine ∈ setMachineCondition now machines name (trueCondition type)) (named : machine.name = name) :
    Confirms [type] machine := by
  obtain ⟨old, _, rfl⟩ := mem_map.mp mem
  split at named
  · rename_i same
    simp only [same, if_true, Confirms, mem_singleton, forall_eq]
    exact hasStatus_set now old.conditions (trueCondition type) .True
  · contradiction

theorem setMachineConditions_true (now : Time) (machines : Machines) (name : String) (inside : types ⊆ healthTypes) :
    Improved machines (setMachineConditions now machines name (types.map trueCondition)) ∧
      ∀ machine ∈ setMachineConditions now machines name (types.map trueCondition),
        machine.name = name → Confirms types machine := by
  induction types generalizing machines with
  | nil => exact ⟨Improved.refl machines, fun _ _ _ _ mem => by cases mem⟩
  | cons type rest ih =>
    rw [cons_subset] at inside
    obtain ⟨improved, confirmed⟩ := ih (setMachineCondition now machines name (trueCondition type)) inside.2
    have first := improved_setMachineCondition now machines name inside.1
    refine ⟨first.trans improved, fun machine member named other mem => ?_⟩
    rcases mem_cons.mp mem with rfl | mem
    · obtain ⟨old, present, improves⟩ := improved.exists_before member
      have holds := confirms_setMachineCondition present (improves.name.symm.trans named)
      exact improves.held other inside.1 (holds other (by simp))
    · exact confirmed machine member named other mem

theorem modify_eq_self {change : Machine → Machine} (named : ∀ machine, (change machine).name = machine.name)
    (same : ∀ machine ∈ machines, change machine = machine) : machines.modify change named = machines := by
  have items : machines.items.map change = machines.items := by
    rw [map_congr_left same, map_id']
  cases machines
  simp only [Machines.modify, Machines.mk.injEq]
  exact items

end Improvement

/-- The same machine, as far as it is found and chosen by. -/
structure Shows (original machine : Machine) : Prop where
  name : machine.name = original.name
  marked : hasAnnotationKey deleteMachineAnnotation machine = hasAnnotationKey deleteMachineAnnotation original
  nodeRef : machine.nodeRef = original.nodeRef
  deletion : hasDeletionTimestamp machine = hasDeletionTimestamp original

/-- The same machines, in any order. -/
structure Showing (before after : Machines) : Prop where
  back : ∀ machine ∈ after, ∃ original ∈ before, Shows original machine
  forth : ∀ original ∈ before, ∃ machine ∈ after, Shows original machine

theorem Improves.shown {before after : Machine} (improves : Improves before after) : Shows before after := by
  constructor <;> rw [improves.rest] <;> rfl

theorem Improved.showing {before after : Machines} (improved : Improved before after) : Showing before after where
  back machine member := by
    obtain ⟨old, mem, improves⟩ := improved.exists_before member
    exact ⟨old, mem, improves.shown⟩
  forth old mem := by
    obtain ⟨machine, member, improves⟩ := improved.exists_after mem
    exact ⟨machine, member, improves.shown⟩

/-- Every machine has a node of its own in order, none is being deleted, and there are no other nodes. -/
structure Placed (machines : Machines) (world : World) : Prop where
  located : ∀ machine ∈ machines, ∃ node ∈ controlPlaneNodes world, machine.nodeRef = some node.name
  occupied : ∀ node ∈ controlPlaneNodes world, ∃ machine ∈ machines, machine.nodeRef = some node.name
  distinct : NodesDistinct machines
  staying : ∀ machine ∈ machines, hasDeletionTimestamp machine = false
  ready : ∀ node ∈ controlPlaneNodes world, nodeHasUnreachableTaint node = false ∧ nodeReadyUnknown node = false

/-- Every machine has an etcd member, and every member a machine. -/
structure Membered (machines : Machines) (world : World) : Prop where
  listed : ∀ machine ∈ machines, ∀ nodeName, machine.nodeRef = some nodeName →
    memberNamed world.etcd.members nodeName ≠ none
  owned : ∀ member ∈ world.etcd.members, ∃ machine ∈ machines, machine.nodeRef = some member.name

section Pods

variable {scene : Scene} {permit : World → Call → Prop} {world : World} {machines found : Machines}
variable (plain : Lenient permit)

theorem Placed.showing (placed : Placed machines world) (showing : Showing machines found) : Placed found world where
  located machine member := by
    obtain ⟨old, present, shown⟩ := showing.back machine member
    rw [shown.nodeRef]
    exact placed.located old present
  occupied node mem := by
    obtain ⟨machine, present, onNode⟩ := placed.occupied node mem
    obtain ⟨renewed, member, shown⟩ := showing.forth machine present
    exact ⟨renewed, member, shown.nodeRef.trans onNode⟩
  distinct first isFirst second isSecond runs same := by
    obtain ⟨old, present, shown⟩ := showing.back first isFirst
    obtain ⟨other, otherPresent, otherShown⟩ := showing.back second isSecond
    rw [shown.nodeRef] at runs same
    rw [otherShown.nodeRef] at same
    have equal := placed.distinct old present other otherPresent runs same
    refine Machines.eq_of_name isFirst isSecond ?_
    rw [shown.name, otherShown.name, equal]
  staying machine member := by
    obtain ⟨old, present, shown⟩ := showing.back machine member
    rw [shown.deletion]
    exact placed.staying old present
  ready := placed.ready

theorem Placed.unique {machine other : Machine} (placed : Placed machines world) (mem : machine ∈ machines)
    (isOther : other ∈ machines) {name : String} (onNode : machine.nodeRef = some name)
    (otherNode : other.nodeRef = some name) : machine = other :=
  placed.distinct machine mem other isOther (by simp [onNode]) (onNode.trans otherNode.symm)

theorem Placed.improved (placed : Placed machines world) (improved : Improved machines found) : Placed found world :=
  placed.showing improved.showing

theorem Membered.showing (membered : Membered machines world) (showing : Showing machines found) :
    Membered found world where
  listed machine member nodeName onNode := by
    obtain ⟨old, mem, shown⟩ := showing.back machine member
    exact membered.listed old mem nodeName (shown.nodeRef.symm.trans onNode)
  owned member listed := by
    obtain ⟨machine, mem, onNode⟩ := membered.owned member listed
    obtain ⟨renewed, isMember, shown⟩ := showing.forth machine mem
    exact ⟨renewed, isMember, shown.nodeRef.trans onNode⟩

theorem Membered.improved (membered : Membered machines world) (improved : Improved machines found) :
    Membered found world :=
  membered.showing improved.showing

include plain

theorem getControlPlaneNodes_calm {fail : Err → World → Prop} {ok : List Node → World → Prop}
    (onOk : ok (controlPlaneNodes world) world) : wpE (calm scene) permit ok fail getControlPlaneNodes world :=
  wpE_calm (getControlPlaneNodes_wp (reads_of_plain plain) onOk False.elim)

theorem staticPodConditions_calm (ready : nodeReadyUnknown node = false) (pods : List (String × ConditionType)) :
    (staticPodConditions node pods).wp (calm scene) permit
      (fun conditions next => conditions = (pods.map Prod.snd).map trueCondition ∧ next = world) world := by
  induction pods with
  | nil => exact ⟨rfl, rfl⟩
  | cons pod rest ih =>
    simp only [staticPodConditions, staticPodCondition, ready, Bool.false_eq_true, if_false, wp_bind, wp_outcomes]
    refine getPod_calm (plain _ _ rfl) fun found running isReady => ?_
    simp only [wp_pure]
    refine wp_mono ih ?_
    rintro conditions _ ⟨rfl, rfl⟩
    exact ⟨by simp [phaseCondition, running, isReady], rfl⟩

theorem inspectStaticPods_calm {now : Time} {pods : List (String × ConditionType)} {errors : List String}
    (placed : Placed found world) (mem : node ∈ controlPlaneNodes world)
    (inside : pods.map Prod.snd ⊆ healthTypes) :
    (inspectStaticPods now pods (found, errors) node).wp (calm scene) permit
      (fun outcome next => next = world ∧ Improved found outcome.1 ∧
        ∀ machine ∈ outcome.1, machine.nodeRef = some node.name → Confirms (pods.map Prod.snd) machine) world := by
  have occupied : ∃ machine, found.items.find? (hasNode node.name) = some machine := by
    obtain ⟨machine, present, onNode⟩ := placed.occupied node mem
    exact Option.isSome_iff_exists.mp (find?_isSome.mpr ⟨machine, present, by simp [hasNode, onNode]⟩)
  obtain ⟨machine, picked⟩ := occupied
  have present : machine ∈ found := mem_of_find?_eq_some picked
  have onNode : machine.nodeRef = some node.name := by simpa [hasNode] using find?_some picked
  have ready := placed.ready node mem
  have staying := placed.staying machine present
  simp only [inspectStaticPods, picked, podReports, staying, ready.1, Bool.false_eq_true, if_false, wp_bind, wp_pure]
  refine wp_mono (staticPodConditions_calm plain ready.2 pods) ?_
  rintro _ _ ⟨rfl, rfl⟩
  obtain ⟨improved, confirmed⟩ := setMachineConditions_true now found machine.name inside
  refine ⟨rfl, improved, fun other member otherNode => confirmed other member ?_⟩
  obtain ⟨old, isFound, improves⟩ := improved.exists_before member
  rw [improves.name, placed.unique present isFound onNode (improves.nodeRef.symm.trans otherNode)]

structure Tended (before after : ControlPlane) : Prop where
  rest : after = { before with
    machines := after.machines
    ocnecp.conditions := after.ocnecp.conditions }
  machines : Improved before.machines after.machines

omit plain in
theorem Tended.trans {before middle after : ControlPlane} (earlier : Tended before middle) (later : Tended middle after) :
    Tended before after :=
  ⟨by rw [later.rest, earlier.rest], earlier.machines.trans later.machines⟩

omit plain in
theorem staticPods_inside (managed : Bool) : (staticPods managed).map Prod.snd ⊆ healthTypes := by
  cases managed <;> decide

theorem updateStaticPodConditions_calm (placed : Placed plane.machines world) :
    (updateStaticPodConditions plane).wp (calm scene) permit
      (fun after next => next = world ∧ Tended plane after ∧ ∀ machine ∈ after.machines,
        Confirms ((staticPods plane.isEtcdManaged).map Prod.snd) machine) world := by
  simp only [updateStaticPodConditions, wp_bind, wp_outcomes]
  refine getControlPlaneNodes_calm plain ?_
  refine wp_mono (wp_foldlM (fun before outcome next => next = world ∧ Improved plane.machines outcome.1 ∧
      ∀ machine ∈ outcome.1, ∀ node ∈ before, machine.nodeRef = some node.name →
        Confirms ((staticPods plane.isEtcdManaged).map Prod.snd) machine) ?_ ?_) ?_
  · rintro before node after ⟨found, errors⟩ _ split ⟨rfl, improved, confirmed⟩
    have mem : node ∈ controlPlaneNodes _ := split ▸ mem_append_right _ mem_cons_self
    have inside := staticPods_inside plane.isEtcdManaged
    refine wp_mono (inspectStaticPods_calm plain (placed.improved improved) mem inside) ?_
    rintro ⟨next, _⟩ _ ⟨rfl, nextImproved, nextConfirmed⟩
    refine ⟨rfl, improved.trans nextImproved, fun machine member other isOther onNode => ?_⟩
    rcases mem_append.mp isOther with isOther | isOther
    · obtain ⟨old, present, improves⟩ := nextImproved.exists_before member
      exact improves.confirms inside
        (confirmed old present other isOther (improves.nodeRef.symm.trans onNode))
    · obtain rfl := mem_singleton.mp isOther
      exact nextConfirmed machine member onNode
  · exact ⟨rfl, Improved.refl _, fun _ _ _ mem => by cases mem⟩
  · rintro ⟨found, errors⟩ next ⟨rfl, improved, confirmed⟩
    have stays : reportMissingNodes plane.reconciliationTime (staticPods plane.isEtcdManaged)
        (controlPlaneNodes next) found = found := by
      refine modify_eq_self _ fun machine member => if_pos ?_
      obtain ⟨node, mem, onNode⟩ := (placed.improved improved).located machine member
      rw [onNode]
      exact decide_eq_true (mem_map_of_mem mem)
    refine ⟨rfl, ⟨rfl, ?_⟩, fun machine member => ?_⟩
    · exact stays.symm ▸ improved
    · rw [stays] at member
      obtain ⟨node, mem, onNode⟩ := (placed.improved improved).located machine member
      exact confirmed machine member node mem onNode

end Pods

section Etcd

variable {scene : Scene} {permit : World → Call → Prop} {world : World} {machines found : Machines}
variable (plain : Lenient permit)

structure InOrder (scene : Scene) (world : World) (current : List Member) : Prop where
  members : current.map Member.toPb = world.etcd.members
  quiet : ∀ member ∈ current, member.clusterID = scene.clusterID ∧ member.alarms = []

theorem InOrder.names {current : List Member} (healthy : InOrder scene world current) :
    current.map Member.name = world.etcd.members.map PbMember.name := by
  rw [← healthy.members, map_map]
  rfl

theorem inspectMember_calm {expected current : List Member} {clusterID : Option Nat} {nodeName : String}
    (healthy : InOrder scene world current) (same : expected.map Member.name = current.map Member.name)
    (mem : memberNamed world.etcd.members nodeName ≠ none) (known : clusterID = none ∨ clusterID = some scene.clusterID) :
    inspectMember expected current clusterID nodeName = .ok (memberHealthy, some scene.clusterID) := by
  have equal : memberEqual expected current = true := by
    simp only [memberEqual, same, Bool.and_eq_true, decide_eq_true_eq]
    exact ⟨fun member inList => same ▸ mem_map_of_mem inList, fun member inList => mem_map_of_mem inList⟩
  obtain ⟨member, named⟩ : ∃ member, memberForName current nodeName = some member := by
    rw [← memberForName_toPb healthy.members] at mem
    obtain ⟨_, isMember⟩ := Option.ne_none_iff_exists'.mp mem
    obtain ⟨member, named, _⟩ := Option.map_eq_some_iff.mp isMember
    exact ⟨member, named⟩
  obtain ⟨sameID, quiet⟩ := healthy.quiet member (mem_of_find?_eq_some named)
  have calm : alarmTexts member = [] := by simp [alarmTexts, quiet]
  rw [inspectMember_named equal named, if_neg (not_not.mpr calm), sameID]
  rcases known with rfl | rfl <;> simp

include plain

theorem getCurrentEtcdMembers_calm (nodeName : String) : (getCurrentEtcdMembers nodeName).wp (calm scene) permit
      (fun answer next => next = world ∧ ∃ current, answer = .ok current ∧ InOrder scene world current) world := by
  simp only [getCurrentEtcdMembers, forFirstAvailableNode, connectFirst, wp_bind, wp_outcomes, cons_ne_nil,
    if_false, wpE_bind, wpE_attempt]
  refine newEtcdClient_calm (plain _ _ rfl) ?_
  simp only [wpE_pure, ne_eq, not_true_eq_false, if_false, wp_bind, wp_outcomes, members, wpE_bind, wpE_adaptError]
  refine memberList_calm (plain _ _ rfl) ⟨plain _ _ rfl, reported ?_⟩
  refine ⟨rfl, _, rfl, ?_, ?_⟩
  · rw [map_map]
    exact map_id _
  · intro member mem
    obtain ⟨old, _, rfl⟩ := mem_map.mp mem
    exact ⟨rfl, rfl⟩

/-- How an inspection in calm surroundings stands after some of the nodes. -/
structure Progress (scene : Scene) (world : World) (machines : Machines) (before : List String) (found : Inspection) :
    Prop where
  improved : Improved machines found.machines
  clean : found.ocnecpErrors = []
  clusterID : found.clusterID = none ∨ found.clusterID = some scene.clusterID
  members : ∀ list, found.members = some list → list.map Member.name = world.etcd.members.map PbMember.name
  started : before ≠ [] → found.members ≠ none
  confirmed : ∀ machine ∈ found.machines, ∀ nodeName ∈ before, machine.nodeRef = some nodeName →
    Confirms [machineEtcdMemberHealthyCondition] machine

theorem inspectNode_calm {now : Time} {before : List String} {found : Inspection}
    (placed : Placed machines world) (membered : Membered machines world) (mem : node ∈ controlPlaneNodes world)
    (progress : Progress scene world machines before found) :
    wpE (calm scene) permit (fun after next => next = world ∧ Progress scene world machines (before ++ [node.name]) after)
      (fun _ _ => False) (inspectNode now found node.name) world := by
  have nowPlaced := placed.improved progress.improved
  obtain ⟨machine, present, onNode⟩ := nowPlaced.occupied node mem
  have picked : (found.machines.items.filter (hasNode node.name)).getLast? = some machine := by
    have nonempty : found.machines.items.filter (hasNode node.name) ≠ [] :=
      List.ne_nil_of_mem (List.mem_filter.mpr ⟨present, by simp [hasNode, onNode]⟩)
    obtain ⟨other, isLast⟩ := Option.ne_none_iff_exists'.mp (mt List.getLast?_eq_none_iff.mp nonempty)
    obtain ⟨isOther, otherNode⟩ := List.mem_filter.mp (List.mem_of_getLast? isLast)
    rw [isLast, nowPlaced.unique present isOther onNode (by simpa [hasNode] using otherNode)]
  have inside : machineEtcdMemberHealthyCondition ∈ healthTypes := by decide
  simp only [inspectNode, picked, nowPlaced.staying machine present, Bool.false_eq_true, if_false, wpE_bind, wpE_lift]
  refine wp_mono (getCurrentEtcdMembers_calm plain node.name) ?_
  rintro _ next ⟨rfl, current, rfl, healthy⟩
  have expected : (found.members.getD current).map Member.name = current.map Member.name := by
    cases given : found.members with
    | none => rfl
    | some list => exact (progress.members list given).trans healthy.names.symm
  have reported := inspectMember_calm healthy expected
    (membered.improved progress.improved |>.listed machine present node.name onNode) progress.clusterID
  simp only [wpE_bind, wpE_mk, wp_pure, reported, outcome]
  have improved := improved_setMachineCondition now found.machines machine.name inside
  refine ⟨rfl, progress.improved.trans improved, progress.clean, .inr rfl, ?_, fun _ => by simp, ?_⟩
  · rintro _ ⟨⟩
    exact expected.trans healthy.names
  · intro other member nodeName isNode otherNode
    obtain ⟨old, isOriginal, improves⟩ := improved.exists_before member
    rcases mem_append.mp isNode with isNode | isNode
    · exact improves.confirms (by simpa using inside)
        (progress.confirmed old isOriginal nodeName isNode (improves.nodeRef.symm.trans otherNode))
    · obtain rfl := mem_singleton.mp isNode
      have same := nowPlaced.unique present isOriginal onNode (improves.nodeRef.symm.trans otherNode)
      exact confirms_setMachineCondition member (by rw [improves.name, same])

omit plain in
theorem concludeInspection_calm {nodes : List String} {found : Inspection}
    (membered : Membered plane.machines world) (started : found.members ≠ none)
    (progress : Progress scene world plane.machines nodes found) :
    Tended plane (concludeInspection plane found) ∧
      (concludeInspection plane found).machines = found.machines := by
  obtain ⟨list, given⟩ := Option.ne_none_iff_exists'.mp started
  have names := progress.members list given
  have nowMembered := membered.improved progress.improved
  have compared : compareMachinesAndMembers plane.reconciliationTime found = (found.machines, []) := by
    have mem : ∀ machine ∈ found.machines, isListed list machine = true := by
      intro machine member
      cases onNode : machine.nodeRef with
      | none => simp [isListed, onNode]
      | some nodeName =>
        obtain ⟨_, isMember⟩ := Option.ne_none_iff_exists'.mp (nowMembered.listed machine member nodeName onNode)
        obtain ⟨inMembers, named⟩ := memberNamed_mem isMember
        have inList : nodeName ∈ list.map Member.name := by
          rw [names, ← named]
          exact mem_map_of_mem inMembers
        obtain ⟨other, inList, isName⟩ := mem_map.mp inList
        simp only [isListed, onNode, Option.all_some, any_eq_true]
        exact ⟨other, inList, by simp [isName]⟩
    have owned : list.filter (fun member => !found.machines.items.any (hasNode member.name)) = [] := by
      rw [filter_eq_nil_iff]
      intro member inList
      have inNames : member.name ∈ world.etcd.members.map PbMember.name := names ▸ mem_map_of_mem inList
      obtain ⟨pbMember, inMembers, named⟩ := mem_map.mp inNames
      obtain ⟨machine, present, onNode⟩ := nowMembered.owned pbMember inMembers
      have runs : found.machines.items.any (hasNode member.name) = true :=
        any_eq_true.mpr ⟨machine, present, by simp [hasNode, onNode, named]⟩
      simp [runs]
    simp only [compareMachinesAndMembers, given, owned, progress.clean, map_nil, append_nil, Prod.mk.injEq,
      and_true]
    exact modify_eq_self _ fun machine member => if_pos (mem machine member)
  refine ⟨⟨rfl, ?_⟩, ?_⟩
  · simpa only [concludeInspection, compared] using progress.improved
  · simp only [concludeInspection, compared]

theorem updateEtcdConditions_calm (placed : Placed plane.machines world)
    (membered : plane.isEtcdManaged = true → Membered plane.machines world) (nonempty : first ∈ plane.machines) :
    wpE (calm scene) permit (fun after next => next = world ∧ Tended plane after ∧
        (plane.isEtcdManaged = true → ∀ machine ∈ after.machines,
          Confirms [machineEtcdMemberHealthyCondition] machine)) (fun _ _ => False)
      (updateEtcdConditions plane) world := by
  unfold updateEtcdConditions
  split
  · rename_i managed
    have membered := membered managed
    simp only [updateManagedEtcdConditions, wpE_bind, wpE_attempt]
    refine getControlPlaneNodes_calm plain ?_
    refine wpE_then (wpE_foldlM (fun before found next => next = world ∧
      Progress scene world plane.machines before found) ?_ ?_) ?_
    · rintro before name after found next split ⟨rfl, progress⟩
      have isNode : name ∈ (controlPlaneNodes next).map Node.name := split ▸ mem_append_right _ mem_cons_self
      obtain ⟨node, mem, rfl⟩ := mem_map.mp isNode
      exact inspectNode_calm plain placed membered mem progress
    · exact ⟨rfl, Improved.refl _, rfl, .inl rfl, by simp, by simp, by simp⟩
    · rintro found next ⟨rfl, progress⟩
      obtain ⟨node, mem, _⟩ := placed.located _ nonempty
      have started : found.members ≠ none :=
        progress.started (ne_nil_of_mem (mem_map_of_mem mem))
      obtain ⟨tended, machines⟩ := concludeInspection_calm membered started progress
      refine ⟨rfl, tended, fun _ machine member => ?_⟩
      rw [machines] at member
      obtain ⟨node, mem, onNode⟩ := (placed.improved progress.improved).located machine member
      exact progress.confirmed machine member node.name (mem_map_of_mem mem) onNode
  · rename_i unmanaged
    exact ⟨rfl, ⟨rfl, Improved.refl _⟩, fun managed => absurd managed unmanaged⟩

end Etcd

section Conditions

variable {owner : Owner} {scene : Scene} {permit : World → Call → Prop} {world start : World}
variable (plain : Lenient permit)

/-- The machines are in order and are so reported, or will be by the inspection. -/
structure WellReported (controlPlane : ControlPlane) (world : World) : Prop where
  placed : Placed controlPlane.machines world
  membered : controlPlane.isEtcdManaged = true → Membered controlPlane.machines world
  nonempty : ∃ machine, machine ∈ controlPlane.machines
  reported : controlPlane.ocnecp.initialized = false → ∀ machine ∈ controlPlane.machines,
    Confirms (allMachineHealthConditions controlPlane) machine

theorem mem_allMachineHealthConditions {type : ConditionType}
    (mem : type ∈ allMachineHealthConditions plane) :
    type ∈ (staticPods plane.isEtcdManaged).map Prod.snd ∨
      plane.isEtcdManaged = true ∧ type = machineEtcdMemberHealthyCondition := by
  unfold allMachineHealthConditions at mem
  cases managed : plane.isEtcdManaged with
  | false =>
    rw [managed] at mem
    exact .inl mem
  | true =>
    rw [managed] at mem
    simp only [if_true, cons_append, nil_append, mem_cons, not_mem_nil, or_false] at mem
    simp only [staticPods, if_true, map_cons, map_nil, cons_append, nil_append,
      mem_cons, not_mem_nil, or_false, true_and]
    tauto

include plain

theorem reconcileControlPlaneConditions_calm (well : WellReported plane world) (same : Same owner start world)
    (labels : scene.MayLabel permit) (labelled : ∀ machine ∈ plane.machines, scene.Labels machine) : wpE (calm scene) permit (fun after next => Same owner start next ∧ Tended plane after ∧
        ∀ machine ∈ after.machines, Confirms (allMachineHealthConditions plane) machine)
      (fun _ _ => False) (reconcileControlPlaneConditions plane) world := by
  unfold reconcileControlPlaneConditions
  cases initialized : plane.ocnecp.initialized with
  | false =>
    exact ⟨same, ⟨rfl, Improved.refl _⟩, well.reported initialized⟩
  | true =>
    simp only [Bool.not_true, Bool.false_eq_true, if_false, runStage, wpE_bind, wpE_adaptError, wpE_lift, wpE_pure]
    refine task_calm plain ?_
    refine wp_mono (updateStaticPodConditions_calm plain well.placed) ?_
    rintro middle _ ⟨rfl, tended, pods⟩
    have managed : middle.isEtcdManaged = plane.isEtcdManaged := by rw [tended.rest]; rfl
    obtain ⟨machine, member⟩ := well.nonempty
    obtain ⟨renewed, present, _⟩ := tended.machines.exists_after member
    refine wpE_then (updateEtcdConditions_calm plain (well.placed.improved tended.machines)
      (fun isManaged => (well.membered (managed ▸ isManaged)).improved tended.machines) present) ?_
    rintro after _ ⟨rfl, tendedToo, members⟩
    have stillLabelled : ∀ machine ∈ after.machines, scene.Labels machine := by
      intro machine member
      obtain ⟨old, isOld, improves⟩ := (tended.trans tendedToo).machines.exists_before member
      rw [improves.rest]
      exact labelled old isOld
    refine wpE_then (patchMachines_calm same labels stillLabelled) fun _ next kept => ?_
    refine ⟨kept, tended.trans tendedToo, fun machine member => ?_⟩
    obtain ⟨old, isOriginal, improves⟩ := tendedToo.machines.exists_before member
    have podsHold := improves.confirms (staticPods_inside _) (pods old isOriginal)
    intro type mem
    rcases mem_allMachineHealthConditions mem with isPod | ⟨isManaged, rfl⟩
    · exact podsHold type isPod
    · exact members (managed ▸ isManaged) machine member _ mem_cons_self

omit plain in
theorem removeOrphans_eq (version : Version) {nodeNames : List String} {known : List Member}
    (owned : ∀ mem ∈ known, mem.name ∈ nodeNames) : removeOrphans nodeNames version known = pure ([], []) := by
  induction known with
  | nil => rfl
  | cons mem rest ih =>
    rw [forall_mem_cons] at owned
    rw [removeOrphans, if_pos (.inr owned.1)]
    exact ih owned.2

theorem reconcileMembersOf_calm (version : Version) {nodeNames : List String}
    (owned : ∀ member ∈ world.etcd.members, member.name ∈ nodeNames) (nodes : List String) :
    (reconcileMembersOf nodeNames version nodes).wp (calm scene) permit
      (fun outcome next => outcome = ([], []) ∧ next = world) world := by
  induction nodes with
  | nil => exact ⟨rfl, rfl⟩
  | cons node rest ih =>
    simp only [reconcileMembersOf, reconcileEtcdMember, forFirstAvailableNode, connectFirst, cons_ne_nil, if_false,
      wp_bind, wp_outcomes, wpE_bind, wpE_attempt]
    refine newEtcdClient_calm (plain _ _ rfl) ?_
    simp only [wpE_pure, members, wpE_bind, wpE_adaptError]
    refine memberList_calm (plain _ _ rfl) ⟨plain _ _ rfl, reported ?_⟩
    rw [removeOrphans_eq]
    · simp only [wp_pure]
      refine wp_mono ih ?_
      rintro _ next ⟨rfl, rfl⟩
      exact ⟨rfl, rfl⟩
    · intro member mem
      obtain ⟨old, isOriginal, rfl⟩ := mem_map.mp mem
      exact owned old isOriginal

theorem reconcileEtcdMembers_calm {runtime : Runtime}
    (parsed : ∃ version, runtime.parseTolerant plane.ocnecp.spec.version = .ok version)
    (membered : plane.isEtcdManaged = true → Membered plane.machines world)
    (same : Same owner start world) : wpE (calm scene) permit (fun _ next => Same owner start next) (fun _ _ => False)
      (Reconcile.reconcileEtcdMembers runtime plane) world := by
  obtain ⟨version, parsed⟩ := parsed
  unfold Reconcile.reconcileEtcdMembers
  cases managed : plane.isEtcdManaged with
  | false => exact same
  | true =>
    simp only [Bool.not_true, Bool.false_eq_true, if_false]
    split
    · exact same
    · split
      · exact same
      · split
        · exact same
        · simp only [runStage, parseVersion, wpE_bind, wpE_adaptError, wpE_mk, wp_pure, parsed, outcome, wpE_lift]
          refine task_calm plain ?_
          have owned : ∀ member ∈ world.etcd.members,
              member.name ∈ plane.machines.items.filterMap Machine.nodeRef := by
            intro member mem
            obtain ⟨machine, present, onNode⟩ := (membered managed).owned member mem
            exact mem_filterMap.mpr ⟨machine, present, onNode⟩
          simp only [Etcd.Workload.reconcileEtcdMembers, wp_bind, wp_pure]
          refine wp_mono (reconcileMembersOf_calm plain version owned _) ?_
          rintro _ next ⟨rfl, rfl⟩
          exact same

end Conditions

end OcneProvider.Controller.Checkup
