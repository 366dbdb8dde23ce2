import OcneProvider.CoreDNS.Upgrade

/-! What a CoreDNS upgrade leaves behind when it is cut off at any call and tried
again: which Corefile the running deployment mounts. -/

namespace OcneProvider.CoreDNS.Crash
open Api.Meta Api.Bootstrap Upgrade Effects.Program Effects.Fallible

structure Workload where
  configMap : StringMap
  deployment : Deployment

/-- Any call may fail, and may have taken effect nevertheless. -/
def env : Env signature Workload := fun workload call => match call with
  | .getConfigMap => fun answer next => Reads True answer (next = workload) (· = workload.configMap)
  | .getDeployment => fun answer next => Reads True answer (next = workload) (· = workload.deployment)
  | .updateClusterRole | .updateClusterConfiguration _ => fun answer next =>
      Reads True answer (next = workload) fun _ => True
  | .updateConfigMap data => fun answer next => Writes True answer (next = workload)
      (next = { workload with configMap := data })
  | .patchDeployment patched => fun answer next => Writes True answer (next = workload)
      (next = { workload with deployment := patched })

def mountedKeys (deployment : Deployment) : List String :=
  deployment.volumes.flatMap fun volume =>
    match volume.configMap with
    | none => []
    | some source =>
      if volume.name = coreDNSVolumeKey ∧ source.name = coreDNSKey then
        (source.items.map KeyToPath.key).filter fun key => key = corefileKey ∨ key = corefileBackupKey
      else []

theorem mem_mountedKeys {deployment : Deployment} {key : String} (mounted : key ∈ mountedKeys deployment) :
    key = corefileKey ∨ key = corefileBackupKey := by
  obtain ⟨volume, _, mounted⟩ := List.mem_flatMap.mp mounted
  cases known : volume.configMap with
  | none => simp [known] at mounted
  | some source =>
    simp only [known] at mounted
    split at mounted
    next => simpa using (List.mem_filter.mp mounted).2
    next => simp at mounted

theorem mountedKeys_patchVolume (deployment : Deployment) {fromKey toKey : String}
    (keys : ∀ key, key = fromKey ∨ key = toKey ↔ key = corefileKey ∨ key = corefileBackupKey) :
    mountedKeys (patchCoreDNSDeploymentVolume deployment fromKey toKey) =
      (mountedKeys deployment).map fun _ => toKey := by
  have items : ∀ items : List KeyToPath,
      ((items.map fun item => if item.key = fromKey ∨ item.key = toKey then { item with key := toKey } else item).map
        KeyToPath.key).filter (fun key => key = corefileKey ∨ key = corefileBackupKey) =
      ((items.map KeyToPath.key).filter fun key => key = corefileKey ∨ key = corefileBackupKey).map fun _ => toKey := by
    intro items
    simp only [← keys]
    induction items with
    | nil => rfl
    | cons item items ih =>
      by_cases moved : item.key = fromKey ∨ item.key = toKey
      · simpa [moved] using ih
      · simpa [moved] using ih
  simp only [mountedKeys, patchCoreDNSDeploymentVolume, List.flatMap_map, List.map_flatMap]
  refine List.flatMap_congr fun volume _ => ?_
  cases known : volume.configMap with
  | none => simp [known]
  | some source =>
    by_cases mounted : volume.name = coreDNSVolumeKey ∧ source.name = coreDNSKey
    · simpa [mounted] using items source.items
    · simp [mounted, known]

theorem runningImage_patchImage (deployment : Deployment) (image : String) :
    runningImage (patchCoreDNSDeploymentImage deployment image) = (runningImage deployment).map fun _ => image := by
  unfold runningImage patchCoreDNSDeploymentImage
  induction deployment.containers with
  | nil => rfl
  | cons container containers ih =>
    by_cases named : container.name = coreDNSKey
    · simp [named]
    · simpa [named] using ih

/-- CoreDNS runs with the Corefile that belongs to its image. -/
structure Consistent (tools : Tools) (plan : Plan) (old corefile : String) (workload : Workload) : Prop where
  image : runningImage workload.deployment = some old ∨ runningImage workload.deployment = some plan.toImage
  mounted : mountedKeys workload.deployment ≠ []
  before : runningImage workload.deployment = some old →
    ∀ key ∈ mountedKeys workload.deployment, workload.configMap.lookup key = some corefile
  after : runningImage workload.deployment = some plan.toImage →
    ∃ migrated, tools.migrate plan.currentMajorMinorPatch plan.targetMajorMinorPatch corefile = .ok migrated ∧
      ∀ key ∈ mountedKeys workload.deployment, workload.configMap.lookup key = some migrated

section Keeping

variable {keep : Workload → Prop} {workload : Workload} {tools : Tools} {config : ClusterConfiguration}
variable {version : SemVer}

/-- A call that keeps something, whether it succeeds or not. -/
def Keeps (keep : Workload → Prop) (workload : Workload) (call : Call) : Prop :=
  ∀ answer next, env workload call answer next → keep workload → keep next

/-- Only calls that keep something, and it ends as stated unless it fails. -/
abbrev KeepsE {α : Type} (keep : Workload → Prop) (post : α → Workload → Prop) (part : Api α) (workload : Workload) :
    Prop :=
  wpE env (Keeps keep) post (fun _ _ => True) part workload

theorem keeps_of_unchanged {call : Call} (unchanged : ∀ answer next, env workload call answer next → next = workload) :
    Keeps keep workload call := by
  intro answer next happened kept
  rwa [unchanged answer next happened]

theorem keep_of_writes {answer : Except Err Unit} {changed next : Workload} (changes : keep changed)
    (happened : Writes True answer (next = workload) (next = changed)) (kept : keep workload) : keep next := by
  cases answer with
  | ok _ => exact happened ▸ changes
  | error _ =>
    obtain ⟨_, same | changed⟩ := happened
    · exact same ▸ kept
    · exact changed ▸ changes

theorem keeps_updateConfigMap {data : StringMap} {post : Unit → Workload → Prop}
    (kept : keep { workload with configMap := data }) (done : post () { workload with configMap := data }) :
    KeepsE keep post (updateConfigMap data) workload := by
  refine ⟨fun answer next happened before => keep_of_writes kept happened before, forall_writes.mpr ?_⟩
  exact ⟨fun next same => same ▸ done, fun _ _ => ⟨trivial, fun _ _ => trivial⟩⟩

theorem keeps_patchDeployment {patched : Deployment} {post : Unit → Workload → Prop}
    (kept : keep { workload with deployment := patched }) (done : post () { workload with deployment := patched }) :
    KeepsE keep post (patchDeployment patched) workload := by
  refine ⟨fun answer next happened before => keep_of_writes kept happened before, forall_writes.mpr ?_⟩
  exact ⟨fun next same => same ▸ done, fun _ _ => ⟨trivial, fun _ _ => trivial⟩⟩

theorem keeps_getConfigMap {post : StringMap → Workload → Prop} (done : post workload.configMap workload) :
    KeepsE keep post getConfigMap workload :=
  ⟨keeps_of_unchanged fun _ _ happened => happened.1,
    forall_reads.mpr ⟨fun _ same => same ▸ done, fun _ _ => trivial⟩⟩

theorem keeps_getDeployment {post : Deployment → Workload → Prop} (done : post workload.deployment workload) :
    KeepsE keep post getDeployment workload :=
  ⟨keeps_of_unchanged fun _ _ happened => happened.1,
    forall_reads.mpr ⟨fun _ same => same ▸ done, fun _ _ => trivial⟩⟩

theorem keeps_updateImageInfo {dns : ImageMeta} {post : Unit → Workload → Prop} (done : post () workload) :
    KeepsE keep post (updateCoreDNSImageInfoInOCNEConfigMap dns) workload :=
  ⟨keeps_of_unchanged fun _ _ happened => happened.1,
    forall_reads.mpr ⟨fun _ _ => done, fun _ _ => trivial⟩⟩

theorem keeps_given {α : Type} {value : Except Err α} {post : α → Workload → Prop}
    (done : ∀ result, value = .ok result → post result workload) : KeepsE keep post (given value) workload := by
  cases value with
  | ok result => exact done result rfl
  | error error => trivial

theorem keeps_updateCoreDNSClusterRole (chosen : Plan) {post : Unit → Workload → Prop} (done : post () workload) :
    KeepsE keep post (updateCoreDNSClusterRole version chosen) workload := by
  unfold updateCoreDNSClusterRole
  split
  next => exact wpE_pure.mpr done
  refine wpE_bind.mpr (keeps_given fun target _ => ?_)
  split
  next => exact wpE_pure.mpr done
  refine wpE_bind.mpr (keeps_given fun source _ => ?_)
  split
  next => exact wpE_pure.mpr done
  exact ⟨keeps_of_unchanged fun _ _ happened => happened.1, forall_reads.mpr ⟨fun _ _ => done, fun _ _ => trivial⟩⟩

def upgraded (plan : Plan) (version : SemVer) (moved : Deployment) : Deployment :=
  patchCoreDNSDeploymentTolerations (patchCoreDNSDeploymentVolume
    (patchCoreDNSDeploymentImage moved plan.toImage) corefileBackupKey corefileKey) version

/-- An upgrade writes only if there is a new image with a valid tag and the Corefile can be migrated. -/
theorem keeps_upgrade {info : CoreDNSInfo} (sameDeployment : info.deployment = workload.deployment)
    (writes : ∀ migrated, info.plan.fromImage ≠ info.plan.toImage →
      validateCoreDNSImageTag tools info.plan.fromImageTag info.plan.toImageTag = .ok () →
      tools.migrate info.plan.currentMajorMinorPatch info.plan.targetMajorMinorPatch info.corefile = .ok migrated →
      ∀ moved, moved = patchCoreDNSDeploymentVolume info.deployment corefileKey corefileBackupKey →
        keep ⟨corefiles info.corefile info.corefile, info.deployment⟩ ∧
        keep ⟨corefiles info.corefile info.corefile, moved⟩ ∧ keep ⟨corefiles migrated info.corefile, moved⟩ ∧
        keep ⟨corefiles migrated info.corefile, upgraded info.plan version moved⟩) :
    KeepsE keep (fun _ _ => True) (upgrade tools config version info) workload := by
  refine wpE_bind.mpr (keeps_updateCoreDNSClusterRole info.plan ?_)
  split
  next => exact wpE_pure.mpr trivial
  next differs =>
    refine wpE_bind.mpr (wpE_adaptError.mpr (keeps_given fun _ valid => ?_))
    refine wpE_bind.mpr (keeps_updateImageInfo ?_)
    refine wpE_bind.mpr (wpE_bind.mpr (wpE_adaptError.mpr (keeps_given fun migrated known => ?_)))
    obtain ⟨backedUp, mounted, rewritten, last⟩ := writes migrated differs valid known _ rfl
    -- both keys hold the old Corefile
    refine wpE_bind.mpr (wpE_adaptError.mpr (keeps_updateConfigMap (sameDeployment ▸ backedUp) ?_))
    -- the deployment mounts the backup
    refine wpE_bind.mpr (keeps_patchDeployment mounted ?_)
    -- the Corefile is migrated
    refine wpE_bind.mpr (wpE_adaptError.mpr (keeps_updateConfigMap rewritten ?_))
    exact wpE_pure.mpr (wpE_adaptError.mpr (keeps_patchDeployment last trivial))

theorem keeps_getCoreDNSInfo {post : CoreDNSInfo → Workload → Prop}
    (done : ∀ found image chosen, workload.configMap.lookup corefileKey = some found →
      runningImage workload.deployment = some image → planFor tools config version image = .ok chosen →
      post ⟨found, workload.deployment, chosen⟩ workload) :
    KeepsE keep post (getCoreDNSInfo tools config version) workload := by
  refine wpE_bind.mpr (wpE_adaptError.mpr (keeps_getConfigMap ?_))
  cases found : workload.configMap.lookup corefileKey with
  | none => trivial
  | some content =>
    refine wpE_bind.mpr (wpE_adaptError.mpr (keeps_getDeployment ?_))
    cases running : runningImage workload.deployment with
    | none => trivial
    | some image =>
      refine wpE_bind.mpr (keeps_given fun chosen planned => ?_)
      exact wpE_pure.mpr (done content image chosen found running planned)

theorem keeps_updateCoreDNS {skip : Bool}
    (starts : skip = false → ∀ found image chosen, workload.configMap.lookup corefileKey = some found →
      runningImage workload.deployment = some image → planFor tools config version image = .ok chosen →
      KeepsE keep (fun _ _ => True) (upgrade tools config version ⟨found, workload.deployment, chosen⟩) workload) :
    KeepsE keep (fun _ _ => True) (updateCoreDNS tools skip (some config) version) workload := by
  unfold updateCoreDNS
  dsimp only
  split
  next => exact wpE_pure.mpr trivial
  next unskipped =>
    have known : KeepsE keep (fun info t => KeepsE keep (fun _ _ => True) (upgrade tools config version info) t)
        (getCoreDNSInfo tools config version) workload :=
      keeps_getCoreDNSInfo (starts (by simpa using unskipped))
    refine wpE_bind.mpr (wpE_attempt.mpr
      (wpE_mono known (fun _ _ held => held) ?_))
    intro error reached _
    dsimp only
    split <;> trivial

end Keeping

section Upgrade

variable {tools : Tools} {config : ClusterConfiguration} {version : SemVer} {plan : Plan} {old corefile : String}
variable {workload : Workload}

variable (deployment : Deployment) (first backup : String)

theorem corefiles_lookup : (corefiles first backup).lookup corefileKey = some first := by
  rw [corefiles, Finmap.lookup_insert_of_ne _ (by decide), Finmap.lookup_insert]

theorem corefiles_lookup_backup : (corefiles first backup).lookup corefileBackupKey = some backup := by
  rw [corefiles, Finmap.lookup_insert]

theorem consistent_old (changes : plan.toImage ≠ old) {data : StringMap} {deployment : Deployment}
    (image : runningImage deployment = some old) (mounted : mountedKeys deployment ≠ [])
    (contents : ∀ key ∈ mountedKeys deployment, data.lookup key = some corefile) :
    Consistent tools plan old corefile ⟨data, deployment⟩ where
  image := .inl image
  mounted := mounted
  before _ := contents
  after running := absurd (Option.some.inj (running.symm.trans image)) changes

theorem mountedKeys_backup : mountedKeys (patchCoreDNSDeploymentVolume deployment corefileKey corefileBackupKey) =
      (mountedKeys deployment).map fun _ => corefileBackupKey :=
  mountedKeys_patchVolume deployment fun _ => Iff.rfl

theorem mountedKeys_corefile : mountedKeys (patchCoreDNSDeploymentVolume deployment corefileBackupKey corefileKey) =
      (mountedKeys deployment).map fun _ => corefileKey :=
  mountedKeys_patchVolume deployment fun _ => Or.comm

theorem consistent_new (changes : plan.toImage ≠ old) {deployment : Deployment} {migrated backup : String}
    (known : tools.migrate plan.currentMajorMinorPatch plan.targetMajorMinorPatch corefile = .ok migrated)
    (image : runningImage deployment = some old) (mounted : mountedKeys deployment ≠ []) :
    Consistent tools plan old corefile ⟨corefiles migrated backup, upgraded plan version deployment⟩ := by
  let patched := patchCoreDNSDeploymentVolume (patchCoreDNSDeploymentImage deployment plan.toImage)
    corefileBackupKey corefileKey
  have running : runningImage patched = some plan.toImage := by
    change runningImage (patchCoreDNSDeploymentImage deployment plan.toImage) = _
    rw [runningImage_patchImage, image]
    rfl
  have keys : mountedKeys patched = (mountedKeys deployment).map fun _ => corefileKey := mountedKeys_corefile _
  refine ⟨.inr running, ?_, fun unchanged => ?_, fun _ => ⟨migrated, known, fun key mem => ?_⟩⟩
  · change mountedKeys patched ≠ []
    simpa [keys] using mounted
  · exact absurd (Option.some.inj (running.symm.trans unchanged)) changes
  · obtain ⟨_, _, rfl⟩ := List.mem_map.mp (keys ▸ mem)
    exact corefiles_lookup migrated backup

/-- The four writes of an upgrade that starts with the old Corefile. -/
theorem consistent_upgrade (changes : plan.toImage ≠ old) (consistent : Consistent tools plan old corefile workload)
    (image : runningImage workload.deployment = some old) :
    KeepsE (Consistent tools plan old corefile) (fun _ _ => True)
      (upgrade tools config version ⟨corefile, workload.deployment, plan⟩) workload := by
  have keys : ∀ key ∈ mountedKeys workload.deployment, (corefiles corefile corefile).lookup key = some corefile := by
    intro key mem
    rcases mem_mountedKeys mem with rfl | rfl
    · exact corefiles_lookup corefile corefile
    · exact corefiles_lookup_backup corefile corefile
  refine keeps_upgrade rfl fun migrated _ _ known moved isMoved => ?_
  subst isMoved
  have movedKeys := mountedKeys_backup workload.deployment
  have movedMounted : mountedKeys (patchCoreDNSDeploymentVolume workload.deployment corefileKey corefileBackupKey) ≠ [] := by
    simpa [movedKeys] using consistent.mounted
  have backup : ∀ first, ∀ key ∈ mountedKeys
      (patchCoreDNSDeploymentVolume workload.deployment corefileKey corefileBackupKey),
      (corefiles first corefile).lookup key = some corefile := by
    intro first key mem
    obtain ⟨_, _, rfl⟩ := List.mem_map.mp (movedKeys ▸ mem)
    exact corefiles_lookup_backup first corefile
  exact ⟨consistent_old changes image consistent.mounted keys,
    consistent_old changes image movedMounted (backup corefile),
    consistent_old changes image movedMounted (backup migrated),
    consistent_new changes known image movedMounted⟩

theorem planFor_fromImage {image : String} (planned : planFor tools config version image = .ok plan) :
    plan.fromImage = image := by
  obtain ⟨parsed, current, target, known⟩ := planFor_eq_ok_iff.mp planned
  rw [known.made]

theorem consistent_updateCoreDNS (changes : plan.toImage ≠ old) (planned : planFor tools config version old = .ok plan)
    (stable : ∀ again, planFor tools config version plan.toImage = .ok again → again.toImage = plan.toImage)
    (consistent : Consistent tools plan old corefile workload)
    (ready : runningImage workload.deployment = some plan.toImage ∨
      workload.configMap.lookup corefileKey = some corefile) (skip : Bool) :
    KeepsE (Consistent tools plan old corefile) (fun _ _ => True)
      (updateCoreDNS tools skip (some config) version) workload := by
  refine keeps_updateCoreDNS fun _ found image chosen content running chosenPlan => ?_
  rcases consistent.image with before | after
  · cases before.symm.trans running
    cases planned.symm.trans chosenPlan
    rcases ready with moved | mem
    · exact absurd (Option.some.inj (moved.symm.trans running)) changes
    · cases mem.symm.trans content
      exact consistent_upgrade changes consistent running
  · cases after.symm.trans running
    -- the image is the new one already, so there is nothing to do
    refine keeps_upgrade rfl fun _ differs => absurd ?_ differs
    exact (planFor_fromImage chosenPlan).trans (stable chosen chosenPlan).symm

/-- The new image is there already, or the Corefile has not been migrated. -/
def Ready (plan : Plan) (corefile : String) (workload : Workload) : Prop :=
  runningImage workload.deployment = some plan.toImage ∨ workload.configMap.lookup corefileKey = some corefile

/-- The moments of attempts to upgrade, each of which may be cut off at any call. -/
inductive Reached (tools : Tools) (config : ClusterConfiguration) (version : SemVer) (before : Workload → Prop)
    (start : Workload) : Workload → Prop where
  | start : Reached tools config version before start start
  | attempt {workload next : Workload} (skip : Bool) {trace : List (Event signature Workload)}
      {rest : Prog signature (Except Err Unit)} (earlier : Reached tools config version before start workload)
      (holds : before workload)
      (run : Run env (updateCoreDNS tools skip (some config) version).run workload trace rest next) :
      Reached tools config version before start next

/-- If each attempt starts with the Corefile not migrated or the image upgraded, CoreDNS always runs with its own
Corefile. -/
theorem reached_consistent (changes : plan.toImage ≠ old) (planned : planFor tools config version old = .ok plan)
    (stable : ∀ again, planFor tools config version plan.toImage = .ok again → again.toImage = plan.toImage)
    {start : Workload} (image : runningImage start.deployment = some old)
    (mounted : mountedKeys start.deployment ≠ []) (only : ∀ key ∈ mountedKeys start.deployment, key = corefileKey)
    (content : start.configMap.lookup corefileKey = some corefile)
    (reached : Reached tools config version (Ready plan corefile) start workload) :
    Consistent tools plan old corefile workload := by
  induction reached with
  | start =>
    refine consistent_old changes image mounted fun key mem => ?_
    rw [only key mem]
    exact content
  | attempt skip earlier ready run consistent =>
    exact wp_keeps (Consistent tools plan old corefile) run
      (consistent_updateCoreDNS changes planned stable consistent ready skip)
      (fun _ _ answer next keeps happened kept => keeps answer next happened kept) consistent

end Upgrade

def oldImage : String := "k8s.gcr.io/coredns:1.6.7"

def newImage : String := "k8s.gcr.io/coredns/coredns:1.8.4"

def exampleTools : Tools where
  imageFromString image :=
    if image = oldImage then .ok ⟨"k8s.gcr.io", "coredns", "1.6.7"⟩
    else .ok ⟨"k8s.gcr.io/coredns", "coredns", "1.8.4"⟩
  migrate _ _ corefile := .ok ("migrated " ++ corefile)
  migrationVersions _ := true

def exampleConfig : ClusterConfiguration := { emptyClusterConfiguration with dns := ⟨"", "1.8.4"⟩ }

def exampleVersion : SemVer := ⟨⟨1, 21, 0⟩, false⟩

def examplePlan : Plan := ⟨"1.6.7", "1.8.4", "1.6.7", "1.8.4", oldImage, newImage⟩

def exampleStart : Workload where
  configMap := (∅ : StringMap).insert corefileKey "forward"
  deployment := ⟨[⟨coreDNSKey, oldImage⟩], [⟨coreDNSVolumeKey, some ⟨coreDNSKey, [⟨corefileKey, corefileKey⟩]⟩⟩], []⟩

/-- Every call succeeds, but for the changes to the deployment that are refused. -/
def answering (refused : Deployment → Bool) (workload : Workload) : (call : Call) → Call.Answer call × Workload
  | .getConfigMap => (.ok workload.configMap, workload)
  | .getDeployment => (.ok workload.deployment, workload)
  | .updateClusterRole | .updateClusterConfiguration _ => (.ok (), workload)
  | .updateConfigMap data => (.ok (), { workload with configMap := data })
  | .patchDeployment patched =>
    if refused patched then (.error (errorf "timeout"), workload) else (.ok (), { workload with deployment := patched })

theorem answering_env (refused : Deployment → Bool) (workload : Workload) (call : Call) :
    env workload call (answering refused workload call).1 (answering refused workload call).2 := by
  cases call with
  | patchDeployment patched =>
    cases choice : refused patched with
    | true =>
      rw [show answering refused workload (.patchDeployment patched) = (.error (errorf "timeout"), workload) from
        if_pos choice]
      exact ⟨trivial, .inl rfl⟩
    | false =>
      rw [show answering refused workload (.patchDeployment patched) =
        (.ok (), { workload with deployment := patched }) from if_neg (by simp [choice])]
      rfl
  | updateConfigMap data => rfl
  | updateClusterRole | updateClusterConfiguration dns => exact ⟨rfl, trivial⟩
  | getConfigMap | getDeployment => exact ⟨rfl, rfl⟩

def attempted (refused : Deployment → Bool) (workload : Workload) : Workload :=
  ((updateCoreDNS exampleTools false (some exampleConfig) exampleVersion).run.exec (answering refused) workload).2

theorem reached_attempted {before : Workload → Prop} {workload : Workload} (refused : Deployment → Bool)
    (earlier : Reached exampleTools exampleConfig exampleVersion before exampleStart workload)
    (holds : before workload) :
    Reached exampleTools exampleConfig exampleVersion before exampleStart (attempted refused workload) := by
  have run := exec_run (S := signature) (answering refused)
    (updateCoreDNS exampleTools false (some exampleConfig) exampleVersion).run workload (answering_env refused)
  exact .attempt false earlier holds run

theorem examplePlan_again : planFor exampleTools exampleConfig exampleVersion newImage =
    .ok ⟨"1.8.4", "1.8.4", "1.8.4", "1.8.4", newImage, newImage⟩ := by decide

theorem exampleStart_upgraded :
    Consistent exampleTools examplePlan oldImage "forward" (attempted (fun _ => false) exampleStart) ∧
      runningImage (attempted (fun _ => false) exampleStart).deployment = some newImage :=
  ⟨reached_consistent (by decide) (by decide) (fun again chosen => by cases examplePlan_again.symm.trans chosen; rfl)
    (by decide) (by decide) (by decide) (by decide) (reached_attempted (fun _ => false) .start (.inr (by decide))), by decide⟩

/-- After the last write fails, the second attempt takes the migrated Corefile for the old one. -/
theorem second_attempt_overwrites_backup :
    ∃ workload, Reached exampleTools exampleConfig exampleVersion (fun _ => True) exampleStart workload ∧
      runningImage workload.deployment = some oldImage ∧ mountedKeys workload.deployment = [corefileBackupKey] ∧
      exampleStart.configMap.lookup corefileKey = some "forward" ∧
      workload.configMap.lookup corefileBackupKey = some "migrated forward" :=
  ⟨attempted (fun _ => true) (attempted (fun patched => runningImage patched = some newImage) exampleStart),
    reached_attempted _ (reached_attempted _ .start trivial) trivial, by decide, by decide, by decide, by decide⟩

end OcneProvider.CoreDNS.Crash
