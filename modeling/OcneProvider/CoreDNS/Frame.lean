import OcneProvider.CoreDNS.Crash

/-! What a CoreDNS upgrade must leave alone. The deployment is patched, but the config map is replaced as a
whole, so that all its other keys are lost. -/

namespace OcneProvider.CoreDNS.Frame
open Api.Meta Api.Bootstrap Upgrade Crash Effects.Program Effects.Fallible

variable {corefile migrated : String} {plan : Plan}

/-- A container but for the image of CoreDNS. -/
def withoutImage (container : Container) : Container :=
  if container.name = coreDNSKey then { container with image := "" } else container

/-- A mounted key but for which of the two Corefiles it is. -/
def withoutKey (item : KeyToPath) : KeyToPath :=
  if item.key = corefileKey ∨ item.key = corefileBackupKey then { item with key := "" } else item

/-- A volume but for the key of the Corefile. -/
def withoutKeys (volume : Volume) : Volume :=
  { volume with configMap := volume.configMap.map fun source =>
    if volume.name = coreDNSVolumeKey ∧ source.name = coreDNSKey then
      { source with items := source.items.map withoutKey }
    else source }

/-- A toleration that is not for the taint of control plane nodes. -/
def isOther (toleration : Toleration) : Bool :=
  !tolerates oldControlPlaneTaint toleration && !tolerates controlPlaneTaint toleration

/-- The deployment but for the image, the key of the Corefile and the tolerations. -/
def rest (deployment : Deployment) : List Container × List Volume × List Toleration :=
  (deployment.containers.map withoutImage, deployment.volumes.map withoutKeys, deployment.tolerations.filter isOther)

structure Framed (before after : Workload) : Prop where
  data : ∀ key, key ≠ corefileKey → key ≠ corefileBackupKey →
    after.configMap.lookup key = before.configMap.lookup key
  deployment : rest after.deployment = rest before.deployment

theorem Framed.refl (workload : Workload) : Framed workload workload :=
  ⟨fun _ _ _ => rfl, rfl⟩

section Deployment

variable (deployment : Deployment)

theorem rest_patchImage (image : String) : rest (patchCoreDNSDeploymentImage deployment image) = rest deployment := by
  have containers : (patchCoreDNSDeploymentImage deployment image).containers.map withoutImage =
      deployment.containers.map withoutImage := by
    simp only [patchCoreDNSDeploymentImage, List.map_map]
    refine List.map_congr_left fun container _ => ?_
    by_cases named : container.name = coreDNSKey
    · simp [withoutImage, named]
    · simp [named]
  unfold rest
  rw [containers]
  rfl

theorem rest_patchVolume {fromKey toKey : String}
    (keys : ∀ key, key = fromKey ∨ key = toKey ↔ key = corefileKey ∨ key = corefileBackupKey) :
    rest (patchCoreDNSDeploymentVolume deployment fromKey toKey) = rest deployment := by
  have items : ∀ items : List KeyToPath,
      (items.map fun item => if item.key = fromKey ∨ item.key = toKey then { item with key := toKey } else item).map
        withoutKey = items.map withoutKey := by
    intro items
    rw [List.map_map]
    refine List.map_congr_left fun item _ => ?_
    have target : toKey = corefileKey ∨ toKey = corefileBackupKey := (keys toKey).mp (.inr rfl)
    by_cases moved : item.key = fromKey ∨ item.key = toKey
    · simp [withoutKey, moved, target, (keys item.key).mp moved]
    · simp [moved]
  have volumes : (patchCoreDNSDeploymentVolume deployment fromKey toKey).volumes.map withoutKeys =
      deployment.volumes.map withoutKeys := by
    simp only [patchCoreDNSDeploymentVolume, List.map_map]
    refine List.map_congr_left fun volume _ => ?_
    rw [Function.comp_apply]
    cases known : volume.configMap with
    | none => rfl
    | some source =>
      by_cases mounted : volume.name = coreDNSVolumeKey ∧ source.name = coreDNSKey
      · simp only [mounted, and_self, if_true, withoutKeys, known, Option.map_some, items]
      · simp [mounted]
  unfold rest
  rw [volumes]
  rfl

theorem rest_patchTolerations (version : SemVer) :
    rest (patchCoreDNSDeploymentTolerations deployment version) = rest deployment := by
  have tolerations : (patchCoreDNSDeploymentTolerations deployment version).tolerations.filter isOther =
      deployment.tolerations.filter isOther := by
    have added : isOther ⟨controlPlaneTaint, "", "", "NoSchedule", none⟩ = false := by decide
    have addedOld : isOther ⟨oldControlPlaneTaint, "", "", "NoSchedule", none⟩ = false := by decide
    have patched : (patchCoreDNSDeploymentTolerations deployment version).tolerations =
        (⟨controlPlaneTaint, "", "", "NoSchedule", none⟩ ::
          if version.lt ⟨1, 26, 0⟩ then [⟨oldControlPlaneTaint, "", "", "NoSchedule", none⟩] else []) ++
            deployment.tolerations.filter isOther := rfl
    rw [patched]
    cases version.lt ⟨1, 26, 0⟩ with
    | true => simp [added, addedOld]
    | false => simp [added]
  unfold rest
  rw [tolerations]
  rfl

theorem rest_upgraded (version : SemVer) (moved : Deployment) :
    rest (upgraded plan version moved) = rest moved := by
  rw [upgraded, rest_patchTolerations, rest_patchVolume _ fun _ => Or.comm, rest_patchImage]

end Deployment

section Runs

variable {tools : Tools} {config : ClusterConfiguration} {version : SemVer} {workload : Workload}

/-- No keys but those of the Corefile and its backup. -/
def OnlyCorefiles (data : StringMap) : Prop :=
  ∀ key, key ≠ corefileKey → key ≠ corefileBackupKey → data.lookup key = none

theorem onlyCorefiles_corefiles (corefile backup : String) : OnlyCorefiles (corefiles corefile backup) := by
  intro key notCorefile notBackup
  rw [corefiles, Finmap.lookup_insert_of_ne _ notBackup, Finmap.lookup_insert_of_ne _ notCorefile, Finmap.lookup_empty]

/-- There is a new image with a valid tag, and the Corefile can be migrated. -/
structure Due (tools : Tools) (config : ClusterConfiguration) (version : SemVer) (workload : Workload)
    (corefile migrated : String) (plan : Plan) : Prop where
  content : workload.configMap.lookup corefileKey = some corefile
  image : runningImage workload.deployment = some plan.fromImage
  planned : planFor tools config version plan.fromImage = .ok plan
  different : plan.fromImage ≠ plan.toImage
  valid : validateCoreDNSImageTag tools plan.fromImageTag plan.toImageTag = .ok ()
  migrates : tools.migrate plan.currentMajorMinorPatch plan.targetMajorMinorPatch corefile = .ok migrated

theorem framed_updateCoreDNS {skip : Bool}
    (due : skip = false → ∀ corefile migrated plan, Due tools config version workload corefile migrated plan →
      OnlyCorefiles workload.configMap) :
    KeepsE (Framed workload) (fun _ _ => True) (updateCoreDNS tools skip (some config) version) workload := by
  refine keeps_updateCoreDNS fun unskipped corefile image plan content running planned => ?_
  refine keeps_upgrade rfl fun migrated differs valid migrates moved isMoved => ?_
  have fromImage := planFor_fromImage planned
  have alone : OnlyCorefiles workload.configMap :=
    due unskipped corefile migrated plan ⟨content, fromImage ▸ running, fromImage ▸ planned, differs, valid, migrates⟩
  have data : ∀ first backup key, key ≠ corefileKey → key ≠ corefileBackupKey →
      (corefiles first backup).lookup key = workload.configMap.lookup key := by
    intro first backup key notCorefile notBackup
    rw [onlyCorefiles_corefiles first backup key notCorefile notBackup, alone key notCorefile notBackup]
  have mounted : rest moved = rest workload.deployment := by
    rw [isMoved]
    exact rest_patchVolume _ fun _ => Iff.rfl
  exact ⟨⟨data _ _, rfl⟩, ⟨data _ _, mounted⟩, ⟨data _ _, mounted⟩, ⟨data _ _, (rest_upgraded _ _).trans mounted⟩⟩

def smooth : Env signature Workload := fun workload call answer next =>
  (answer, next) = answering (fun _ => false) workload call

/-- The part does not fail as long as no call does, and ends as stated. -/
abbrev Smoothly {α : Type} (post : α → Workload → Prop) (part : Api α) (workload : Workload) : Prop :=
  wpE smooth (fun _ _ => True) post (fun _ _ => False) part workload

theorem smoothly_given {α : Type} {value : Except Err α} {result : α} {post : α → Workload → Prop}
    (known : value = .ok result) (done : post result workload) : Smoothly post (given value) workload := by
  subst known
  exact done

theorem smoothly_updateCoreDNSClusterRole {chosen : Plan} {image : String}
    (planned : planFor tools config version image = .ok chosen) {post : Unit → Workload → Prop}
    (done : post () workload) : Smoothly post (updateCoreDNSClusterRole version chosen) workload := by
  obtain ⟨parsed, current, target, known⟩ := planFor_eq_ok_iff.mp planned
  have runs : extractImageVersion chosen.fromImageTag = .ok current := by
    rw [known.made]
    exact known.runs
  have moves : extractImageVersion chosen.toImageTag = .ok target := by
    rw [known.made]
    exact known.moves
  unfold updateCoreDNSClusterRole
  split
  next => exact wpE_pure.mpr done
  refine wpE_bind.mpr (smoothly_given moves ?_)
  split
  next => exact wpE_pure.mpr done
  refine wpE_bind.mpr (smoothly_given runs ?_)
  split
  next => exact wpE_pure.mpr done
  refine ⟨trivial, ?_⟩
  rintro _ _ ⟨⟩
  exact done

section

variable (due : Due tools config version workload corefile migrated plan)
include due

theorem smoothly_upgrade : Smoothly (fun _ after => OnlyCorefiles after.configMap)
      (upgrade tools config version ⟨corefile, workload.deployment, plan⟩) workload := by
  refine wpE_bind.mpr (smoothly_updateCoreDNSClusterRole due.planned ?_)
  rw [if_neg due.different]
  refine wpE_bind.mpr (wpE_adaptError.mpr (smoothly_given due.valid ?_))
  refine wpE_bind.mpr ⟨trivial, ?_⟩
  rintro _ _ ⟨⟩
  refine wpE_bind.mpr (wpE_bind.mpr (wpE_adaptError.mpr (smoothly_given due.migrates ?_)))
  refine wpE_bind.mpr (wpE_adaptError.mpr ⟨trivial, ?_⟩)
  rintro _ _ ⟨⟩
  refine wpE_bind.mpr ⟨trivial, ?_⟩
  rintro _ _ ⟨⟩
  refine wpE_bind.mpr (wpE_adaptError.mpr ⟨trivial, ?_⟩)
  rintro _ _ ⟨⟩
  refine wpE_pure.mpr (wpE_adaptError.mpr ⟨trivial, ?_⟩)
  rintro _ _ ⟨⟩
  exact onlyCorefiles_corefiles _ _

omit due in
theorem smoothly_getConfigMap {post : StringMap → Workload → Prop} (done : post workload.configMap workload) :
    Smoothly post getConfigMap workload := by
  refine ⟨trivial, ?_⟩
  rintro _ _ ⟨⟩
  exact done

omit due in
theorem smoothly_getDeployment {post : Deployment → Workload → Prop} (done : post workload.deployment workload) :
    Smoothly post getDeployment workload := by
  refine ⟨trivial, ?_⟩
  rintro _ _ ⟨⟩
  exact done

theorem smoothly_getCoreDNSInfo
    {post : CoreDNSInfo → Workload → Prop} (done : post ⟨corefile, workload.deployment, plan⟩ workload) :
    Smoothly post (getCoreDNSInfo tools config version) workload := by
  refine wpE_bind.mpr (wpE_adaptError.mpr (smoothly_getConfigMap ?_))
  rw [due.content]
  refine wpE_bind.mpr (wpE_adaptError.mpr (smoothly_getDeployment ?_))
  rw [due.image]
  exact wpE_bind.mpr (smoothly_given due.planned (wpE_pure.mpr done))

theorem smoothly_updateCoreDNS :
    Smoothly (fun _ after => OnlyCorefiles after.configMap) (updateCoreDNS tools false (some config) version)
      workload := by
  refine wpE_bind.mpr (wpE_attempt.mpr ?_)
  exact wpE_mono (smoothly_getCoreDNSInfo due (smoothly_upgrade due))
    (fun _ _ held => held) (fun _ _ never => never.elim)

theorem exists_replaced :
    ∃ trace value after, Run env (updateCoreDNS tools false (some config) version).run workload trace (.done value) after ∧
      OnlyCorefiles after.configMap := by
  obtain ⟨trace, value, after, run, replaced⟩ := exists_finished_run (smoothly_updateCoreDNS due)
    fun reached call _ => ⟨_, _, rfl⟩
  refine ⟨trace, value, after, run.mono ?_, ?_⟩
  · intro reached call answer next same
    obtain ⟨rfl, rfl⟩ : answer = _ ∧ next = _ := Prod.ext_iff.mp same
    exact answering_env _ reached call
  · cases value with
    | ok _ => exact replaced
    | error _ => exact replaced.elim

end

/-- Attempts keep the frame, unless an upgrade is due and the config map has other keys. -/
theorem upgrade_frame_iff (tools : Tools) (skip : Bool) (config : Option ClusterConfiguration) (version : SemVer)
    (before : Workload) :
    (∀ trace left after, Run env (updateCoreDNS tools skip config version).run before trace left after →
      Framed before after) ↔
    ∀ given, skip = false → config = some given →
      ∀ corefile migrated plan, Due tools given version before corefile migrated plan → OnlyCorefiles before.configMap := by
  constructor
  · rintro framed given rfl rfl corefile migrated plan due
    obtain ⟨trace, value, after, run, replaced⟩ := exists_replaced due
    intro key notCorefile notBackup
    rw [← (framed _ _ _ run).data key notCorefile notBackup, replaced key notCorefile notBackup]
  · intro alone trace left after run
    cases config with
    | none =>
      cases run with
      | here => exact Framed.refl before
    | some given =>
      exact wp_keeps (Framed before) run (framed_updateCoreDNS fun unskipped => alone given unskipped rfl)
        (fun _ _ answer next keeps happened kept => keeps answer next happened kept) (Framed.refl before)

end Runs

def hostsStart : Workload :=
  { exampleStart with configMap := exampleStart.configMap.insert "hosts" "10.0.0.1 registry" }

/-- The upgrade loses the hosts. -/
theorem hosts_lost : ∃ trace left after,
    Run env (updateCoreDNS exampleTools false (some exampleConfig) exampleVersion).run hostsStart trace left after ∧
      hostsStart.configMap.lookup "hosts" = some "10.0.0.1 registry" ∧ after.configMap.lookup "hosts" = none ∧
      ¬ Framed hostsStart after := by
  have run := exec_run (S := signature) (answering fun _ => false)
    (updateCoreDNS exampleTools false (some exampleConfig) exampleVersion).run hostsStart (answering_env fun _ => false)
  have lost : (attempted (fun _ => false) hostsStart).configMap.lookup "hosts" = none := by decide
  refine ⟨_, _, attempted (fun _ => false) hostsStart, run, by decide, lost, fun framed => ?_⟩
  have kept := framed.data "hosts" (by decide) (by decide)
  exact absurd kept (by decide)

end OcneProvider.CoreDNS.Frame
