import OcneProvider.Api.Meta
import OcneProvider.Data.Paths
import OcneProvider.Effects.Fallible

/-! The systemd units that Ignition gets for the mounts of a machine, and when two mounts get a unit of one name. -/

namespace OcneProvider.Bootstrapper.MountUnits
open Api.Meta Data.Strings Data.Paths Effects.Fallible List

/-- The fields of a filesystem that mounts read. -/
structure Filesystem where
  device : String
  label : String

/-- A label, a mount point, and options. -/
abbrev MountPoints := List String

structure SystemdUnit where
  name : String
  enabled : Bool
  contents : String
  deriving DecidableEq

def mountpointName (name : String) : String :=
  .ofList (trimPrefix ['-'] (replaceAll ['/'] ['-'] name.toList))

def filesystemDevicesByLabel (filesystems : List Filesystem) : StringMap :=
  filesystems.foldl (fun devices filesystem => devices.insert filesystem.label filesystem.device) ∅

/-- An entry of the template for one mount. -/
def mountUnit (devices : StringMap) : MountPoints → Except Err SystemdUnit
  | label :: mountpoint :: options => .ok ⟨mountpointName mountpoint ++ ".mount", true,
      "[Unit]\nDescription = Mount " ++ label ++ "\n\n[Mount]\nWhat=" ++ (devices.lookup label).getD "" ++ "\nWhere=" ++
        mountpoint ++ "\nOptions=" ++ ",".intercalate options ++ "\n\n[Install]\nWantedBy=multi-user.target"⟩
  | _ => .error (errorf "error calling index: reflect: slice index out of range")

def renderMounts (filesystems : List Filesystem) (mounts : List MountPoints) : Except Err (List SystemdUnit) :=
  (mounts.mapM (mountUnit (filesystemDevicesByLabel filesystems))).mapError (Err.wrap "failed to render template")

def Cleaned (point : String) : Prop := isRooted point.toList ∧ clean point.toList = point.toList

/-- The paths differ only in where they have slashes and where dashes. -/
def Similar (first second : String) : Prop :=
  List.Forall₂ (fun a b => a = b ∨ a ∈ ['/', '-'] ∧ b ∈ ['/', '-']) first.toList second.toList

def dashed (char : Char) : Char := if char = '/' then '-' else char

theorem replaceAll_slash (text : List Char) : replaceAll ['/'] ['-'] text = text.map dashed := by
  induction text with
  | nil => rfl
  | cons first rest ih =>
    rw [map_cons, ← ih]
    by_cases slash : first = '/'
    · simp [replaceAll, replaceFrom, dashed, slash]
    · rw [replaceAll_cons (by simpa using Ne.symm slash), dashed, if_neg slash]

theorem mountpointName_eq {point : String} (rooted : isRooted point.toList) :
    mountpointName point = .ofList (point.toList.tail.map dashed) := by
  obtain ⟨rest, isRest⟩ : ∃ rest, point.toList = '/' :: rest := head?_eq_some_iff.mp (beq_iff_eq.mp rooted)
  rw [mountpointName, replaceAll_slash, isRest]
  exact congrArg _ (trimPrefix_append ['-'] _)

theorem dashed_eq_iff (a b : Char) : dashed a = dashed b ↔ a = b ∨ a ∈ ['/', '-'] ∧ b ∈ ['/', '-'] := by
  unfold dashed
  split <;> split <;> grind

theorem mountpointName_eq_iff {first second : String} (one : isRooted first.toList) (other : isRooted second.toList) :
    mountpointName first = mountpointName second ↔ Similar first second := by
  obtain ⟨rest, isRest⟩ := head?_eq_some_iff.mp (beq_iff_eq.mp one)
  obtain ⟨more, isMore⟩ := head?_eq_some_iff.mp (beq_iff_eq.mp other)
  rw [mountpointName_eq one, mountpointName_eq other, String.ofList_inj, Similar, isRest, isMore, forall₂_cons,
    and_iff_right (.inl rfl), ← forall₂_eq_eq_eq, forall₂_map_left_iff, forall₂_map_right_iff]
  simp only [dashed_eq_iff, tail_cons]

theorem names_of_mounts (devices : StringMap) {mounts : List MountPoints} {points : List String}
    (given : mounts.map (·[1]?) = points.map some) : ∃ units, mounts.mapM (mountUnit devices) = .ok units ∧
      units.map SystemdUnit.name = points.map (mountpointName · ++ ".mount") := by
  induction mounts generalizing points with
  | nil =>
    obtain rfl := map_eq_nil_iff.mp given.symm
    exact ⟨[], rfl, rfl⟩
  | cons mount rest ih =>
    obtain ⟨point, others, rfl, isPoint, later⟩ := map_eq_cons_iff.mp given.symm
    obtain ⟨units, rendered, names⟩ := ih later.symm
    match mount, isPoint with
    | label :: _ :: options, rfl =>
      exact ⟨_ :: units, by rw [mapM_cons, rendered]; rfl, congrArg _ names⟩

/-- Names are told apart unless two paths differ only in slashes and dashes. -/
theorem mount_units_distinct_iff (filesystems : List Filesystem) {mounts : List MountPoints} {points : List String}
    (given : mounts.map (·[1]?) = points.map some) (cleaned : ∀ point ∈ points, Cleaned point)
    (distinct : points.Nodup) : ∃ units, renderMounts filesystems mounts = .ok units ∧
      ((units.map SystemdUnit.name).Nodup ↔
        ∀ first ∈ points, ∀ second ∈ points, Similar first second → first = second) := by
  obtain ⟨units, rendered, names⟩ := names_of_mounts (filesystemDevicesByLabel filesystems) given
  refine ⟨units, mapError_eq_ok.mpr rendered, ?_⟩
  rw [names, nodup_map_iff_inj_on distinct]
  refine forall₂_congr fun first isFirst => forall₂_congr fun second isSecond => ?_
  rw [← mountpointName_eq_iff (cleaned first isFirst).1 (cleaned second isSecond).1, String.append_left_inj]

theorem plain_mounts_distinct : ∃ units, renderMounts [⟨"/dev/sdb", "data"⟩] [["data", "/var/lib"], ["logs", "/var-log"]] =
    .ok units ∧ ((units.map SystemdUnit.name).Nodup ↔ ∀ first ∈ ["/var/lib", "/var-log"],
      ∀ second ∈ ["/var/lib", "/var-log"], Similar first second → first = second) :=
  mount_units_distinct_iff _ rfl (by simp [Cleaned]; decide) (by decide)

/-- Two cleaned paths that differ only in a slash get units of one name. -/
theorem mount_units_collide : Cleaned "/a/b" ∧ Cleaned "/a-b" ∧
    (renderMounts [] [["x", "/a/b"], ["y", "/a-b"]]).map (·.map SystemdUnit.name) =
      .ok ["a-b.mount", "a-b.mount"] := by
  refine ⟨?_, ?_, rfl⟩
  · unfold Cleaned
    decide
  · unfold Cleaned
    decide

end OcneProvider.Bootstrapper.MountUnits
