import OcneProvider.Controller.Bounds
import OcneProvider.Webhooks.AllowList

/-! The versions of the machines while the version of the control plane changes: passes,
accepted updates of the control plane object and what others do, in any order. -/

namespace OcneProvider.Controller.Versions
open Api.Meta Api.Conditions Api.Objects Api.Formats Collections Calls Clusters Plane Reconcile Discipline
open Passes Bounds Effects.Program
open Webhooks.Update (Document validateUpdate validateUpdate_comparisons validateVersion ceilVersion)
open Webhooks.AllowList (plainDocument lenient text)
open Data.MergePatch (applyPatch)
open CoreDNS.Upgrade (versionLt)

variable {ocnecp : OCNEControlPlane} {becomes : Machine → Prop} {name : String}

section Following

variable (parse : String → Except Err Version)

def read (text : Option String) : Option Version :=
  text.bind fun text => (parse text).toOption

/-- The same major and at most one minor version above, for versions that can be read. -/
def follows (new old : Option String) : Bool :=
  match read parse new, read parse old with
  | some new, some old => new.major == old.major && new.minor ≤ old.minor + 1
  | _, _ => true

theorem follows_self (text : Option String) : follows parse text text = true := by
  unfold follows
  cases read parse text <;> simp

theorem follows_of_read {new old : Option String} (near : ∀ later earlier, read parse new = some later →
    read parse old = some earlier → later.major = earlier.major ∧ later.minor ≤ earlier.minor + 1) :
    follows parse new old = true := by
  unfold follows
  split
  · rename_i later earlier isLater isEarlier
    simpa using near later earlier isLater isEarlier
  · rfl

theorem checkAdoption_version {runtime : Runtime} {version : Version} {machine : Machine}
    (checked : checkAdoption runtime ocnecp version machine = .ok true) {text : String} (given : machine.version = some text) :
    ∃ other, runtime.parseTolerant text = .ok other ∧ isSupportedVersionSkew version other = true := by
  unfold checkAdoption at checked
  cases parsed : runtime.parseTolerant text with
  | error error =>
    simp only [given, parsed] at checked
    repeat' split at checked
    all_goals cases checked
  | ok other =>
    refine ⟨other, rfl, ?_⟩
    simp only [given, parsed] at checked
    repeat' split at checked
    all_goals first | cases checked | exact Except.ok.inj checked

theorem skew_of_isSupportedVersionSkew {first second : Version} (supported : isSupportedVersionSkew first second = true) :
    first.major = second.major ∧ first.minor ≤ second.minor + 1 ∧ second.minor ≤ first.minor + 1 := by
  simp only [isSupportedVersionSkew, Bool.and_eq_true, beq_iff_eq] at supported
  obtain ⟨major, minor⟩ := supported
  split at minor
  · have one : first.minor - second.minor = 1 := by simpa using minor
    omega
  · have one : second.minor - first.minor ≤ 1 := by simpa using minor
    omega

theorem follows_of_vets {owner : Owner} {runtime : Runtime} {machine : Machine} (vets : owner.Vets runtime machine) :
    follows runtime.parseTolerant (some owner.ocnecp.spec.version) machine.version = true := by
  obtain ⟨version, parsed, checked⟩ := vets
  refine follows_of_read _ fun later earlier isLater isEarlier => ?_
  obtain rfl : version = later := by simpa [read, parsed, Except.toOption] using isLater
  obtain ⟨text, given, isEarlier⟩ := Option.bind_eq_some_iff.mp isEarlier
  obtain ⟨other, read, skew⟩ := checkAdoption_version checked given
  obtain rfl : other = earlier := by simpa [read, Except.toOption] using isEarlier
  obtain ⟨major, above, -⟩ := skew_of_isSupportedVersionSkew skew
  exact ⟨major, above⟩

end Following

section Passes

variable {parse : String → Except Err Version} {owner : Owner} {runtime : Runtime} {world next : World} {ledger : Ledger}

/-- The version of the control plane follows those of its machines. -/
def Near (parse : String → Except Err Version) (owner : Owner) (world : World) : Prop :=
  ∀ machine ∈ world.machines, owner.isOwn machine = true →
    follows parse (some owner.ocnecp.spec.version) machine.version = true

/-- Machines keep their names and versions, and only some of them become own ones. -/
def Inherits (owner : Owner) (becomes : Machine → Prop) (world next : World) : Prop :=
  ∀ after ∈ next.machines, ∃ before ∈ world.machines, after.name = before.name ∧ after.version = before.version ∧
    (owner.isOwn after = true → owner.isOwn before = true ∨ becomes before)

theorem inherits_refl : Inherits owner becomes world world :=
  fun machine found => ⟨machine, found, rfl, rfl, .inl⟩

theorem inherits_removeMachine : Inherits owner becomes world (world.removeMachine name) :=
  fun machine found => ⟨machine, (mem_filter.mp found).1, rfl, rfl, .inl⟩

theorem inherits_updateMachine {change : Machine → Machine} {named : ∀ machine, (change machine).name = machine.name}
    (version : ∀ machine, (change machine).version = machine.version)
    (own : ∀ machine, machine.name = name → owner.isOwn (change machine) = true →
      owner.isOwn machine = true ∨ becomes machine) :
    Inherits owner becomes world (world.updateMachine name change named) := by
  intro after found
  obtain ⟨before, earlier, rfl⟩ := List.mem_map.mp found
  refine ⟨before, earlier, ?_⟩
  split
  · exact ⟨named before, version before, own before ‹_›⟩
  · exact ⟨rfl, rfl, .inl⟩

variable {patch : MachinePatch} {answer : Except Err Unit}

theorem inherits_patchMachine
    (adopts : patch.ownerReferences ≠ none → ∀ machine, machine.name = name → becomes machine) :
    Inherits owner becomes world (world.patchMachine name patch) := by
  refine inherits_updateMachine (fun _ => rfl) fun machine same own => ?_
  cases refs : patch.ownerReferences with
  | some given => exact .inr (adopts (by simp [refs]) machine same)
  | none =>
    left
    rw [Owner.isOwn, controlPlaneMachines_applyPatch] at own
    simpa [Owner.isOwn, ownedMachines, Machine.applyPatch, refs] using own

section

variable (admitted : ∀ machine ∈ world.machines, becomes machine → follows parse (some owner.ocnecp.spec.version) machine.version = true)
include admitted

theorem Near.inherits (near : Near parse owner world) (inherits : Inherits owner becomes world next) : Near parse owner next := by
  intro after found own
  obtain ⟨before, earlier, _, version, inherited⟩ := inherits after found
  rw [version]
  rcases inherited own with own | becomes
  · exact near before earlier own
  · exact admitted before earlier becomes

/-- As long as a pass has created or deleted nothing, the versions are those it has listed. -/
structure Along (parse : String → Except Err Version) (owner : Owner) (world : World) (ledger : Ledger) : Prop where
  near : Near parse owner world
  listed : ledger.operations = 0 → ∀ listed, ledger.listed = some listed → ∀ machine ∈ listed,
    ∀ other ∈ world.machines, other.name = machine.name → other.version = machine.version

theorem Along.keep (along : Along parse owner world ledger)
    (inherits : Inherits owner becomes world next) (adopting : Bool) :
    Along parse owner next { ledger with adopting := adopting } where
  near := along.near.inherits admitted inherits
  listed idle listed known machine mem other found same := by
    obtain ⟨before, earlier, name, version, _⟩ := inherits other found
    rw [version]
    exact along.listed idle listed known machine mem before earlier (name.symm.trans same)

end

theorem Along.list (along : Along parse owner world ledger) {machines : Machines} {clusterName : String}
    (lists : world.Lists clusterName machines) :
    Along parse owner world { ledger with listed := ledger.listed.or (some machines) } where
  near := along.near
  listed idle listed known machine mem other found same := by
    cases earlier : ledger.listed with
    | some first =>
      simp only [earlier, Option.some_or, Option.some.injEq] at known
      exact along.listed idle first earlier machine (known ▸ mem) other found same
    | none =>
      simp only [earlier, Option.none_or, Option.some.injEq] at known
      rw [Machines.eq_of_name found ((lists machine).mp (known ▸ mem)).1 same]

theorem along_adopt (along : Along runtime.parseTolerant owner world ledger)
    (may : owner.Permits runtime ledger (.patchMachine name patch))
    (answered : env True world (.patchMachine name patch) answer next) :
    Along runtime.parseTolerant owner next { ledger with adopting := ledger.adopting || patch.ownerReferences.isSome } := by
  have admitted : ∀ machine ∈ world.machines, machine.name = name ∧ patch.ownerReferences ≠ none →
      follows runtime.parseTolerant (some owner.ocnecp.spec.version) machine.version = true := by
    intro machine found ⟨same, adopts⟩
    obtain ⟨refs, given⟩ := Option.ne_none_iff_exists'.mp adopts
    obtain ⟨idle, listed, known, old, mem, _, named, _, vets⟩ := may refs given
    rw [along.listed idle listed known old mem machine found (same.trans named.symm)]
    exact follows_of_vets vets
  have inherits : Inherits owner (fun machine => machine.name = name ∧ patch.ownerReferences ≠ none) world next := by
    have patched : next = world.patchMachine name patch → Inherits owner
        (fun machine => machine.name = name ∧ patch.ownerReferences ≠ none) world next :=
      fun changed => changed ▸ inherits_patchMachine fun adopts machine same => ⟨same, adopts⟩
    cases answer with
    | ok value => exact patched answered
    | error error =>
      obtain ⟨_, rfl | happened⟩ := answered
      · exact inherits_refl
      · exact patched happened
  exact along.keep admitted inherits _

theorem along_createMachine {machine : Machine} {adopting : Bool} {operations : Nat}
    (along : Along parse owner world ledger) (version : machine.version = some owner.ocnecp.spec.version)
    (answered : env True world (.createMachine machine) answer next) :
    Along parse owner next ⟨ledger.listed, operations + 1, adopting⟩ := by
  have added : (∃ created free, next = world.addMachine { machine with creationTimestamp := created } free) →
      Near parse owner next := by
    rintro ⟨created, free, rfl⟩ other found own
    rcases List.mem_cons.mp found with rfl | earlier
    · rw [version]
      exact follows_self _ _
    · exact along.near other earlier own
  refine ⟨?_, fun idle => absurd idle (Nat.succ_ne_zero _)⟩
  cases answer with
  | ok value => exact added answered
  | error error =>
    obtain ⟨_, rfl | happened⟩ := answered
    · exact along.near
    · exact added happened

theorem along_deleteMachine {adopting : Bool} {operations : Nat}
    (along : Along parse owner world ledger) (answered : env True world (.deleteMachine name) answer next) :
    Along parse owner next ⟨ledger.listed, operations + 1, adopting⟩ := by
  have deleted : (∃ time, next = world.startDeletion name time) ∨ next = world.removeMachine name →
      Inherits owner (fun _ => False) world next := by
    rintro (⟨time, rfl⟩ | rfl)
    · exact inherits_updateMachine (fun _ => rfl) fun _ _ => .inl
    · exact inherits_removeMachine
  have inherits : Inherits owner (fun _ => False) world next := by
    cases answer with
    | ok value => exact deleted answered
    | error error =>
      obtain ⟨_, rfl | happened⟩ := answered
      · exact inherits_refl
      · exact deleted happened
  exact ⟨along.near.inherits (fun _ _ => False.elim) inherits, fun idle => absurd idle (Nat.succ_ne_zero _)⟩

theorem along_call {call : Call} {answer : call.Answer} (along : Along runtime.parseTolerant owner world ledger)
    (may : owner.Permits runtime ledger call) (answered : env True world call answer next) :
    Along runtime.parseTolerant owner next (ledger.record call answer) := by
  cases call with
  | createMachine machine =>
    obtain ⟨_, _, _, _, create⟩ := may
    exact along_createMachine along create.fits.version answered
  | deleteMachine name => exact along_deleteMachine along answered
  | patchMachine name patch => exact along_adopt along may answered
  | listMachines clusterName =>
    cases answer with
    | ok machines =>
      obtain ⟨rfl, lists⟩ := answered
      exact along.list lists
    | error error =>
      obtain ⟨rfl, _⟩ := answered
      exact along
  | _ =>
    have same := env_machines trivial answered
    exact ⟨by rw [Near, same]; exact along.near, by rw [same]; exact along.listed⟩

theorem reconcile_near {cluster : Cluster} {trace : List (Event signature World)}
    {rest : Prog signature (Except Err Result)} (same : cluster.name = owner.clusterName)
    (near : Near runtime.parseTolerant owner world)
    (run : Run (env True) (reconcile runtime cluster owner.ocnecp).run world trace rest next) :
    Near runtime.parseTolerant owner next ∧ ∀ event ∈ trace, ∀ machine, event.request = .createMachine machine →
      machine.version = some owner.ocnecp.spec.version ∧ Near runtime.parseTolerant owner event.before := by
  have disciplined : Ends runtime owner (reconcile runtime cluster owner.ocnecp) .empty := reconcile_disciplined same
  have start : Along runtime.parseTolerant owner world .empty := ⟨near, fun _ _ none => by cases none⟩
  obtain ⟨along, _, events⟩ := tracking_run (Along runtime.parseTolerant owner) run disciplined
    (fun _ _ _ _ _ may answered along => along_call along may answered) start
  refine ⟨along.near, fun event occurs machine creates => ?_⟩
  obtain ⟨ledger, may, alongEvent, _⟩ := events event occurs
  rw [creates] at may
  obtain ⟨_, _, _, _, create⟩ := may
  exact ⟨create.fits.version, alongEvent.near⟩

end Passes

section Sites

/-- The clusters, and the control plane object as it is stored. -/
structure Site where
  world : World
  stored : Document

def Site.owner (clusterName : String) (site : Site) : Owner :=
  ⟨site.stored.object, clusterName⟩

variable {parse : String → Except Err Version} {clusterName : String} {guard : Site → Document → Prop}

/-- A pass, an accepted update, or a change by others: health and deletions. -/
inductive Step (parse : String → Except Err Version) (clusterName : String) (guard : Site → Document → Prop)
    (site : Site) : Site → Prop
  | pass {runtime : Runtime} {cluster : Cluster} {ocnecp : OCNEControlPlane} {trace : List (Event signature World)}
      {rest : Prog signature (Except Err Result)} {next : World} (parses : runtime.parseTolerant = parse)
      (named : cluster.name = clusterName) (name : ocnecp.name = site.stored.object.name)
      (spec : ocnecp.spec = site.stored.object.spec)
      (run : Run (env True) (reconcile runtime cluster ocnecp).run site.world trace rest next) :
      Step parse clusterName guard site ⟨next, site.stored⟩
  | update {runtime : Webhooks.Update.Runtime} {new : Document} (name : new.object.name = site.stored.object.name)
      (accepted : validateUpdate runtime site.stored new = .ok []) (guarded : guard site new) :
      Step parse clusterName guard site ⟨site.world, new⟩
  | event {next : World} (evolves : ∀ after ∈ next.machines, ∃ before ∈ site.world.machines,
      Evolves True before after ∧ after.version = before.version) :
      Step parse clusterName guard site ⟨next, site.stored⟩

abbrev Reaches (parse : String → Except Err Version) (clusterName : String) (guard : Site → Document → Prop) :
    Site → Site → Prop :=
  Relation.ReflTransGen (Step parse clusterName guard)

/-- The version of an object follows those of all machines it owns. -/
def Ready (parse : String → Except Err Version) (clusterName : String) (site : Site) (new : Document) : Prop :=
  ∀ machine ∈ site.world.machines, (site.owner clusterName).isOwn machine = true →
    follows parse (some new.object.spec.version) machine.version = true

variable {first second : OCNEControlPlane}

theorem isOwn_congr (name : first.name = second.name) :
    (Owner.mk first clusterName).isOwn = (Owner.mk second clusterName).isOwn := by
  funext machine
  simp only [Owner.isOwn, OCNEControlPlane.identity, name]

theorem near_congr (name : first.name = second.name) (spec : first.spec = second.spec) {world : World} :
    Near parse ⟨first, clusterName⟩ world ↔ Near parse ⟨second, clusterName⟩ world := by
  unfold Near
  rw [isOwn_congr name, spec]

theorem inherits_of_evolves {owner : Owner} {world next : World} (evolves : ∀ after ∈ next.machines,
    ∃ before ∈ world.machines, Evolves True before after ∧ after.version = before.version) :
    Inherits owner (fun _ => False) world next := by
  intro after found
  obtain ⟨before, earlier, evolved, version⟩ := evolves after found
  refine ⟨before, earlier, evolved.name, version, fun own => .inl ?_⟩
  simpa [Owner.isOwn, evolved.controlPlaneMachines, ownedMachines, evolved.ownerReferences] using own

theorem step_near {site next : Site} (near : Near parse (site.owner clusterName) site.world)
    (step : Step parse clusterName (Ready parse clusterName) site next) :
    Near parse (next.owner clusterName) next.world := by
  cases step with
  | @pass runtime cluster ocnecp trace rest next parses named name spec run =>
    subst parses
    have seen : Near runtime.parseTolerant ⟨ocnecp, clusterName⟩ site.world := (near_congr name spec).mpr near
    exact (near_congr name spec).mp (reconcile_near named seen run).1
  | update name accepted ready =>
    intro machine found own
    rw [Site.owner, isOwn_congr name] at own
    exact ready machine found own
  | event evolves => exact near.inherits (fun _ _ => False.elim) (inherits_of_evolves evolves)

theorem reaches_near {start site : Site} (near : Near parse (start.owner clusterName) start.world)
    (reaches : Reaches parse clusterName (Ready parse clusterName) start site) :
    Near parse (site.owner clusterName) site.world := by
  induction reaches with
  | refl => exact near
  | tail _ step ih => exact step_near ih step

/-- If every update waits until its version follows all machines, every machine created follows those that are there. -/
theorem created_machine_follows {start site : Site} (level : ∀ machine ∈ start.world.machines,
      (start.owner clusterName).isOwn machine = true → machine.version = some start.stored.object.spec.version)
    (reaches : Reaches parse clusterName (Ready parse clusterName) start site) {runtime : Runtime} {cluster : Cluster}
    {ocnecp : OCNEControlPlane} {trace : List (Event signature World)} {rest : Prog signature (Except Err Result)}
    {next : World} (parses : runtime.parseTolerant = parse) (named : cluster.name = clusterName)
    (name : ocnecp.name = site.stored.object.name) (spec : ocnecp.spec = site.stored.object.spec)
    (run : Run (env True) (reconcile runtime cluster ocnecp).run site.world trace rest next)
    {event : Event signature World} (occurs : event ∈ trace) {machine : Machine}
    (creates : event.request = .createMachine machine) :
    ∀ other ∈ event.before.machines, (site.owner clusterName).isOwn other = true →
      follows parse machine.version other.version = true := by
  subst parses
  have first : Near runtime.parseTolerant (start.owner clusterName) start.world := by
    intro other found own
    rw [level other found own]
    exact follows_self _ _
  have seen : Near runtime.parseTolerant ⟨ocnecp, clusterName⟩ site.world :=
    (near_congr name spec).mpr (reaches_near first reaches)
  obtain ⟨version, near⟩ := (reconcile_near named seen run).2 event occurs machine creates
  intro other found own
  rw [version]
  rw [Site.owner, ← isOwn_congr name] at own
  exact near other found own

end Sites

private def versioned (version : String) : Document where
  object := { plainDocument.object with spec := { plainDocument.object.spec with version := version } }
  json := (applyPatch (some plainDocument.json)
    (some (.object [("spec", .object [("version", text version)])]))).getD .null
  shaped := rfl
  format := rfl
  external := rfl

private def healthy (version : String) : Machine :=
  labelledMachine "a" version [plainDocument.object.newControllerRef]

private def oneMachine (version : String) : World :=
  { (default : World) with machines := ⟨[healthy version], by simp⟩ }

private def oneMachineSite (machineVersion version : String) : Site :=
  ⟨oneMachine machineVersion, versioned version⟩

private def seen (version : String) : OCNEControlPlane :=
  { (versioned version).object with initialized := false }

private theorem oneMachine_level {version : String} : ∀ machine ∈ (oneMachineSite version version).world.machines,
    ((oneMachineSite version version).owner "cluster").isOwn machine = true →
      machine.version = some (oneMachineSite version version).stored.object.spec.version := by
  intro machine found _
  obtain rfl := List.mem_singleton.mp found
  rfl

private theorem update_step {parse : String → Except Err Version} {guard : Site → Document → Prop}
    {machineVersion : String} {old new : String}
    (accepted : validateUpdate lenient (versioned old) (versioned new) = .ok [])
    (guarded : guard (oneMachineSite machineVersion old) (versioned new)) :
    Step parse "cluster" guard (oneMachineSite machineVersion old) (oneMachineSite machineVersion new) :=
  .update rfl accepted guarded

private def createsBeside (owner : Owner) (compare : Option String → Option String → Bool)
    (event : Event signature World) : Bool :=
  match event.request with
  | .createMachine machine => event.before.machines.items.any fun other =>
      owner.isOwn other && compare machine.version other.version
  | _ => false

private def upgradeTrace (machineVersion version : String) : List (Event signature World) :=
  (reconcile default readyCluster (seen version)).run.trace (serve plainly) (oneMachine machineVersion)

private theorem exists_creation {trace : List (Event signature World)} (owner : Owner)
    (compare : Option String → Option String → Bool) (creation : trace.any (createsBeside owner compare) = true) :
    ∃ event ∈ trace, ∃ machine, event.request = .createMachine machine ∧
      ∃ other ∈ event.before.machines, owner.isOwn other = true ∧ compare machine.version other.version = true := by
  obtain ⟨event, occurs, creates⟩ := List.any_eq_true.mp creation
  refine ⟨event, occurs, ?_⟩
  unfold createsBeside at creates
  split at creates
  · rename_i machine request
    obtain ⟨other, found, both⟩ := List.any_eq_true.mp creates
    exact ⟨machine, request, other, found, Bool.and_eq_true_iff.mp both⟩
  · cases creates

private theorem upgrade_run (machineVersion version : String) :
    ∃ rest next, Run (env True) (reconcile default readyCluster (seen version)).run (oneMachine machineVersion)
      (upgradeTrace machineVersion version) rest next :=
  ⟨_, _, serve_run plainly (reconcile default readyCluster (seen version)).run (oneMachine machineVersion)⟩

/-- The next minor version, when all machines have the version of the control plane. -/
theorem created_machine_follows_next : ∃ start site, Reaches parseMajorMinorPatchTolerant "cluster"
      (Ready parseMajorMinorPatchTolerant "cluster") start site ∧
    ∃ event ∈ upgradeTrace "v1.25.7" "v1.26.6", ∃ machine, event.request = .createMachine machine ∧
      machine.version = some "v1.26.6" ∧ ∃ other ∈ event.before.machines, other.version = some "v1.25.7" ∧
        follows parseMajorMinorPatchTolerant machine.version other.version = true := by
  have accepted : validateUpdate lenient (versioned "v1.25.7") (versioned "v1.26.6") = .ok [] := by decide +kernel
  have ready : Ready parseMajorMinorPatchTolerant "cluster" (oneMachineSite "v1.25.7" "v1.25.7") (versioned "v1.26.6") := by
    intro machine found _
    obtain rfl := List.mem_singleton.mp found
    decide +kernel
  have reaches : Reaches parseMajorMinorPatchTolerant "cluster" (Ready parseMajorMinorPatchTolerant "cluster")
      (oneMachineSite "v1.25.7" "v1.25.7") (oneMachineSite "v1.25.7" "v1.26.6") :=
    .single (update_step accepted ready)
  have creation : (upgradeTrace "v1.25.7" "v1.26.6").any (createsBeside
      ((oneMachineSite "v1.25.7" "v1.26.6").owner "cluster")
      fun new old => new == some "v1.26.6" && old == some "v1.25.7") = true := by decide +kernel
  obtain ⟨event, occurs, machine, creates, other, found, own, versions⟩ := exists_creation _ _ creation
  obtain ⟨rest, next, run⟩ := upgrade_run "v1.25.7" "v1.26.6"
  obtain ⟨isNew, isOld⟩ := Bool.and_eq_true_iff.mp versions
  refine ⟨_, _, reaches, event, occurs, machine, creates, eq_of_beq isNew, other, found, eq_of_beq isOld, ?_⟩
  have parses : (default : Runtime).parseTolerant = parseMajorMinorPatchTolerant := rfl
  have named : readyCluster.name = "cluster" := rfl
  have name : (seen "v1.26.6").name = (oneMachineSite "v1.25.7" "v1.26.6").stored.object.name := rfl
  have spec : (seen "v1.26.6").spec = (oneMachineSite "v1.25.7" "v1.26.6").stored.object.spec := rfl
  exact created_machine_follows oneMachine_level reaches parses named name spec run occurs creates
    other found own

/-- Two updates in a row are accepted while the machine still has the first version, and a machine two minor versions
above is created. -/
theorem updates_skip_minor : ∃ (start site : Site),
    (∀ machine ∈ start.world.machines, (start.owner "cluster").isOwn machine = true →
      machine.version = some start.stored.object.spec.version) ∧
    Reaches parseMajorMinorPatchTolerant "cluster" (fun _ _ => True) start site ∧
    ∃ (runtime : Runtime) (cluster : Cluster) (ocnecp : OCNEControlPlane) (trace : List (Event signature World))
      (rest : Prog signature (Except Err Result)) (next : World), runtime.parseTolerant = parseMajorMinorPatchTolerant ∧
      cluster.name = "cluster" ∧ ocnecp.name = site.stored.object.name ∧ ocnecp.spec = site.stored.object.spec ∧
      Run (env True) (reconcile runtime cluster ocnecp).run site.world trace rest next ∧
      ∃ event ∈ trace, ∃ machine, event.request = .createMachine machine ∧
        ∃ other ∈ event.before.machines, (site.owner "cluster").isOwn other = true ∧
          follows parseMajorMinorPatchTolerant machine.version other.version = false := by
  have first : validateUpdate lenient (versioned "v1.24.8") (versioned "v1.25.7") = .ok [] := by decide +kernel
  have second : validateUpdate lenient (versioned "v1.25.7") (versioned "v1.26.6") = .ok [] := by decide +kernel
  have reaches : Reaches parseMajorMinorPatchTolerant "cluster" (fun _ _ => True)
      (oneMachineSite "v1.24.8" "v1.24.8") (oneMachineSite "v1.24.8" "v1.26.6") :=
    .tail (.single (update_step first trivial)) (update_step second trivial)
  have creation : (upgradeTrace "v1.24.8" "v1.26.6").any (createsBeside
      ((oneMachineSite "v1.24.8" "v1.26.6").owner "cluster")
      fun new old => !follows parseMajorMinorPatchTolerant new old) = true := by decide +kernel
  obtain ⟨event, occurs, machine, creates, other, found, own, apart⟩ := exists_creation _ _ creation
  obtain ⟨rest, next, run⟩ := upgrade_run "v1.24.8" "v1.26.6"
  exact ⟨_, _, oneMachine_level, reaches, default, readyCluster, seen "v1.26.6", _, rest, next, rfl, rfl,
    rfl, rfl, run, event, occurs, machine, creates, other, found, own, by simpa using apart⟩

end OcneProvider.Controller.Versions
