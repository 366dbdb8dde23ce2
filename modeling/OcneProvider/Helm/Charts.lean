import OcneProvider.Data.Paths
import OcneProvider.Effects.Stateful
import OcneProvider.Helm.Images
import OcneProvider.Helm.Operators

/-! The chart of the platform operator, as it is written from a config map to the disk. -/

namespace OcneProvider.Helm.Charts
open Api.Meta Data.Paths Data.Strings Effects.Stateful Images Releases List

section Disk

abbrev Bytes := List UInt8

inductive Node where
  | directory
  | file (content : Bytes)
  deriving DecidableEq

abbrev Disk := List Name → Option Node

structure Answers where
  coreV1 : Except Err Unit
  /-- The data of the config map in the order in which it is gone through. -/
  configMap : Except Err (List (Text × Bytes))
  /-- A failed removal may leave anything. -/
  removeAll : Option (Err × (List Name → Bool))
  mkdir : List Name → Option Err
  create : Text → Option Err
  /-- A failed write may have written some bytes. -/
  write : Text → Option (Nat × Err)
  readFile : Option Err
  /-- The image in the values of a chart. -/
  imageOf : Bytes → Except Err Text

def pathError (operation : String) (names : List Name) (reason : String) : Err :=
  errorf (operation ++ " " ++ String.ofList ('/' :: ['/'].intercalate names) ++ ": " ++ reason)

def isFile : Option Node → Bool
  | some (.file _) => true
  | _ => false

def set (names : List Name) (node : Node) (disk : Disk) : Disk :=
  fun path => if path = names then some node else disk path

variable (answers : Answers)

def removeBelow (names : List Name) (left : List Name → Bool) (disk : Disk) : Disk :=
  fun path => if names <+: path ∧ left path = false then none else disk path

def removeAll (path : Text) : Changing Err Disk Unit :=
  match answers.removeAll with
  | none => modify (removeBelow (components path) fun _ => false)
  | some (error, left) => do
    modify (removeBelow (components path) left)
    throw error

def mkdir (names : List Name) : Changing Err Disk Unit := do
  match (← get) names with
  | some .directory => pure ()
  | some (.file _) => throw (pathError "mkdir" names "not a directory")
  | none =>
    match answers.mkdir names with
    | some error => throw error
    | none => modify (set names .directory)

def mkdirAll (path : Text) : Changing Err Disk Unit :=
  (components path).inits.forM (mkdir answers)

/-- The file is empty afterwards. -/
def create (key : Text) (names : List Name) : Changing Err Disk Unit := do
  let disk ← get
  match answers.create key with
  | some error => throw error
  | none =>
    if names.dropLast.inits.any fun above => isFile (disk above) then throw (pathError "open" names "not a directory")
    else if disk names.dropLast ≠ some .directory then throw (pathError "open" names "no such file or directory")
    else if disk names = some .directory then throw (pathError "open" names "is a directory")
    else modify (set names (.file []))

def written (entry : Text × Bytes) : Bytes :=
  match answers.write entry.1 with
  | none => entry.2
  | some (count, _) => entry.2.take count

/-- The error of a write is returned, not thrown. -/
def write (entry : Text × Bytes) (names : List Name) : Changing Err Disk (Option Err) := do
  modify (set names (.file (written answers entry)))
  return (answers.write entry.1).map Prod.snd

theorem set_same (names : List Name) (node : Node) (disk : Disk) : set names node disk names = some node :=
  if_pos rfl

theorem set_of_ne {path names : List Name} (elsewhere : path ≠ names) (node : Node) (disk : Disk) :
    set names node disk path = disk path :=
  if_neg elsewhere

theorem set_set (names : List Name) (first second : Node) (disk : Disk) :
    set names second (set names first disk) = set names second disk := by
  funext path
  by_cases here : path = names
  · subst here
    rw [set_same, set_same]
  · rw [set_of_ne here, set_of_ne here, set_of_ne here]

end Disk

section Extraction

def verrazzanoPlatformOperatorChartPath : Text := "/tmp/charts/verrazzano-platform-operator/".toList

def fileName (key : Text) : Text :=
  replaceAll "...".toList "/".toList key

def target (key : Text) : Text :=
  join [verrazzanoPlatformOperatorChartPath, fileName key]

def place (key : Text) : List Name := components (target key)

variable (answers : Answers)

/-- After a write it is another error that is tested, that of the directories. -/
def extractEntry (err : Option Err) (entry : Text × Bytes) : Changing Err Disk Unit := do
  create answers entry.1 (place entry.1)
  let fileErr ← write answers entry (place entry.1)
  match err, fileErr with
  | some _, some fileErr => throw fileErr
  | _, _ => pure ()

def getDefaultVPOImageFromHelmChart (disk : Disk) : Except Err Text :=
  let names := components (join [verrazzanoPlatformOperatorChartPath, "values.yaml".toList])
  match answers.readFile, disk names with
  | some error, _ => .error error
  | none, some (.file content) => answers.imageOf content
  | none, some .directory => .error (pathError "read" names "is a directory")
  | none, none => .error (pathError "open" names "no such file or directory")

def getVerrazzanoPlatformOperatorAddons (spec : VerrazzanoPlatformOperator) : Changing Err Disk HelmModuleAddons := do
  ExceptT.mk (pure answers.coreV1)
  let data ← ExceptT.mk (pure answers.configMap)
  removeAll answers verrazzanoPlatformOperatorChartPath
  mkdirAll answers (join [verrazzanoPlatformOperatorChartPath, "crds".toList])
  mkdirAll answers (join [verrazzanoPlatformOperatorChartPath, "templates".toList])
  -- the calls before the loop have left no error
  data.forM (extractEntry answers none)
  let disk ← get
  let out ← ExceptT.mk (pure (generateDataValuesForVerrazzanoPlatformOperator
    (getDefaultVPOImageFromHelmChart answers disk) spec))
  return Operators.verrazzanoPlatformOperatorAddons (String.ofList out)

end Extraction

section Keys

def isKeyChar (char : Char) : Bool :=
  char.isAlphanum || char == '-' || char == '_' || char == '.'

/-- A key that a config map can have. -/
structure LegalKey (key : Text) : Prop where
  chars : ∀ char ∈ key, isKeyChar char = true
  notCurrent : key ≠ current
  notParent : ¬ parent <+: key

variable {key : Text}

theorem LegalKey.slash (legal : LegalKey key) : '/' ∉ key := by
  intro mem
  exact absurd (legal.chars '/' mem) (by decide)

private theorem head?_replaceAll {text : Text} (slash : '/' ∉ text)
    (begins : '/' ∈ (fileName text).head?) : "...".toList <+: text := by
  cases text with
  | nil => cases begins
  | cons first rest =>
    by_contra absent
    rw [fileName, replaceAll_cons absent, head?_cons, Option.mem_some_iff] at begins
    exact slash (begins ▸ mem_cons_self)

theorem fileName_apart (slash : '/' ∉ key) :
    (fileName key).IsChain fun first second => ¬ (first = '.' ∧ second = '/') := by
  have apart (covered : Nat) : (replaceFrom "...".toList "/".toList covered key).IsChain
      fun first second => ¬ (first = '.' ∧ second = '/') := by
    induction key generalizing covered with
    | nil => simp [replaceFrom]
    | cons first rest ih =>
      rw [mem_cons, not_or] at slash
      cases covered with
      | succ covered => exact ih slash.2 covered
      | zero =>
        rw [replaceFrom]
        split
        next =>
          apply isChain_cons.mpr
          exact ⟨fun _ _ same => absurd same.1 (by decide), ih slash.2 _⟩
        next absent =>
          refine isChain_cons.mpr ⟨?_, ih slash.2 0⟩
          rintro _ begins ⟨rfl, rfl⟩
          apply absent
          obtain ⟨more, rfl⟩ := head?_replaceAll slash.2 begins
          exact ⟨'.' :: more, rfl⟩
  exact apart 0

/-- The name of a file begins like its key, with something that goes down. -/
theorem firstPart_fileName (legal : LegalKey key) (nonempty : key ≠ []) :
    (∃ first rest, firstPart '/' (fileName key) = first :: rest ∧ first ≠ '.') ∨
      ∃ second rest, firstPart '/' (fileName key) = '.' :: second :: rest ∧ second ≠ '.' := by
  obtain ⟨first, rest, rfl⟩ := exists_cons_of_ne_nil nonempty
  have slash := legal.slash
  rw [mem_cons, not_or] at slash
  by_cases dot : first = '.'
  · subst dot
    cases rest with
    | nil => exact absurd rfl legal.notCurrent
    | cons second others =>
      rw [mem_cons, not_or] at slash
      have notDot : second ≠ '.' := by
        rintro rfl
        exact legal.notParent ⟨others, rfl⟩
      right
      refine ⟨second, firstPart '/' (fileName others), ?_, notDot⟩
      rw [fileName, replaceAll_cons (by simp [cons_prefix_cons, notDot.symm]),
        replaceAll_cons (by simp [cons_prefix_cons, notDot.symm]), firstPart_cons (by decide),
        firstPart_cons (Ne.symm slash.2.1)]
      rfl
  · left
    refine ⟨first, firstPart '/' (fileName rest), ?_, dot⟩
    rw [fileName, replaceAll_cons (by simp [cons_prefix_cons, Ne.symm dot]), firstPart_cons (Ne.symm slash.1)]
    rfl

theorem fileName_descends (legal : LegalKey key) (nonempty : key ≠ []) : Descends (fileName key) := by
  have stays : ∀ part ∈ ((fileName key).splitOn '/').dropLast, part ≠ parent := by
    intro part mem same
    exact getLast?_part_ne (fileName_apart legal.slash) part mem (same ▸ rfl)
  obtain ⟨first, rest, begins, notDot⟩ | ⟨second, rest, begins, notDot⟩ := firstPart_fileName legal nonempty
  · exact ⟨by simp [begins], by simp [begins, current, notDot], by simp [begins, parent, notDot], stays⟩
  · exact ⟨by simp [begins], by simp [begins, current], by simp [begins, parent, notDot], stays⟩

def chartNames : List Name := components verrazzanoPlatformOperatorChartPath

theorem chartPath_isRooted : isRooted verrazzanoPlatformOperatorChartPath = true := rfl

theorem chartNames_ne_nil : chartNames ≠ [] := by decide

theorem target_within (legal : LegalKey key) : Within (clean verrazzanoPlatformOperatorChartPath) (target key) := by
  by_cases nonempty : key = []
  · left
    rw [nonempty]
    decide +kernel
  · exact join_within chartPath_isRooted chartNames_ne_nil (fileName_descends legal nonempty)

theorem place_within (legal : LegalKey key) : chartNames <+: place key := by
  by_cases nonempty : key = []
  · rw [nonempty]
    decide +kernel
  · exact components_join chartPath_isRooted (fileName_descends legal nonempty)

end Keys

section Containment

/-- Outside of the chart only the directories that lead to it may be new. -/
def Contained (before after : Disk) : Prop :=
  ∀ path, ¬ chartNames <+: path → after path = before path ∨
    path <+: chartNames ∧ before path = none ∧ after path = some .directory

instance : IsPreorder Disk Contained where
  refl _ _ _ := .inl rfl
  trans first second third early late := by
    intro path outside
    obtain same | ⟨above, absent, made⟩ := early path outside
    · rw [← same]
      exact late path outside
    · obtain kept | ⟨-, missing, -⟩ := late path outside
      · exact .inr ⟨above, absent, kept.trans made⟩
      · rw [made] at missing
        cases missing

variable {answers : Answers} {names : List Name}

theorem contained_set (inside : chartNames <+: names) {node : Node} (disk : Disk) :
    Contained disk (set names node disk) := by
  intro path outside
  left
  apply if_neg
  rintro rfl
  exact outside inside

theorem removeAll_contained : Moves Contained (removeAll answers verrazzanoPlatformOperatorChartPath) := by
  have cleared (left : List Name → Bool) (disk : Disk) : Contained disk (removeBelow chartNames left disk) :=
    fun path outside => .inl (if_neg fun inside => outside inside.1)
  unfold removeAll
  split
  · exact Moves.modify _ (cleared _)
  · exact Moves.bind (Moves.modify _ (cleared _)) fun _ => Moves.throw _

theorem mkdir_cases (disk : Disk) :
    (outcome (mkdir answers names) disk).2 = disk ∨
      disk names = none ∧ (outcome (mkdir answers names) disk).2 = set names .directory disk := by
  simp only [mkdir, outcome_bind, outcome_get]
  cases at_path : disk names with
  | some node => cases node <;> exact .inl rfl
  | none =>
    cases made : answers.mkdir names with
    | some error => exact .inl rfl
    | none => exact .inr ⟨rfl, rfl⟩

theorem mkdir_contained (near : chartNames <+: names ∨ names <+: chartNames) :
    Moves Contained (mkdir answers names) := by
  intro disk
  obtain same | ⟨absent, made⟩ := mkdir_cases disk
  · rw [same]
    exact refl_of Contained disk
  · rw [made]
    obtain inside | above := near
    · exact contained_set inside disk
    · intro path outside
      by_cases here : path = names
      · subst here
        exact .inr ⟨above, absent, if_pos rfl⟩
      · exact .inl (if_neg here)

theorem mkdirAll_contained {path : Text} (inside : chartNames <+: components path) :
    Moves Contained (mkdirAll answers path) := by
  apply Moves.forM
  intro above mem
  exact mkdir_contained (List.prefix_or_prefix_of_prefix inside ((mem_inits _ _).mp mem))

theorem create_contained {key : Text} (inside : chartNames <+: names) : Moves Contained (create answers key names) := by
  refine Moves.bind Moves.get fun disk => ?_
  split
  · exact Moves.throw _
  · refine Moves.ite (fun _ => Moves.throw _) fun _ => Moves.ite (fun _ => Moves.throw _) fun _ =>
      Moves.ite (fun _ => Moves.throw _) fun _ => ?_
    exact Moves.modify _ (contained_set inside)

theorem extractEntry_contained {err : Option Err} {entry : Text × Bytes} (legal : LegalKey entry.1) :
    Moves Contained (extractEntry answers err entry) := by
  have inside := place_within legal
  have wrote : Moves Contained (write answers entry (place entry.1)) :=
    Moves.bind (Moves.modify _ (contained_set inside)) fun _ => Moves.pure _
  refine Moves.bind (create_contained inside) fun _ => Moves.bind wrote fun fileErr => ?_
  split
  · exact Moves.throw _
  · exact Moves.pure _

theorem getVerrazzanoPlatformOperatorAddons_contained (spec : VerrazzanoPlatformOperator)
    (legal : ∀ data, answers.configMap = .ok data → ∀ entry ∈ data, LegalKey entry.1) :
    Moves Contained (getVerrazzanoPlatformOperatorAddons answers spec) := by
  refine Moves.bind (Moves.except _) fun _ => Moves.except_bind fun data fetched => ?_
  refine Moves.bind removeAll_contained fun _ => ?_
  refine Moves.bind (mkdirAll_contained (by decide +kernel)) fun _ => ?_
  refine Moves.bind (mkdirAll_contained (by decide +kernel)) fun _ => ?_
  have extracted : Moves Contained (data.forM (extractEntry answers none)) :=
    Moves.forM fun entry mem => extractEntry_contained (legal data fetched entry mem)
  refine Moves.bind extracted fun _ => ?_
  refine Moves.bind Moves.get fun disk => ?_
  exact Moves.bind (Moves.except _) fun _ => Moves.pure _

end Containment

/-- Every file of a legal config map is created in the chart directory or below it, and nothing else is touched. -/
theorem extraction_contained (answers : Answers) (spec : VerrazzanoPlatformOperator)
    (legal : ∀ data, answers.configMap = .ok data → ∀ entry ∈ data, LegalKey entry.1) :
    (∀ data, answers.configMap = .ok data → ∀ entry ∈ data,
      Within (clean verrazzanoPlatformOperatorChartPath) (target entry.1)) ∧
    Moves Contained (getVerrazzanoPlatformOperatorAddons answers spec) := by
  refine ⟨?_, getVerrazzanoPlatformOperatorAddons_contained spec legal⟩
  intro data fetched entry mem
  exact target_within (legal data fetched entry mem)

section Contents

variable {answers : Answers} {data before : List (Text × Bytes)} {entry : Text × Bytes} {disk : Disk}
  {path : List Name}

/-- The entry that is written to a path last. -/
def lastAt (data : List (Text × Bytes)) (path : List Name) : Option (Text × Bytes) :=
  data.reverse.find? fun entry => place entry.1 == path

theorem lastAt_append :
    lastAt (data ++ [entry]) path = if place entry.1 = path then some entry else lastAt data path := by
  simp only [lastAt, reverse_append, reverse_singleton, singleton_append, find?_cons]
  by_cases here : place entry.1 = path
  · simp [here]
  · simp [here, beq_false_of_ne here]

theorem mem_of_lastAt (last : lastAt data path = some entry) : entry ∈ data ∧ place entry.1 = path :=
  ⟨mem_reverse.mp (mem_of_find?_eq_some last), by simpa using find?_some last⟩

theorem exists_lastAt (mem : entry ∈ data) : ∃ last, lastAt data (place entry.1) = some last := by
  rw [← Option.isSome_iff_exists, lastAt, find?_isSome]
  exact ⟨entry, mem_reverse.mpr mem, by simp⟩

/-- Each path has what was last written to it, and the chart has no other file. -/
structure Holds (answers : Answers) (data : List (Text × Bytes)) (disk : Disk) : Prop where
  stored : ∀ path entry, lastAt data path = some entry → disk path = some (.file (written answers entry))
  only : ∀ path content, chartNames <+: path → disk path = some (.file content) →
    ∃ entry, lastAt data path = some entry

theorem removeAll_holds {pre : Disk → Prop} :
    Ensures pre (removeAll answers verrazzanoPlatformOperatorChartPath) fun _ => Holds answers [] := by
  unfold removeAll
  split
  · apply Ensures.modify
    intro disk _
    refine ⟨fun path entry last => (by cases last), fun path content inside found => ?_⟩
    rw [removeBelow, if_pos ⟨inside, rfl⟩] at found
    cases found
  next error left _ =>
    have changed : Ensures pre (modify (removeBelow chartNames left) : Changing Err Disk PUnit) fun _ _ => True :=
      Ensures.modify fun _ _ => trivial
    exact Ensures.bind changed fun _ => Ensures.throw error

theorem mkdir_holds (names : List Name) :
    Ensures (Holds answers []) (mkdir answers names) fun _ => Holds answers [] := by
  intro disk empty _ reached done
  have same : (outcome (mkdir answers names) disk).2 = reached := congrArg Prod.snd done
  obtain kept | ⟨absent, made⟩ := mkdir_cases disk
  · rw [← same, kept]
    exact empty
  · rw [← same, made]
    refine ⟨fun path entry last => (by cases last), fun path content inside found => ?_⟩
    by_cases here : path = names
    · rw [here, set_same] at found
      cases found
    · rw [set_of_ne here] at found
      exact empty.only path content inside found

theorem mkdirAll_holds (path : Text) :
    Ensures (Holds answers []) (mkdirAll answers path) fun _ => Holds answers [] := by
  have each : ∀ _before : List (List Name), ∀ names ∈ (components path).inits,
      Ensures (Holds answers []) (mkdir answers names) fun _ => Holds answers [] :=
    fun _ names _ => mkdir_holds names
  exact Ensures.forM each

theorem create_ensures {pre : Disk → Prop} (key : Text) (names : List Name) :
    Ensures pre (create answers key names) fun _ reached =>
      ∃ disk, pre disk ∧ reached = set names (.file []) disk := by
  intro disk start _ reached done
  simp only [create, outcome_bind, outcome_get] at done
  split at done
  · cases done
  · split_ifs at done
    · cases done
    · cases done
    · cases done
    · exact ⟨disk, start, (congrArg Prod.snd done).symm⟩

theorem Holds.update (holds : Holds answers before disk) (entry : Text × Bytes) : Holds answers (before ++ [entry])
      (set (place entry.1) (.file (written answers entry)) disk) := by
  constructor
  · intro path last found
    rw [lastAt_append] at found
    split at found
    next here =>
      obtain rfl := Option.some.inj found
      rw [← here, set_same]
    next elsewhere =>
      rw [set_of_ne (Ne.symm elsewhere)]
      exact holds.stored path last found
  · intro path content inside found
    rw [lastAt_append]
    split
    next => exact ⟨entry, rfl⟩
    next elsewhere =>
      rw [set_of_ne (Ne.symm elsewhere)] at found
      exact holds.only path content inside found

theorem extractEntry_holds :
    Ensures (Holds answers before) (extractEntry answers none entry) fun _ => Holds answers (before ++ [entry]) := by
  have wrote : Ensures
      (fun reached => ∃ disk, Holds answers before disk ∧
        reached = set (place entry.1) (.file []) disk)
      (write answers entry (place entry.1)) fun _ => Holds answers (before ++ [entry]) := by
    refine Ensures.bind (Ensures.modify ?_) fun _ => Ensures.pure fun _ => id
    rintro _ ⟨disk, holds, rfl⟩
    rw [set_set]
    exact holds.update entry
  exact Ensures.bind (create_ensures _ _) fun _ => Ensures.bind wrote fun _ => Ensures.pure fun _ => id

theorem getVerrazzanoPlatformOperatorAddons_holds (spec : VerrazzanoPlatformOperator)
    (fetched : answers.configMap = .ok data) :
    Ensures (fun _ => True) (getVerrazzanoPlatformOperatorAddons answers spec) fun _ => Holds answers data := by
  refine Ensures.except_bind fun _ _ => Ensures.except_bind fun found same => ?_
  obtain rfl := Except.ok.inj (fetched.symm.trans same)
  refine Ensures.bind removeAll_holds fun _ => ?_
  refine Ensures.bind (mkdirAll_holds _) fun _ => ?_
  refine Ensures.bind (mkdirAll_holds _) fun _ => ?_
  refine Ensures.bind (Ensures.forM fun _ _ _ => extractEntry_holds) fun _ => ?_
  exact Ensures.bind Ensures.get fun _ => Ensures.except_bind fun _ _ => Ensures.pure fun _ => id

/-- Each file of the chart has the value of its entry, and there is no other. -/
def Extracted (data : List (Text × Bytes)) (disk : Disk) : Prop :=
  (∀ entry ∈ data, disk (place entry.1) = some (.file entry.2)) ∧
    ∀ path content, chartNames <+: path → disk path = some (.file content) → ∃ entry ∈ data, place entry.1 = path

theorem Holds.extracted_iff (holds : Holds answers data disk) : Extracted data disk ↔
      (∀ path entry, lastAt data path = some entry → written answers entry = entry.2) ∧
        ∀ first ∈ data, ∀ second ∈ data, place first.1 = place second.1 → first.2 = second.2 := by
  constructor
  · rintro ⟨contents, -⟩
    have same {path : List Name} {last entry : Text × Bytes} (final : lastAt data path = some last)
        (mem : entry ∈ data) (here : place entry.1 = path) : written answers last = entry.2 := by
      have found := contents entry mem
      rw [here, holds.stored path last final] at found
      exact Node.file.inj (Option.some.inj found)
    constructor
    · intro path entry final
      obtain ⟨mem, here⟩ := mem_of_lastAt final
      exact same final mem here
    · intro first among second also here
      obtain ⟨last, final⟩ := exists_lastAt also
      exact (same final among here).symm.trans (same final also rfl)
  · rintro ⟨full, agree⟩
    constructor
    · intro entry mem
      obtain ⟨last, final⟩ := exists_lastAt mem
      obtain ⟨among, here⟩ := mem_of_lastAt final
      rw [holds.stored _ last final, full _ last final, agree last among entry mem here]
    · intro path content inside found
      obtain ⟨entry, final⟩ := holds.only path content inside found
      exact ⟨entry, mem_of_lastAt final⟩

end Contents

/-- A run that succeeds has extracted the chart if the last writes were complete and no two values go to one path. -/
theorem addons_extracted_iff (answers : Answers) (spec : VerrazzanoPlatformOperator) (data : List (Text × Bytes))
    (before after : Disk) (addons : HelmModuleAddons) (fetched : answers.configMap = .ok data)
    (returned : outcome (getVerrazzanoPlatformOperatorAddons answers spec) before = (.ok addons, after)) :
    Extracted data after ↔
      (∀ path entry, lastAt data path = some entry → written answers entry = entry.2) ∧
        ∀ first ∈ data, ∀ second ∈ data, place first.1 = place second.1 → first.2 = second.2 :=
  (getVerrazzanoPlatformOperatorAddons_holds spec fetched before trivial addons after returned).extracted_iff

private def nothing : Disk := fun _ => none

private def unconfigured : VerrazzanoPlatformOperator := ⟨none, none, false⟩

private def bytes (text : String) : Bytes := text.toList.map fun char => .ofNat char.toNat

/-- The image that a line of the values names, if that line is all there is. -/
private def imageIn (content : Bytes) : Except Err Text :=
  if bytes "image: " <+: content then .ok ((content.drop 7).map fun byte => .ofNat byte.toNat)
  else .error (errorf "yaml: unmarshal errors")

private def values : Text × Bytes :=
  ("values.yaml".toList, bytes "image: ghcr.io/verrazzano/verrazzano-platform-operator:v1.6.0")

private def crd : Text × Bytes := ("crds...a.yaml".toList, bytes "kind: CustomResourceDefinition")

private def chart : List (Text × Bytes) := [values, crd, ("Chart.yaml".toList, bytes "apiVersion: v2")]

private def fetching (data : List (Text × Bytes)) (write : Text → Option (Nat × Err)) : Answers where
  coreV1 := .ok ()
  configMap := .ok data
  removeAll := none
  mkdir _ := none
  create _ := none
  write := write
  readFile := none
  imageOf := imageIn

private def whole (data : List (Text × Bytes)) : Answers := fetching data fun _ => none

private theorem chart_legal :
    ∀ data, (whole chart).configMap = .ok data → ∀ entry ∈ data, LegalKey entry.1 := by
  intro data fetched
  obtain rfl := Except.ok.inj fetched
  have legal : ∀ entry ∈ chart, (entry.1.all isKeyChar) = true ∧ entry.1 ≠ current ∧ ¬ parent <+: entry.1 := by
    decide +kernel
  intro entry mem
  obtain ⟨chars, notCurrent, notParent⟩ := legal entry mem
  exact ⟨all_eq_true.mp chars, notCurrent, notParent⟩

theorem chart_contained : Within (clean verrazzanoPlatformOperatorChartPath) (target "crds...a.yaml".toList) ∧
      Contained nothing
        (outcome (getVerrazzanoPlatformOperatorAddons (whole chart) unconfigured) nothing).2 := by
  obtain ⟨within, contained⟩ := extraction_contained (whole chart) unconfigured chart_legal
  exact ⟨within chart rfl crd (by simp [chart]), contained nothing⟩

private theorem exists_of_isOk {answers : Answers}
    (succeeds : (outcome (getVerrazzanoPlatformOperatorAddons answers unconfigured) nothing).1.isOk = true) :
    ∃ addons, outcome (getVerrazzanoPlatformOperatorAddons answers unconfigured) nothing =
      (.ok addons, (outcome (getVerrazzanoPlatformOperatorAddons answers unconfigured) nothing).2) := by
  generalize outcome (getVerrazzanoPlatformOperatorAddons answers unconfigured) nothing = run at succeeds ⊢
  obtain ⟨error | addons, after⟩ := run
  · cases succeeds
  · exact ⟨addons, rfl⟩

theorem chart_extracted : ∃ addons after,
    outcome (getVerrazzanoPlatformOperatorAddons (whole chart) unconfigured) nothing = (.ok addons, after) ∧
      Extracted chart after := by
  have succeeds : (outcome (getVerrazzanoPlatformOperatorAddons (whole chart) unconfigured) nothing).1.isOk =
      true := by decide +kernel
  obtain ⟨addons, returned⟩ := exists_of_isOk succeeds
  refine ⟨addons, _, returned, ?_⟩
  apply (addons_extracted_iff _ _ chart _ _ _ rfl returned).mpr
  exact ⟨fun _ _ _ => rfl, by decide +kernel⟩

/-- A run that succeeds, after which the file of an entry has another content. -/
private theorem incomplete (answers : Answers) (data : List (Text × Bytes)) (entry last : Text × Bytes)
    (fetched : answers.configMap = .ok data)
    (succeeds : (outcome (getVerrazzanoPlatformOperatorAddons answers unconfigured) nothing).1.isOk = true)
    (mem : entry ∈ data) (final : lastAt data (place entry.1) = some last)
    (differs : written answers last ≠ entry.2) :
    ∃ addons after, outcome (getVerrazzanoPlatformOperatorAddons answers unconfigured) nothing = (.ok addons, after) ∧
      after (place entry.1) = some (.file (written answers last)) ∧ ¬ Extracted data after := by
  obtain ⟨addons, gave⟩ := exists_of_isOk succeeds
  have holds := getVerrazzanoPlatformOperatorAddons_holds unconfigured fetched nothing trivial addons _ gave
  have found := holds.stored _ last final
  refine ⟨addons, _, gave, found, ?_⟩
  rintro ⟨contents, -⟩
  have whole := found.symm.trans (contents entry mem)
  exact differs (Node.file.inj (Option.some.inj whole))

private def shortWrite : Answers :=
  fetching chart fun key => if key = crd.1 then some (4, errorf "no space left on device") else none

/-- Four dots are a separator and the directory itself. -/
private def twin : Text × Bytes :=
  ("values.yaml....".toList, bytes "image: ghcr.io/verrazzano/verrazzano-platform-operator:v1.6.1")

/-- A write that stops after four bytes goes unnoticed, and so do two entries for one file. -/
theorem chart_incomplete :
    (∃ addons after, outcome (getVerrazzanoPlatformOperatorAddons shortWrite unconfigured) nothing =
        (.ok addons, after) ∧
      after (place crd.1) = some (.file (bytes "kind")) ∧ ¬ Extracted chart after) ∧
    ∃ addons after, outcome (getVerrazzanoPlatformOperatorAddons (whole [values, twin]) unconfigured) nothing =
        (.ok addons, after) ∧
      after (place values.1) = some (.file twin.2) ∧ ¬ Extracted [values, twin] after := by
  constructor
  · exact incomplete shortWrite chart crd crd rfl (by decide +kernel) (by decide +kernel) (by decide +kernel)
      (by decide +kernel)
  · exact incomplete (whole [values, twin]) [values, twin] values twin rfl (by decide +kernel)
      (by decide +kernel) (by decide +kernel) (by decide +kernel)

end OcneProvider.Helm.Charts
