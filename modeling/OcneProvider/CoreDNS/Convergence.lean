import OcneProvider.CoreDNS.Crash
import OcneProvider.Effects.Answers
import Mathlib.Data.List.DropRight

/-! An upgrade of CoreDNS is made once: the image that it moves to is read back as one that is
kept, wherever its repository, its name and its tag come from. -/

namespace OcneProvider.CoreDNS.Convergence
open Api.Meta Api.Bootstrap Api.Formats Upgrade Crash Effects.Fallible Effects.Answers List

/-- The name of an image as the reference library returns it. -/
structure Named where
  domain : String
  path : String
  tag : Option String
  digest : Option String

def Named.name (named : Named) : String :=
  named.domain ++ "/" ++ named.path

def Named.text (named : Named) : String :=
  named.name ++ named.tag.elim "" (":" ++ ·) ++ named.digest.elim "" ("@" ++ ·)

def lastComponent (path : String) : String :=
  String.ofList (path.toList.rtakeWhile (· ≠ '/'))

/-- Names are accepted in canonical form only, and components of a path are not empty. -/
structure Reference where
  parseNamed : String → Except Err Named
  canonical : ∀ {image named}, parseNamed image = .ok named → named.text = image
  component : ∀ {image named}, parseNamed image = .ok named → lastComponent named.path ≠ ""

def imageFromString (reference : Reference) (image : String) : Except Err Image := do
  let named ← (reference.parseNamed image).mapError fun error => errorf ("couldn't parse image name: " ++ error.message)
  let nameOnly := lastComponent named.path
  let repository :=
    if nameOnly ≠ "" then String.ofList (named.name.toList.take (named.name.length - nameOnly.length - 1)) else ""
  return ⟨repository, nameOnly, named.tag.getD ""⟩

theorem slash_notMem_lastComponent (path : String) : '/' ∉ (lastComponent path).toList := by
  intro mem
  rw [lastComponent, String.toList_ofList] at mem
  simpa using mem_rtakeWhile_imp mem

theorem lastComponent_append (before path : String) : lastComponent (before ++ "/" ++ path) = lastComponent path := by
  unfold lastComponent
  congr 1
  rw [String.toList_append]
  induction path.toList using reverseRecOn with
  | nil => simp [String.toList_append]
  | append_singleton chars char ih => rw [← append_assoc, rtakeWhile_concat, rtakeWhile_concat, ih]

theorem lastComponent_of_plain {text : String} (plain : '/' ∉ text.toList) : lastComponent text = text := by
  unfold lastComponent
  rw [rtakeWhile_eq_self_iff.mpr]
  · exact String.ofList_toList
  · intro char mem
    simpa using fun (same : char = '/') => plain (same ▸ mem)

theorem take_before (before last : String) :
    String.ofList ((before ++ "/" ++ last).toList.take ((before ++ "/" ++ last).length - last.length - 1)) = before := by
  have length : (before ++ "/" ++ last).length - last.length - 1 = before.toList.length := by
    simp only [String.length_append, String.length_toList]
    have slash : "/".length = 1 := rfl
    omega
  rw [length, String.append_assoc, String.toList_append, take_left, String.ofList_toList]

theorem imageFromString_of_name {reference : Reference} {image before last : String} {named : Named}
    (accepted : reference.parseNamed image = .ok named) (same : named.name = before ++ "/" ++ last)
    (plain : '/' ∉ last.toList) (mem : last ≠ "") :
    imageFromString reference image = .ok ⟨before, last, named.tag.getD ""⟩ := by
  have nameOnly : lastComponent named.path = last := by
    rw [← lastComponent_append named.domain, ← Named.name, same, lastComponent_append, lastComponent_of_plain plain]
  unfold imageFromString
  rw [accepted]
  change Except.ok _ = _
  rw [nameOnly, if_pos mem, same, take_before]

theorem name_of_imageFromString {reference : Reference} {image : String} {parsed : Image}
    (parses : imageFromString reference image = .ok parsed) : '/' ∉ parsed.name.toList ∧ parsed.name ≠ "" := by
  obtain ⟨named, accepted, made⟩ := bind_eq_ok.mp parses
  cases made
  exact ⟨slash_notMem_lastComponent named.path, reference.component (mapError_eq_ok.mp accepted)⟩

theorem trimSlash_isPrefix (text : String) : (trimSlash text).toList <+: text.toList := by
  unfold trimSlash
  split
  next => simpa using dropLast_prefix text.toList
  next => exact prefix_rfl

theorem hasStart_moved (rest : String) :
    hasStart (trimSlash (defaultImageRepository ++ rest)) oldDefaultImageRepository = false := by
  apply Bool.eq_false_of_not_eq_true
  intro starts
  obtain ⟨later, same⟩ := (List.isPrefixOf_iff_prefix.mp starts).trans (trimSlash_isPrefix _)
  have first := congrArg head? same
  exact absurd first (by simp [defaultImageRepository, oldDefaultImageRepository])

theorem toRepository_again (config : ClusterConfiguration) (version : SemVer) (current : String) :
    (∀ other, toRepository config version other = toRepository config version current) ∨
      (toRepository config version (toRepository config version current) = toRepository config version current ∧
        (toRepository config version current = oldDefaultImageRepository ∨
            toRepository config version current = defaultImageRepository →
          toRepository config version (toRepository config version current ++ "/" ++ oldCoreDNSImageName) =
            toRepository config version current ++ "/" ++ oldCoreDNSImageName)) := by
  by_cases own : config.dns.imageRepository = ""
  case neg =>
    left
    intro other
    simp [toRepository, own]
  by_cases kept : imageRepositoryFromClusterConfig config version = ""
  · right
    simp [toRepository, own, kept]
  by_cases moved : imageRepositoryFromClusterConfig config version = defaultImageRepository
  case neg =>
    left
    intro other
    simp [toRepository, own, kept, moved]
  right
  have registry : ∀ other, toRepository config version other =
      if hasStart other oldDefaultImageRepository then
        trimSlash (defaultImageRepository ++ trimStart other oldDefaultImageRepository)
      else other := by
    intro other
    have mem : defaultImageRepository ≠ "" := by decide
    simp [toRepository, own, moved, mem]
  have fresh : hasStart (toRepository config version current) oldDefaultImageRepository = false := by
    rw [registry]
    split
    next => exact hasStart_moved _
    next old => simpa using old
  have again : toRepository config version (toRepository config version current) = toRepository config version current := by
    rw [registry (toRepository config version current), fresh]
    rfl
  refine ⟨again, ?_⟩
  rintro (old | new)
  · rw [old] at fresh
    exact absurd fresh (by decide)
  · rw [new, registry]
    decide

/-- The registries where the image was renamed. -/
abbrev Renames (repository name : String) (target : Version) : Prop :=
  (repository = oldDefaultImageRepository ∨ repository = defaultImageRepository) ∧
    name = oldCoreDNSImageName ∧ !versionLt target ⟨1, 8, 0⟩

theorem toName_kept {repository name : String} {target : Version} (same : ¬ Renames repository name target) :
    toName repository name target = name :=
  if_neg same

theorem toName_renamed {repository name : String} {target : Version} (renames : Renames repository name target) :
    toName repository name target = coreDNSImageName :=
  if_pos renames

theorem nested (repository : String) : repository ++ "/" ++ coreDNSImageName =
    repository ++ "/" ++ oldCoreDNSImageName ++ "/" ++ oldCoreDNSImageName := by
  simp only [String.append_assoc]
  rfl

theorem target_again {config : ClusterConfiguration} {version : SemVer} {current : String} {name : String}
    (target : Version) (plain : '/' ∉ name.toList) (mem : name ≠ "") {repository : String}
    (chosen : repository = toRepository config version current) :
    ∃ before last, repository ++ "/" ++ toName repository name target = before ++ "/" ++ last ∧
      '/' ∉ last.toList ∧ last ≠ "" ∧
      toRepository config version before ++ "/" ++ toName (toRepository config version before) last target =
        repository ++ "/" ++ toName repository name target := by
  have again := toRepository_again config version current
  rw [← chosen] at again
  by_cases renames : Renames repository name target
  case neg =>
    rw [toName_kept renames]
    refine ⟨repository, name, rfl, plain, mem, ?_⟩
    have same : toRepository config version repository = repository := by
      rcases again with fixed | ⟨kept, _⟩
      · exact fixed repository
      · exact kept
    rw [same, toName_kept renames]
  -- the new name has a component of its own, which is read back as part of the repository
  rw [toName_renamed renames]
  refine ⟨repository ++ "/" ++ oldCoreDNSImageName, oldCoreDNSImageName, ?_, by decide, by decide, ?_⟩
  · exact nested repository
  obtain ⟨known, rfl, recent⟩ := renames
  rcases again with fixed | ⟨_, kept⟩
  · rw [fixed, toName_renamed ⟨known, rfl, recent⟩]
  · have other : ¬ Renames (repository ++ "/" ++ oldCoreDNSImageName) oldCoreDNSImageName target := by
      rintro ⟨unknown, _⟩
      rcases known with rfl | rfl
      · exact absurd unknown (by decide)
      · exact absurd unknown (by decide)
    rw [kept known, toName_kept other, nested]

section Plans

variable {tools : Tools} {reference : Reference} {config : ClusterConfiguration} {version : SemVer} {plan : Plan}
variable {named : Named}

theorem name_of_text {name tag : String} (canonical : named.text = name ++ ":" ++ tag)
    (tagged : named.tag = some tag) (undigested : named.digest = none) : named.name = name := by
  rw [Named.text, tagged, undigested] at canonical
  change named.name ++ (":" ++ tag) ++ "" = _ at canonical
  rw [String.append_empty, ← String.append_assoc] at canonical
  exact String.append_left_inj _ |>.mp (String.append_left_inj _ |>.mp canonical)

theorem planFor_again (parses : tools.imageFromString = imageFromString reference) {image : String}
    (planned : planFor tools config version image = .ok plan)
    (accepted : reference.parseNamed plan.toImage = .ok named) (tagged : named.tag = some plan.toImageTag)
    (undigested : named.digest = none) :
    ∃ again, planFor tools config version plan.toImage = .ok again ∧ again.fromImage = plan.toImage ∧
      again.toImage = plan.toImage := by
  obtain ⟨parsed, current, target, known⟩ := planFor_eq_ok_iff.mp planned
  have made := known.made
  subst made
  obtain ⟨plain, mem⟩ := name_of_imageFromString (parses ▸ known.parses)
  have name := name_of_text (reference.canonical accepted) tagged undigested
  obtain ⟨before, last, split, lastPlain, lastPresent, same⟩ :=
    target_again target plain mem rfl
  have readBack := imageFromString_of_name accepted (name.trans split) lastPlain lastPresent
  rw [tagged] at readBack
  have tag : toTag config (toTag config parsed.tag) = toTag config parsed.tag := by
    unfold toTag
    split
    next => rfl
    next => rfl
  have tagPresent : toTag config parsed.tag ≠ "" := by
    unfold toTag
    split
    next own => exact own
    next => exact known.tagged
  refine ⟨_, planFor_eq_ok_iff.mpr ⟨⟨before, last, toTag config parsed.tag⟩, target, target, parses ▸ readBack, tagPresent,
    known.moves, tag.symm ▸ known.moves, rfl⟩, rfl, ?_⟩
  rw [same, tag]

theorem getCoreDNSInfo_eq_ok_iff {given : (call : Call) → Call.Answer call} {info : CoreDNSInfo} :
    result given (getCoreDNSInfo tools config version) = .ok info ↔
      ∃ data image, given .getConfigMap = .ok data ∧ data.lookup corefileKey = some info.corefile ∧
        given .getDeployment = .ok info.deployment ∧ runningImage info.deployment = some image ∧
        planFor tools config version image = .ok info.plan := by
  unfold getCoreDNSInfo
  rw [result_bind, bind_eq_ok, result_adaptError]
  constructor
  · rintro ⟨data, read, rest⟩
    cases content : data.lookup corefileKey with
    | none =>
      rw [content] at rest
      cases rest
    | some corefile =>
      rw [content, result_bind, bind_eq_ok, result_adaptError] at rest
      obtain ⟨deployment, found, rest⟩ := rest
      cases running : runningImage deployment with
      | none =>
        rw [running] at rest
        cases rest
      | some image =>
        rw [running, result_bind, bind_eq_ok] at rest
        obtain ⟨plan, planned, made⟩ := rest
        cases made
        exact ⟨data, image, mapError_eq_ok.mp read, content, mapError_eq_ok.mp found, running, planned⟩
  · rintro ⟨data, image, read, content, found, running, planned⟩
    refine ⟨data, mapError_eq_ok.mpr read, ?_⟩
    rw [content, result_bind, bind_eq_ok, result_adaptError]
    refine ⟨info.deployment, mapError_eq_ok.mpr found, ?_⟩
    rw [running, result_bind, bind_eq_ok]
    exact ⟨info.plan, planned, rfl⟩

/-- Once CoreDNS runs the target, the target stays and no further upgrade is started. -/
theorem upgrade_converges (parses : tools.imageFromString = imageFromString reference)
    {given later : (call : Call) → Call.Answer call} {info : CoreDNSInfo}
    (found : result given (getCoreDNSInfo tools config version) = .ok info)
    (accepted : reference.parseNamed info.plan.toImage = .ok named) (tagged : named.tag = some info.plan.toImageTag)
    (undigested : named.digest = none) {data : StringMap} {corefile : String} {deployment : Deployment}
    (reads : later .getConfigMap = .ok data) (content : data.lookup corefileKey = some corefile)
    (runs : later .getDeployment = .ok deployment) (upgraded : runningImage deployment = some info.plan.toImage) :
    ∃ again, result later (getCoreDNSInfo tools config version) = .ok again ∧
      again.plan.toImage = info.plan.toImage ∧
      upgrade tools config version again = do
        updateCoreDNSClusterRole version again.plan
        return () := by
  obtain ⟨_, image, _, _, _, _, planned⟩ := getCoreDNSInfo_eq_ok_iff.mp found
  obtain ⟨plan, plannedAgain, source, same⟩ := planFor_again parses planned accepted tagged undigested
  refine ⟨⟨corefile, deployment, plan⟩, ?_, same, ?_⟩
  · exact getCoreDNSInfo_eq_ok_iff.mpr ⟨data, info.plan.toImage, reads, content, runs, upgraded, plannedAgain⟩
  · unfold upgrade
    rw [if_pos (source.trans same.symm)]

end Plans

def exampleNames : List Named :=
  [⟨"k8s.gcr.io", "coredns", some "1.6.7", none⟩, ⟨"k8s.gcr.io", "coredns/coredns", some "1.8.4", none⟩]

def exampleReference : Reference where
  parseNamed image := match exampleNames.find? (·.text == image) with
    | some named => .ok named
    | none => .error (errorf "invalid reference format")
  canonical := by
    intro image named accepted
    split at accepted
    next found =>
      cases accepted
      simpa using List.find?_some found
    next => cases accepted
  component := by
    intro image named accepted
    split at accepted
    next found =>
      cases accepted
      have known : ∀ other ∈ exampleNames, lastComponent other.path ≠ "" := by decide
      exact known named (List.mem_of_find?_eq_some found)
    next => cases accepted

def referenceTools : Tools := { exampleTools with imageFromString := imageFromString exampleReference }

theorem renamed_image_kept : ∃ again,
    result (fun call => (answering (fun _ => false) (attempted (fun _ => false) exampleStart) call).1)
      (getCoreDNSInfo referenceTools exampleConfig exampleVersion) = .ok again ∧
    again.plan.toImage = newImage ∧
    upgrade referenceTools exampleConfig exampleVersion again = do
      updateCoreDNSClusterRole exampleVersion again.plan
      return () := by
  have found : result (fun call => (answering (fun _ => false) exampleStart call).1)
      (getCoreDNSInfo referenceTools exampleConfig exampleVersion) =
        .ok ⟨"forward", exampleStart.deployment, examplePlan⟩ :=
    getCoreDNSInfo_eq_ok_iff.mpr ⟨exampleStart.configMap, oldImage, rfl, by decide, rfl, by decide, by decide⟩
  have accepted : exampleReference.parseNamed newImage =
      .ok ⟨"k8s.gcr.io", "coredns/coredns", some "1.8.4", none⟩ := rfl
  have content : (attempted (fun _ => false) exampleStart).configMap.lookup corefileKey = some "migrated forward" := by
    decide
  exact upgrade_converges rfl found accepted rfl rfl rfl content rfl (by decide)

end OcneProvider.CoreDNS.Convergence
