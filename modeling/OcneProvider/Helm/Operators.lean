import OcneProvider.Api.Conditions
import OcneProvider.Helm.Releases

/-! The deployment of the optional operators to the workload cluster, and when what it reports is true. -/

namespace OcneProvider.Helm.Operators
open Api.Meta Api.Conditions Releases

def moduleOperatorDeploy : ConditionType := "ModuleOperatorDeployed"

def moduleOperatorUninstalled : String := "ModuleOperatorUninstalled"

def verrazzanoPlatformOperatorDeploy : ConditionType := "VerrazzanoPlatformOperatorDeployed"

def verrazzanoPlatformOperatorUninstalled : String := "VerrazzanoPlatformOperatorUninstalled"

def moduleOperatorAddons (values : String) : HelmModuleAddons where
  chartName := "verrazzano-module-operator"
  releaseName := "verrazzano-module-operator"
  releaseNamespace := "verrazzano-module-operator"
  repoURL := "charts/operators/verrazzano-module-operator/"
  version := ""
  isLocal := true
  valuesTemplate := values

def verrazzanoPlatformOperatorAddons (values : String) : HelmModuleAddons where
  chartName := "verrazzano-platform-operator"
  releaseName := "verrazzano-platform-operator"
  releaseNamespace := "verrazzano-install"
  repoURL := "/tmp/charts/verrazzano-platform-operator/"
  version := ""
  isLocal := true
  valuesTemplate := values

structure Operator where
  addons : (values : String) → HelmModuleAddons
  deploy : ConditionType
  uninstalled : String

def moduleOperator : Operator :=
  ⟨moduleOperatorAddons, moduleOperatorDeploy, moduleOperatorUninstalled⟩

def verrazzanoPlatformOperator : Operator :=
  ⟨verrazzanoPlatformOperatorAddons, verrazzanoPlatformOperatorDeploy, verrazzanoPlatformOperatorUninstalled⟩

structure Steps (V : Type) where
  now : Time
  clusterKubeconfig : Except Err String
  generateDataValues : Except Err String
  helm : Outcomes V

structure Returned where
  conditions : ConditionList
  reterr : Option Err

/-- The last statement gives the named result a value of its own. -/
def returnNil (conditions : ConditionList) (_reterr : Option Err) : Returned :=
  ⟨conditions, none⟩

variable {V : Type} (steps : Steps V)

def gather (reterr : Option Err) (error : Err) : Option Err :=
  newAggregate (reterr.toList ++ [error])

def reconcileOperator (operator : Operator) (enabled : Bool) (ocneCPName : String) (conditions : ConditionList) :
    Except Err Returned := do
  let (kubeconfig, reterr) :=
    match steps.clusterKubeconfig with
    | .ok text => (text, none)
    | .error error => ("", gather none error)
  match steps.generateDataValues with
  | .error error => return ⟨conditions, some error⟩
  | .ok values =>
    let addonsSpec := operator.addons values
    if enabled then
      let reterr ←
        match installOrUpgradeHelmReleases steps.helm kubeconfig ocneCPName addonsSpec.valuesTemplate addonsSpec with
        | (_, none) => pure reterr
        -- the name of the release is read for the log
        | (none, some _) => throw nilPointerDereference
        | (some _, some error) => pure (gather reterr error)
      let conditions :=
        if isTrue conditions operator.deploy then conditions
        else set steps.now conditions (trueCondition operator.deploy)
      return returnNil conditions reterr
    else
      let reterr :=
        match getHelmRelease steps.helm kubeconfig addonsSpec with
        | .error _ => reterr
        | .ok _ =>
          match uninstallHelmRelease steps.helm kubeconfig addonsSpec with
          | .ok () => reterr
          | .error error => gather reterr error
      let conditions :=
        if isTrue conditions operator.deploy then
          set steps.now conditions (falseCondition operator.deploy operator.uninstalled .Info "")
        else conditions
      return returnNil conditions reterr

def reconcileOCNEModuleOperator (enabled : Bool) (ocneCPName : String) (conditions : ConditionList) :
    Except Err Returned :=
  reconcileOperator steps moduleOperator enabled ocneCPName conditions

def reconcileVerrazzanoPlatformOperator (enabled : Bool) (ocneCPName : String) (conditions : ConditionList) :
    Except Err Returned :=
  reconcileOperator steps verrazzanoPlatformOperator enabled ocneCPName conditions

def kubeconfigUsed : String :=
  match steps.clusterKubeconfig with
  | .ok text => text
  | .error _ => ""

/-- The release was installed, or was there and was upgraded where needed. -/
def Deployed (ocneCPName : String) (spec : HelmModuleAddons) : Prop :=
  (getHelmRelease steps.helm (kubeconfigUsed steps) spec = .error .releaseNotFound ∧
    (installHelmRelease steps.helm (kubeconfigUsed steps) ocneCPName spec.valuesTemplate spec).2 = none) ∨
  ∃ existing, getHelmRelease steps.helm (kubeconfigUsed steps) spec = .ok existing ∧
    (upgradeHelmReleaseIfChanged steps.helm (kubeconfigUsed steps) spec.valuesTemplate spec existing).2 = none

/-- The release was not there, or was there and was uninstalled. -/
def Gone (spec : HelmModuleAddons) : Prop :=
  getHelmRelease steps.helm (kubeconfigUsed steps) spec = .error .releaseNotFound ∨
  ∃ existing, getHelmRelease steps.helm (kubeconfigUsed steps) spec = .ok existing ∧
    uninstallHelmRelease steps.helm (kubeconfigUsed steps) spec = .ok ()

/-- That there is no release is an answer, not a failure. -/
inductive StepFailed (operator : Operator) (enabled : Bool) (ocneCPName : String) : Prop where
  | kubeconfig {error : Err} (failed : steps.clusterKubeconfig = .error error)
  | get {values : String} {error : Err} (generated : steps.generateDataValues = .ok values)
      (failed : getHelmRelease steps.helm (kubeconfigUsed steps) (operator.addons values) = .error (.other error))
  | install {values : String} {error : Err} (generated : steps.generateDataValues = .ok values)
      (installs : enabled = true)
      (missing : getHelmRelease steps.helm (kubeconfigUsed steps) (operator.addons values) = .error .releaseNotFound)
      (failed : (installHelmRelease steps.helm (kubeconfigUsed steps) ocneCPName (operator.addons values).valuesTemplate
        (operator.addons values)).2 = some error)
  | upgrade {values : String} {existing : Release V} {error : Err} (generated : steps.generateDataValues = .ok values)
      (installs : enabled = true)
      (found : getHelmRelease steps.helm (kubeconfigUsed steps) (operator.addons values) = .ok existing)
      (failed : (upgradeHelmReleaseIfChanged steps.helm (kubeconfigUsed steps) (operator.addons values).valuesTemplate
        (operator.addons values) existing).2 = some error)
  | uninstall {values : String} {existing : Release V} {error : Err} (generated : steps.generateDataValues = .ok values)
      (uninstalls : enabled = false)
      (found : getHelmRelease steps.helm (kubeconfigUsed steps) (operator.addons values) = .ok existing)
      (failed : uninstallHelmRelease steps.helm (kubeconfigUsed steps) (operator.addons values) = .error error)

/-- It comes back, with an error if a step failed, and what it sets the condition to is so. -/
def Truthful (operator : Operator) (enabled : Bool) (ocneCPName : String) (before : ConditionList)
    (result : Except Err Returned) : Prop :=
  ∃ returned, result = .ok returned ∧
    (StepFailed steps operator enabled ocneCPName → returned.reterr ≠ none) ∧
    (isTrue before operator.deploy = false → isTrue returned.conditions operator.deploy = true →
      ∃ values, steps.generateDataValues = .ok values ∧ Deployed steps ocneCPName (operator.addons values)) ∧
    (isFalse before operator.deploy = false → isFalse returned.conditions operator.deploy = true →
      ∃ values, steps.generateDataValues = .ok values ∧ Gone steps (operator.addons values))

section Cases

variable {operator : Operator} {enabled : Bool} {ocneCPName : String} {before : ConditionList} {values : String}

section

variable (generated : steps.generateDataValues = .ok values)
include generated

theorem reterr_eq_none {gave : Returned}
    (done : reconcileOperator steps operator enabled ocneCPName before = .ok gave) : gave.reterr = none := by
  unfold reconcileOperator at done
  simp only [generated] at done
  cases enabled with
  | false =>
    cases done
    rfl
  | true =>
    simp only [if_true] at done
    split at done
    · cases done
      rfl
    · cases done
    · cases done
      rfl

theorem deployed_of_not_stepFailed
    (sound : ¬ StepFailed steps operator true ocneCPName) : Deployed steps ocneCPName (operator.addons values) := by
  cases got : getHelmRelease steps.helm (kubeconfigUsed steps) (operator.addons values) with
  | error reason =>
    cases reason with
    | other error => exact absurd (.get generated got) sound
    | releaseNotFound =>
      refine .inl ⟨got, Option.eq_none_iff_forall_ne_some.mpr fun error failed => ?_⟩
      exact sound (.install generated rfl got failed)
  | ok existing =>
    refine .inr ⟨existing, got, Option.eq_none_iff_forall_ne_some.mpr fun error failed => ?_⟩
    exact sound (.upgrade generated rfl got failed)

theorem gone_of_not_stepFailed
    (sound : ¬ StepFailed steps operator false ocneCPName) : Gone steps (operator.addons values) := by
  cases got : getHelmRelease steps.helm (kubeconfigUsed steps) (operator.addons values) with
  | error reason =>
    cases reason with
    | other error => exact absurd (.get generated got) sound
    | releaseNotFound => exact .inl got
  | ok existing =>
    cases removed : uninstallHelmRelease steps.helm (kubeconfigUsed steps) (operator.addons values) with
    | error error => exact absurd (.uninstall generated rfl got removed) sound
    | ok done => exact .inr ⟨existing, got, removed⟩

omit generated in
theorem installOrUpgrade_eq_none {spec : HelmModuleAddons} (deployed : Deployed steps ocneCPName spec) :
    (installOrUpgradeHelmReleases steps.helm (kubeconfigUsed steps) ocneCPName spec.valuesTemplate spec).2 = none := by
  obtain ⟨missing, installed⟩ | ⟨existing, found, upgraded⟩ := deployed
  · rw [installOrUpgradeHelmReleases, missing]
    exact installed
  · rw [installOrUpgradeHelmReleases, found]
    exact upgraded

theorem reconcileOperator_enabled {kubeconfig : String} (known : steps.clusterKubeconfig = .ok kubeconfig)
    (deployed : Deployed steps ocneCPName (operator.addons values)) :
    reconcileOperator steps operator true ocneCPName before =
      .ok ⟨if isTrue before operator.deploy then before
        else set steps.now before (trueCondition operator.deploy), none⟩ := by
  have used : kubeconfigUsed steps = kubeconfig := by rw [kubeconfigUsed, known]
  have done := installOrUpgrade_eq_none steps deployed
  rw [used] at done
  unfold reconcileOperator
  simp only [known, generated, if_true]
  split
  · rfl
  next failed =>
    rw [failed] at done
    cases done
  next failed =>
    rw [failed] at done
    cases done

theorem reconcileOperator_disabled {kubeconfig : String} (known : steps.clusterKubeconfig = .ok kubeconfig) : reconcileOperator steps operator false ocneCPName before =
      .ok ⟨if isTrue before operator.deploy then
        set steps.now before (falseCondition operator.deploy operator.uninstalled .Info "") else before, none⟩ := by
  unfold reconcileOperator
  simp only [known, generated]
  rfl

end

theorem truthful_iff : Truthful steps operator enabled ocneCPName before
      (reconcileOperator steps operator enabled ocneCPName before) ↔
    (∃ error, steps.generateDataValues = .error error) ∨ ¬ StepFailed steps operator enabled ocneCPName := by
  cases generated : steps.generateDataValues with
  | error error =>
    have ended : reconcileOperator steps operator enabled ocneCPName before = .ok ⟨before, some error⟩ := by
      unfold reconcileOperator
      simp only [generated]
      rfl
    refine ⟨fun _ => .inl ⟨error, rfl⟩, fun _ => ⟨⟨before, some error⟩, ended, ?_, ?_, ?_⟩⟩
    · intro _
      exact Option.some_ne_none error
    · intro absent mem
      exact absurd mem (by simp [absent])
    · intro absent mem
      exact absurd mem (by simp [absent])
  | ok values =>
    constructor
    · rintro ⟨gave, done, reported, -, -⟩
      exact .inr fun failed => reported failed (reterr_eq_none steps generated done)
    · rintro (⟨error, failed⟩ | sound)
      · cases failed
      cases known : steps.clusterKubeconfig with
      | error error => exact absurd (.kubeconfig known) sound
      | ok kubeconfig =>
        cases enabled with
        | true =>
          have deployed := deployed_of_not_stepFailed steps generated sound
          refine ⟨_, reconcileOperator_enabled steps generated known deployed, fun failed => absurd failed sound, ?_, ?_⟩
          · intro _ _
            exact ⟨values, generated, deployed⟩
          · intro absent mem
            have unset := hasStatus_set steps.now before (trueCondition operator.deploy) .False
            split at mem
            · exact absurd mem (by simp [absent])
            · exact absurd (unset.symm.trans mem) (by simp [trueCondition])
        | false =>
          have gone := gone_of_not_stepFailed steps generated sound
          refine ⟨_, reconcileOperator_disabled steps generated known, fun failed => absurd failed sound, ?_, ?_⟩
          · intro absent mem
            have unset := hasStatus_set steps.now before
              (falseCondition operator.deploy operator.uninstalled .Info "") .True
            split at mem
            · exact absurd (unset.symm.trans mem) (by simp [falseCondition])
            · exact absurd mem (by simp [absent])
          · intro _ _
            exact ⟨values, generated, gone⟩

end Cases

/-- Both operators report the truth if no step fails, or if they end before Helm is called. -/
theorem operator_reports_truth_iff (steps : Steps V) (enabled : Bool) (ocneCPName : String) (before : ConditionList) :
    (Truthful steps moduleOperator enabled ocneCPName before
        (reconcileOCNEModuleOperator steps enabled ocneCPName before) ↔
      (∃ error, steps.generateDataValues = .error error) ∨ ¬ StepFailed steps moduleOperator enabled ocneCPName) ∧
    (Truthful steps verrazzanoPlatformOperator enabled ocneCPName before
        (reconcileVerrazzanoPlatformOperator steps enabled ocneCPName before) ↔
      (∃ error, steps.generateDataValues = .error error) ∨
        ¬ StepFailed steps verrazzanoPlatformOperator enabled ocneCPName) :=
  ⟨truthful_iff steps, truthful_iff steps⟩

private def unreachable : Outcomes Unit where
  helmInit _ _ _ := .ok ()
  runGet _ := .error (.other (errorf "Kubernetes cluster unreachable"))
  nameAndChart name := .ok name
  locateChart _ name := .ok name
  writeValuesToFile _ _ := .ok "values.yaml"
  readFile _ _ := .ok ()
  mergeValues _ _ := .ok ()
  load _ _ := .ok (some ⟨"1.0.0"⟩)
  marshal _ := .ok "\x7b\x7d"
  runInstall _ name chart values := (some ⟨name, chart, some ⟨false⟩, values⟩, none)
  runUpgrade spec chart values := (some ⟨spec.releaseName, some chart, some ⟨false⟩, values⟩, none)
  runUninstall _ := .ok ()

private def stuck : Outcomes Unit :=
  { unreachable with
    runGet := fun name => .ok ⟨name, some ⟨"1.0.0"⟩, some ⟨false⟩, ()⟩
    runUninstall := fun _ => .error (errorf "timed out waiting for the condition") }

private def deployment (helm : Outcomes Unit) : Steps Unit :=
  ⟨100, .ok "kubeconfig", .ok "image: module-operator", helm⟩

/-- An install that cannot begin panics; an uninstall that fails is reported as done. -/
theorem failed_helm_untrue :
    reconcileOCNEModuleOperator (deployment unreachable) true "ocne" [] = .error nilPointerDereference ∧
    ¬ Truthful (deployment unreachable) moduleOperator true "ocne" []
      (reconcileOCNEModuleOperator (deployment unreachable) true "ocne" []) ∧
    ∃ returned, reconcileOCNEModuleOperator (deployment stuck) false "ocne" [trueCondition moduleOperatorDeploy] =
        .ok returned ∧ returned.reterr = none ∧ isFalse returned.conditions moduleOperatorDeploy = true ∧
      ¬ Gone (deployment stuck) (moduleOperatorAddons "image: module-operator") := by
  refine ⟨rfl, ?_, ⟨_, rfl, rfl, by decide, ?_⟩⟩
  · rintro ⟨returned, finished, -⟩
    cases finished
  · rintro (missing | ⟨existing, -, removed⟩)
    · cases missing
    · cases removed

end OcneProvider.Helm.Operators
