import OcneProvider.Api.Meta

/-! Releases of charts through Helm. Each call that leaves the program is made at most once in a pass over
one release, so its outcomes are given by one answer for each of them. -/

namespace OcneProvider.Helm.Releases
open Api.Meta

structure HelmModuleAddons where
  repoURL : String
  chartName : String
  releaseName : String
  releaseNamespace : String
  version : String
  valuesTemplate : String
  isLocal : Bool

structure Chart where
  version : String

/-- A release may lack its chart or the chart's metadata. -/
structure Info where
  failed : Bool

structure Release (V : Type) where
  name : String
  chart : Option Chart
  info : Option Info
  config : V

inductive HelmErr where
  | releaseNotFound
  | other (error : Err)

inductive Action where
  | get
  | install
  | upgrade
  | uninstall

structure Outcomes (V : Type) where
  helmInit : Action → (namespace_ kubeconfig : String) → Except Err Unit
  runGet : (releaseName : String) → Except HelmErr (Release V)
  nameAndChart : (chartName : String) → Except Err String
  locateChart : Action → (chartName : String) → Except Err String
  writeValuesToFile : Action → (values : String) → Except Err String
  readFile : Action → (filename : String) → Except Err Unit
  mergeValues : Action → (filename : String) → Except Err V
  load : Action → (path : String) → Except Err (Option Chart)
  marshal : V → Except Err String
  runInstall : HelmModuleAddons → (releaseName : String) → Option Chart → V → Option (Release V) × Option Err
  runUpgrade : HelmModuleAddons → Chart → V → Option (Release V) × Option Err
  runUninstall : (releaseName : String) → Except Err Unit

variable {V : Type} (helm : Outcomes V)

def getHelmRelease (kubeconfig : String) (spec : HelmModuleAddons) : Except HelmErr (Release V) :=
  if spec.releaseName = "" then .error .releaseNotFound
  else
    match helm.helmInit .get spec.releaseNamespace kubeconfig with
    | .error error => .error (.other error)
    | .ok () => helm.runGet spec.releaseName

def uninstallHelmRelease (kubeconfig : String) (spec : HelmModuleAddons) : Except Err Unit := do
  helm.helmInit .uninstall spec.releaseNamespace kubeconfig
  helm.runUninstall spec.releaseName

def requestedChart (action : Action) (values : String) (spec : HelmModuleAddons) : Except Err (Option Chart × V) := do
  let path ← if spec.isLocal then pure spec.repoURL else helm.locateChart action spec.chartName
  let filename ← helm.writeValuesToFile action values
  helm.readFile action filename
  let vals ← helm.mergeValues action filename
  let chart ← helm.load action path
  return (chart, vals)

def installHelmRelease (kubeconfig ocneCPName values : String) (spec : HelmModuleAddons) :
    Option (Release V) × Option Err :=
  let requested : Except Err (String × Option Chart × V) := do
    helm.helmInit .install spec.releaseNamespace kubeconfig
    let releaseName ←
      if spec.releaseName = "" then
        (helm.nameAndChart spec.chartName).mapError (Err.wrap ("failed to generate release name for chart " ++
          spec.chartName ++ " on ocne control plane " ++ ocneCPName))
      else pure spec.releaseName
    let (chart, vals) ← requestedChart helm .install values spec
    return (releaseName, chart, vals)
  match requested with
  | .error error => (none, some error)
  | .ok (releaseName, chart, vals) => helm.runInstall spec releaseName chart vals

def shouldUpgradeHelmRelease (existing : Release V) (chartRequested : Chart) (values : V) : Except Err Bool :=
  match existing.chart with
  | none => .error (errorf "Failed to resolve chart version of existing release")
  | some chart =>
    if chart.version ≠ chartRequested.version then .ok true
    else match existing.info with
      | none => .error nilPointerDereference
      | some info =>
        if info.failed then .ok true
        else do
          let oldValues ← (helm.marshal existing.config).mapError (Err.wrap "failed to marshal existing release values")
          let newValues ← (helm.marshal values).mapError (Err.wrap "failed to new release values")
          return oldValues != newValues

def upgradeHelmReleaseIfChanged (kubeconfig values : String) (spec : HelmModuleAddons) (existing : Release V) :
    Option (Release V) × Option Err :=
  let requested : Except Err (Chart × V × Bool) := do
    helm.helmInit .upgrade spec.releaseNamespace kubeconfig
    match ← requestedChart helm .upgrade values spec with
    | (none, _) => throw (errorf ("failed to load request chart " ++ spec.chartName))
    | (some chart, vals) => return (chart, vals, ← shouldUpgradeHelmRelease helm existing chart vals)
  match requested with
  | .error error => (none, some error)
  | .ok (_, _, false) => (some existing, none)
  | .ok (chart, vals, true) => helm.runUpgrade spec chart vals

def HelmErr.err : HelmErr → Err
  | releaseNotFound => errorf "release: not found"
  | other error => error

def installOrUpgradeHelmReleases (kubeconfig ocneCPName values : String) (spec : HelmModuleAddons) :
    Option (Release V) × Option Err :=
  match getHelmRelease helm kubeconfig spec with
  | .error .releaseNotFound => installHelmRelease helm kubeconfig ocneCPName values spec
  | .error error => (none, some error.err)
  | .ok existing => upgradeHelmReleaseIfChanged helm kubeconfig values spec existing

end OcneProvider.Helm.Releases
