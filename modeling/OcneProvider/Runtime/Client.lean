import OcneProvider.Data.Interfaces
import OcneProvider.Data.Paths
import OcneProvider.Runtime.Registry

/-! The call of an extension, with the failure policy that tells its errors apart by their type. -/

namespace OcneProvider.Runtime.Client
open Api.Meta Data.Interfaces Effects.Stateful Registry

/-- Errors as the interface with the one method keeps them. -/
abbrev GoError := Value ["Error"] Err

def fundamental : Concrete := ⟨"*errors.fundamental", ["Error", "Format"]⟩

def withStack : Concrete := ⟨"*errors.withStack", ["Error", "Cause", "Unwrap", "Format"]⟩

def newError (text : String) : GoError := ⟨fundamental, by simp [fundamental], errorf text⟩

def wrapError (text : String) (error : Err) : GoError := ⟨withStack, by simp [withStack], error.wrap text⟩

/-- What a nil pointer makes of the call. -/
def nilPanic : GoError := ⟨⟨"runtime.errorString", ["Error", "RuntimeError"]⟩, by simp, nilPointerDereference⟩

def errorType : GoType := .interface ["Error"]

def errCallingExtensionHandler : GoType := errorType.declared "errCallingExtensionHandler"

/-- errCallingExtensionHandler has the methods of an error. -/
def calling (error : GoError) : GoError := error.convert (List.Subset.refl _)

inductive ResponseStatus where
  | success
  | failure
  | other (text : String)
  deriving DecidableEq

structure Response (Payload : Type) where
  status : ResponseStatus
  message : String
  payload : Payload
  deriving DecidableEq

structure URL where
  scheme : String
  host : String
  path : String
  query : String
  deriving DecidableEq

/-- An answer of a server. Decoding its body changes a response even if it fails. -/
structure HttpResponse (Payload : Type) where
  statusCode : Int
  readAll : Except Err String
  decode : Response Payload → Option Err × Response Payload

/-- What the catalog, the cluster and the network answer. -/
structure Surroundings (Selector Request Payload : Type) where
  groupVersionHook : Except Err GroupVersionHook
  validateRequest : GroupVersionHook → Request → Except Err Unit
  validateResponse : GroupVersionHook → Response Payload → Except Err Unit
  selectorEmpty : Selector → Bool
  selectorMatches : Selector → StringMap → Bool
  namespaceLabels : String → Except Err StringMap
  parseURL : String → Except Err URL
  gvhToPath : GroupVersionHook → String → String
  newRequest : GroupVersionHook → Except Err Request
  newResponse : GroupVersionHook → Except Err (Response Payload)
  convertRequest : Request → Request → Except Err Request
  convertResponse : Response Payload → Response Payload → Option Err × Response Payload
  withGroupVersionKind : GroupVersionHook → Request → Except Err Request
  marshal : Request → Except Err (List UInt8)
  withTimeout : Duration → URL → URL
  newHTTPRequest : URL → List UInt8 → Except Err Unit
  tlsConfigFor : List UInt8 → URL → Except Err Unit
  send : URL → List UInt8 → List UInt8 → Except Err (HttpResponse Payload)
  requestType : Request → String
  responseType : Response Payload → String
  isPrint : Char → Bool

structure HttpCallOptions where
  config : ClientConfig
  registrationGVH : GroupVersionHook
  hookGVH : GroupVersionHook
  name : String
  timeout : Duration

variable {Selector Request Payload : Type} (env : Surroundings Selector Request Payload)

abbrev Calling (Payload : Type) := Changing GoError (Response Payload)

def wrapping {α : Type} (text : String) (answer : Except Err α) : Except GoError α :=
  answer.mapError (wrapError text)

def joinHostPort (host port : String) : String :=
  if ':' ∈ host.toList then "[" ++ host ++ "]:" ++ port else host ++ ":" ++ port

def baseURL (config : ClientConfig) : Except Err URL :=
  match config.service with
  | some svc =>
    let host := svc.name ++ "." ++ svc.ns ++ ".svc"
    .ok ⟨"https", (svc.port.map fun port => joinHostPort host (toString port.toInt)).getD host, svc.path.getD "", ""⟩
  | none =>
    match config.url with
    | none => .error (errorf
        "failed to compute URL: at least one of service and url should be defined in config")
    | some text => do
      let url ← (env.parseURL text).mapError (Err.wrap "failed to compute URL: failed to parse url from clientConfig")
      if url.scheme = "https" then return url
      else throw (errorf ("failed to compute URL: expected https scheme, got " ++ url.scheme))

def urlForExtension (config : ClientConfig) (gvh : GroupVersionHook) (name : String) : Except Err URL := do
  let url ← baseURL env config
  return { url with path := String.ofList (Data.Paths.join [url.path.toList, (env.gvhToPath gvh name).toList]) }

/-- What is sent, and the response to decode into if its version differs. -/
structure Prepared (Request Payload : Type) where
  requestLocal : Request
  responseLocal : Option (Response Payload)
  url : URL
  postBody : List UInt8

/-- The call up to the sending of the request. -/
def prepare (request : Request) (opts : HttpCallOptions) : Except GoError (Prepared Request Payload) := do
  let url ← wrapping "http call failed" (urlForExtension env opts.config opts.registrationGVH opts.name)
  let (requestLocal, responseLocal) ←
    if opts.registrationGVH.version = opts.hookGVH.version then pure (request, none)
    else do
      let blank ← wrapping "http call failed" (env.newRequest opts.registrationGVH)
      let requestLocal ← wrapping ("http call failed: failed to convert request from " ++ env.requestType request ++
        " to " ++ env.requestType blank) (env.convertRequest request blank)
      let responseLocal ← wrapping "http call failed" (env.newResponse opts.registrationGVH)
      pure (requestLocal, some responseLocal)
  let requestLocal ← wrapping "http call failed" (env.withGroupVersionKind opts.registrationGVH requestLocal)
  let postBody ← wrapping "http call failed: failed to marshall request object" (env.marshal requestLocal)
  let url := if opts.timeout = 0 then url else env.withTimeout opts.timeout url
  wrapping "http call failed: failed to create http request" (env.newHTTPRequest url postBody)
  wrapping "http call failed: failed to create tls config" (env.tlsConfigFor opts.config.caBundle url)
  return ⟨requestLocal, responseLocal, url, postBody⟩

/-- The external exchange: sending, the status code, and decoding. -/
def exchange (opts : HttpCallOptions) (prepared : Prepared Request Payload) :
    Calling Payload (Option (Response Payload)) := do
  match env.send prepared.url prepared.postBody opts.config.caBundle with
  | .error error => throw (calling (wrapError "http call failed" error))
  | .ok resp =>
    let status := "http call failed: got response with status code " ++ toString resp.statusCode ++ " != 200: "
    if resp.statusCode ≠ 200 then
      match resp.readAll with
      | .error _ => throw (calling (newError (status ++ "failed to read response body")))
      | .ok body => throw (calling (newError (status ++ "response: " ++ Data.Strings.quote env.isPrint body)))
    else
      let (failed, decoded) := resp.decode (prepared.responseLocal.getD (← get))
      if prepared.responseLocal.isNone then set decoded
      match failed with
      | some error => throw (calling (wrapError "http call failed: failed to decode response" error))
      | none => return prepared.responseLocal.map fun _ => decoded

/-- The conversion of an answer of another version. The error is about the request. -/
def finish (prepared : Prepared Request Payload) : Option (Response Payload) → Calling Payload Unit
  | none => return ()
  | some decoded => do
    let response ← get
    let (failed, converted) := env.convertResponse decoded response
    set converted
    match failed with
    | some error => throw (wrapError ("http call failed: failed to convert response from " ++
        env.requestType prepared.requestLocal ++ " to " ++ env.responseType response) error)
    | none => return ()

def httpCall (request : Request) (opts : HttpCallOptions) : Calling Payload Unit := do
  let prepared ← ExceptT.mk (pure (prepare env request opts))
  finish env prepared (← exchange env opts prepared)

def matchNamespace (selector : Selector) (ns : String) : Except Err Bool :=
  if env.selectorEmpty selector then .ok true
  else match env.namespaceLabels ns with
    | .error error => .error (error.wrap ("failed to match namespace: failed to get namespace " ++ ns))
    | .ok labels => .ok (env.selectorMatches selector labels)

def GroupVersionHook.text (gvh : GroupVersionHook) : String :=
  gvh.group ++ "/" ++ gvh.version ++ ", Hook=" ++ gvh.hook

def failedToCall (name : String) : String := "failed to call extension handler " ++ quoted name

def defaultHandlersTimeoutSeconds : Int32 := 10

/-- The checks before a call, for an object by its namespace and name. -/
def checkCall (registry : ExtensionRegistry Selector) (ns objectName name : String) (request : Request)
    (response : Response Payload) : Except GoError (ExtensionRegistration Selector × HttpCallOptions) := do
  let hookGVH ← wrapping (failedToCall name ++ ": failed to compute GroupVersionHook") env.groupVersionHook
  let hook := quoted (GroupVersionHook.text hookGVH)
  wrapping (failedToCall name ++ ": request object is invalid for hook " ++ hook) (env.validateRequest hookGVH request)
  wrapping (failedToCall name ++ ": response object is invalid for hook " ++ hook) (env.validateResponse hookGVH response)
  let registration ← wrapping (failedToCall name) (registry.get name)
  if hookGVH.groupHook ≠ registration.groupVersionHook.groupHook then
    throw (newError (failedToCall name ++ ": handler does not match GroupHook " ++ quoted hookGVH.groupHook.text))
  match matchNamespace env registration.namespaceSelector ns with
  | .error _ => throw (newError (failedToCall name))
  | .ok false => throw (newError (failedToCall name ++ ": namespaceSelector did not match object " ++ ns ++ "/" ++
      objectName))
  | .ok true => return (registration,
      { config := registration.clientConfig
        registrationGVH := registration.groupVersionHook
        hookGVH := hookGVH
        name := String.ofList (Data.Strings.trimSuffix ("." ++ registration.extensionConfigName).toList
          registration.name.toList)
        timeout := (registration.timeoutSeconds.getD defaultHandlersTimeoutSeconds).toInt * second })

/-- The default success response leaves what else the response has. -/
def defaultSuccess (response : Response Payload) : Response Payload :=
  { response with status := .success, message := "" }

def applyFailurePolicy (name : String) (policy : Option FailurePolicy) (error : GoError) : Calling Payload Unit :=
  match policy with
  | none => throw nilPanic
  | some policy =>
    if error.is errCallingExtensionHandler && policy == .ignore then modify defaultSuccess
    else throw (wrapError (failedToCall name) error.content)

def callExtension (registry : ExtensionRegistry Selector) (ns objectName name : String) (request : Request) :
    Calling Payload Unit := do
  let (registration, opts) ← ExceptT.mk (pure (checkCall env registry ns objectName name request (← get)))
  match ← attempt (httpCall env request opts) with
  | .error error => applyFailurePolicy name registration.failurePolicy error
  | .ok _ =>
    if (← get).status = .failure then throw (newError (failedToCall name ++ ": got failure response"))

section Policy

variable (registry : ExtensionRegistry Selector) (ns objectName name : String) (request : Request)
  (opts : HttpCallOptions) (given : Response Payload)

/-- An answer of the server with the status 200. -/
def Answered (prepared : Prepared Request Payload) (resp : HttpResponse Payload) : Prop :=
  env.send prepared.url prepared.postBody opts.config.caBundle = .ok resp ∧ resp.statusCode = 200

/-- Nothing can be sent, or the answer is decoded and cannot be converted back. -/
def InternalFailure : Prop :=
  (∃ error, prepare env request opts = .error error) ∨
    ∃ prepared resp blank, prepare env request opts = .ok prepared ∧ Answered env opts prepared resp ∧
      prepared.responseLocal = some blank ∧ (resp.decode blank).1 = none ∧
      (env.convertResponse (resp.decode blank).2 given).1 ≠ none

/-- What is sent has no answer with the status 200 that can be decoded. -/
def ExternalFailure : Prop :=
  ∃ prepared, prepare env request opts = .ok prepared ∧ ∀ resp, Answered env opts prepared resp →
    (resp.decode (prepared.responseLocal.getD given)).1 ≠ none

/-- The decoding of an answer into the response fails after it has changed the payload. -/
def HalfDecoded : Prop :=
  ∃ prepared resp, prepare env request opts = .ok prepared ∧ Answered env opts prepared resp ∧
    prepared.responseLocal = none ∧ (resp.decode given).1 ≠ none ∧ (resp.decode given).2.payload ≠ given.payload

/-- What returns without an error had no failure, or one in the exchange that is ignored for the default response. -/
def Honoured : Prop :=
  ∀ after, outcome (callExtension env registry ns objectName name request) given = (.ok (), after) →
    ∃ registration opts, checkCall env registry ns objectName name request given = .ok (registration, opts) ∧
      (outcome (httpCall env request opts) given = (.ok (), after) ∧ after.status ≠ .failure ∨
        registration.failurePolicy = some .ignore ∧ ExternalFailure env request opts given ∧
          after = defaultSuccess given)

variable {env registry ns objectName name request opts given} {registration : ExtensionRegistration Selector}
  {prepared : Prepared Request Payload}

theorem outcome_httpCall (ready : prepare env request opts = .ok prepared) :
    outcome (httpCall env request opts) given =
      outcome (exchange env opts prepared >>= finish env prepared) given := by
  simp only [httpCall, outcome_bind, outcome_except, ready]

theorem outcome_exchange_unanswered (given : Response Payload) (unanswered : ∀ resp, ¬ Answered env opts prepared resp) :
    ∃ error, outcome (exchange env opts prepared) given = (.error error, given) := by
  unfold exchange
  cases sent : env.send prepared.url prepared.postBody opts.config.caBundle with
  | error error => exact ⟨_, rfl⟩
  | ok resp =>
    have status : resp.statusCode ≠ 200 := fun status => unanswered resp ⟨sent, status⟩
    simp only [if_pos status]
    cases resp.readAll <;> exact ⟨_, rfl⟩

variable {resp : HttpResponse Payload}

/-- Without a conversion the answer is decoded into the response itself, whether that fails or not. -/
theorem outcome_exchange_answered (answered : Answered env opts prepared resp) :
    outcome (exchange env opts prepared) given =
      ((resp.decode (prepared.responseLocal.getD given)).1.elim
          (.ok (prepared.responseLocal.map fun blank => (resp.decode blank).2))
          fun error => .error (calling (wrapError "http call failed: failed to decode response" error)),
        if prepared.responseLocal = none then (resp.decode given).2 else given) := by
  obtain ⟨code, readAll, decode⟩ := resp
  obtain ⟨sent, rfl⟩ := answered
  simp only [exchange, sent, ne_eq, not_true_eq_false, if_false, outcome_bind, outcome_get]
  cases prepared.responseLocal with
  | none =>
    rcases decoded : decode given with ⟨_ | error, response⟩
    all_goals
      simp only [Option.getD_none, decoded]
      rfl
  | some blank =>
    rcases decoded : decode blank with ⟨_ | error, response⟩
    all_goals
      simp only [Option.getD_some, Option.map_some, decoded]
      rfl

theorem Answered.iff {other : HttpResponse Payload} (answered : Answered env opts prepared resp) :
    Answered env opts prepared other ↔ other = resp :=
  ⟨fun again => Except.ok.inj (again.1.symm.trans answered.1), fun same => same ▸ answered⟩

variable (env request opts given) in
/-- How a call ends: a failure of the exchange leaves the payload as it was, except for an answer that is decoded in
part. -/
theorem httpCall_ends : match outcome (httpCall env request opts) given with
    | (.ok _, _) => ¬ InternalFailure env request opts given ∧ ¬ HalfDecoded env request opts given
    | (.error _, after) => (InternalFailure env request opts given ↔ ¬ ExternalFailure env request opts given) ∧
        (ExternalFailure env request opts given →
          (after.payload = given.payload ↔ ¬ HalfDecoded env request opts given)) := by
  cases ready : prepare env request opts with
  | error error => simp [httpCall, InternalFailure, ExternalFailure, HalfDecoded, ready]
  | ok prepared =>
    simp only [InternalFailure, ExternalFailure, HalfDecoded, ready, outcome_httpCall ready, outcome_bind, reduceCtorEq,
      exists_false, false_or, Except.ok.injEq, exists_and_left, exists_eq_left']
    by_cases answer : ∃ resp, Answered env opts prepared resp
    · obtain ⟨resp, answered⟩ := answer
      simp only [outcome_exchange_answered answered, answered.iff, forall_eq, exists_eq_left]
      cases prepared.responseLocal with
      | none => cases decoded : (resp.decode given).1 <;> simp [finish, decoded]
      | some blank =>
        cases decoded : (resp.decode blank).1 with
        | some error => simp [decoded]
        | none =>
          cases converted : (env.convertResponse (resp.decode blank).2 given).1
          all_goals
            simp [finish, decoded, converted]
            trivial
    · obtain ⟨error, failed⟩ := outcome_exchange_unanswered given fun resp answered => answer ⟨resp, answered⟩
      simp only [failed, not_exists.mp answer, false_and, exists_false, false_imp_iff, implies_true, not_true_eq_false,
        not_false_eq_true, and_self]

/-- Every error has the methods of the marker. -/
theorem applyFailurePolicy_ignore (error : GoError) :
    outcome (applyFailurePolicy name (some .ignore) error) given = (.ok (), defaultSuccess given) := by
  have marked : error.is errCallingExtensionHandler = true := error.is_interface (List.Subset.refl _)
  simp [applyFailurePolicy, marked]

theorem applyFailurePolicy_fails (error : GoError) {policy : Option FailurePolicy} (other : policy ≠ some .ignore) :
    ∃ failed, outcome (applyFailurePolicy name policy error) given = (.error failed, given) := by
  cases policy with
  | none => exact ⟨_, rfl⟩
  | some policy =>
    have differs : (policy == FailurePolicy.ignore) = false := by simpa using other
    exact ⟨wrapError (failedToCall name) error.content, by rw [applyFailurePolicy, differs, Bool.and_false]; rfl⟩

theorem outcome_callExtension
    (checked : checkCall env registry ns objectName name request given = .ok (registration, opts)) :
    outcome (callExtension env registry ns objectName name request) given =
      match outcome (httpCall env request opts) given with
      | (.error error, after) => outcome (applyFailurePolicy name registration.failurePolicy error) after
      | (.ok _, after) => if after.status = .failure then
          (.error (newError (failedToCall name ++ ": got failure response")), after) else (.ok (), after) := by
  simp only [callExtension, outcome_bind, outcome_get, checked, outcome_except, outcome_attempt]
  obtain ⟨error | value, after⟩ := outcome (httpCall env request opts) given
  · rfl
  · simp only [outcome_bind, outcome_get]
    split <;> rfl

/-- Honoured exactly if no failure is ignored but those of the exchange, and no answer is decoded in part. -/
theorem failure_policy_honoured_iff : Honoured env registry ns objectName name request given ↔
    ∀ registration opts, checkCall env registry ns objectName name request given = .ok (registration, opts) →
      registration.failurePolicy = some .ignore →
        ¬ InternalFailure env request opts given ∧ ¬ HalfDecoded env request opts given := by
  constructor
  · intro honoured registration opts checked ignored
    have ends := httpCall_ends env request opts given
    have returned := outcome_callExtension checked
    rw [ignored] at returned
    rcases ended : outcome (httpCall env request opts) given with ⟨error | value, left⟩
    · simp only [ended, applyFailurePolicy_ignore] at ends returned
      obtain ⟨_, _, again, ⟨answered, -⟩ | ⟨-, external, same⟩⟩ := honoured _ returned
      · cases checked.symm.trans again
        cases ended.symm.trans answered
      · cases checked.symm.trans again
        refine ⟨fun internal => ends.1.mp internal external, fun half => ?_⟩
        exact (ends.2 external).mp (Response.mk.inj same).2.2 half
    · rwa [ended] at ends
  · intro condition after returned
    cases checked : checkCall env registry ns objectName name request given with
    | error error => simp [callExtension, checked] at returned
    | ok found =>
      obtain ⟨registration, opts⟩ := found
      refine ⟨registration, opts, rfl, ?_⟩
      have ends := httpCall_ends env request opts given
      rw [outcome_callExtension checked] at returned
      rcases ended : outcome (httpCall env request opts) given with ⟨error | value, left⟩
      · rw [ended] at returned ends
        by_cases ignored : registration.failurePolicy = some .ignore
        · obtain ⟨external, whole⟩ := condition registration opts checked ignored
          have failure := not_not.mp fun unfailed => external (ends.1.mpr unfailed)
          have same := (ends.2 failure).mpr whole
          simp only [ignored, applyFailurePolicy_ignore, Prod.mk.injEq, true_and] at returned
          exact .inr ⟨ignored, failure, returned ▸ by rw [defaultSuccess, same]; rfl⟩
        · obtain ⟨failed, refused⟩ := applyFailurePolicy_fails error ignored
          cases refused.symm.trans returned
      · rw [ended] at returned
        dsimp only at returned
        split at returned
        · cases returned
        · cases returned
          exact .inl ⟨rfl, by assumption⟩

end Policy

/-- Everything succeeds but the decoding: a field has the wrong type, and the others are written all the same. -/
private def mistyped : Surroundings Unit Unit Nat where
  groupVersionHook := .ok ⟨"g", "v", "h"⟩
  validateRequest _ _ := .ok ()
  validateResponse _ _ := .ok ()
  selectorEmpty _ := true
  selectorMatches _ _ := true
  namespaceLabels _ := .ok ∅
  parseURL text := .ok ⟨"https", text, "", ""⟩
  gvhToPath _ _ := ""
  newRequest _ := .ok ()
  newResponse _ := .ok ⟨.success, "", 0⟩
  convertRequest _ _ := .ok ()
  convertResponse decoded _ := (none, decoded)
  withGroupVersionKind _ _ := .ok ()
  marshal _ := .ok []
  withTimeout _ url := url
  newHTTPRequest _ _ := .ok ()
  tlsConfigFor _ _ := .ok ()
  send _ _ _ := .ok ⟨200, .ok "", fun response => (some (errorf ("json: cannot unmarshal number into Go struct field " ++
    "BeforeClusterCreateResponse.message of type string")), { response with payload := 10 })⟩
  requestType _ := ""
  responseType _ := ""
  isPrint _ := true

/-- A registry of one handler, whose failures are to be ignored. -/
private def ignoring (url : Option String) : ExtensionRegistry Unit :=
  ⟨true, Finmap.singleton "a" ⟨"a", "b", ⟨"g", "v", "h"⟩, (), ⟨url, none, []⟩, none, some .ignore⟩⟩

private def blank : Response Nat := ⟨.other "", "", 0⟩

/-- A handler without an address passes for one that succeeded, and so does a partly decoded answer, which stays. -/
theorem internal_failure_ignored : ¬ Honoured mistyped (ignoring none) "n" "o" "a" () blank ∧
    outcome (callExtension mistyped (ignoring none) "n" "o" "a" ()) blank = (.ok (), ⟨.success, "", 0⟩) ∧
    ¬ Honoured mistyped (ignoring (some "u")) "n" "o" "a" () blank ∧
    outcome (callExtension mistyped (ignoring (some "u")) "n" "o" "a" ()) blank = (.ok (), ⟨.success, "", 10⟩) := by
  refine ⟨fun honoured => ?_, rfl, fun honoured => ?_, rfl⟩
  · obtain ⟨_, _, checked, ⟨answered, -⟩ | ⟨-, ⟨_, prepared, -⟩, -⟩⟩ := honoured _ rfl
    · cases checked
      cases answered
    · cases checked
      cases prepared
  · obtain ⟨_, _, checked, ⟨answered, -⟩ | ⟨-, -, same⟩⟩ := honoured _ rfl
    · cases checked
      cases answered
    · cases same

end OcneProvider.Runtime.Client
