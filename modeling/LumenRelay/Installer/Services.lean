import LumenRelay.Installer.Values
import LumenRelay.Lib.Conversation
import Mathlib.Data.List.Sort

/-!
# The services of an installation

The installer asks GitHub and Railway, directly or through a proxy.  Before it sends a token it
probes all routes, and looks which of them take the token for GitHub.
-/

namespace Installation

open Lib Lib.Coroutine Installer Py

variable (sc : Script)

/-! ## Routes -/

/-- `HTTP_PROXIES`. -/
def httpProxies : List (String × ℕ) :=
  [("176.111.37.216", 39811), ("107.167.18.122", 443), ("130.110.103.245", 3128),
    ("176.111.37.5", 39811), ("94.249.197.220", 40001), ("13.203.138.32", 3001)]

/-- A route to the services. -/
inductive Route
  | direct
  | proxy (hostname : String) (port : ℕ)
deriving DecidableEq

/-- The routes that are probed. -/
def probedRoutes : List Route := httpProxies.map (fun p => .proxy p.1 p.2) ++ [.direct]

/-- `routeLabel`. -/
def Route.label : Route → String
  | direct => "Direct (Railway)"
  | proxy hostname port => "http://" ++ hostname ++ ":" ++ toString port

/-! ## Requests -/

/-- `SOURCE_REPO`. -/
def sourceRepo : String := "Lumen-Project-Final"

/-- `SOURCE_FULL`. -/
def sourceFull : String := "highisabella52213/" ++ sourceRepo

/-- `INSTALLER_VERSION`. -/
def installerVersion : String := "28.0.0"

/-- The parts of a project in which the panel is installed. -/
structure Place where
  projectId : Json
  environmentId : Json
  serviceId : Json
deriving DecidableEq

/-- What Railway is asked. -/
inductive Query
  | workspaces
  | capability
  | createWorkspace (name : String)
  | createProject (workspaceId name : String)
  | environments (projectId : Json)
  | createService (projectId environmentId : Json)
  | configure (place : Place)
  | storeVariables (place : Place) (vars : List (String × String))
  | createVolume (place : Place)
  | createDomain (place : Place)
  | connectSource (place : Place) (repo branch : String)
  | deploy (place : Place) (commitSha : String)
  | deployment (id : String)
deriving DecidableEq

/-- The text of a query. -/
def Query.text : Query → String
  | workspaces => "query InstallerWorkspaces \x7b me \x7b workspaces \x7b id name \x7d \x7d \x7d"
  | capability =>
    "query InstallerWorkspaceCapability \x7b __type(name: \"Mutation\") \x7b fields \x7b name \x7d \x7d \x7d"
  | createWorkspace _ =>
    "mutation InstallerWorkspaceCreate($input: WorkspaceCreateInput!) \x7b workspaceCreate(input: $input) \x7b id name \x7d \x7d"
  | createProject _ _ =>
    "mutation InstallerProject($input: ProjectCreateInput!) \x7b projectCreate(input: $input) \x7b id name environments \x7b edges \x7b node \x7b id name \x7d \x7d \x7d \x7d \x7d"
  | environments _ =>
    "query InstallerProjectEnvironment($projectId: String!, $isEphemeral: Boolean) \x7b environments(projectId: $projectId, isEphemeral: $isEphemeral) \x7b edges \x7b node \x7b id name \x7d \x7d \x7d \x7d"
  | createService _ _ =>
    "mutation InstallerService($input: ServiceCreateInput!) \x7b serviceCreate(input: $input) \x7b id name \x7d \x7d"
  | configure _ =>
    "mutation InstallerServiceSettings($serviceId: String!, $environmentId: String!, $input: ServiceInstanceUpdateInput!) \x7b serviceInstanceUpdate(serviceId: $serviceId, environmentId: $environmentId, input: $input) \x7d"
  | storeVariables _ _ =>
    "mutation InstallerVariables($input: VariableCollectionUpsertInput!) \x7b variableCollectionUpsert(input: $input) \x7d"
  | createVolume _ =>
    "mutation InstallerVolume($input: VolumeCreateInput!) \x7b volumeCreate(input: $input) \x7b id name \x7d \x7d"
  | createDomain _ =>
    "mutation InstallerDomain($input: ServiceDomainCreateInput!) \x7b serviceDomainCreate(input: $input) \x7b id domain \x7d \x7d"
  | connectSource _ _ _ =>
    "mutation InstallerSource($id: String!, $input: ServiceConnectInput!) \x7b serviceConnect(id: $id, input: $input) \x7b id \x7d \x7d"
  | deploy _ _ =>
    "mutation InstallerDeploy($serviceId: String!, $environmentId: String!, $commitSha: String!) \x7b serviceInstanceDeployV2(serviceId: $serviceId, environmentId: $environmentId, commitSha: $commitSha) \x7d"
  | deployment _ =>
    "query InstallerDeployment($id: String!) \x7b deployment(id: $id) \x7b id status \x7d \x7d"

/-- The region of a service. -/
def region : String := "us-east4-eqdc4a"

/-- The variables of a query. -/
def Query.vars : Query → Obj
  | workspaces | capability => []
  | createWorkspace name => [("input", .obj [("name", .str name)])]
  | createProject workspaceId name =>
    [("input", .obj [("workspaceId", .str workspaceId), ("name", .str name),
      ("description", .str "Lumen installed by the Railway installer"),
      ("defaultEnvironmentName", .str "production")])]
  | environments projectId => [("projectId", projectId), ("isEphemeral", .bool false)]
  | createService projectId environmentId =>
    [("input", .obj [("projectId", projectId), ("environmentId", environmentId),
      ("name", .str "Lumen")])]
  | configure place =>
    [("serviceId", place.serviceId), ("environmentId", place.environmentId),
      ("input", .obj [("startCommand", .str "python main.py"), ("healthcheckPath", .str "/health"),
        ("healthcheckTimeout", .int 300), ("ipv6EgressEnabled", .bool true), ("region", .str region),
        ("multiRegionConfig", .obj [(region, .obj [("numReplicas", .int 1)])])])]
  | storeVariables place vars =>
    [("input", .obj [("projectId", place.projectId), ("environmentId", place.environmentId),
      ("serviceId", place.serviceId), ("variables", .obj (vars.map fun v => (v.1, .str v.2))),
      ("skipDeploys", .bool true)])]
  | createVolume place =>
    [("input", .obj [("projectId", place.projectId), ("serviceId", place.serviceId),
      ("environmentId", place.environmentId), ("mountPath", .str "/data")])]
  | createDomain place =>
    [("input", .obj [("serviceId", place.serviceId), ("environmentId", place.environmentId),
      ("targetPort", .int 8000)])]
  | connectSource place repo branch =>
    [("id", place.serviceId), ("input", .obj [("repo", .str repo), ("branch", .str branch)])]
  | deploy place commitSha =>
    [("serviceId", place.serviceId), ("environmentId", place.environmentId),
      ("commitSha", .str commitSha)]
  | deployment id => [("id", .str id)]

/-- The step that is named when Railway refuses a query. -/
def Query.step : Query → String
  | workspaces => "workspace-list"
  | capability => "workspace-capability"
  | createWorkspace _ => "workspace-create"
  | createProject _ _ => "project"
  | environments _ => "environment"
  | createService _ _ => "service"
  | configure _ => "service-settings"
  | storeVariables _ _ => "variables"
  | createVolume _ => "volume"
  | createDomain _ => "domain"
  | connectSource _ _ _ => "source"
  | deploy _ _ => "deploy"
  | deployment _ => "deployment-status"

/-- A request with a token. -/
inductive Request
  | github (method path token : String) (body : Option Json)
  | railway (query : Query) (token : String)
deriving DecidableEq

/-- The address of a request. -/
def Request.url : Request → String
  | github _ path _ _ => "https://api.github.com" ++ path
  | railway _ _ => "https://backboard.railway.com/graphql/v2"

/-- The token of a request. -/
def Request.token : Request → String
  | github _ _ token _ => token
  | railway _ token => token

/-- The headers of a request. -/
def Request.headers (r : Request) : List (String × String) :=
  let accept := match r with
    | github _ _ _ _ => "application/vnd.github+json"
    | railway _ _ => "application/json"
  [("Accept", accept), ("Authorization", "Bearer " ++ r.token), ("Content-Type", "application/json"),
    ("User-Agent", "Lumen-Railway-Installer/26")] ++ match r with
      | github _ _ _ _ => [("X-GitHub-Api-Version", "2022-11-28")]
      | railway _ _ => []

/-- The body of a request. -/
def Request.body : Request → Option Json
  | github _ _ _ body => body
  | railway query _ => some (.obj [("query", .str query.text), ("variables", .obj query.vars)])

/-- How long an answer is waited for, in milliseconds. -/
def Request.timeoutMs : Request → ℕ
  | github _ _ _ _ => 18000
  | railway _ _ => 22000

/-- An answer: its status, and its body if that is JSON. -/
structure Reply where
  status : ℕ
  body : Option Json

/-- `response.ok`. -/
def isOk (status : ℕ) : Bool := 200 ≤ status && status < 300

/-- What the probe of a route meets: the statuses of GitHub and Railway, or what fails, and how long
it takes. -/
structure Probe where
  github : Except Failure ℕ
  railway : Except Failure ℕ
  latencyMs : ℕ

/-- The points at which an installation waits: the probes of all routes, a request, and a pause. -/
inductive Point
  | scan
  | fetch (route : Route) (request : Request)
  | pause (ms : ℕ)
deriving DecidableEq

/-- What comes at a point; a scan may exceed its deadline. -/
def Point.Answer : Point → Type
  | .scan => Option (Route → Probe)
  | .fetch _ _ => Reply
  | .pause _ => Unit

/-- What is reported of an installation. -/
structure Progress where
  phase : String
  step : ℕ
  titleFa : String
  titleEn : String
  detailFa : Option String := none
  detailEn : Option String := none
  deploymentStatus : Option String := none
  attempt : Option ℕ := none
  maxAttempts : Option ℕ := none

/-- A part of an installation; it has reported its progress. -/
abbrev Prog (α : Type) : Type := Coroutine (List Progress) Point.Answer Failure α

/-- `emitProgress`. -/
def emitProgress (update : Progress) : Prog Unit := modify (· ++ [update])

lemma error_401 : 400 ≤ 401 ∧ 401 < 600 := by decide

lemma error_403 : 400 ≤ 403 ∧ 403 < 600 := by decide

lemma error_409 : 400 ≤ 409 ∧ 409 < 600 := by decide

lemma error_502 : 400 ≤ 502 ∧ 502 < 600 := by decide

lemma error_504 : 400 ≤ 504 ∧ 504 < 600 := by decide

/-- An error of the installer. -/
def fault (code step messageEn messageFa : String) (status : ℕ) (h : 400 ≤ status ∧ status < 600) :
    Failure := .install ⟨code, step, messageEn, messageFa, status, none, none, h⟩

/-! ## Probes -/

/-- What is known of a route. -/
structure Check where
  route : Route
  index : ℕ
  githubOk : Bool
  railwayOk : Bool
  latencyMs : ℕ
  code : Option String

/-- The route takes requests to both services. -/
def Check.ok (c : Check) : Bool := c.githubOk && c.railwayOk

/-- The code of a probe that fails. -/
def probeCode (default : String) : Except Failure ℕ → String
  | .error (.install e) => e.code
  | _ => default

/-- `probeRoute`. -/
def probeRoute (probe : Probe) (route : Route) (index : ℕ) : Check :=
  let githubOk := match probe.github with
    | .ok status => isOk status
    | .error _ => false
  let railwayOk := match probe.railway with
    | .ok status => 200 ≤ status && status < 500
    | .error _ => false
  let failureCode := if !githubOk then probeCode "GITHUB_PROBE_FAILED" probe.github
    else probeCode "RAILWAY_PROBE_FAILED" probe.railway
  ⟨route, index, githubOk, railwayOk, max 1 probe.latencyMs,
    if githubOk && railwayOk then none else some failureCode⟩

/-- The order of healthy routes. -/
def Check.before (a b : Check) : Prop :=
  a.latencyMs < b.latencyMs ∨ a.latencyMs = b.latencyMs ∧ a.index ≤ b.index

instance : DecidableRel Check.before := fun _ _ => inferInstanceAs (Decidable (_ ∨ _))

/-- `selectTransportInternal`; the first check is the one that is selected. -/
def checkRoutes (probes : Route → Probe) : List Check :=
  probedRoutes.zipIdx.map fun r => probeRoute (probes r.1) r.1 r.2

/-- The routes that may be used: the direct one, and then the proxies, the fastest first. -/
def candidates (checks : List Check) : List Check :=
  let healthy := checks.filter Check.ok
  (healthy.filter (·.route = .direct)).take 1 ++
    (healthy.filter (·.route ≠ .direct)).insertionSort Check.before

/-- `selectTransport`. -/
def selectTransport : Prog (List Check) := do
  let probes : Option (Route → Probe) ← wait Point.scan
  match probes with
  | none => raise (fault "NETWORK_SCAN_TIMEOUT" "network"
      "Network route checks exceeded their hard deadline."
      "بررسی مسیرهای شبکه از مهلت نهایی عبور کرد." 504 error_504)
  | some probes =>
    let checks := checkRoutes probes
    if candidates checks = [] then
      raise (fault "ALL_NETWORK_ROUTES_FAILED" "network"
        "All configured proxies and the direct Railway route failed the GitHub/Railway checks."
        "همه پروکسی‌های تنظیم‌شده و مسیر مستقیم Railway در بررسی GitHub و Railway ناموفق بودند." 502
        error_502)
    else return checks

/-! ## GitHub -/

/-- `githubError`. -/
def githubError (status : ℕ) (step : String) : Failure :=
  if status = 401 then fault "GITHUB_TOKEN_INVALID" step "The GitHub token is invalid or expired."
    "توکن GitHub نامعتبر یا منقضی است." 401 error_401
  else if status = 403 then fault "GITHUB_PERMISSION" step
    "GitHub denied this action. Create a classic token with the public_repo scope and check rate limits."
    "GitHub این عملیات را رد کرد. توکن کلاسیک را با دسترسی public_repo بسازید و محدودیت درخواست را بررسی کنید."
    403 error_403
  else if status = 422 then fault "GITHUB_CONFLICT" step
    "GitHub could not create the fork. A repository with the same name may already exist."
    "GitHub نتوانست فورک را بسازد؛ ممکن است مخزنی هم‌نام از قبل وجود داشته باشد." 409 error_409
  else fault "GITHUB_API_ERROR" step "GitHub could not complete this step."
    "GitHub نتوانست این مرحله را انجام دهد." 502 error_502

/-- What `github` makes of an answer. -/
def readGithub (allow404 : Bool) (step : String) (r : Reply) : Except Failure Json :=
  if allow404 ∧ r.status = 404 then .ok .null
  else if ¬ isOk r.status then .error (githubError r.status step)
  else if r.status = 204 then .ok .null
  else
    match r.body with
    | some value => .ok value
    | none => .error (fault "GITHUB_RESPONSE" step "GitHub returned an unreadable response."
        "پاسخ GitHub قابل خواندن نبود." 502 error_502)

/-- `github`. -/
def github (route : Route) (method path token : String) (body : Option Json) (allow404 : Bool)
    (step : String) : Prog Json := do
  let reply : Reply ← wait (Point.fetch route (.github method path token body))
  ofExcept (readGithub allow404 step reply)

/-! ## Railway -/

/-- `railwayError`. -/
def railwayError (status : ℕ) : Failure :=
  if status = 401 ∨ status = 403 then fault "RAILWAY_TOKEN_INVALID" "railway-token"
    "The Railway account token is invalid or lacks account access."
    "توکن حساب Railway نامعتبر است یا دسترسی حساب ندارد." 401 error_401
  else fault "RAILWAY_API_ERROR" "railway" "Railway could not complete this request."
    "Railway نتوانست درخواست را انجام دهد." 502 error_502

/-- The message of an error of a query. -/
def messageOf (item : Json) : Except Failure String :=
  let message := andAttr (some item) "message"
  text sc (if truthy message then message else some (.str "Railway request failed"))

/-- The messages of the errors of a query. -/
def messagesOf : List Json → Except Failure (List String)
  | [] => .ok []
  | item :: items => do return (← messageOf sc item) :: (← messagesOf items)

/-- The error of a query that Railway rejects. -/
def queryError (step safeDetails : String) : Failure :=
  let messages := sc.lower safeDetails
  let mentions := fun words : List String => words.any (includes messages)
  if mentions ["not authorized", "unauthorized", "not authenticated", "invalid token"] then
    .install ⟨"RAILWAY_TOKEN_INVALID", "railway-token",
      "Railway rejected this token. Create an Account Token with No workspace selected; workspace and project tokens cannot create a personal project.",
      "Railway این توکن را نپذیرفت. در Account → Tokens یک Account Token با گزینه No workspace بسازید؛ توکن Workspace یا Project نمی‌تواند پروژه شخصی جدید بسازد.",
      401, some safeDetails, none, error_401⟩
  else if mentions ["github", "repository", "repo"] then
    .install ⟨"RAILWAY_GITHUB_NOT_CONNECTED", step,
      "Railway cannot access the fork. Connect GitHub in Railway Account → Integrations, grant access to the fork, then retry.",
      "Railway به فورک دسترسی ندارد. در Railway از Account ← Integrations، گیت‌هاب را متصل و دسترسی فورک را فعال کنید، سپس دوباره تلاش کنید.",
      409, some safeDetails, none, error_409⟩
  else if mentions ["limit", "plan", "volume"] then
    .install ⟨"RAILWAY_PLAN_LIMIT", step,
      "A Railway plan or resource limit blocked this step. Check your account usage and project limits.",
      "محدودیت پلن یا منابع Railway مانع این مرحله شد. مصرف حساب و محدودیت‌های پروژه را بررسی کنید.",
      409, some safeDetails, none, error_409⟩
  else
    .install ⟨"RAILWAY_GRAPHQL_ERROR", step, "Railway rejected the " ++ step ++ " step.",
      "Railway مرحله «" ++ step ++ "» را رد کرد.", 502, some safeDetails, none, error_502⟩

/-- What `railway` makes of the JSON of an answer. -/
def readResult (token step : String) (result : Json) : Except Failure Json := do
  let errors ← attr (some result) "errors"
  if elements errors = [] then return (either (field "data" result) (some (.obj []))).getD .null
  else
    let messages ← messagesOf sc (elements errors)
    throw (queryError sc step (tellable token messages))

/-- What `railway` makes of an answer. -/
def readRailway (token step : String) (r : Reply) : Except Failure Json :=
  if ¬ isOk r.status then .error (railwayError r.status)
  else
    match r.body with
    | none => .error (fault "RAILWAY_RESPONSE" step "Railway returned an unreadable response."
        "پاسخ Railway قابل خواندن نبود." 502 error_502)
    | some result => readResult sc token step result

/-- `railway`. -/
def railway (route : Route) (token : String) (query : Query) : Prog Json := do
  let reply : Reply ← wait (Point.fetch route (.railway query token))
  ofExcept (readRailway sc token query.step reply)

end Installation
