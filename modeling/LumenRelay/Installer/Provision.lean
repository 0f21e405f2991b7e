import LumenRelay.Installer.Services

/-!
# An installation

The installer forks the source into the account of the user, creates a project with Railway, prepares
a service in it, and deploys a commit of the fork.  It reports its progress, and waits until the
deployment has succeeded.
-/

namespace Installation

open Lib Lib.Coroutine Installer Py

variable (sc : Script)

/-! ## The route of an installation -/

/-- A route over which GitHub has accepted the token. -/
structure Network where
  selected : Check
  identity : Json
  checks : List Check
  authChecks : List Json

/-- `routeFailureSummary`, of an attempt. -/
def failedAttempt (route : Route) (e : Failure) : Json :=
  let summary := match e with
    | .install e => (e.code, e.step)
    | .other => ("ROUTE_AUTH_FAILED", "network")
  .obj [("label", .str route.label), ("code", .str summary.1), ("step", .str summary.2),
    ("ok", .bool false)]

/-- The attempt that succeeds. -/
def passedAttempt (route : Route) : Json :=
  .obj [("label", .str route.label), ("ok", .bool true), ("githubOk", .bool true),
    ("railwayReachable", .bool true)]

/-- An error that says something about the token. -/
def credentialError : Failure → Option InstallError
  | .install e => if e.code ∈ ["GITHUB_TOKEN_INVALID", "GITHUB_PERMISSION"] then some e else none
  | .other => none

/-- No route took the token. -/
def noRoute (attempts : List Json) (errors : List InstallError) : Failure :=
  let same := fun code : String => errors.all (·.code = code)
  match errors with
  | e :: _ =>
    if same "GITHUB_TOKEN_INVALID" ∨ same "GITHUB_PERMISSION" then .install e else unknown
  | [] => unknown
where
  unknown : Failure := .install ⟨"NO_GITHUB_AUTH_ROUTE", "github-token",
    "No network route could validate the GitHub token.",
    "هیچ مسیر شبکه‌ای نتوانست توکن GitHub را اعتبارسنجی کند.", 502, none, some (.arr attempts),
    error_502⟩

/-- The loop of `selectAuthenticatedTransport`. -/
def tryRoutes (token : String) (checks : List Check) (attempts : List Json)
    (errors : List InstallError) : List Check → Prog Network
  | [] => raise (noRoute attempts errors)
  | candidate :: rest =>
    -- only GitHub is asked: the route is what is in doubt, not the token of Railway
    tryCatch (do
      let identity ← github candidate.route "GET" "/user" token none false "github-token"
      return ⟨candidate, identity, checks, attempts ++ [passedAttempt candidate.route]⟩)
    fun e => tryRoutes token checks (attempts ++ [failedAttempt candidate.route e])
      (errors ++ (credentialError e).toList) rest

/-- `selectAuthenticatedTransport`. -/
def selectAuthenticatedTransport (token : String) (checks : List Check) : Prog Network :=
  tryRoutes token checks [] [] (candidates checks)

/-! ## The fork -/

/-- The repository is a fork of the official source. -/
def isFork (repo : Json) : Except Failure Bool := do
  let parent ← textOrEmpty sc (andAttr (field "parent" repo) "full_name")
  return truthy (field "fork" repo) && sc.lower parent = sc.lower sourceFull

/-- The path of the fork of an account. -/
def forkPath (login : String) : String := "/repos/" ++ sc.encode login ++ "/" ++ sourceRepo

/-- The loop of `ensureFork`; so many attempts are left. -/
def awaitFork (route : Route) (token login : String) (attempt : ℕ) : ℕ → Prog Json
  | 0 => raise (fault "FORK_TIMEOUT" "fork"
      "The fork is still being prepared by GitHub. Wait one minute and run the installer again."
      "GitHub هنوز در حال آماده‌سازی فورک است. یک دقیقه صبر کنید و نصب را دوباره اجرا کنید." 504
      error_504)
  | left + 1 => do
    wait (Point.pause (1400 + min attempt 5 * 250))
    let repo ← github route "GET" (forkPath sc login) token none true "fork"
    -- GitHub may not have it yet, or not know its parent yet
    let accepted ← ofExcept (if truthy (some repo) then isFork sc repo else .ok false)
    if accepted then return repo
    else awaitFork route token login (attempt + 1) left

/-- `ensureFork`. -/
def ensureFork (route : Route) (token login : String) : Prog Json := do
  let repo ← github route "GET" (forkPath sc login) token none true "fork"
  if truthy (some repo) then
    let accepted ← ofExcept (isFork sc repo)
    if accepted then return repo
    else raise (fault "FORK_NAME_CONFLICT" "fork"
      ("Your account already has a repository named " ++ sourceRepo ++ " that is not a fork of the official source. Rename or remove it, then retry.")
      ("در حساب شما مخزنی با نام " ++ sourceRepo ++ " وجود دارد که فورک سورس رسمی نیست. نام آن را تغییر دهید یا حذف کنید و دوباره تلاش کنید.")
      409 error_409)
  else
    let _ ← github route "POST" ("/repos/" ++ sourceFull ++ "/forks") token
      (some (.obj [("default_branch_only", .bool true)])) false "fork"
    awaitFork sc route token login 0 18

/-! ## The workspace -/

/-- The workspace of an installation, and how it was found. -/
structure Workspace where
  id : String
  name : String
  mode : String

/-- `workspaceList`. -/
def workspaceList : Value → List Json
  | some (.arr l) => l
  | v => (elements (andAttr v "edges")).filterMap fun edge =>
      (andAttr (some edge) "node").filter fun node => truthy (some node)

/-- The identifier of something, if it is a text, and its name. -/
def named (item : Json) : Option (String × Value) :=
  match andAttr (some item) "id" with
  | some (.str id) => if id = "" then none else some (id, field "name" item)
  | _ => none

/-- The first workspace with a name. -/
def findNamed (name : String) : List (String × Value) → Except Failure (Option (String × Value))
  | [] => .ok none
  | w :: rest => do
    let found ← text sc (either w.2 (some (.str "")))
    if sc.lower found = sc.lower name then return some w
    else findNamed name rest

/-- The name of a workspace, or another one if it has none. -/
def nameOr (name : Value) (default : String) : Except Failure String :=
  text sc (either name (some (.str default)))

/-- The part of `ensureWorkspace` that creates one, where Railway lets it. -/
def createWorkspace (route : Route) (token name : String) : Prog (Option Workspace) := do
  let capability ← railway sc route token .capability
  let fields := elements (andAttr (field "__type" capability) "fields")
  if fields.any fun f => andAttr (some f) "name" = some (.str "workspaceCreate") then
    let created ← railway sc route token (.createWorkspace name)
    match (field "workspaceCreate" created).bind named with
    | some (id, found) => return some ⟨id, ← ofExcept (nameOr sc found name), "created"⟩
    | none => return none
  else return none

/-- `ensureWorkspace`. -/
def ensureWorkspace (route : Route) (token : String) (owner : Value) : Prog Workspace := do
  let owner ← ofExcept (text sc (either owner (some (.str "Workspace"))))
  let name := slice 48 ("Lumen " ++ owner)
  let listed ← railway sc route token .workspaces
  let available := (workspaceList (andAttr (field "me" listed) "workspaces")).filterMap named
  match ← ofExcept (findNamed sc name available) with
  | some (id, found) => return ⟨id, ← ofExcept (nameOr sc found name), "reused-lumen"⟩
  | none =>
    -- an account that may not create one uses the first that it has
    match ← (createWorkspace sc route token name).tryCatch fun _ => return none with
    | some workspace => return workspace
    | none =>
      match available with
      | (id, found) :: _ =>
        return ⟨id, ← ofExcept (nameOr sc found "Railway Workspace"), "reused-existing"⟩
      | [] => raise (fault "WORKSPACE_REQUIRED" "workspace"
          "No accessible Railway workspace was found and this API account cannot create one. Create a workspace in Railway, then retry with an Account Token."
          "هیچ Workspace قابل دسترسی پیدا نشد و API این حساب هم اجازه ساخت آن را نداد. ابتدا در Railway یک Workspace بسازید و سپس با Account Token دوباره تلاش کنید."
          409 error_409)

/-! ## The project -/

/-- A lower case letter or a digit. -/
def isSlug (c : Char) : Bool := 'a' ≤ c && c ≤ 'z' || '0' ≤ c && c ≤ '9'

/-- A text without the hyphens at its end. -/
def dropHyphens (l : List Char) : List Char := (l.reverse.dropWhile (· = '-')).reverse

/-- A text, or another one if it is empty. -/
def orText (l : List Char) (default : String) : List Char := if l = [] then default.toList else l

/-- `railwayProjectName`. -/
def railwayProjectName (owner entropy : String) : String :=
  let owner := Rewrite.collapse isSlug '-' (sc.lower owner).toList
  let owner := orText (dropHyphens (owner.dropWhile (· = '-'))) "app"
  let slug := (sc.lower (if entropy = "" then "deploy" else entropy)).toList.filter isSlug
  let tag := orText (slug.drop (slug.length - 8)) "deploy"
  let limit := max 1 (32 - "lumen--".length - tag.length)
  let name := "lumen-".toList ++ dropHyphens (owner.take limit) ++ '-' :: tag
  String.ofList (dropHyphens ((Rewrite.collapse (· ≠ '-') '-' name).take 32))

/-- What is drawn for an installation: secrets, and the time as a text. -/
structure Draws where
  adminPassword : String
  secretKey : String
  refreshKey : String
  entropy : String
  retryEntropy : String

/-- Railway rejects the name of a project. -/
def invalidName : Failure → Bool
  | .install e => "invalid project name".toList <:+: (e.safeDetails.getD "").toList.map Char.toLower
  | .other => false

/-- The identifier of something that was created. -/
def idOf (v : Value) : Option Json := (andAttr v "id").filter fun id => truthy (some id)

/-- The first environment of something. -/
def environmentOf (holder : Json) : Value :=
  let edge := andFirst (andAttr (field "environments" holder) "edges")
  if truthy edge then edge >>= field "node" else some .null

/-- The loop that creates a project: another name is tried once. -/
def createProject (route : Route) (token workspaceId name retryName : String) : Prog Json :=
  (railway sc route token (.createProject workspaceId name)).tryCatch fun e =>
    if invalidName e then railway sc route token (.createProject workspaceId retryName)
    else raise e

/-- The environment of a project that was created, if it is known or can be loaded. -/
def loadEnvironment (route : Route) (token : String) (project projectId : Json) :
    Prog (Option Json) :=
  match idOf (environmentOf project) with
  | some id => return some id
  | none => do
    let loaded ← railway sc route token (.environments projectId)
    return idOf (environmentOf loaded)

/-- The environment in which the panel is installed. -/
def findEnvironment (route : Route) (token : String) (project projectId : Json) : Prog Json := do
  match ← loadEnvironment sc route token project projectId with
  | some id => return id
  | none => raise (fault "ENVIRONMENT_MISSING" "environment"
      "Railway did not create the production environment." "Railway محیط production را ایجاد نکرد." 502
      error_502)

/-! ## The service -/

/-- What is installed: the fork as GitHub has it, a branch of it, and the commit of the branch. -/
structure Source where
  fork : Json
  branch : String
  commitSha : String

/-- `String(fork.full_name)`. -/
def Source.repo (source : Source) : Except Failure String := text sc (field "full_name" source.fork)

/-- The tokens of an installation. -/
structure Tokens where
  github : String
  railway : String
deriving DecidableEq

/-- The variables of the panel. -/
def panelVariables (tokens : Tokens) (draws : Draws) (repo branch : String) :
    List (String × String) :=
  [("ADMIN_PASSWORD", draws.adminPassword), ("SECRET_KEY", draws.secretKey), ("DATA_DIR", "/data"),
    ("PORT", "8000"), ("PYTHONUNBUFFERED", "1"),
    ("PROXY_REPOSITORY_MANUAL_REFRESH_KEY", draws.refreshKey), ("LUMEN_UPSTREAM_REPO", sourceFull),
    ("LUMEN_FORK_REPO", repo), ("LUMEN_GITHUB_TOKEN", tokens.github),
    ("LUMEN_RAILWAY_TOKEN", tokens.railway), ("RAILWAY_GIT_BRANCH", branch),
    ("LUMEN_INSTALLER_VERSION", installerVersion), ("LUMEN_CREDENTIAL_SOURCE", "installer"),
    ("LUMEN_REQUIRE_PERSISTENT_STORAGE", "1")]

/-- A public domain has only letters, digits, points and hyphens. -/
def isDomain (domain : String) : Bool :=
  domain ≠ "" && domain.toList.all fun c => c.isAlphanum || c = '.' || c = '-'

/-- The service is created and configured. -/
def createService (route : Route) (token : String) (projectId environmentId : Json) : Prog Place := do
  let created ← railway sc route token (.createService projectId environmentId)
  match idOf (field "serviceCreate" created) with
  | none => raise (fault "SERVICE_CREATE_FAILED" "service" "Railway did not return the new service."
      "Railway سرویس جدید را برنگرداند." 502 error_502)
  | some serviceId =>
    let place : Place := ⟨projectId, environmentId, serviceId⟩
    let _ ← railway sc route token (.configure place)
    return place

/-- The service gets a public domain. -/
def createDomain (route : Route) (token : String) (place : Place) : Prog String := do
  let created ← railway sc route token (.createDomain place)
  let domain ← ofExcept (textOrEmpty sc (andAttr (field "serviceDomainCreate" created) "domain"))
  if isDomain domain then return domain
  else raise (fault "DOMAIN_CREATE_FAILED" "domain" "Railway did not return a valid public domain."
    "Railway دامنه عمومی معتبری برنگرداند." 502 error_502)

/-! ## The deployment -/

/-- A step of the installation begins. -/
def progress (phase : String) (step : ℕ) (titleFa titleEn : String) : Progress where
  phase := phase
  step := step
  titleFa := titleFa
  titleEn := titleEn

/-- The deployment is watched. -/
def statusProgress (status : String) (attempt : ℕ) (detailFa detailEn : String) : Progress where
  phase := "deployment-status"
  step := 8
  titleFa := "وضعیت Deployment: " ++ status
  titleEn := "Deployment status: " ++ status
  detailFa := some detailFa
  detailEn := some detailEn
  deploymentStatus := some status
  attempt := some attempt
  maxAttempts := some 7

/-- What is told of a check that fails. -/
def pollError : Failure → String
  | .install e => slice 180 (if e.safeDetails.getD "" ≠ "" then e.safeDetails.getD "" else e.messageEn)
  | .other => slice 180 sc.errorText

/-- The status of a deployment. -/
def readStatus (checked : Json) : Except Failure String := do
  let status := andAttr (field "deployment" checked) "status"
  if truthy status then return sc.upper (← text sc status) else return "NO_RESPONSE"

/-- One check of a deployment: its status, and what is told of a failure. -/
def checkDeployment (route : Route) (token id : String) : Prog (String × String) :=
  tryCatch (do
    let checked ← railway sc route token (.deployment id)
    let status ← ofExcept (readStatus sc checked)
    return (status, ""))
  fun e => return ("NO_RESPONSE", pollError sc e)

/-- An error of an installation with details. -/
def faultWith (code step messageEn messageFa : String) (status : ℕ)
    (h : 400 ≤ status ∧ status < 600) (details : String) : Failure :=
  .install ⟨code, step, messageEn, messageFa, status, some details, none, h⟩

/-- The loop that checks a deployment, from an attempt on; so many are left. -/
def pollDeployment (route : Route) (token id : String) (attempt : ℕ) (status lastError : String) :
    ℕ → Prog String
  | 0 => raise (faultWith "DEPLOYMENT_TIMEOUT" "deployment-status"
      "The deployment did not reach SUCCESS after 7 checks spaced 20 seconds apart."
      "Deployment پس از ۷ بررسی با فاصله‌های ۲۰ ثانیه‌ای به وضعیت SUCCESS نرسید." 504 error_504
      ("Last deployment status: " ++ status ++ (if lastError = "" then "" else " | " ++ lastError)))
  | left + 1 => do
    emitProgress (statusProgress status attempt
      ("۲۰ ثانیه انتظار؛ بررسی " ++ toString attempt ++ " از ۷")
      ("Waiting 20 seconds; check " ++ toString attempt ++ " of 7"))
    wait (Point.pause 20000)
    -- a check that fails counts as a status, and the loop goes on
    let (status, lastError) ← checkDeployment sc route token id
    emitProgress (statusProgress status attempt ("نتیجه بررسی " ++ toString attempt ++ " از ۷")
      ("Result from check " ++ toString attempt ++ " of 7"))
    if status = "SUCCESS" then return status
    else if status ∈ ["FAILED", "CRASHED", "REMOVED"] then
      raise (faultWith "DEPLOYMENT_FAILED" "deployment-status"
        ("Railway deployment ended with status " ++ status ++ ".")
        ("Deployment در Railway با وضعیت " ++ status ++ " متوقف شد.") 502 error_502
        ("Deployment status: " ++ status))
    else pollDeployment route token id (attempt + 1) status lastError left

/-- The deployment is started. -/
def startDeployment (route : Route) (token : String) (place : Place) (commitSha : String) :
    Prog String := do
  let started ← railway sc route token (.deploy place commitSha)
  let id ← ofExcept (text sc (either (field "serviceInstanceDeployV2" started) (some (.str ""))))
  if id = "" then raise (fault "DEPLOYMENT_ID_MISSING" "deploy"
    "Railway did not return a deployment ID." "Railway شناسه Deployment را برنگرداند." 502 error_502)
  else return id

/-- What `provisionRailway` returns. -/
structure Provisioned where
  workspace : Workspace
  panelUrl : String
  railwayProjectUrl : String
  place : Place
  deploymentId : String
  deploymentStatus : String

/-- The first half of `provisionRailway`: where the panel is installed. -/
def createPlace (route : Route) (tokens : Tokens) (draws : Draws) (fork : Json) :
    Prog (Workspace × Place) := do
  let token := tokens.railway
  emitProgress (progress "workspace" 3 "کشف یا ساخت Workspace" "Resolving or creating Workspace")
  let owner ← ofExcept (attr (field "owner" fork) "login")
  let workspace ← ensureWorkspace sc route token owner
  emitProgress (progress "project" 4 "ساخت Project داخل Workspace" "Creating Project in Workspace")
  let ownerText ← ofExcept (text sc (either owner (some (.str "app"))))
  let created ← createProject sc route token workspace.id (railwayProjectName sc ownerText draws.entropy)
    (railwayProjectName sc "app" draws.retryEntropy)
  match field "projectCreate" created with
  | none => raise missing
  | some project =>
    match idOf (some project) with
    | none => raise missing
    | some projectId =>
      let environmentId ← findEnvironment sc route token project projectId
      emitProgress (progress "service" 5 "ساخت سرویس و تنظیم Virginia و IPv6"
        "Creating service with Virginia and IPv6")
      let place ← createService sc route token projectId environmentId
      return (workspace, place)
where
  missing : Failure := fault "PROJECT_CREATE_FAILED" "project" "Railway did not return the new project."
    "Railway پروژه جدید را برنگرداند." 502 error_502

/-- The second half of `provisionRailway`: the service is prepared and deployed. -/
def deployAt (route : Route) (tokens : Tokens) (draws : Draws) (source : Source)
    (workspace : Workspace) (place : Place) : Prog Provisioned := do
  let token := tokens.railway
  let repo ← ofExcept (source.repo sc)
  let _ ← railway sc route token (.storeVariables place (panelVariables tokens draws repo source.branch))
  emitProgress (progress "volume" 6 "اتصال فضای دائمی /data" "Attaching persistent /data storage")
  let _ ← railway sc route token (.createVolume place)
  emitProgress (progress "domain" 7 "ساخت دامنه عمومی" "Creating public domain")
  let domain ← createDomain sc route token place
  let _ ← railway sc route token (.connectSource place repo source.branch)
  emitProgress { progress "deploy" 8 "شروع Deployment در Virginia" "Starting deployment in Virginia" with
    deploymentStatus := some "QUEUED", attempt := some 0, maxAttempts := some 7 }
  let deploymentId ← startDeployment sc route token place source.commitSha
  let deploymentStatus ← pollDeployment sc route token deploymentId 1 "QUEUED" "" 7
  let project ← ofExcept (text sc (some place.projectId))
  return ⟨workspace, "https://" ++ domain ++ "/dashboard",
    "https://railway.com/project/" ++ sc.encode project, place, deploymentId, deploymentStatus⟩

/-- `provisionRailway`. -/
def provisionRailway (route : Route) (tokens : Tokens) (draws : Draws) (source : Source) :
    Prog Provisioned := do
  let (workspace, place) ← createPlace sc route tokens draws source.fork
  deployAt sc route tokens draws source workspace place

/-! ## The whole -/

/-- `[A-Za-z0-9-]{1,39}`. -/
def isLogin (login : String) : Bool :=
  1 ≤ login.length && login.length ≤ 39 && login.toList.all fun c => c.isAlphanum || c = '-'

/-- `[0-9a-f]{40}`, in any case. -/
def isSha (sha : String) : Bool :=
  sha.length = 40 && sha.toList.all fun c => c.isDigit || 'a' ≤ c && c ≤ 'f' || 'A' ≤ c && c ≤ 'F'

/-- The account of the user. -/
def readLogin (identity : Json) : Except Failure String := do
  let login ← textOrEmpty sc (andAttr (some identity) "login")
  if isLogin login then return login
  else throw (fault "GITHUB_IDENTITY" "github-token" "GitHub did not return a valid account."
    "GitHub حساب معتبری برنگرداند." 502 error_502)

/-- The path of a commit of the fork. -/
def commitPath (login branch : String) : String :=
  forkPath sc login ++ "/commits/" ++ sc.encode branch

/-- The commit that is installed. -/
def readSha (commit : Json) : Except Failure String := do
  let sha ← text sc (either (andAttr (some commit) "sha") (some (.str "")))
  if isSha sha then return sha
  else throw (fault "FORK_COMMIT" "fork" "The fork has no deployable branch commit yet."
    "فورک هنوز کامیت قابل دیپلوی ندارد." 502 error_502)

/-- The part of `installPayload` that asks GitHub for what is installed. -/
def prepareSource (route : Route) (token login : String) : Prog Source := do
  emitProgress (progress "star" 1 "استار کردن سورس رسمی" "Starring official source")
  let _ ← github route "PUT" ("/user/starred/" ++ sourceFull) token none false "star"
  emitProgress (progress "fork" 2 "ساخت یا بررسی Fork" "Creating or verifying Fork")
  let fork ← ensureFork sc route token login
  let branch ← ofExcept (text sc (either (field "default_branch" fork) (some (.str "main"))))
  let commit ← github route "GET" (commitPath sc login branch) token none false "fork"
  let commitSha ← ofExcept (readSha sc commit)
  return ⟨fork, branch, commitSha⟩

/-- What `installPayload` returns. -/
structure Installed where
  forkUrl : String
  forkRepository : String
  branch : String
  adminPassword : String
  network : Network
  provisioned : Provisioned

/-- What is installed for two tokens. -/
def installWith (tokens : Tokens) (draws : Draws) : Prog Installed := do
  emitProgress (progress "network" 0 "بررسی مسیرهای شبکه" "Checking network routes")
  let checks ← selectTransport
  let network ← selectAuthenticatedTransport tokens.github checks
  let route := network.selected.route
  let login ← ofExcept (readLogin sc network.identity)
  let source ← prepareSource sc route tokens.github login
  let provisioned ← provisionRailway sc route tokens draws source
  let repo ← ofExcept (source.repo sc)
  let forkUrl ← ofExcept (text sc (either (field "html_url" source.fork)
    (some (.str ("https://github.com/" ++ repo)))))
  return ⟨forkUrl, repo, source.branch, draws.adminPassword, network, provisioned⟩

/-- The tokens of a request. -/
def readTokens (payload : Json) : Except Failure Tokens := do
  let github ← validateTokenShape (textField payload "githubToken") "github"
  let railway ← validateTokenShape (textField payload "railwayToken") "railway"
  return ⟨github, railway⟩

/-- `installPayload`. -/
def installPayload (payload : Json) (draws : Draws) : Prog Installed := do
  let tokens ← ofExcept (readTokens payload)
  installWith sc tokens draws

end Installation
