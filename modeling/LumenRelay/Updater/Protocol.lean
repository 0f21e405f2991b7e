import LumenRelay.Updater.Setup

/-!
# The updater and the services

The updater asks GitHub and Railway, one request after the other.  While it waits for a response, or
for a lock, everything else in the process goes on, and the environment may change.
-/

namespace Updater

open Lib Lib.Coroutine Py

variable (rt : Runtime)

/-! ## Requests -/

/-- A query of GraphQL. -/
structure Query where
  text : String
  vars : Json
deriving DecidableEq

/-- A request to one of the two services. -/
inductive Request
  /-- A request to `GITHUB_API`; without a token it is anonymous. -/
  | github (method path token : String) (payload : Option Json)
  /-- A query to `RAILWAY_GRAPHQL`. -/
  | railway (query : Query) (token : String)
deriving DecidableEq

/-- The address of a request. -/
def Request.url : Request → String
  | github _ path _ _ => "https://api.github.com" ++ path
  | railway _ _ => "https://backboard.railway.com/graphql/v2"

/-- The header of a request that carries a token. -/
def Request.authorization : Request → Option String
  | github _ _ token _ => if token = "" then none else some ("Bearer " ++ token)
  | railway _ token => some ("Bearer " ++ token)

/-- The payload of a request. -/
def Request.payload : Request → Option Json
  | github _ _ _ payload => payload
  | railway query _ => some (.obj [("query", .str query.text), ("variables", query.vars)])

/-- What comes back, as far as `_request_json` tells it apart. -/
inductive Response
  /-- A response with the value of its JSON. -/
  | json (value : Json)
  /-- More than `MAX_RESPONSE_BYTES`. -/
  | tooLarge
  /-- An error of HTTP, and what its body says: `message` or `error`. -/
  | httpError (code : ℕ) (detail : Json)
  /-- No response in time, or one that is no JSON. -/
  | unreachable (text : String)
  /-- A response that is not text. -/
  | undecodable

/-- `_request_json`, on what comes back. -/
def requestJson : Response → Except Failure Json
  | .json value => .ok value
  | .tooLarge => refuse "Remote response is too large" 502
  | .httpError code detail =>
    let status := if code = 401 ∨ code = 403 then 401 else if code = 409 then 409 else 502
    let detail := detail.or (.str ("Remote API returned HTTP " ++ toString code))
    refuse (sliceTo 220 (detail.toStr rt)) status
  | .unreachable text => refuse ("Could not reach update service: " ++ sliceTo 160 text) 502
  | .undecodable => .error (.other (.valueError "invalid start byte"))

/-- The points at which the updater waits. -/
inductive Point
  | call (r : Request)
  | applyLock
  | setupLock
  | sleep (seconds : ℕ)
deriving DecidableEq

/-- What comes at a point. -/
def Point.Answer : Point → Type
  | .call _ => Response
  | _ => Unit

/-- What the last check has found. -/
structure Latest where
  setup : SetupStatus
  latestVersion : String
  tag : String
  available : Bool
  releaseUrl : String
  publishedAt : String

/-- The state that the updater shares with the process. -/
structure Process where
  environ : Environ
  /-- `_cache`: when the value was read, and the value. -/
  cache : Option (ℤ × Latest)
  /-- `time.monotonic()`, in microseconds. -/
  clock : ℤ

/-- A part of the updater. -/
abbrev Prog (α : Type) : Type := Coroutine Process Point.Answer Failure α

/-- `_call`. -/
def call (r : Request) : Prog Json := do
  let response : Response ← wait (Point.call r)
  ofExcept (requestJson rt response)

/-- The message of the errors of GraphQL. -/
def graphError (errors : Json) : String :=
  match errors with
  | .arr (.obj e :: _) => (Obj.get e "message").toStr rt
  | _ => errors.toStr rt

/-- What `_railway` makes of a result. -/
def readGraph (result : Json) : Except Failure Json := do
  let errors ← lift (result.attrGet "errors")
  if errors.truthy then
    refuse ("Railway rejected the request: " ++ sliceTo 180 (graphError rt errors)) 502
  else
    let data ← lift (result.attrGet "data")
    return data.or (.obj [])

/-- `_railway`. -/
def railway (query : Query) (token : String) : Prog Json := do
  let result ← call rt (.railway query token)
  ofExcept (readGraph rt result)

/-! ## The newest version -/

/-- `CHECK_SECONDS`. -/
def checkMicroseconds : ℤ := 5 * 60 * 1000000

/-- The question for the latest release. -/
def releaseRequest (token : String) : Request :=
  .github "GET" ("/repos/" ++ upstreamRepository ++ "/releases/latest") token none

/-- What `check_latest` makes of a release. -/
def readRelease (release : Json) (setup : SetupStatus) : Except Failure Latest := do
  let tagName ← lift (release.attrGet "tag_name")
  let name ← lift (release.attrGet "name")
  let tag := (tagName.or name).text rt
  let latest := versionText (← versionTuple rt tag)
  let available := newer (← versionTuple rt latest) (← versionTuple rt currentVersion)
  let url ← lift (release.attrGet "html_url")
  let published ← lift (release.attrGet "published_at")
  return ⟨setup, latest, tag, available, url.text rt, published.text rt⟩

/-- `check_latest`, after the cache was passed over. -/
def fetchLatest (now : ℤ) : Prog Latest := do
  let s ← look
  let release ← call rt (releaseRequest (githubToken s.environ))
  let s ← look
  let latest ← ofExcept (readRelease rt release (setupStatus rt s.environ))
  modify fun s => { s with cache := some (now, latest) }
  return latest

/-- `check_latest`. -/
def checkLatest (force : Bool) : Prog Latest := do
  let s ← look
  match s.cache with
  | some (at_, value) =>
    if !force && decide (s.clock - at_ < checkMicroseconds) then return value
    else fetchLatest rt s.clock
  | none => fetchLatest rt s.clock

/-! ## Repositories -/

/-- The question for a repository. -/
def repositoryRequest (fork token : String) : Request := .github "GET" ("/repos/" ++ fork) token none

/-- The full name of what a repository was forked from. -/
def parentName (info : Json) : Except Failure String := do
  let parent ← lift (info.attrGet "parent")
  let name ← lift ((parent.or (.obj [])).attrGet "full_name")
  return name.text rt

/-- Whether two names of repositories are the same. -/
def sameName (a b : String) : Bool := rt.lower a = rt.lower b

/-- Whether a repository is the official source, or a direct fork of it. -/
def official (fork parent : String) (info : Json) : Except Failure Bool := do
  if sameName rt fork upstreamRepository then return true
  else return (← lift (info.attrGet "fork")).truthy && sameName rt parent upstreamRepository

/-! ## Applying an update -/

/-- The service that is updated. -/
structure Service where
  projectId : String
  serviceId : String
  environmentId : String
deriving DecidableEq

/-- The service that the process runs in. -/
def Environ.service (env : Environ) : Service :=
  ⟨env.var "RAILWAY_PROJECT_ID", env.var "RAILWAY_SERVICE_ID", env.var "RAILWAY_ENVIRONMENT_ID"⟩

/-- The characters that `quote` with nothing safe leaves alone. -/
def plainChar (c : Char) : Bool := c.isAlphanum || c ∈ "_.-~".toList

/-- The request that merges the official source into a fork. -/
def mergeRequest (fork branch token : String) : Request :=
  .github "POST" ("/repos/" ++ fork ++ "/merge-upstream") token
    (some (.obj [("branch", .str branch)]))

/-- The question for the commit of a branch. -/
def commitRequest (fork branch token : String) : Request :=
  .github "GET" ("/repos/" ++ fork ++ "/commits/" ++
    String.ofList (Percent.quote plainChar branch.toList)) token none

/-- The variables of a service are to be set. -/
def upsertInput (service : Service) (vars : List (String × Json)) : Json :=
  .obj [("input", .obj [("projectId", .str service.projectId),
    ("environmentId", .str service.environmentId), ("serviceId", .str service.serviceId),
    ("variables", .obj vars), ("skipDeploys", .bool true), ("replace", .bool false)])]

/-- The text of the query that stores the state of the panel. -/
def snapshotText : String :=
  "mutation PersistLumenState($input: VariableCollectionUpsertInput!) \x7b variableCollectionUpsert(input: $input) \x7d"

/-- What keeps the state of the panel over a deployment. -/
def snapshotQuery (service : Service) (snapshot : String) : Query :=
  ⟨snapshotText, upsertInput service [("LUMEN_STATE_SNAPSHOT_B64", .str snapshot)]⟩

/-- The text of the query for a deployment. -/
def deployText : String :=
  "mutation DeployLumenUpdate($serviceId: String!, $environmentId: String!, $commitSha: String!) \x7b serviceInstanceDeployV2(serviceId: $serviceId, environmentId: $environmentId, commitSha: $commitSha) \x7d"

/-- What deploys a commit. -/
def deployQuery (service : Service) (sha : String) : Query :=
  ⟨deployText,
    .obj [("serviceId", .str service.serviceId), ("environmentId", .str service.environmentId),
      ("commitSha", .str sha)]⟩

/-- `[0-9a-fA-F]{40}`. -/
def isSha (sha : String) : Bool :=
  sha.length = 40 && sha.toList.all fun c =>
    c.isDigit || 'a' ≤ c && c ≤ 'f' || 'A' ≤ c && c ≤ 'F'

/-- What an update works on; it is read before the lock is waited for. -/
structure Target where
  githubToken : String
  railwayToken : String
  fork : String
  branch : String
  service : Service
deriving DecidableEq

/-- The part of `apply_latest` before the lock. -/
def readTarget (env : Environ) : Except Failure Target := do
  let setup := setupStatus rt env
  if !setup.configured then refuse "Complete update credentials in Settings first"
  else
    let fork ← repository rt (.str setup.forkRepo) "Fork repository"
    let branch ← branch rt (.str setup.branch)
    return ⟨githubToken env, railwayToken env, fork, branch, env.service⟩

/-- What `apply_latest` returns. -/
inductive Applied
  | alreadyCurrent (latest : Latest)
  | started (version commit : String) (deployment : Json)

/-- Whether an error says something about the commit. -/
def aboutCommit (message : String) : Bool := "commit".toList <:+: (rt.lower message).toList

/-- The loop that asks for the deployment, from an attempt on; so many attempts are left. -/
def deploy (t : Target) (sha : String) (attempt : ℕ) : ℕ → Prog Json
  | 0 => raise (.update "Railway deployment failed" 502)
  | left + 1 =>
    (railway rt (deployQuery t.service sha) t.railwayToken).tryCatch fun e =>
      match e with
      | .update message status =>
        if attempt < 2 ∧ aboutCommit rt message then do
          wait (Point.sleep (2 * (attempt + 1)))
          deploy t sha (attempt + 1) left
        else raise (.update message status)
      | .other e => raise (.other e)

/-- A fork gets what is new in the official source. -/
def mergeUpstream (t : Target) : Prog Unit := do
  let info ← call rt (repositoryRequest t.fork t.githubToken)
  let parent ← ofExcept (parentName rt info)
  let accepted ← ofExcept (official rt t.fork parent info)
  if !accepted then
    raise (.update "Configured repository is not a fork of the official source" 400)
  else if sameName rt t.fork upstreamRepository then return ()
  else
    let _ ← call rt (mergeRequest t.fork t.branch t.githubToken)
    return ()

/-- The commit that is deployed. -/
def readCommit (t : Target) : Prog String := do
  let commit ← call rt (commitRequest t.fork t.branch t.githubToken)
  let sha ← ofExcept (lift (commit.attrGet "sha"))
  if isSha (sha.text rt) then return sha.text rt
  else raise (.update "GitHub did not return a valid branch commit" 502)

/-- The state of the panel is kept, if there is one to keep. -/
def keepSnapshot (t : Target) (snapshot : String) : Prog Unit := do
  if snapshot = "" then return ()
  else
    let _ ← railway rt (snapshotQuery t.service snapshot) t.railwayToken
    return ()

/-- The part of `apply_latest` under the lock. -/
def applyTo (t : Target) (stateSnapshot : String) : Prog Applied := do
  let latest ← checkLatest rt true
  if !latest.available then return .alreadyCurrent latest
  else
    mergeUpstream rt t
    let sha ← readCommit rt t
    keepSnapshot rt t stateSnapshot
    let data ← deploy rt t sha 0 3
    let deployment ← ofExcept (lift (data.attrGet "serviceInstanceDeployV2"))
    return .started latest.latestVersion (sliceTo 12 sha) deployment

/-- `apply_latest`. -/
def applyLatest (stateSnapshot : String) : Prog Applied := do
  let s ← look
  let t ← ofExcept (readTarget rt s.environ)
  wait Point.applyLock
  applyTo rt t stateSnapshot

/-! ## Saving the setup -/

/-- What an admin enters. -/
structure Entered where
  githubToken : String
  railwayToken : String
  fork : String
  branch : String
  /-- How the credentials came to be there before. -/
  previousSource : String
deriving DecidableEq

/-- What GitHub says of the repository that was entered. -/
def checkRepository (fork : String) (info : Json) : Except Failure Unit := do
  let fullName ← lift (info.attrGet "full_name")
  let parent ← parentName rt info
  if !sameName rt (fullName.text rt) fork then
    refuse "GitHub token cannot access the selected repository" 403
  else if !(← official rt fork parent info) then
    refuse "Selected repository is not the official source or its direct fork"
  else return ()

/-- The query for the account of a token. -/
def identityQuery : Query := ⟨"query LumenCredentialIdentity \x7b me \x7b id name email \x7d \x7d", .obj []⟩

/-- The text of the query that stores variables. -/
def setupText : String :=
  "mutation SaveLumenCredentials($input: VariableCollectionUpsertInput!) \x7b variableCollectionUpsert(input: $input) \x7d"

/-- The variables that are stored. -/
def setupVariables (e : Entered) : List (String × String) :=
  [("LUMEN_UPSTREAM_REPO", upstreamRepository), ("LUMEN_FORK_REPO", e.fork),
    ("LUMEN_GITHUB_TOKEN", e.githubToken), ("LUMEN_RAILWAY_TOKEN", e.railwayToken),
    ("RAILWAY_GIT_BRANCH", e.branch),
    ("LUMEN_CREDENTIAL_SOURCE",
      if e.previousSource ∈ ["installer", "environment", "manual", "manual_override"] then
        "manual_override" else "manual")]

/-- What stores variables. -/
def setupQuery (service : Service) (vars : List (String × String)) : Query :=
  ⟨setupText, upsertInput service (vars.map fun v => (v.1, .str v.2))⟩

/-- Whether the environment takes a value; it takes none with a null character. -/
def storable (value : String) : Bool := value.toList.all (·.toNat ≠ 0)

end Updater
