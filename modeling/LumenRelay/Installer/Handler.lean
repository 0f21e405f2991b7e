import LumenRelay.Lib.Pool
import LumenRelay.Py.Json

/-!
# The request handler of the installer

The handler is a coroutine.  It waits for the body of a request, for an installation and for a
refresh of the network state, and other requests are handled and installations go on meanwhile.  A
handler that returns the promise of another function inside a `try` block leaves the block first,
so what is left of that function is the value of the block.
-/

namespace Installer

open Lib Lib.Coroutine Py

/-! ## Errors -/

/-- `MAX_BODY_BYTES`. -/
def maxBodyBytes : ℕ := 24 * 1024

/-- `InstallError`, which always has the status of an error. -/
structure InstallError where
  code : String
  step : String
  messageEn : String
  messageFa : String
  status : ℕ
  safeDetails : Option String := none
  routeAttempts : Option Json := none
  status_error : 400 ≤ status ∧ status < 600

/-- What an operation throws. -/
inductive Failure
  | install (e : InstallError)
  | other

/-- A field that `JSON.stringify` leaves out when it is undefined. -/
def optionalField (name : String) : Option Json → Obj
  | some value => [(name, value)]
  | none => []

/-- `installErrorDetail`. -/
def installErrorDetail (requestId : String) : Failure → Json
  | .install e => .obj ([("code", .str e.code), ("step", .str e.step), ("messageEn", .str e.messageEn),
      ("messageFa", .str e.messageFa)] ++
      optionalField "details" ((e.safeDetails.filter (· ≠ "")).map .str) ++
      optionalField "routeAttempts" e.routeAttempts ++ [("requestId", .str requestId)])
  | .other => .obj [("code", .str "INTERNAL_ERROR"), ("step", .str "internal"),
      ("messageEn", .str "The installer encountered an internal error."),
      ("messageFa", .str "نصاب با یک خطای داخلی روبه‌رو شد."), ("requestId", .str requestId)]

/-! ## Requests -/

/-- What the language and its library do for the handler. -/
structure Node where
  /-- `JSON.stringify`. -/
  stringify : Json → String
  /-- `JSON.parse`. -/
  parse : String → Option Json
  /-- `new Date(now).toISOString()`. -/
  isoDate : ℕ → String
  /-- `encodeURIComponent`. -/
  encode : String → String
  /-- `INSTALLER_HTML` with a nonce. -/
  html : String → String

/-- The parts of a URL that are looked at. -/
structure Url where
  origin : String
  pathname : String
  /-- `searchParams.get("id")`. -/
  id : Option String

/-- A request, with the secrets that are drawn while it is handled. -/
structure Request where
  method : String
  /-- `new URL(publicRequestUrl(req))`, which may throw. -/
  url : Option Url
  origin : Option String
  contentType : Option String
  contentLength : Option ℕ
  /-- Whether `new Request` takes the URL and the headers. -/
  takesRequest : Bool
  installId : String
  requestId : String
  nonce : String

/-- The error of a request that is refused. -/
def requestError (code messageEn messageFa : String) (status : ℕ) (h : 400 ≤ status ∧ status < 600) :
    Failure := .install ⟨code, "request", messageEn, messageFa, status, none, none, h⟩

/-- The body that some parts make, as long as they are not too large. -/
def readParts (size : ℕ) (parts : List UInt8) : List (List UInt8) → Except Failure (List UInt8)
  | [] => .ok parts
  | part :: rest =>
    if maxBodyBytes < size + part.length then
      .error (requestError "REQUEST_TOO_LARGE" "Request body is too large."
        "درخواست بیش از حد بزرگ است." 413 (by decide))
    else readParts (size + part.length) (parts ++ part) rest

/-- What `parseInstallRequest` refuses before it reads the text of a request. -/
def checkHeaders (req : Request) (url : Url) : Except Failure Unit := do
  if ∃ origin ∈ req.origin, origin ≠ "" ∧ origin ≠ url.origin then
    throw (requestError "ORIGIN_REJECTED" "This installation request came from another origin."
      "درخواست نصب از مبدأ دیگری ارسال شده است." 403 (by decide))
  if ¬ "application/json".toList <+: ((req.contentType.getD "").toList.map Char.toLower) then
    throw (requestError "CONTENT_TYPE" "Send installation data as JSON."
      "اطلاعات نصب باید به‌صورت JSON ارسال شود." 415 (by decide))
  if maxBodyBytes < req.contentLength.getD 0 then
    throw (requestError "BODY_TOO_LARGE" "The request is too large."
      "حجم درخواست بیش از حد مجاز است." 413 (by decide))

/-- What `parseInstallRequest` makes of the text. -/
def readPayload (node : Node) (raw : String) : Except Failure Json := do
  if maxBodyBytes < raw.utf8ByteSize then
    throw (requestError "BODY_TOO_LARGE" "The request is too large."
      "حجم درخواست بیش از حد مجاز است." 413 (by decide))
  match node.parse raw with
  | some payload => return payload
  | none =>
    throw (requestError "INVALID_JSON" "The request body is not valid JSON."
      "بدنه درخواست JSON معتبر نیست." 400 (by decide))

/-- `payload && payload[key]`, if it is a string. -/
def textField (payload : Json) (key : String) : Option String :=
  match payload with
  | .str "" => some ""
  | .obj fields =>
    match fields.lookup key with
    | some (.str text) => some text
    | _ => none
  | _ => none

/-- The white space that `trim` removes. -/
def isWhite (c : Char) : Bool :=
  (9 ≤ c.toNat && c.toNat ≤ 13) || c.toNat = 32 || c.toNat = 160 || c.toNat = 0x1680 ||
    (0x2000 ≤ c.toNat && c.toNat ≤ 0x200a) || c.toNat = 0x2028 || c.toNat = 0x2029 ||
    c.toNat = 0x202f || c.toNat = 0x205f || c.toNat = 0x3000 || c.toNat = 0xfeff

/-- The `length` of a text, in UTF-16 units. -/
def unitLength (text : List Char) : ℕ := (text.map fun c => if c.toNat < 0x10000 then 1 else 2).sum

/-- `validateTokenShape`. -/
def validateTokenShape (value : Option String) (kind : String) : Except Failure String :=
  match value with
  | none => .ok ""
  | some text =>
    let token := ((text.toList.dropWhile isWhite).reverse.dropWhile isWhite).reverse
    if unitLength token < 20 ∨ 600 < unitLength token ∨
        token.any fun c => c.toNat ≤ 0x1f || c.toNat = 0x7f then
      .error (.install ⟨kind.toUpper ++ "_TOKEN_FORMAT", kind ++ "-token",
        "The " ++ kind ++ " token format is not valid.",
        "فرمت توکن " ++ (if kind = "github" then "GitHub" else "Railway") ++ " معتبر نیست.", 400,
        none, none, by decide⟩)
    else .ok (String.ofList token)

/-- Both tokens have the right shape. -/
def checkTokens (payload : Json) : Except Failure Unit := do
  let _ ← validateTokenShape (textField payload "githubToken") "github"
  let _ ← validateTokenShape (textField payload "railwayToken") "railway"

/-! ## The server -/

/-- The states of an installation that runs in the background. -/
inductive JobState
  | running
  | completed
  | failed
deriving DecidableEq

def JobState.text : JobState → String
  | running => "running"
  | completed => "completed"
  | failed => "failed"

/-- An entry of `installJobs`; `fields` are those that are shown besides the state. -/
structure Job where
  id : String
  state : JobState
  updatedAtMs : ℕ
  fields : Obj

/-- `deploymentNetworkState`. -/
structure Network where
  ready : Bool
  fields : Obj

/-- `publicNetworkState`. -/
def Network.toJson (n : Network) : Json := .obj n.fields

/-- The variables that all requests share. -/
structure Server where
  activeInstalls : ℤ
  installJobs : List Job
  network : Network
  now : ℕ

/-- `INSTALL_JOB_TTL_MS`. -/
def installJobTtlMs : ℕ := 15 * 60 * 1000

/-- `cleanInstallJobs`. -/
def cleanInstallJobs (s : Server) : Server :=
  { s with installJobs := s.installJobs.filter fun job =>
      ¬ (job.state ≠ .running ∧ job.updatedAtMs + installJobTtlMs < s.now) }

/-- `startInstallJob`, up to the first wait of the installation; its identifier is a new secret. -/
def startInstallJob (node : Node) (installId : String) (s : Server) : Server :=
  let s := cleanInstallJobs s
  let date := Json.str (node.isoDate s.now)
  -- `installPayload` has reported its first step before it waits
  let job : Job := ⟨installId, .running, s.now,
    [("startedAt", date), ("updatedAt", date), ("phase", .str "network"), ("step", .int 0),
      ("titleFa", .str "بررسی مسیرهای شبکه"), ("titleEn", .str "Checking network routes")]⟩
  { s with installJobs := s.installJobs ++ [job], activeInstalls := s.activeInstalls + 1 }

/-! ## Responses -/

/-- A response that is sent. -/
structure Reply where
  status : ℕ
  headers : List (String × String)
  body : String

/-- The points at which a handler waits: the parts of the body and the text of a request for an
installation that runs in the background or that the response waits for, that installation, a refresh
of the network state, and the bytes of a response. -/
inductive Point
  | body (direct : Bool)
  | text (direct : Bool)
  | install
  | refresh
  | arrayBuffer
deriving DecidableEq

/-- What comes at a point: the parts of a body, the text, the result of an installation, and whether
the network is ready. -/
abbrev Point.Result : Point → Type
  | body _ => List (List UInt8)
  | text _ => String
  | install => Json
  | refresh => Bool
  | arrayBuffer => Unit

/-- A computation of a handler; it has the shared variables, and what was sent to its own client. -/
abbrev Handler (α : Type) : Type := Coroutine (Server × List Reply) Point.Result Failure α

/-- The server as it is now. -/
def server : Handler Server := do return (← look).1

/-- Change the server. -/
def setServer (f : Server → Server) : Handler Unit := modify fun s => (f s.1, s.2)

/-- Send a response; a second one cannot be sent. -/
def send (reply : Reply) : Handler Unit := do
  if (← look).2 ≠ [] then raise .other
  else modify fun s => (s.1, s.2 ++ [reply])

/-- `sendJson`. -/
def sendJson (node : Node) (status : ℕ) (value : Json) (extraHeaders : List (String × String)) :
    Handler Unit :=
  let body := node.stringify value
  send ⟨status, [("content-type", "application/json; charset=utf-8"),
    ("content-length", toString body.utf8ByteSize), ("cache-control", "no-store"),
    ("x-content-type-options", "nosniff")] ++ extraHeaders, body⟩

/-- What `sendWebResponse` is called with. -/
inductive Response
  /-- A `Response`. -/
  | web (reply : Reply)
  /-- The result of an installation, which has neither headers nor a body. -/
  | plain (result : Json)

/-- `sendWebResponse`. -/
def sendWebResponse : Response → Handler Unit
  | .web reply => do
    let _ ← wait Point.arrayBuffer
    send reply
  -- `response.headers` is undefined
  | .plain _ => raise Failure.other

/-- `SECURITY_HEADERS`. -/
def securityHeaders : List (String × String) :=
  [("Cache-Control", "no-store, no-cache, must-revalidate, max-age=0"), ("Pragma", "no-cache"),
    ("Expires", "0"), ("Referrer-Policy", "no-referrer"), ("X-Content-Type-Options", "nosniff"),
    ("X-Frame-Options", "DENY"), ("Cross-Origin-Opener-Policy", "same-origin"),
    ("Cross-Origin-Resource-Policy", "same-origin"),
    ("Permissions-Policy",
      "camera=(), microphone=(), geolocation=(), payment=(), usb=(), interest-cohort=()")]

/-- `htmlResponse`. -/
def htmlResponse (node : Node) (nonce : String) : Response :=
  let csp := "; ".intercalate ["default-src 'none'", "base-uri 'none'", "frame-ancestors 'none'",
    "form-action 'self'", "script-src 'nonce-" ++ nonce ++ "'",
    "style-src 'nonce-" ++ nonce ++ "' https://fonts.googleapis.com", "connect-src 'self'",
    "img-src 'none'", "font-src https://fonts.gstatic.com", "object-src 'none'", "worker-src 'none'"]
  .web ⟨200, securityHeaders ++ [("Content-Type", "text/html; charset=utf-8"),
    ("Content-Security-Policy", csp)], node.html nonce⟩

/-! ## The handler -/

/-- `parseInstallRequest`. -/
def parseInstallRequest (node : Node) (req : Request) (url : Url) (direct : Bool) : Handler Json := do
  Coroutine.ofExcept (checkHeaders req url)
  let raw ← wait (Point.text direct)
  Coroutine.ofExcept (readPayload node raw)

/-- `readNodeBody`. -/
def readNodeBody (direct : Bool) : Handler (List UInt8) := do
  let parts ← wait (Point.body direct)
  Coroutine.ofExcept (readParts 0 [] parts)

/-- `handleInstall`; what `installPayload` does after it has looked at the tokens is one wait. -/
def handleInstall (node : Node) (req : Request) (url : Url) : Handler Json := do
  let payload ← parseInstallRequest node req url true
  Coroutine.ofExcept (checkTokens payload)
  wait Point.install

/-- An answer for which nothing is left to do. -/
def answered (x : Handler Unit) : Handler (Handler Unit) := do
  x
  return pure ()

/-- `GET /api/install/status`. -/
def installStatus (node : Node) (url : Url) : Handler Unit := do
  setServer cleanInstallJobs
  let installId := url.id.getD ""
  let legal := fun c : Char => c.isAlphanum || c = '_' || c = '-'
  let valid := 20 ≤ installId.length ∧ installId.length ≤ 80 ∧ installId.toList.all legal
  let s ← server
  match if valid then s.installJobs.find? (·.id = installId) else none with
  | none =>
    sendJson node 404 (.obj [("ok", .bool false), ("error", .obj [("code", .str "INSTALL_NOT_FOUND"),
      ("step", .str "deployment-status"),
      ("messageFa", .str "شناسه نصب پیدا نشد یا منقضی شده است."),
      ("messageEn", .str "The installation identifier was not found or has expired.")])]) []
  | some job =>
    sendJson node 200 (.obj ([("ok", .bool true), ("installId", .str installId),
      ("state", .str job.state.text)] ++ job.fields)) []

/-- `POST /api/install/start`. -/
def installStart (node : Node) (req : Request) (url : Url) : Handler Unit := do
  if 4 ≤ (← server).activeInstalls then
    sendJson node 429 (.obj [("ok", .bool false), ("error", .obj [("code", .str "BUSY"),
      ("step", .str "request"), ("messageFa", .str "نصاب مشغول است؛ کمی بعد دوباره تلاش کنید."),
      ("messageEn", .str "The installer is busy. Try again shortly.")])]) [("retry-after", "15")]
  else
    let _ ← readNodeBody false
    if ¬ req.takesRequest then raise .other
    let payload ← parseInstallRequest node req url false
    Coroutine.ofExcept (checkTokens payload)
    setServer (startInstallJob node req.installId)
    sendJson node 202 (.obj [("ok", .bool true), ("accepted", .bool true),
      ("installId", .str req.installId),
      ("statusUrl", .str ("/api/install/status?id=" ++ node.encode req.installId))]) []

/-- `POST /api/install`. -/
def install (node : Node) (req : Request) (url : Url) : Handler (Handler Unit) := do
  if 4 ≤ (← server).activeInstalls then
    answered (sendJson node 429 (.obj [("ok", .bool false), ("code", .str "BUSY"),
      ("message", .str "Installer is busy. Try again shortly.")]) [("retry-after", "15")])
  else
    let _ ← readNodeBody true
    if ¬ req.takesRequest then raise .other
    setServer fun s => { s with activeInstalls := s.activeInstalls + 1 }
    Coroutine.andFinally (do
      let result ← handleInstall node req url
      -- the promise is returned, and not awaited
      return sendWebResponse (.plain result))
      (modify fun s => ({ s.1 with activeInstalls := s.1.activeInstalls - 1 }, s.2))

/-- The `try` block of `nodeHandler`: the route of a request. -/
def route (node : Node) (req : Request) : Handler (Handler Unit) :=
  match req.url with
  | none => raise .other
  | some url =>
    if req.method = "GET" ∧ url.pathname = "/health" then answered do
      let state := (← server).network
      sendJson node (if state.ready then 200 else 503) state.toJson []
    else if req.method = "GET" ∧ url.pathname = "/api/network" then answered do
      sendJson node 200 (← server).network.toJson []
    else if req.method = "POST" ∧ url.pathname = "/api/network/refresh" then answered do
      let ready ← wait Point.refresh
      sendJson node (if ready then 200 else 503) (← server).network.toJson []
    else if req.method = "GET" ∧ url.pathname = "/" then
      return sendWebResponse (htmlResponse node req.nonce)
    else if req.method = "GET" ∧ url.pathname = "/api/install/status" then
      answered (installStatus node url)
    else if req.method = "POST" ∧ url.pathname = "/api/install/start" then
      answered (installStart node req url)
    else if req.method = "POST" ∧ url.pathname = "/api/install" then install node req url
    else answered (sendJson node 404 (.obj [("ok", .bool false), ("code", .str "NOT_FOUND"),
      ("message", .str "Not found")]) [])

/-- The status of the response to a failure. -/
def Failure.status : Failure → ℕ
  | install e => e.status
  | other => 500

/-- `nodeHandler`. -/
def nodeHandler (node : Node) (req : Request) : Handler Unit := do
  let promise ← (route node req).tryCatch fun e => answered
    (sendJson node e.status (.obj [("ok", .bool false), ("error", installErrorDetail req.requestId e)]) [])
  promise

/-! ## Examples -/

/-- A library that knows one text, `{}`, and one date. -/
def exampleNode : Node where
  stringify := fun _ => "\x7b\x7d"
  parse := fun text => if text = "\x7b\x7d" then some (.obj []) else none
  isoDate := fun _ => "1970-01-01T00:00:00.000Z"
  encode := fun id => id
  html := fun _ => "<html></html>"

/-- A request for an installation. -/
def exampleRequest (pathname : String) : Request where
  method := "POST"
  url := some ⟨"https://installer", pathname, none⟩
  origin := none
  contentType := some "application/json"
  contentLength := none
  takesRequest := true
  installId := "secret"
  requestId := "secret"
  nonce := "secret"

end Installer
