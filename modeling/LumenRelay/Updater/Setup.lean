import LumenRelay.Lib.Conversation
import LumenRelay.Lib.Dict
import LumenRelay.Py.Dynamic
import LumenRelay.Py.Text
import LumenRelay.Lib.Percent

/-!
# The setup of the updater

The updater reads the repository to follow and the credentials from the environment of the process,
checks their form, and tells versions apart.
-/

namespace Updater

open Lib Py

variable (rt : Runtime)

/-! ## Errors -/

/-- What the updater raises: an `UpdateError`, or another exception. -/
inductive Failure
  | update (message : String) (status : ℕ)
  | other (e : PyErr)
deriving DecidableEq

/-- An exception of the language. -/
def lift {α : Type} : Except PyErr α → Except Failure α
  | .ok a => .ok a
  | .error e => .error (.other e)

lemma lift_eq_ok {α : Type} {x : Except PyErr α} {a : α} (h : lift x = .ok a) : x = .ok a := by
  cases x with
  | ok b =>
    cases h
    rfl
  | error e => cases h

/-- Refuse with an `UpdateError`. -/
def refuse {α : Type} (message : String) (status : ℕ := 400) : Except Failure α :=
  .error (.update message status)

/-! ## The checks of the values -/

/-- `CURRENT_VERSION`. -/
def currentVersion : String := "28.0.0"

/-- `UPSTREAM_REPOSITORY`. -/
def upstreamRepository : String := "highisabella52213/Lumen-Project-Final"

/-- `s.strip(c)`. -/
def stripChar (c : Char) (s : String) : String :=
  rstripChar c (String.ofList (s.toList.dropWhile (· == c)))

/-- `s[len(t):]` of a text that starts with `t`. -/
def dropStart (t s : String) : String :=
  if startsWith t s then String.ofList (s.toList.drop t.length) else s

/-- `s[:-len(t)]` of a text that ends with `t`. -/
def dropEnd (t s : String) : String :=
  if t.toList.isSuffixOf s.toList then String.ofList (s.toList.take (s.length - t.length)) else s

/-- `[A-Za-z0-9_.-]`. -/
def nameChar (c : Char) : Bool := c.isAlphanum || c = '_' || c = '.' || c = '-'

/-- The form `owner/repository`. -/
def isRepository (value : String) : Bool :=
  match splitChar '/' value with
  | [owner, name] => owner ≠ "" && name ≠ "" && (owner ++ name).toList.all nameChar
  | _ => false

/-- `_repository`. -/
def repository (value : Json) (field : String) : Except Failure String :=
  let value := stripChar '/' (strip (value.text rt))
  let value := dropEnd ".git" (dropStart "https://github.com/" value)
  if isRepository value then .ok value else refuse (field ++ " must use owner/repository format")

/-- A character that the name of a branch may not have. -/
def branchMark (c : Char) : Bool := isSpace c || "~^:?*\\[".toList.contains c

/-- `_branch`. -/
def branch (value : Json) : Except Failure String :=
  let value := strip ((value.or (.str "main")).toStr rt)
  if value = "" ∨ 200 < value.length ∨ startsWith "-" value ∨ startsWith "." value ∨
      ['.', '.'] <:+: value.toList ∨ value.toList.any branchMark then
    refuse "Invalid Git branch"
  else .ok value

/-- A control character. -/
def isControl (c : Char) : Bool := c.toNat < 32 || c.toNat = 127

/-- `_token`. -/
def token (value : Json) (field : String) : Except Failure String :=
  let token := strip (value.text rt)
  if token.length < 20 ∨ 600 < token.length ∨ token.toList.any isControl then
    refuse (field ++ " token format is invalid")
  else .ok token

/-! ## Versions -/

/-- A decimal digit of any script. -/
def isDigit (c : Char) : Bool := (rt.digitValue c).isSome

/-- The digits at the start of a text that are followed by a point and a digit, the digits after
them, and the third number, if there is one. -/
def versionAt (l : List Char) : Option (String × String × String) :=
  let major := l.takeWhile (isDigit rt)
  match l.dropWhile (isDigit rt) with
  | '.' :: l =>
    let minor := l.takeWhile (isDigit rt)
    let patch :=
      match l.dropWhile (isDigit rt) with
      | '.' :: l => l.takeWhile (isDigit rt)
      | _ => []
    if major = [] ∨ minor = [] then none
    else some (String.ofList major, String.ofList minor, String.ofList patch)
  | _ => none

/-- The first version in a text; a number is not begun in its middle. -/
def findVersion : Bool → List Char → Option (String × String × String)
  | _, [] => none
  | inNumber, c :: l =>
    match if inNumber then none else versionAt rt (c :: l) with
    | some version => some version
    | none => findVersion (isDigit rt c) l

/-- `int(x or 0)` of digits. -/
def number (digits : String) : Except Failure ℤ :=
  if digits = "" then .ok 0
  else
    match parseInt rt digits with
    | some n => .ok n
    | none => .error (.other (.valueError "Exceeds the limit for integer string conversion"))

/-- `_version_tuple`. -/
def versionTuple (value : String) : Except Failure (ℤ × ℤ × ℤ) :=
  match findVersion rt false value.toList with
  | none => refuse "Latest release tag does not contain a valid version" 502
  | some (major, minor, patch) => do
    return (← number rt major, ← number rt minor, ← number rt patch)

/-- `a > b` for versions. -/
def newer (a b : ℤ × ℤ × ℤ) : Bool :=
  b.1 < a.1 || b.1 = a.1 && (b.2.1 < a.2.1 || b.2.1 = a.2.1 && b.2.2 < a.2.2)

/-- `".".join(str(x) for x in version)`. -/
def versionText (version : ℤ × ℤ × ℤ) : String :=
  toString version.1 ++ "." ++ toString version.2.1 ++ "." ++ toString version.2.2

/-! ## The environment -/

/-- `os.environ`. -/
abbrev Environ : Type := Dict String String

/-- `os.environ.get(name, "")`. -/
def Environ.var (env : Environ) (name : String) : String := (Dict.get? env name).getD ""

/-- `_github_token`. -/
def githubToken (env : Environ) : String := strip (env.var "LUMEN_GITHUB_TOKEN")

/-- `_railway_token`. -/
def railwayToken (env : Environ) : String := strip (env.var "LUMEN_RAILWAY_TOKEN")

/-- `_detected_fork`. -/
def detectedFork (env : Environ) : String :=
  let explicit := strip (env.var "LUMEN_FORK_REPO")
  let owner := strip (env.var "RAILWAY_GIT_REPO_OWNER")
  let name := strip (env.var "RAILWAY_GIT_REPO_NAME")
  if explicit ≠ "" then explicit
  else if owner ≠ "" ∧ name ≠ "" then owner ++ "/" ++ name
  else ""

/-- `_credential_source`. -/
def credentialSource (env : Environ) : String :=
  let source := rt.lower (strip (env.var "LUMEN_CREDENTIAL_SOURCE"))
  if source ≠ "" then source
  else if githubToken env ≠ "" ∨ railwayToken env ≠ "" then "environment"
  else "none"

/-- The first variable that is set. -/
def firstSet (env : Environ) (names : List String) (default : String) : String :=
  ((names.map env.var).find? (· ≠ "")).getD default

/-- What is shown of the setup. -/
structure SetupStatus where
  configured : Bool
  forkRepo : String
  branch : String
  githubTokenSet : Bool
  railwayTokenSet : Bool
  credentialsLocked : Bool
  credentialSource : String
  installedByInstaller : Bool
  railwayContextDetected : Bool
  manualConfigurationAvailable : Bool

/-- `setup_status`. -/
def setupStatus (env : Environ) : SetupStatus :=
  let fork := detectedFork env
  let githubSet := decide (githubToken env ≠ "")
  let railwaySet := decide (railwayToken env ≠ "")
  let context := ["RAILWAY_PROJECT_ID", "RAILWAY_SERVICE_ID", "RAILWAY_ENVIRONMENT_ID"].all fun name =>
    env.var name ≠ ""
  let source := credentialSource rt env
  { configured := githubSet && railwaySet && fork ≠ "" && context
    forkRepo := fork
    branch := strip (firstSet env ["RAILWAY_GIT_BRANCH", "LUMEN_GIT_BRANCH"] "main")
    githubTokenSet := githubSet
    railwayTokenSet := railwaySet
    credentialsLocked := githubSet || railwaySet
    credentialSource := source
    installedByInstaller := source = "installer"
    railwayContextDetected := context
    manualConfigurationAvailable := context }

end Updater
