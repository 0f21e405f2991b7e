import LumenRelay.Updater.Deployment

/-!
# When credentials are replaced

An admin may replace the credentials of the updater.  They are stored with Railway, and then in the
environment of the process.
-/

namespace Updater

open Lib Lib.Coroutine Py

variable (rt : Runtime) (e : Entered)

/-- The repository that was entered was looked up with the token that was entered. -/
def KnownRepository (h : History) : Prop :=
  ∃ info, answered (repositoryRequest e.fork e.githubToken) info ∈ h ∧
    checkRepository rt e.fork info = .ok ()

/-- The token for Railway was tried. -/
def KnownAccount (h : History) : Prop :=
  ∃ value data, answered (.railway identityQuery e.railwayToken) value ∈ h ∧
    readGraph rt value = .ok data

/-- What a replacement of the credentials may ask. -/
inductive SetupAsks : History → Point → Prop
  | repository : SetupAsks [] (.call (repositoryRequest e.fork e.githubToken))
  | identity {h : History} : KnownRepository rt e h →
    SetupAsks h (.call (.railway identityQuery e.railwayToken))
  | lock {h : History} : KnownRepository rt e h → KnownAccount rt e h → SetupAsks h .setupLock
  | store {h : History} (service : Service) : KnownRepository rt e h → KnownAccount rt e h →
    SetupAsks h (.call (.railway (setupQuery service (setupVariables e)) e.railwayToken))

variable {rt e} {data : Json} {h : History} {s s₀ : Process} {o : Origin Point.Answer Failure}

lemma KnownRepository.append (hh : KnownRepository rt e h) (h' : History) :
    KnownRepository rt e (h ++ h') := by
  obtain ⟨info, hmem, hcheck⟩ := hh
  exact ⟨info, List.mem_append_left _ hmem, hcheck⟩

lemma KnownAccount.append (hh : KnownAccount rt e h) (h' : History) :
    KnownAccount rt e (h ++ h') := by
  obtain ⟨value, data, hmem, hread⟩ := hh
  exact ⟨value, data, List.mem_append_left _ hmem, hread⟩

/-! ### The variables that are set -/

/-- Variables are stored at the end. -/
lemma SetupAsks.stored {service : Service} {vars : List (String × String)} {token : String}
    (hasks : SetupAsks rt e h (.call (.railway (setupQuery service vars) token))) :
    KnownRepository rt e h ∧ KnownAccount rt e h := by
  have htext : identityQuery.text ≠ setupText := by decide +kernel
  generalize hp : Point.call (.railway (setupQuery service vars) token) = p at hasks
  cases hasks with
  | repository => cases hp
  | lock => cases hp
  | store _ hrepository haccount => exact ⟨hrepository, haccount⟩
  | identity _ =>
    have hquery := (Request.railway.inj (Point.call.inj hp)).1
    exact absurd (congrArg Query.text hquery).symm htext

end Updater
