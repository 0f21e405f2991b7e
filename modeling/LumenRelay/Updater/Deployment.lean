import LumenRelay.Updater.Protocol

/-!
# When an update is deployed

An update changes the fork of the user, stores the state of the panel and asks for a deployment.  It
asks for each of these only after what it depends on was answered, whatever the services answer and
whatever else goes on in the process meanwhile.
-/

namespace Updater

open Lib Lib.Coroutine Py

/-- What was asked and answered so far. -/
abbrev History : Type := List (Exchange Point.Answer Failure)

/-- A request with the JSON that came back. -/
def answered (r : Request) (value : Json) : Exchange Point.Answer Failure :=
  ⟨.call r, .ok (Response.json value)⟩

/-- The lock was given. -/
def locked : Exchange Point.Answer Failure := ⟨.applyLock, .ok ()⟩

variable (rt : Runtime) (t : Target) (snapshot : String)

/-! ## The stages of an update -/

/-- The latest release was read. -/
inductive Checked (available : Bool) : History → Prop
  | mk {token : String} {release : Json} {setup : SetupStatus} {latest : Latest} :
    readRelease rt release setup = .ok latest → latest.available = available →
      Checked available [locked, answered (releaseRequest token) release]

/-- The repository was found to be the official source, or a direct fork of it. -/
inductive Accepted : History → Prop
  | mk {h : History} {info : Json} {parent : String} : Checked rt true h →
    parentName rt info = .ok parent → official rt t.fork parent info = .ok true →
      Accepted (h ++ [answered (repositoryRequest t.fork t.githubToken) info])

/-- The fork has what is new. -/
inductive Merged : History → Prop
  | same {h : History} : Accepted rt t h → sameName rt t.fork upstreamRepository = true → Merged h
  | fork {h : History} {value : Json} : Accepted rt t h →
    sameName rt t.fork upstreamRepository = false →
    Merged (h ++ [answered (mergeRequest t.fork t.branch t.githubToken) value])

/-- The commit of the branch was read. -/
inductive Found (sha : String) : History → Prop
  | mk {h : History} {commit value : Json} : Merged rt t h → commit.attrGet "sha" = .ok value →
    value.text rt = sha → isSha sha = true →
      Found sha (h ++ [answered (commitRequest t.fork t.branch t.githubToken) commit])

/-- The state of the panel is stored. -/
inductive Stored (sha : String) : History → Prop
  | nothing {h : History} : snapshot = "" → Found rt t sha h → Stored sha h
  | stored {h : History} {value data : Json} : Found rt t sha h → readGraph rt value = .ok data →
    Stored sha (h ++ [answered (.railway (snapshotQuery t.service snapshot) t.railwayToken) value])

/-- What becomes of a response to a query. -/
def outcome (response : Except Failure Response) : Except Failure Json := do
  readGraph rt (← requestJson rt (← response))

/-- Some attempts have failed because of the commit. -/
inductive Tried (sha : String) : ℕ → History → Prop
  | first {h : History} : Stored rt t snapshot sha h → Tried sha 0 h
  | again {n : ℕ} {h : History} {response : Except Failure Response} {message : String}
      {status : ℕ} : Tried sha n h → n < 2 → outcome rt response = .error (.update message status) →
    aboutCommit rt message = true →
      Tried sha (n + 1) (h ++ [⟨.call (.railway (deployQuery t.service sha) t.railwayToken), response⟩] ++
        [⟨.sleep (2 * (n + 1)), .ok ()⟩])

/-- What an update may ask after what it was answered. -/
inductive Asks : History → Point → Prop
  | lock : Asks [] .applyLock
  | release {token : String} : Asks [locked] (.call (releaseRequest token))
  | repository {h : History} : Checked rt true h →
    Asks h (.call (repositoryRequest t.fork t.githubToken))
  | merge {h : History} : Accepted rt t h → sameName rt t.fork upstreamRepository = false →
    Asks h (.call (mergeRequest t.fork t.branch t.githubToken))
  | commit {h : History} : Merged rt t h → Asks h (.call (commitRequest t.fork t.branch t.githubToken))
  | snapshot {h : History} {sha : String} : Found rt t sha h →
    Asks h (.call (.railway (snapshotQuery t.service snapshot) t.railwayToken))
  | deploy {n : ℕ} {h : History} {sha : String} : n ≤ 2 → Tried rt t snapshot sha n h →
    Asks h (.call (.railway (deployQuery t.service sha) t.railwayToken))
  | sleep {n seconds : ℕ} {h : History} {sha : String} {response : Except Failure Response} :
    Tried rt t snapshot sha n h →
      Asks (h ++ [⟨.call (.railway (deployQuery t.service sha) t.railwayToken), response⟩])
        (.sleep seconds)

/-- How an update ends. -/
inductive Ends : History → Except Failure Applied → Prop
  | failed (h : History) (e : Failure) : Ends h (.error e)
  | alreadyCurrent {h : History} (latest : Latest) : Checked rt false h →
    Ends h (.ok (.alreadyCurrent latest))
  | started {n : ℕ} {h : History} {sha : String} {value data deployment : Json} (version : String) :
    n ≤ 2 → Tried rt t snapshot sha n h → readGraph rt value = .ok data →
      data.attrGet "serviceInstanceDeployV2" = .ok deployment →
      Ends (h ++ [answered (.railway (deployQuery t.service sha) t.railwayToken) value])
        (.ok (.started version (sliceTo 12 sha) deployment))

/-! ## The update goes through the stages -/

variable {rt t snapshot} {h : History} {s : Process} {α : Type}
  {Ask : History → Point → Prop} {Post : History → Except Failure α → Prop}

/-- The rule of requests. -/
lemma talks_call {r : Request} {Post : History → Except Failure Json → Prop} (hask : Ask h (.call r))
    (hok : ∀ value, Post (h ++ [answered r value]) (.ok value))
    (herror : ∀ response e, response >>= requestJson rt = .error e →
      Post (h ++ [⟨.call r, response⟩]) (.error e)) : Talks Ask Post (call rt r) h s := by
  refine Talks.bind (talks_wait hask fun response => ?_)
  cases response with
  | error e => exact herror (.error e) e rfl
  | ok response =>
    intro _
    refine talks_ofExcept ?_
    cases response with
    | json value => exact hok value
    | tooLarge => exact herror (.ok .tooLarge) _ rfl
    | httpError code detail => exact herror (.ok (.httpError code detail)) _ rfl
    | unreachable text => exact herror (.ok (.unreachable text)) _ rfl
    | undecodable => exact herror (.ok .undecodable) _ rfl

/-- The rule of queries. -/
lemma talks_railway {q : Query} {token : String} {Post : History → Except Failure Json → Prop}
    (hask : Ask h (.call (.railway q token)))
    (hok : ∀ value data, readGraph rt value = .ok data →
      Post (h ++ [answered (.railway q token) value]) (.ok data))
    (herror : ∀ response e, outcome rt response = .error e →
      Post (h ++ [⟨.call (.railway q token), response⟩]) (.error e)) :
    Talks Ask Post (railway rt q token) h s := by
  refine Talks.bind (talks_call hask (fun value => ?_) fun response e he => ?_)
  · intro _
    refine talks_ofExcept ?_
    cases hread : readGraph rt value with
    | ok data => exact hok value data hread
    | error e => exact herror (.ok (.json value)) e hread
  · refine herror response e ?_
    unfold outcome
    cases response with
    | error e' =>
      cases he
      rfl
    | ok response =>
      change requestJson rt response = .error e at he
      change (do readGraph rt (← requestJson rt response)) = _
      rw [he]
      rfl

/-- An update never relies on what was found before. -/
lemma talks_checkLatest (hask : ∀ token, Ask [locked] (.call (releaseRequest token)))
    {Post : History → Except Failure Latest → Prop} (herror : ∀ h e, Post h (.error e))
    (hok : ∀ available h latest, Checked rt available h → latest.available = available →
      Post h (.ok latest)) : Talks Ask Post (checkLatest rt true) [locked] s := by
  have hfetch : ∀ now s, Talks Ask Post (fetchLatest rt now) [locked] s := by
    intro now s
    unfold fetchLatest
    refine talks_look_bind (Talks.bind (talks_call (hask _) (fun release s => ?_) fun _ _ _ => herror _ _))
    refine talks_look_bind (talks_ofExcept_bind (fun _ _ => herror _ _) fun latest hread s => ?_)
    exact talks_modify_bind (talks_pure (hok latest.available _ latest (.mk hread rfl) rfl))
  unfold checkLatest
  refine talks_look_bind ?_
  split
  · exact hfetch _ _
  · exact hfetch _ _

lemma talks_mergeUpstream {Post : History → Except Failure Unit → Prop} (hh : Checked rt true h)
    (hask : ∀ h p, Asks rt t snapshot h p → Ask h p) (herror : ∀ h e, Post h (.error e))
    (hok : ∀ h, Merged rt t h → Post h (.ok ())) : Talks Ask Post (mergeUpstream rt t) h s := by
  unfold mergeUpstream
  refine Talks.bind (talks_call (hask _ _ (.repository hh)) (fun info s => ?_) fun _ _ _ => herror _ _)
  refine talks_ofExcept_bind (fun _ _ => herror _ _) fun parent hparent s => ?_
  refine talks_ofExcept_bind (fun _ _ => herror _ _) fun accepted hofficial s => ?_
  cases accepted with
  | false => exact talks_raise (herror _ _)
  | true =>
    have haccepted := Accepted.mk hh hparent hofficial
    cases hsame : sameName rt t.fork upstreamRepository with
    | true => exact talks_pure (hok _ (.same haccepted hsame))
    | false =>
      refine Talks.bind (talks_call (hask _ _ (.merge haccepted hsame)) (fun value s => ?_)
        fun _ _ _ => herror _ _)
      exact talks_pure (hok _ (.fork haccepted hsame))

lemma talks_readCommit {Post : History → Except Failure String → Prop} (hh : Merged rt t h)
    (hask : ∀ h p, Asks rt t snapshot h p → Ask h p) (herror : ∀ h e, Post h (.error e))
    (hok : ∀ h sha, Found rt t sha h → Post h (.ok sha)) : Talks Ask Post (readCommit rt t) h s := by
  unfold readCommit
  refine Talks.bind (talks_call (hask _ _ (.commit hh)) (fun commit s => ?_) fun _ _ _ => herror _ _)
  refine talks_ofExcept_bind (fun _ _ => herror _ _) fun value hvalue s => ?_
  split
  · rename_i hsha
    exact talks_pure (hok _ _ (.mk hh (lift_eq_ok hvalue) rfl hsha))
  · exact talks_raise (herror _ _)

lemma talks_keepSnapshot {sha : String} {Post : History → Except Failure Unit → Prop}
    (hh : Found rt t sha h) (hask : ∀ h p, Asks rt t snapshot h p → Ask h p)
    (herror : ∀ h e, Post h (.error e)) (hok : ∀ h, Stored rt t snapshot sha h → Post h (.ok ())) :
    Talks Ask Post (keepSnapshot rt t snapshot) h s := by
  unfold keepSnapshot
  split
  · rename_i hempty
    exact talks_pure (hok _ (.nothing hempty hh))
  · refine Talks.bind (talks_railway (hask _ _ (.snapshot hh)) (fun value data hdata s => ?_)
      fun _ _ _ => herror _ _)
    exact talks_pure (hok _ (.stored hh hdata))

/-- The attempts: what is invariant is how many have failed, and why. -/
lemma talks_deploy {sha : String} {Post : History → Except Failure Json → Prop}
    (hask : ∀ h p, Asks rt t snapshot h p → Ask h p) (herror : ∀ h e, Post h (.error e))
    (hok : ∀ n h value data, n ≤ 2 → Tried rt t snapshot sha n h → readGraph rt value = .ok data →
      Post (h ++ [answered (.railway (deployQuery t.service sha) t.railwayToken) value]) (.ok data))
    {left n : ℕ} (hleft : n + left = 3) {h : History} (hh : Tried rt t snapshot sha n h) (s : Process) :
    Talks Ask Post (deploy rt t sha n left) h s := by
  induction left generalizing n h s with
  | zero => exact talks_raise (herror _ _)
  | succ left ih =>
    have hn : n ≤ 2 := by omega
    unfold deploy
    refine Talks.tryCatch (talks_railway (hask _ _ (.deploy hn hh)) (fun value data hdata => ?_)
      fun response e he s => ?_)
    · exact hok n h value data hn hh hdata
    · cases e with
      | other e => exact talks_raise (herror _ _)
      | update message status =>
        dsimp only
        split_ifs with hagain
        · obtain ⟨hlt, habout⟩ := hagain
          refine Talks.bind (talks_wait (hask _ _ (.sleep hh)) fun r => ?_)
          cases r with
          | error e => exact herror _ _
          | ok u => exact fun s => ih (by omega) (.again hh hlt he (by simpa using habout)) s
        · exact talks_raise (herror _ _)

/-- **An update follows its stages.** -/
lemma talks_applyTo (hlock : h = [locked]) :
    Talks (Asks rt t snapshot) (Ends rt t snapshot) (applyTo rt t snapshot) h s := by
  subst hlock
  unfold applyTo
  refine Talks.bind (talks_checkLatest (fun token => .release) (fun _ _ => .failed _ _) ?_)
  intro available h latest hchecked havailable s
  cases available with
  | false =>
    rw [havailable]
    exact talks_pure (.alreadyCurrent latest hchecked)
  | true =>
    rw [havailable]
    refine Talks.bind (talks_mergeUpstream hchecked (fun _ _ => id) (fun _ _ => .failed _ _) ?_)
    intro h hmerged s
    refine Talks.bind (talks_readCommit hmerged (fun _ _ => id) (fun _ _ => .failed _ _) ?_)
    intro h sha hfound s
    refine Talks.bind (talks_keepSnapshot hfound (fun _ _ => id) (fun _ _ => .failed _ _) ?_)
    intro h hstored s
    refine Talks.bind (talks_deploy (fun _ _ => id) (fun _ _ => .failed _ _) ?_ rfl (.first hstored) s)
    intro n h value data hn htried hdata s
    refine talks_ofExcept_bind (fun _ _ => .failed _ _) fun deployment hdeployment s => ?_
    exact talks_pure (.started _ hn htried hdata (lift_eq_ok hdeployment))

/-! ## Before a deployment -/

/-- Whether a deployment is asked for. -/
def deploys : Point → Bool
  | .call (.railway query _) => query.text = deployText
  | _ => false

lemma deploys_deployQuery (service : Service) (sha token : String) :
    deploys (.call (.railway (deployQuery service sha) token)) = true := by
  simp [deploys, deployQuery]

lemma deploys_snapshotQuery (service : Service) (state token : String) :
    deploys (.call (.railway (snapshotQuery service state) token)) = false := by
  have htext : snapshotText ≠ deployText := by decide +kernel
  simp [deploys, snapshotQuery, htext]

section Ready

variable (rt t snapshot)

/-- The latest release was read, and it is newer. -/
def FoundNewer (h : History) : Prop :=
  ∃ token release setup latest, answered (releaseRequest token) release ∈ h ∧
    readRelease rt release setup = .ok latest ∧ latest.available = true

/-- The repository was found to be the official source, or a direct fork of it. -/
def FoundOfficial (h : History) : Prop :=
  ∃ info parent, answered (repositoryRequest t.fork t.githubToken) info ∈ h ∧
    parentName rt info = .ok parent ∧ official rt t.fork parent info = .ok true

/-- A fork was merged. -/
def MergedFork (h : History) : Prop :=
  sameName rt t.fork upstreamRepository = false →
    ∃ value, answered (mergeRequest t.fork t.branch t.githubToken) value ∈ h

/-- The state of the panel was stored, if there was one. -/
def StoredSnapshot (h : History) : Prop :=
  snapshot ≠ "" → ∃ value data, readGraph rt value = .ok data ∧
    answered (.railway (snapshotQuery t.service snapshot) t.railwayToken) value ∈ h

/-- What an update has found and done before it asks for the deployment of a commit. -/
structure Ready (sha : String) (before : History) : Prop where
  newer : FoundNewer rt before
  official : FoundOfficial rt t before
  /-- The commit was read after the merge, and the state was stored after that. -/
  commit : ∃ early commit value late,
    before = early ++ answered (commitRequest t.fork t.branch t.githubToken) commit :: late ∧
      commit.attrGet "sha" = .ok value ∧ value.text rt = sha ∧ isSha sha = true ∧
      MergedFork rt t early ∧ StoredSnapshot rt t snapshot late
  /-- The attempts before have failed because of the commit. -/
  failed : ∀ p response, ⟨.call p, response⟩ ∈ before → deploys (.call p) = true →
    ∃ message status, outcome rt response = .error (.update message status) ∧
      aboutCommit rt message = true

end Ready

/-- What is found stays found. -/
lemma FoundNewer.append (hh : FoundNewer rt h) (h' : History) : FoundNewer rt (h ++ h') := by
  obtain ⟨token, release, setup, latest, hmem, hread⟩ := hh
  exact ⟨token, release, setup, latest, List.mem_append_left _ hmem, hread⟩

lemma FoundOfficial.append (hh : FoundOfficial rt t h) (h' : History) :
    FoundOfficial rt t (h ++ h') := by
  obtain ⟨info, parent, hmem, hofficial⟩ := hh
  exact ⟨info, parent, List.mem_append_left _ hmem, hofficial⟩

lemma StoredSnapshot.append (hh : StoredSnapshot rt t snapshot h) (h' : History) :
    StoredSnapshot rt t snapshot (h ++ h') := by
  intro hne
  obtain ⟨value, data, hdata, hmem⟩ := hh hne
  exact ⟨value, data, hdata, List.mem_append_left _ hmem⟩

/-- What the stages up to the merge have found; no deployment was asked for. -/
lemma Accepted.found (hh : Accepted rt t h) :
    FoundNewer rt h ∧ FoundOfficial rt t h ∧ ∀ e ∈ h, deploys e.1 = false := by
  cases hh with
  | mk hchecked hparent hofficial =>
    cases hchecked with
    | @mk token release setup latest hread havailable =>
      refine ⟨⟨token, release, setup, latest, by simp, hread, havailable⟩,
        ⟨_, _, by simp, hparent, hofficial⟩, ?_⟩
      simp [locked, answered, deploys, releaseRequest, repositoryRequest]

lemma Merged.found (hh : Merged rt t h) :
    FoundNewer rt h ∧ FoundOfficial rt t h ∧ MergedFork rt t h ∧ ∀ e ∈ h, deploys e.1 = false := by
  cases hh with
  | same hh hsame =>
    obtain ⟨hnewer, hofficial, hno⟩ := hh.found
    exact ⟨hnewer, hofficial, fun hne => absurd (hsame.symm.trans hne) (by simp), hno⟩
  | @fork h value hh hsame =>
    obtain ⟨hnewer, hofficial, hno⟩ := hh.found
    refine ⟨hnewer.append _, hofficial.append _, fun _ => ⟨value, by simp⟩, ?_⟩
    intro e he
    rcases List.mem_append.mp he with he | he
    · exact hno e he
    · rw [List.mem_singleton.mp he]
      rfl

/-- Storing the state does not ask for a deployment. -/
lemma Stored.ready {sha : String} (hh : Stored rt t snapshot sha h) : Ready rt t snapshot sha h := by
  have hfound : ∀ {h}, Found rt t sha h → ∀ stored : History, (∀ e ∈ stored, deploys e.1 = false) →
      StoredSnapshot rt t snapshot stored → Ready rt t snapshot sha (h ++ stored) := by
    rintro _ (@⟨h, commit, value, hmerged, hvalue, hsha, hhex⟩) stored hno' hstored
    obtain ⟨hnewer, hofficial, hmerge, hno⟩ := hmerged.found
    refine ⟨(hnewer.append _).append _, (hofficial.append _).append _,
      ⟨h, commit, value, stored, by simp, hvalue, hsha, hhex, hmerge, hstored⟩, ?_⟩
    intro p response hp hdeploys
    have hnone : deploys (.call p) = false := by
      rcases List.mem_append.mp hp with hp | hp
      · rcases List.mem_append.mp hp with hp | hp
        · exact hno _ hp
        · rw [List.mem_singleton] at hp
          cases hp
          rfl
      · exact hno' _ hp
    exact absurd (hnone.symm.trans hdeploys) (by simp)
  cases hh with
  | nothing hempty hh =>
    have hready := hfound hh [] (by simp) fun hne => absurd hempty hne
    rwa [List.append_nil] at hready
  | @stored h value data hh hdata =>
    refine hfound hh _ ?_ fun _ => ⟨value, data, hdata, by simp⟩
    intro e he
    rw [List.mem_singleton.mp he]
    exact deploys_snapshotQuery _ _ _

/-- What was found and done stays so while attempts fail because of the commit. -/
lemma Ready.append {sha : String} (hready : Ready rt t snapshot sha h) {h' : History}
    (hfailed : ∀ p response, ⟨.call p, response⟩ ∈ h' → ∃ message status,
      outcome rt response = .error (.update message status) ∧ aboutCommit rt message = true) :
    Ready rt t snapshot sha (h ++ h') := by
  obtain ⟨early, commit, value, late, rfl, hvalue, hsha, hhex, hmerge, hstored⟩ := hready.commit
  refine ⟨hready.newer.append _, hready.official.append _,
    ⟨early, commit, value, late ++ h', ?_, hvalue, hsha, hhex, hmerge, hstored.append _⟩, ?_⟩
  · rw [List.append_assoc, List.cons_append]
  · intro p response hp hdeploys
    rcases List.mem_append.mp hp with hp | hp
    · exact hready.failed p response hp hdeploys
    · exact hfailed p response hp

/-- Every attempt starts from where all before it have failed. -/
lemma Tried.ready {sha : String} {n : ℕ} (hh : Tried rt t snapshot sha n h) :
    Ready rt t snapshot sha h := by
  induction hh with
  | first hh => exact hh.ready
  | again _ _ hfailed habout ih =>
    refine (ih.append ?_).append ?_
    · intro p response hp
      rw [List.mem_singleton] at hp
      cases hp
      exact ⟨_, _, hfailed, habout⟩
    · intro p response hp
      rw [List.mem_singleton] at hp
      cases hp

/-- The attempts before are counted. -/
lemma Tried.count {sha : String} {n : ℕ} (hh : Tried rt t snapshot sha n h) :
    h.countP (fun e => deploys e.1) = n := by
  have hnone : ∀ {l : History}, (∀ e ∈ l, deploys e.1 = false) → l.countP (fun e => deploys e.1) = 0 :=
    fun h => List.countP_eq_zero.mpr fun e he => by rw [h e he]; exact Bool.false_ne_true
  have hfound : ∀ {h}, Found rt t sha h → ∀ e ∈ h, deploys e.1 = false := by
    rintro _ ⟨hmerged, -, -, -⟩ e he
    rcases List.mem_append.mp he with he | he
    · exact hmerged.found.2.2.2 e he
    · rw [List.mem_singleton.mp he]
      rfl
  induction hh with
  | first hh =>
    cases hh with
    | nothing _ hh => exact hnone (hfound hh)
    | stored hh _ =>
      refine hnone fun e he => ?_
      rcases List.mem_append.mp he with he | he
      · exact hfound hh e he
      · rw [List.mem_singleton.mp he]
        exact deploys_snapshotQuery _ _ _
  | again _ _ _ _ ih =>
    have hlast : ∀ n r, List.countP (fun e : Exchange Point.Answer Failure => deploys e.1)
        [⟨.sleep n, r⟩] = 0 := fun _ _ => rfl
    rw [List.countP_append, List.countP_append, ih, List.countP_singleton, hlast,
      if_pos (deploys_deployQuery _ _ _)]

/-! ## Whole updates -/

section Runs

variable {visited : List (Prog Applied × Process)} {y : Prog Applied × Process}

/-- An update that has found what to work on goes through its stages. -/
lemma talks_applyLatest (ht : readTarget rt s.environ = .ok t) :
    Talks (Asks rt t snapshot) (Ends rt t snapshot) (applyLatest rt snapshot) [] s := by
  unfold applyLatest
  refine talks_look_bind (talks_ofExcept_bind (fun _ _ => .failed _ _) fun t' ht' s => ?_)
  obtain rfl := Except.ok.inj (ht.symm.trans ht')
  refine Talks.bind (talks_wait Asks.lock fun r => ?_)
  cases r with
  | error e => exact .failed _ _
  | ok u => exact fun s => talks_applyTo rfl

/-- A deployment is asked for in the last stage. -/
lemma Asks.deployed {p : Point} (hasks : Asks rt t snapshot h p) (hp : deploys p = true) :
    ∃ n sha, n ≤ 2 ∧ Tried rt t snapshot sha n h ∧
      p = .call (.railway (deployQuery t.service sha) t.railwayToken) := by
  cases hasks with
  | lock => cases hp
  | release => cases hp
  | repository => cases hp
  | merge => cases hp
  | commit => cases hp
  | sleep => cases hp
  | snapshot => exact absurd ((deploys_snapshotQuery _ _ _).symm.trans hp) (by simp)
  | deploy hn htried => exact ⟨_, _, hn, htried, rfl⟩

/-- **Deployments are prepared.**  Whenever an update asks for a deployment, it has read that a newer
version is there and that the repository may be followed, has merged the source, has read the commit
after that and has stored the state of the panel after that; the attempts before, two at most, have
failed because of the commit. -/
theorem deployment_ready (ht : readTarget rt s.environ = .ok t)
    (hrun : conversation.Run ((applyLatest rt snapshot).advance s) visited h y)
    {before after : History} {e : Exchange Point.Answer Failure} (hh : h = before ++ e :: after)
    (he : deploys e.1 = true) :
    ∃ sha, e.1 = .call (.railway (deployQuery t.service sha) t.railwayToken) ∧
      Ready rt t snapshot sha before ∧ before.countP (fun e => deploys e.1) ≤ 2 := by
  have hasks := ((talks_applyLatest ht).run hrun).past before e after hh
  obtain ⟨n, sha, hn, htried, heq⟩ := hasks.deployed he
  refine ⟨sha, heq, htried.ready, ?_⟩
  rw [htried.count]
  exact hn

variable (rt t snapshot h) in
/-- What an update reports is what happened.  When it says that the panel is up to date, it has asked
for two things only, the lock and the latest release, which is not newer.  When it says that it has
started a deployment, it has asked for it in the end, for a commit that was ready, and Railway has
accepted that. -/
def Truthful : Applied → Prop
  | .alreadyCurrent _ => Checked rt false h
  | .started _ commit deployment => ∃ before sha value data, commit = sliceTo 12 sha ∧
      h = before ++ [answered (.railway (deployQuery t.service sha) t.railwayToken) value] ∧
      Ready rt t snapshot sha before ∧ readGraph rt value = .ok data ∧
      data.attrGet "serviceInstanceDeployV2" = .ok deployment

/-- **Updates are truthful.** -/
theorem applied_truthful (ht : readTarget rt s.environ = .ok t)
    (hrun : conversation.Run ((applyLatest rt snapshot).advance s) visited h y) {r : Applied}
    (hend : y.1.outcome = some (.ok r)) : Truthful rt t snapshot h r := by
  have hends := ((talks_applyLatest ht).run hrun).ended (.ok r) hend
  cases hends with
  | alreadyCurrent latest hchecked => exact hchecked
  | started version hn htried hdata hdeployment =>
    exact ⟨_, _, _, _, rfl, rfl, htried.ready, hdata, hdeployment⟩

end Runs

/-! ## An update of a fork -/

/-- A process with all credentials. -/
def exampleProcess : Process where
  environ := .ofList [("LUMEN_GITHUB_TOKEN", "github"), ("LUMEN_RAILWAY_TOKEN", "railway"),
    ("LUMEN_FORK_REPO", "me/relay"), ("RAILWAY_PROJECT_ID", "p"), ("RAILWAY_SERVICE_ID", "s"),
    ("RAILWAY_ENVIRONMENT_ID", "e")]
  cache := none
  clock := 0

/-- What is updated. -/
def exampleTarget : Target := ⟨"github", "railway", "me/relay", "main", ⟨"p", "s", "e"⟩⟩

/-- A commit. -/
def exampleSha : String := "0123456789abcdef0123456789abcdef01234567"

/-- The fork is merged, and the state of the panel is stored. -/
def exampleHistory : History :=
  [locked,
    answered (releaseRequest "github") (.obj [("tag_name", .str "v29.1")]),
    answered (repositoryRequest "me/relay" "github") (.obj [("fork", .bool true),
      ("parent", .obj [("full_name", .str upstreamRepository)])]),
    answered (mergeRequest "me/relay" "main" "github") (.obj []),
    answered (commitRequest "me/relay" "main" "github") (.obj [("sha", .str exampleSha)]),
    answered (.railway (snapshotQuery ⟨"p", "s", "e"⟩ "state") "railway") (.obj [])]

/-- Railway accepts the deployment. -/
def exampleDeployment : Exchange Point.Answer Failure :=
  answered (.railway (deployQuery ⟨"p", "s", "e"⟩ exampleSha) "railway")
    (.obj [("data", .obj [("serviceInstanceDeployV2", .str "d")])])

/-- The update says that it has started a deployment. -/
def hasStarted (x : Prog Applied) : Bool :=
  match x.outcome with
  | some (.ok (.started _ _ _)) => true
  | _ => false

lemma exampleTarget_read : readTarget .ascii exampleProcess.environ = .ok exampleTarget := by
  decide +kernel

/-- The update of the example. -/
lemma exampleRun : ∃ visited y, conversation.Run ((applyLatest .ascii "state").advance exampleProcess)
    visited (exampleHistory ++ [exampleDeployment]) y ∧ hasStarted y.1 = true :=
  exists_run_answers (fun y => hasStarted y.1) (by decide +kernel)

theorem exampleDeployment_ready : ∃ sha,
    exampleDeployment.1 = .call (.railway (deployQuery exampleTarget.service sha) "railway") ∧
      Ready .ascii exampleTarget "state" sha exampleHistory ∧
      exampleHistory.countP (fun e => deploys e.1) ≤ 2 := by
  obtain ⟨visited, y, hrun, -⟩ := exampleRun
  exact deployment_ready exampleTarget_read hrun rfl (by decide +kernel)

theorem exampleDeployment_truthful : ∃ version commit deployment,
    Truthful .ascii exampleTarget "state" (exampleHistory ++ [exampleDeployment])
      (.started version commit deployment) := by
  obtain ⟨visited, y, hrun, hstarted⟩ := exampleRun
  unfold hasStarted at hstarted
  split at hstarted
  · rename_i version commit deployment hend
    exact ⟨version, commit, deployment, applied_truthful exampleTarget_read hrun hend⟩
  · cases hstarted

end Updater
