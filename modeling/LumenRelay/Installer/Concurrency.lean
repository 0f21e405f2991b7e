import LumenRelay.Installer.Handler

/-!
# Installations that run at the same time

The handlers of all requests and the installations in the background run in turn.  An installation
runs from the change that counts it to the one that stops counting it: in the background as long as
its entry is running, and for a response as long as its handler waits inside `handleInstall`.
-/

namespace Installer

open Lib Lib.Coroutine Py

/-! ## Installations in the background -/

/-- What happens besides the handlers. -/
inductive Event
  | tick (ms : ℕ)
  | network (network : Network)
  /-- An installation reports its progress; `publicProgress` has made fields of it. -/
  | progress (i : ℕ) (fields : Obj)
  /-- An installation ends, and the handlers of its promise run; `requestId` is the secret that is
  drawn for an error. -/
  | finish (i : ℕ) (outcome : Except Failure Json) (requestId : String)

/-- Fields with new values. -/
def setFields (fields updates : Obj) : Obj :=
  updates.foldl (fun fields e => Assoc.set fields e.1 e.2) fields

/-- The texts of a failure that are shown. -/
def Failure.titles : Failure → String × String
  | install e => (e.messageFa, e.messageEn)
  | other => ("نصاب با یک خطای داخلی روبه‌رو شد.", "The installer encountered an internal error.")

/-- What the end of an installation writes into its entry. -/
def finishJob (node : Node) (now : ℕ) (job : Job) (requestId : String) : Except Failure Json → Job
  | .ok result => { job with
      state := .completed, updatedAtMs := now
      fields := setFields job.fields [("phase", .str "completed"), ("step", .int 9),
        ("titleFa", .str "Deployment با موفقیت انجام شد"),
        ("titleEn", .str "Deployment completed successfully"), ("result", result),
        ("updatedAt", .str (node.isoDate now))] }
  | .error e => { job with
      state := .failed, updatedAtMs := now
      fields := setFields job.fields [("phase", .str "failed"), ("titleFa", .str e.titles.1),
        ("titleEn", .str e.titles.2), ("error", installErrorDetail requestId e),
        ("updatedAt", .str (node.isoDate now))] }

/-- What the event does. -/
def background (node : Node) (s : Server) : Event → Option Server
  | .tick ms => some { s with now := s.now + ms }
  | .network network => some { s with network := network }
  | .progress i fields =>
    match s.installJobs[i]? with
    | some job =>
      if job.state ≠ .running then some s
      else
        let job := { job with
          updatedAtMs := s.now
          fields := setFields job.fields (fields ++ [("updatedAt", .str (node.isoDate s.now))]) }
        some { s with installJobs := s.installJobs.set i job }
    | none => some s
  | .finish i outcome requestId =>
    match s.installJobs[i]? with
    | some job =>
      if job.state ≠ .running then none
      else some { s with
        installJobs := s.installJobs.set i (finishJob node s.now job requestId outcome)
        activeInstalls := max 0 (s.activeInstalls - 1) }
    | none => none

/-! ## The installer -/

/-- All handlers, and the server that they share. -/
abbrev Installation : Type := Pool Server (List Reply) Request Point.Result Failure

/-- What happens in the installer. -/
abbrev Act : Type := Pool.Act Request Event Point.Result Failure

/-- The installer. -/
def installer (node : Node) : Machine Installation Act Empty :=
  Pool.machine (nodeHandler node) [] (background node)

/-- The installer before the first request. -/
def idle (network : Network) (now : ℕ) : Installation := ⟨⟨0, [], network, now⟩, []⟩

/-- An entry of an installation that runs. -/
def Job.isRunning (job : Job) : Bool := job.state = .running

/-- A handler waits inside `handleInstall`. -/
def installs : Option Point → Bool
  | some (.text true) => true
  | some .install => true
  | _ => false

/-- How many installations run. -/
def running (s : Installation) : ℕ :=
  s.shared.installJobs.countP Job.isRunning + s.tasks.countP fun t => installs t.code.point

/-- A request of `POST /api/install` or `POST /api/install/start`. -/
def Request.forInstall (req : Request) : Bool :=
  req.method = "POST" && req.url.any fun url =>
    url.pathname = "/api/install/start" || url.pathname = "/api/install"

/-- The handler of a request that was let through waits for what comes before its installation, or it
waits inside `handleInstall`. -/
def letThrough : Option Point → Bool
  | some (.body _) => true
  | some (.text _) => true
  | some .install => true
  | _ => false

/-- How many installations run or may be started by requests that were let through. -/
def admitted (s : Installation) : ℕ :=
  s.shared.installJobs.countP Job.isRunning + s.tasks.countP fun t => letThrough t.code.point

/-- When a request passes the check of the counter, less than four installations run or may be started
by requests that passed it before. -/
def hasRoom (s : Installation) : Act → Bool
  | .start req => !(req.forInstall && s.shared.activeInstalls < 4) || admitted s < 4
  | _ => true

/-! ## The pieces of a handler -/

/-- How much more is counted than runs in the background. -/
def excess (s : Server) : ℤ := s.activeInstalls - s.installJobs.countP Job.isRunning

/-- An installation for which a handler waits. -/
def weight (p : Point) : ℤ := if installs (some p) then 1 else 0

/-- A request that was let through. -/
def place (p : Point) : ℤ := if letThrough (some p) then 1 else 0

/-- A handler begins, and its request passes the check of the counter. -/
def passes (req : Request) (o : Origin Point.Result Failure) (s : Server) : Bool :=
  o.isNone && req.forInstall && s.activeInstalls < 4

/-- What a piece of a handler does to the counter and to the installations: it keeps the balance, and
it takes the place of a request that was let through, or of one that passes the check. -/
structure Piece (req : Request) (o : Origin Point.Result Failure) (s₀ s : Server × List Reply)
    (p : Option Point) : Prop where
  balance : excess s.1 - Pool.weightOf weight p =
    excess s₀.1 - Pool.weightOf weight (o.map Sigma.fst)
  room : s.1.installJobs.countP Job.isRunning + Pool.weightOf place p ≤
    s₀.1.installJobs.countP Job.isRunning + Pool.weightOf place (o.map Sigma.fst) +
      if passes req o s₀.1 then 1 else 0

section Pieces

variable {node : Node} {req : Request} {url : Url} {α : Type} {o : Origin Point.Result Failure}
  {s₀ s : Server × List Reply}

/-- A coroutine that neither waits nor changes the server. -/
def Quiet (x : Handler α) : Prop :=
  ∀ (G : Origin Point.Result Failure → Server × List Reply → Server × List Reply → Option Point → Prop)
    (Post : Except Failure α → Origin Point.Result Failure → Server × List Reply →
      Server × List Reply → Prop) o s₀ s,
    (∀ r sent, Post r o s₀ (s.1, sent)) → Obeys G Post x o s₀ s

lemma quiet_send (reply : Reply) : Quiet (send reply) := by
  intro G Post o s₀ s h
  unfold send
  refine Obeys.bind ?_
  change Obeys G Post (if s.2 ≠ [] then raise Failure.other else _) o s₀ s
  split
  · exact h (.error .other) s.2
  · exact h (.ok ()) _

lemma quiet_sendJson (status : ℕ) (value : Json) (headers : List (String × String)) :
    Quiet (sendJson node status value headers) := quiet_send _

lemma Quiet.answered {x : Handler Unit} (h : Quiet x) : Quiet (answered x) := by
  intro G Post o s₀ s hpost
  refine Obeys.bind (h G _ o s₀ s fun r sent => ?_)
  cases r with
  | ok _ => exact hpost (.ok (pure ())) sent
  | error e => exact hpost (.error e) sent

lemma quiet_server_bind {f : Server → Handler α} (h : ∀ s, Quiet (f s)) : Quiet (server >>= f) :=
  fun G Post o s₀ s hpost => h s.1 G Post o s₀ s hpost

/-- A handler is at rest: nothing is counted for it, and it has no place any more. -/
def AtRest (req : Request) (o : Origin Point.Result Failure) (s₀ s : Server × List Reply) : Prop :=
  Piece req o s₀ s none

lemma AtRest.sent (h : AtRest req o s₀ s) (sent : List Reply) :
    AtRest req o s₀ (s.1, sent) := ⟨h.balance, h.room⟩

lemma place_nonneg (p : Option Point) : 0 ≤ Pool.weightOf place p := by
  cases p with
  | none => exact le_rfl
  | some p =>
    change 0 ≤ place p
    unfold place
    split <;> omega

/-- A piece that leaves the counter and the entries as they are, and waits at a point that has as much
of a place as where it came from. -/
lemma piece_refl {p : Option Point}
    (hweight : Pool.weightOf weight p = Pool.weightOf weight (o.map Sigma.fst))
    (hplace : Pool.weightOf place p ≤ Pool.weightOf place (o.map Sigma.fst)) : Piece req o s s p := by
  refine ⟨by rw [hweight], ?_⟩
  split <;> omega

/-- A piece of a handler that has not been counted, and lets the running entries be as many as they
were. -/
lemma atRest_of_count (ho : Pool.weightOf weight (o.map Sigma.fst) = 0)
    (hexcess : excess s.1 = excess s₀.1)
    (hcount : s.1.installJobs.countP Job.isRunning = s₀.1.installJobs.countP Job.isRunning) :
    AtRest req o s₀ s := by
  have hnonneg := place_nonneg (o.map Sigma.fst)
  have hnone : Pool.weightOf place none = 0 := rfl
  refine ⟨by rw [ho, hexcess]; rfl, ?_⟩
  rw [hcount, hnone]
  split <;> omega

lemma atRest_refl (ho : Pool.weightOf weight (o.map Sigma.fst) = 0) : AtRest req o s s :=
  atRest_of_count ho rfl rfl

/-- A request that passes the check has a place from there on. -/
lemma piece_passes (hfor : req.forInstall = true) (hcheck : ¬ 4 ≤ s.1.activeInstalls) (direct : Bool) :
    Piece req none s s (some (.body direct)) := by
  have hpasses : passes req none s.1 = true := by
    simp only [passes, hfor, Option.isNone_none, Bool.and_self, Bool.true_and, decide_eq_true_eq]
    omega
  refine ⟨rfl, ?_⟩
  rw [hpasses]
  exact le_rfl

lemma running_cleanInstallJobs (s : Server) : (cleanInstallJobs s).installJobs.countP Job.isRunning =
    s.installJobs.countP Job.isRunning := by
  unfold cleanInstallJobs
  rw [List.countP_filter]
  refine List.countP_congr fun job _ => ?_
  simp only [Job.isRunning, Bool.and_eq_true, decide_eq_true_eq]
  constructor
  · exact And.left
  · intro h
    exact ⟨h, by simp [h]⟩

lemma excess_cleanInstallJobs (s : Server) : excess (cleanInstallJobs s) = excess s := by
  unfold excess
  rw [running_cleanInstallJobs]
  rfl

/-- One entry more runs. -/
lemma running_startInstallJob (installId : String) (s : Server) :
    (startInstallJob node installId s).installJobs.countP Job.isRunning =
      s.installJobs.countP Job.isRunning + 1 := by
  have hclean := running_cleanInstallJobs s
  unfold startInstallJob
  simp only [List.countP_append, List.countP_singleton, Job.isRunning, decide_true, if_true] at hclean ⊢
  omega

lemma excess_startInstallJob (installId : String) (s : Server) :
    excess (startInstallJob node installId s) = excess s := by
  have hactive : (startInstallJob node installId s).activeInstalls = s.activeInstalls + 1 := rfl
  unfold excess
  rw [running_startInstallJob, hactive]
  push_cast
  omega

/-- The promises that are returned: nothing is left, or a response is sent. -/
def Returned (promise : Handler Unit) : Prop := promise = pure () ∨ ∃ r, promise = sendWebResponse r

/-- What is left of a promise is not counted. -/
lemma Returned.follows {promise : Handler Unit} (h : Returned promise)
    (hrest : AtRest req o s₀ s) : Follows (Piece req) promise o s₀ s := by
  rcases h with rfl | ⟨r, rfl⟩
  · exact hrest
  · cases r with
    | plain result => exact hrest
    | web reply =>
      refine Obeys.bind (obeys_wait ⟨hrest.balance, hrest.room⟩ fun r s' => ?_)
      have hstart : AtRest req (some ⟨.arrayBuffer, r⟩) s' s' := atRest_refl rfl
      cases r with
      | error e => exact hstart
      | ok _ => exact quiet_send reply _ _ _ _ _ fun _ sent => hstart.sent sent

/-- A block ends well: it is not counted, and it returns a promise if it returns. -/
def Ends (req : Request) (r : Except Failure (Handler Unit))
    (o : Origin Point.Result Failure) (s₀ s : Server × List Reply) : Prop :=
  AtRest req o s₀ s ∧ ∀ promise, r = .ok promise → Returned promise

lemma obeys_answered {x : Handler Unit}
    (h : Obeys (Piece req) (fun _ o s₀ s => AtRest req o s₀ s) x o s₀ s) :
    Obeys (Piece req) (Ends req) (answered x) o s₀ s := by
  refine Obeys.bind (h.mono fun r o s₀ s h => ?_)
  cases r with
  | ok _ =>
    refine ⟨h, fun promise hpromise => .inl ?_⟩
    cases hpromise
    rfl
  | error e => exact ⟨h, nofun⟩

/-- A quiet answer leaves a handler at rest. -/
lemma Quiet.atRest {x : Handler Unit} (h : Quiet x) (hrest : AtRest req o s₀ s) :
    Obeys (Piece req) (fun _ o s₀ s => AtRest req o s₀ s) x o s₀ s :=
  h _ _ _ _ _ fun _ sent => hrest.sent sent

/-- An installation for which a handler waited is counted no more. -/
def uncount (s : Server × List Reply) : Server × List Reply :=
  ({ s.1 with activeInstalls := s.1.activeInstalls - 1 }, s.2)

lemma atRest_uncount (ho : Pool.weightOf weight (o.map Sigma.fst) = 1) :
    AtRest req o s (uncount s) := by
  refine ⟨?_, ?_⟩
  · rw [ho]
    simp only [excess, uncount, Pool.weightOf, Option.map_none, Option.getD_none]
    omega
  · have hnonneg := place_nonneg (o.map Sigma.fst)
    have hnone : Pool.weightOf place none = 0 := rfl
    simp only [uncount, hnone]
    split <;> omega

/-- The body of a request is awaited. -/
lemma obeys_readNodeBody {direct : Bool}
    {Post : Except Failure (List UInt8) → Origin Point.Result Failure → Server × List Reply →
      Server × List Reply → Prop} (hwait : Piece req o s₀ s (some (.body direct)))
    (hpost : ∀ r s', Post (r >>= readParts 0 []) (some ⟨.body direct, r⟩) s' s') :
    Obeys (Piece req) Post (readNodeBody direct) o s₀ s := by
  refine Obeys.bind (obeys_wait hwait fun r s' => ?_)
  cases r with
  | error e => exact hpost (.error e) s'
  | ok parts => exact obeys_ofExcept (hpost (.ok parts) s')

/-- The text of a request is awaited when its headers are accepted. -/
lemma obeys_parseInstallRequest {direct : Bool}
    {Post : Except Failure Json → Origin Point.Result Failure → Server × List Reply →
      Server × List Reply → Prop}
    (hheaders : ∀ e, checkHeaders req url = .error e → Post (.error e) o s₀ s)
    (hwait : checkHeaders req url = .ok () → Piece req o s₀ s (some (.text direct)))
    (hpost : ∀ r s', Post (r >>= readPayload node) (some ⟨.text direct, r⟩) s' s') :
    Obeys (Piece req) Post (parseInstallRequest node req url direct) o s₀ s := by
  refine obeys_ofExcept_bind hheaders fun _ hcheck => ?_
  refine Obeys.bind (obeys_wait (hwait hcheck) fun r s' => ?_)
  cases r with
  | error e => exact hpost (.error e) s'
  | ok raw => exact obeys_ofExcept (hpost (.ok raw) s')

lemma obeys_installStart (hfor : req.forInstall = true) :
    Obeys (Piece req) (fun _ o s₀ s => AtRest req o s₀ s) (installStart node req url) none s s := by
  unfold installStart
  refine Obeys.bind ?_
  change Obeys _ _ (if 4 ≤ s.1.activeInstalls then _ else _) none s s
  split
  · exact (quiet_sendJson _ _ _).atRest (atRest_refl rfl)
  · rename_i hcheck
    refine Obeys.bind (obeys_readNodeBody (piece_passes hfor hcheck false) fun r s' => ?_)
    have hbody : AtRest req (some ⟨.body false, r⟩) s' s' := atRest_refl rfl
    cases r >>= readParts 0 [] with
    | error e => exact hbody
    | ok body =>
      dsimp only
      split
      · exact hbody
      · refine Obeys.bind (obeys_parseInstallRequest (fun _ _ => hbody)
          (fun _ => piece_refl rfl le_rfl) fun r s' => ?_)
        have htext : AtRest req (some ⟨.text false, r⟩) s' s' := atRest_refl rfl
        cases r >>= readPayload node with
        | error e => exact htext
        | ok payload =>
          refine obeys_ofExcept_bind (fun _ _ => htext) fun _ _ => ?_
          -- the installation takes the place of its request, and is counted with its entry
          refine (quiet_sendJson _ _ _).atRest ⟨?_, ?_⟩
          · exact congrArg (· - 0) (excess_startInstallJob req.installId s'.1)
          · change ((startInstallJob node req.installId s'.1).installJobs.countP Job.isRunning : ℤ) + 0 ≤
              s'.1.installJobs.countP Job.isRunning + 1 + 0
            rw [running_startInstallJob]
            push_cast
            omega

lemma obeys_install (hfor : req.forInstall = true) :
    Obeys (Piece req) (Ends req) (install node req url) none s s := by
  unfold install
  refine Obeys.bind ?_
  change Obeys _ _ (if 4 ≤ s.1.activeInstalls then _ else _) none s s
  split
  · exact obeys_answered ((quiet_sendJson _ _ _).atRest (atRest_refl rfl))
  · rename_i hcheck
    refine Obeys.bind (obeys_readNodeBody (piece_passes hfor hcheck true) fun r s' => ?_)
    have hbody : AtRest req (some ⟨.body true, r⟩) s' s' := atRest_refl rfl
    cases r >>= readParts 0 [] with
    | error e => exact ⟨hbody, nofun⟩
    | ok body =>
      dsimp only
      split
      · exact ⟨hbody, nofun⟩
      · refine Obeys.andFinally_modify ?_
        refine Obeys.bind (Obeys.bind (obeys_parseInstallRequest (fun e _ => ?_) (fun _ => ?_)
          fun r s' => ?_))
        · -- the request is refused before anything is awaited
          refine ⟨atRest_of_count rfl ?_ rfl, nofun⟩
          simp only [excess]
          omega
        · -- the installation is counted, and its handler waits
          refine ⟨?_, le_rfl⟩
          have htext : Pool.weightOf weight (some (.text true)) = 1 := rfl
          have hbody : Pool.weightOf weight (some (.body true)) = 0 := rfl
          simp only [excess, htext, Option.map_some, hbody]
          omega
        · have htext : AtRest req (some ⟨.text true, r⟩) s' (uncount s') := atRest_uncount rfl
          cases r >>= readPayload node with
          | error e => exact ⟨htext, nofun⟩
          | ok payload =>
            refine obeys_ofExcept_bind (fun _ _ => ⟨htext, nofun⟩) fun _ _ => ?_
            refine obeys_wait (piece_refl rfl le_rfl) fun r s' => ?_
            have hinstall : AtRest req (some ⟨.install, r⟩) s' (uncount s') := atRest_uncount rfl
            cases r with
            | error e => exact ⟨hinstall, nofun⟩
            | ok result =>
              refine ⟨hinstall, fun promise hpromise => .inr ⟨.plain result, ?_⟩⟩
              cases hpromise
              rfl

lemma obeys_route : Obeys (Piece req) (Ends req) (route node req) none s s := by
  have hrest : AtRest req none s s := atRest_refl rfl
  unfold route
  cases hurl : req.url with
  | none => exact ⟨hrest, nofun⟩
  | some url =>
    dsimp only
    split_ifs with hhealth hnetwork hrefresh hpage hstatus hstart hinstall
    · exact obeys_answered ((quiet_server_bind fun _ => quiet_sendJson _ _ _).atRest hrest)
    · exact obeys_answered ((quiet_server_bind fun _ => quiet_sendJson _ _ _).atRest hrest)
    · refine obeys_answered (Obeys.bind (obeys_wait (piece_refl rfl le_rfl) fun r s' => ?_))
      have hready : AtRest req (some ⟨.refresh, r⟩) s' s' := atRest_refl rfl
      cases r with
      | error e => exact hready
      | ok ready => exact (quiet_server_bind fun _ => quiet_sendJson _ _ _).atRest hready
    · refine ⟨hrest, fun promise hpromise => .inr ⟨htmlResponse node req.nonce, ?_⟩⟩
      cases hpromise
      rfl
    · refine obeys_answered ?_
      have hclean : AtRest req none s (cleanInstallJobs s.1, s.2) :=
        atRest_of_count rfl (excess_cleanInstallJobs s.1) (running_cleanInstallJobs s.1)
      unfold installStatus
      change Obeys (Piece req) _ (server >>= _) none s (cleanInstallJobs s.1, s.2)
      refine (quiet_server_bind fun s => ?_).atRest hclean
      split
      · exact quiet_sendJson _ _ _
      · exact quiet_sendJson _ _ _
    · refine obeys_answered (obeys_installStart ?_)
      simp [Request.forInstall, hurl, hstart]
    · refine obeys_install ?_
      simp [Request.forInstall, hurl, hinstall]
    · exact obeys_answered ((quiet_sendJson _ _ _).atRest hrest)

/-- All pieces of a handler keep the balance. -/
lemma nodeHandler_follows (s : Server × List Reply) :
    Follows (Piece req) (nodeHandler node req) none s s := by
  refine Obeys.bind (Obeys.tryCatch (obeys_route.mono fun r o s₀ s h => ?_))
  cases r with
  | ok promise => exact (h.2 promise rfl).follows h.1
  | error e =>
    refine (obeys_answered ((quiet_sendJson _ _ _).atRest h.1)).mono fun r o s₀ s h => ?_
    cases r with
    | ok promise => exact (h.2 promise rfl).follows h.1
    | error e => exact h.1

end Pieces

/-! ## The limit -/

section Limit

variable {node : Node} {s s' : Server} {network : Network} {now : ℕ}

lemma running_finishJob (node : Node) (now : ℕ) (job : Job) (requestId : String)
    (outcome : Except Failure Json) : (finishJob node now job requestId outcome).isRunning = false := by
  cases outcome <;> rfl

lemma countP_set {α : Type*} {p : α → Bool} {l : List α} {i : ℕ} {a : α} (h : l[i]? = some a) (b : α) :
    (l.set i b).countP p + (if p a then 1 else 0) = l.countP p + if p b then 1 else 0 := by
  obtain ⟨hi, rfl⟩ := List.getElem?_eq_some_iff.mp h
  have hcounted := List.boole_getElem_le_countP (p := p) hi
  rw [List.countP_set hi]
  omega

/-- What happens in the background keeps the balance, and starts no installation. -/
lemma background_balance {event : Event} (h : background node s event = some s')
    (hexcess : 0 ≤ excess s) : excess s' = excess s ∧
      s'.installJobs.countP Job.isRunning ≤ s.installJobs.countP Job.isRunning := by
  cases event with
  | tick ms =>
    cases h
    exact ⟨rfl, le_rfl⟩
  | network network =>
    cases h
    exact ⟨rfl, le_rfl⟩
  | progress i fields =>
    simp only [background] at h
    split at h
    · rename_i job hjob
      split at h
      · cases h
        exact ⟨rfl, le_rfl⟩
      · cases h
        have hcount := countP_set (p := Job.isRunning) hjob { job with
          updatedAtMs := s.now
          fields := setFields job.fields (fields ++ [("updatedAt", .str (node.isoDate s.now))]) }
        have hsame : Job.isRunning { job with
          updatedAtMs := s.now
          fields := setFields job.fields (fields ++ [("updatedAt", .str (node.isoDate s.now))]) } =
            job.isRunning := rfl
        rw [hsame, Nat.add_right_cancel_iff] at hcount
        refine ⟨?_, hcount.le⟩
        unfold excess
        rw [hcount]
    · cases h
      exact ⟨rfl, le_rfl⟩
  | finish i outcome requestId =>
    simp only [background] at h
    split at h
    · rename_i job hjob
      split at h
      · cases h
      · rename_i hrunning
        cases h
        have hjobRuns : job.isRunning = true := decide_eq_true (not_not.mp hrunning)
        have hcount := countP_set (p := Job.isRunning) hjob (finishJob node s.now job requestId outcome)
        rw [running_finishJob, hjobRuns] at hcount
        simp only [if_true, Bool.false_eq_true, if_false, Nat.add_zero] at hcount
        -- the installation that ends is counted
        have hpos : 1 ≤ s.activeInstalls := by
          unfold excess at hexcess
          omega
        unfold excess
        dsimp only
        rw [max_eq_right (by omega)]
        exact ⟨by omega, by omega⟩
    · cases h

/-- The balance of the installer. -/
abbrev InBalance (s : Installation) : Prop := s.Balanced weight excess Piece

lemma inBalance_idle : InBalance (idle network now) := ⟨rfl, nofun⟩

lemma inBalance_step {s s' : Installation} {act : Act} {es : List Empty} (h : InBalance s)
    (hstep : (installer node).step s act = some (s', es)) : InBalance s' := by
  have hweight : ∀ p, 0 ≤ weight p := by
    intro p
    unfold weight
    split <;> omega
  exact h.step hweight (fun _ _ _ _ _ hpiece => hpiece.balance)
    (fun _ _ => nodeHandler_follows _)
    (fun _ _ _ hevent hexcess => (background_balance hevent hexcess).1) hstep

/-- The counter is the number of installations that run. -/
lemma InBalance.counted {s : Installation} (h : InBalance s) :
    s.shared.activeInstalls = running s := by
  have htotal : s.total weight = _ := Pool.total_indicator (f := installs) rfl s
  have hexcess := h.excess_eq
  rw [htotal] at hexcess
  unfold excess at hexcess
  unfold running
  push_cast
  omega

lemma admitted_eq (s : Installation) :
    (admitted s : ℤ) = s.shared.installJobs.countP Job.isRunning + s.total place := by
  have htotal : s.total place = _ := Pool.total_indicator (f := letThrough) rfl s
  rw [htotal, admitted]
  push_cast
  rfl

/-- An installation that runs has a place. -/
lemma running_le_admitted (s : Installation) : running s ≤ admitted s := by
  refine Nat.add_le_add_left (List.countP_mono_left fun t _ hinstalls => ?_) _
  cases hp : t.code.point with
  | none => simp [hp, installs] at hinstalls
  | some p => cases p <;> simp_all [installs, letThrough]

/-- A step takes a place only for a request that passes the check. -/
lemma admitted_step {s s' : Installation} {act : Act} {es : List Empty} (h : InBalance s)
    (hroom : hasRoom s act = true) (hfour : admitted s ≤ 4)
    (hstep : (installer node).step s act = some (s', es)) : admitted s' ≤ 4 := by
  have hbefore := admitted_eq s
  have hafter := admitted_eq s'
  obtain ⟨-, hmoves⟩ := h.rested.step (fun _ _ => nodeHandler_follows _) hstep
  cases hmoves with
  | @started req own rest hpiece htotal =>
    have hplace := hpiece.room
    have hnew := htotal place
    have hnone : Pool.weightOf place (Option.map Sigma.fst (none : Origin Point.Result Failure)) = 0 :=
      rfl
    dsimp only at hplace
    rw [hnone] at hplace
    cases hpasses : passes req none s.shared with
    | false =>
      rw [hpasses] at hplace
      simp only [Bool.false_eq_true, if_false] at hplace
      omega
    | true =>
      -- the request passes the check, so there was room for it
      have hless : admitted s < 4 := by
        simp only [passes, Option.isNone_none, Bool.true_and] at hpasses
        simpa [hasRoom, hpasses] using hroom
      rw [hpasses, if_pos rfl] at hplace
      omega
  | @resumed i req p r own own' rest hpiece htotal =>
    have hplace := hpiece.room
    have hnew := htotal place
    have hpasses : passes req (some ⟨p, r⟩) s.shared = false := rfl
    have hpoint : Option.map Sigma.fst (some ⟨p, r⟩ : Origin Point.Result Failure) = some p := rfl
    dsimp only at hplace
    rw [hpasses, hpoint] at hplace
    simp only [Bool.false_eq_true, if_false] at hplace
    omega
  | other hevent htasks =>
    have hnonneg : 0 ≤ excess s.shared := by
      have hcounted := h.counted
      unfold excess
      unfold running at hcounted
      omega
    have hjobs := (background_balance hevent hnonneg).2
    have htotal : s'.total place = s.total place := by
      unfold Pool.total
      rw [htasks]
    omega

/-- In every run of the installer the counter is the number of installations that run.  Four of them
run at most in every run in which each request that passes the check finds less than four
installations that run or may still be started. -/
theorem installs_are_limited {visited : List Installation} {events : List Empty} {s : Installation} :
    ((installer node).Run (idle network now) visited events s → s.shared.activeInstalls = running s) ∧
    (((installer node).restrict fun s act => hasRoom s act).Run (idle network now) visited
      events s → s.shared.activeInstalls = running s ∧ running s ≤ 4) := by
  have hbalance : ∀ {visited : List Installation} {events s},
      (installer node).Run (idle network now) visited events s → InBalance s := fun h =>
    h.invariant inBalance_idle fun _ _ _ _ hs hstep => inBalance_step hs hstep
  refine ⟨fun h => (hbalance h).counted, fun h => ?_⟩
  have hlimit : InBalance s ∧ admitted s ≤ 4 := by
    refine h.invariant (I := fun s => InBalance s ∧ admitted s ≤ 4)
      ⟨inBalance_idle, show 0 ≤ 4 by decide⟩ ?_
    rintro s act s' es ⟨hs, hfour⟩ hstep
    obtain ⟨hroom, hstep⟩ := Machine.restrict_step.mp hstep
    exact ⟨inBalance_step hs hstep, admitted_step hs hroom hfour hstep⟩
  exact ⟨hlimit.1.counted, (running_le_admitted s).trans hlimit.2⟩

end Limit

/-- The installer of the examples at its start. -/
def exampleIdle : Installation := idle ⟨true, []⟩ 0

/-- One installation in the background and one for a response, which both end. -/
theorem installs_are_limited_two : ∃ visited events s,
    ((installer exampleNode).restrict fun s act => hasRoom s act).Run exampleIdle visited
        events s ∧ visited.map running = [0, 0, 0, 0, 1, 2, 1, 0] ∧ running s ≤ 4 := by
  have hends : ∃ visited events s,
      ((installer exampleNode).restrict fun s act => hasRoom s act).Run exampleIdle
        visited events s ∧ visited.map running = [0, 0, 0, 0, 1, 2, 1, 0] :=
    Machine.exists_run [.start (exampleRequest "/api/install/start"),
      .start (exampleRequest "/api/install"), .resume 0 (.body false) (.ok []),
      .resume 1 (.body true) (.ok []), .resume 0 (.text false) (.ok "\x7b\x7d"),
      .resume 1 (.text true) (.error .other), .other (.finish 0 (.ok .null) "secret")]
      (by decide +kernel)
  obtain ⟨visited, events, s, hrun, hruns⟩ := hends
  exact ⟨visited, events, s, hrun, hruns, (installs_are_limited.2 hrun).2⟩

/-- Five requests are let through before the body of one of them has come. -/
theorem five_installs_run : ∃ visited events s,
    (installer exampleNode).Run exampleIdle visited events s ∧ running s = 5 :=
  Machine.exists_run (List.replicate 5 (.start (exampleRequest "/api/install")) ++
    (List.range 5).map fun i => .resume i (.body true) (.ok [])) (by decide +kernel)

end Installer
