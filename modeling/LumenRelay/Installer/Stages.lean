import LumenRelay.Installer.Redaction

/-!
# The stages of an installation

What an installation has found out and created is in its history.  This file says what each part of
it adds to the history, whatever the services answer: what it may ask next, what has been answered
when the part is over, and what an error of it may tell.
-/

namespace Installation

open Lib Lib.Coroutine Installer Py

/-- What was asked and answered so far. -/
abbrev History : Type := List (Exchange Point.Answer Failure)

/-- A request with the answer. -/
def told (route : Route) (request : Request) (reply : Reply) : Exchange Point.Answer Failure :=
  ⟨.fetch route request, .ok reply⟩

/-- Whether a deployment is asked for. -/
def deploys : Point → Bool
  | .fetch _ (.railway (.deploy _ _) _) => true
  | _ => false

variable (sc : Script) (tokens : Tokens) (draws : Draws)

/-! ## What is known -/

section Facts

variable (route : Route) (h : History)

/-- GitHub has answered a request with a value. -/
def Fetched (path : String) (value : Json) : Prop :=
  ∃ reply allow404 step, told route (.github "GET" path tokens.github none) reply ∈ h ∧
    readGithub allow404 step reply = .ok value

/-- Railway has answered a query with data. -/
def Answered (query : Query) (data : Json) : Prop :=
  ∃ reply, told route (.railway query tokens.railway) reply ∈ h ∧
    readRailway sc tokens.railway query.step reply = .ok data

/-- The probe of a route reached both services. -/
def Probed : Prop :=
  ∃ probes check, ⟨Point.scan, .ok (some probes)⟩ ∈ h ∧ check ∈ checkRoutes probes ∧
    check.ok = true ∧ check.route = route

/-- Besides, GitHub has accepted its token over the route. -/
structure Qualified : Prop where
  probed : Probed route h
  accepted : ∃ identity, Fetched tokens route h "/user" identity

/-- The source is a commit of a branch of a fork of the official source, which belongs to the user. -/
structure Forked (source : Source) : Prop where
  fork : ∃ identity login commit, Fetched tokens route h "/user" identity ∧
    readLogin sc identity = .ok login ∧ Fetched tokens route h (forkPath sc login) source.fork ∧
    isFork sc source.fork = .ok true ∧
    text sc (either (field "default_branch" source.fork) (some (.str "main"))) = .ok source.branch ∧
    Fetched tokens route h (commitPath sc login source.branch) commit ∧
    readSha sc commit = .ok source.commitSha

/-- A project was created. -/
def Created (projectId : Json) : Prop :=
  ∃ workspaceId name data, Answered sc tokens route h (.createProject workspaceId name) data ∧
    idOf (field "projectCreate" data) = some projectId

/-- A service was created in a project that was created. -/
structure Placed (place : Place) : Prop where
  project : Created sc tokens route h place.projectId
  service : ∃ data, Answered sc tokens route h
    (.createService place.projectId place.environmentId) data ∧
    idOf (field "serviceCreate" data) = some place.serviceId

/-- What a query is about was created in this installation. -/
def Own : Query → Prop
  | .environments projectId | .createService projectId _ => Created sc tokens route h projectId
  | .configure place | .storeVariables place _ | .createVolume place | .createDomain place
  | .connectSource place _ _ | .deploy place _ => Placed sc tokens route h place
  | _ => True

/-- A service that is prepared for a deployment. -/
structure Ready (place : Place) (source : Source) (domain : String) : Prop where
  qualified : Qualified tokens route h
  forked : Forked sc tokens route h source
  placed : Placed sc tokens route h place
  configured : ∃ data, Answered sc tokens route h (.configure place) data
  /-- The variables were stored, and then the fork was connected. -/
  connected : ∃ repo stored connected, source.repo sc = .ok repo ∧
    Answered sc tokens route h
      (.storeVariables place (panelVariables tokens draws repo source.branch)) stored ∧
    Answered sc tokens route h (.connectSource place repo source.branch) connected
  volume : ∃ data, Answered sc tokens route h (.createVolume place) data
  domain : isDomain domain = true ∧ ∃ data, Answered sc tokens route h (.createDomain place) data ∧
    textOrEmpty sc (andAttr (field "serviceDomainCreate" data) "domain") = .ok domain
  once : ∀ e ∈ h, deploys e.1 = false

/-- Railway has answered with a status of a deployment in which its token is. -/
def StatusSaid : Prop :=
  ∃ route id data status, Answered sc tokens route h (.deployment id) data ∧
    readStatus sc data = .ok status ∧ tokens.railway.toList <:+: status.toList

/-- The token of Railway stands out, and neither an exception of the language nor one of a request
tells it. -/
structure Guarded : Prop where
  standsOut : StandsOut tokens.railway
  language : ¬ tokens.railway.toList <:+: sc.errorText.toList
  requests : ∀ ex ∈ h, ∀ e, ex.2 = .error e → Silent tokens.railway e

/-- What an error may tell. -/
def Fails (e : Failure) : Prop :=
  Guarded sc tokens h → Discreet tokens.railway e ∨ StatusSaid sc tokens h

end Facts

/-- What an installation may ask after what it was answered. -/
inductive Asks : History → Point → Prop
  | scan : Asks [] .scan
  | pause (h : History) (ms : ℕ) : Asks h (.pause ms)
  | identity {route : Route} {h : History} : Probed route h →
    Asks h (.fetch route (.github "GET" "/user" tokens.github none))
  | github {route : Route} {h : History} (method path : String) (body : Option Json) :
    Qualified tokens route h → Asks h (.fetch route (.github method path tokens.github body))
  | railway {route : Route} {h : History} {query : Query} : Qualified tokens route h →
    Own sc tokens route h query → deploys (.fetch route (.railway query tokens.railway)) = false →
    Asks h (.fetch route (.railway query tokens.railway))
  | deploy {route : Route} {h : History} {place : Place} {source : Source} {domain : String} :
    Ready sc tokens draws route h place source domain →
    Asks h (.fetch route (.railway (.deploy place source.commitSha) tokens.railway))

/-! ## Facts stay -/

/-- A history goes on, and nothing is deployed meanwhile. -/
def Before (h h' : History) : Prop := ∃ l, h' = h ++ l ∧ ∀ e ∈ l, deploys e.1 = false

variable {sc tokens draws} {route : Route} {h h' h'' : History} {s : List Progress}

lemma Before.refl (h : History) : Before h h := ⟨[], by simp⟩

lemma Before.trans (hh : Before h h') (hh' : Before h' h'') : Before h h'' := by
  obtain ⟨l, rfl, hl⟩ := hh
  obtain ⟨l', rfl, hl'⟩ := hh'
  refine ⟨l ++ l', List.append_assoc h l l', fun e he => ?_⟩
  rcases List.mem_append.mp he with he | he
  · exact hl e he
  · exact hl' e he

/-- What was not deployed before is not deployed later. -/
lemma Before.quiet (hh : Before h h') (hnone : ∀ e ∈ h, deploys e.1 = false) :
    ∀ e ∈ h', deploys e.1 = false := by
  obtain ⟨l, rfl, hl⟩ := hh
  intro e he
  rcases List.mem_append.mp he with he | he
  · exact hnone e he
  · exact hl e he

lemma before_append {e : Exchange Point.Answer Failure} (he : deploys e.1 = false) :
    Before h (h ++ [e]) :=
  ⟨[e], rfl, by simpa using he⟩

lemma Before.mem (hh : Before h h') {e : Exchange Point.Answer Failure} (he : e ∈ h) : e ∈ h' := by
  obtain ⟨l, rfl, -⟩ := hh
  exact List.mem_append_left _ he

lemma Qualified.append (hq : Qualified tokens route h) (l : History) :
    Qualified tokens route (h ++ l) := by
  obtain ⟨⟨probes, check, hmem, hcheck⟩, identity, reply, allow404, step, hmem', hread⟩ := hq
  exact ⟨⟨probes, check, List.mem_append_left _ hmem, hcheck⟩,
    identity, reply, allow404, step, List.mem_append_left _ hmem', hread⟩

lemma Fetched.mono {path : String} {value : Json} (hf : Fetched tokens route h path value)
    (hh : Before h h') : Fetched tokens route h' path value := by
  obtain ⟨reply, allow404, step, hmem, hread⟩ := hf
  exact ⟨reply, allow404, step, hh.mem hmem, hread⟩

lemma Answered.mono {query : Query} {data : Json} (ha : Answered sc tokens route h query data)
    (hh : Before h h') : Answered sc tokens route h' query data := by
  obtain ⟨reply, hmem, hread⟩ := ha
  exact ⟨reply, hh.mem hmem, hread⟩

lemma Probed.mono (hp : Probed route h) (hh : Before h h') : Probed route h' := by
  obtain ⟨probes, check, hmem, hcheck⟩ := hp
  exact ⟨probes, check, hh.mem hmem, hcheck⟩

lemma Qualified.mono (hq : Qualified tokens route h) (hh : Before h h') :
    Qualified tokens route h' := by
  obtain ⟨l, rfl, -⟩ := hh
  exact hq.append l

lemma Forked.mono {source : Source} (hf : Forked sc tokens route h source) (hh : Before h h') :
    Forked sc tokens route h' source := by
  obtain ⟨identity, login, commit, hidentity, hlogin, hfork, hofficial, hbranch, hcommit, hsha⟩ :=
    hf.fork
  exact ⟨identity, login, commit, hidentity.mono hh, hlogin, hfork.mono hh, hofficial, hbranch,
    hcommit.mono hh, hsha⟩

lemma Created.mono {projectId : Json} (hc : Created sc tokens route h projectId)
    (hh : Before h h') : Created sc tokens route h' projectId := by
  obtain ⟨workspaceId, name, data, hdata, hid⟩ := hc
  exact ⟨workspaceId, name, data, hdata.mono hh, hid⟩

lemma Placed.mono {place : Place} (hp : Placed sc tokens route h place) (hh : Before h h') :
    Placed sc tokens route h' place := by
  obtain ⟨data, hdata, hid⟩ := hp.service
  exact ⟨hp.project.mono hh, data, hdata.mono hh, hid⟩

lemma Guarded.start {l : History} (hg : Guarded sc tokens (h ++ l)) : Guarded sc tokens h where
  standsOut := hg.standsOut
  language := hg.language
  requests ex hex := hg.requests ex (List.mem_append_left _ hex)

lemma StatusSaid.append (hsaid : StatusSaid sc tokens h) (l : History) :
    StatusSaid sc tokens (h ++ l) := by
  obtain ⟨route, id, data, status, ⟨reply, hmem, hread⟩, hstatus, hin⟩ := hsaid
  exact ⟨route, id, data, status, ⟨reply, List.mem_append_left _ hmem, hread⟩, hstatus, hin⟩

lemma fails_fault {code step messageEn messageFa : String} {status : ℕ}
    {hs : 400 ≤ status ∧ status < 600} :
    Fails sc tokens h (fault code step messageEn messageFa status hs) :=
  fun hg => .inl (hg.standsOut.discreet _ _ _ _ _ _)

lemma Tactful.fails {α : Type} {x : Except Failure α} {e : Failure}
    (hx : StandsOut tokens.railway → Tactful tokens.railway x) (he : x = .error e) :
    Fails sc tokens h e :=
  fun hg => .inl (hx hg.standsOut e he)

/-! ## The rules of stages -/

section Rules

variable {α β : Type} {Good : History → α → Prop} {Good' : History → β → Prop}

variable (sc tokens draws) in
/-- A part of an installation asks for what it may, its errors tell what they may, and it ends as it
should. -/
def Goes (x : Prog α) (h : History) (s : List Progress) (Good : History → α → Prop) : Prop :=
  Talks (Asks sc tokens draws) (fun h' r => match r with
    | .ok a => Good h' a
    | .error e => Fails sc tokens h' e) x h s

variable (sc tokens draws) in
/-- Besides, it deploys nothing. -/
def Runs (x : Prog α) (h : History) (s : List Progress) (Good : History → α → Prop) : Prop :=
  Talks (Asks sc tokens draws) (fun h' r => Before h h' ∧ match r with
    | .ok a => Good h' a
    | .error e => Fails sc tokens h' e) x h s

lemma Runs.goes {x : Prog α} (hx : Runs sc tokens draws x h s Good) :
    Goes sc tokens draws x h s fun h' a => Before h h' ∧ Good h' a := by
  refine Talks.mono hx fun h' r hr => ?_
  cases r with
  | ok a => exact hr
  | error e => exact hr.2

lemma Goes.bind {x : Prog α} {f : α → Prog β} (hx : Goes sc tokens draws x h s Good)
    (hf : ∀ h' a s, Good h' a → Goes sc tokens draws (f a) h' s Good') :
    Goes sc tokens draws (x >>= f) h s Good' := by
  refine Talks.bind (Talks.mono hx fun h' r hr => ?_)
  cases r with
  | ok a => exact fun s => hf h' a s hr
  | error e => exact hr

lemma Runs.mono {Good₁ : History → α → Prop} {x : Prog α} (hx : Runs sc tokens draws x h s Good)
    (himp : ∀ h' a, Before h h' → Good h' a → Good₁ h' a) : Runs sc tokens draws x h s Good₁ := by
  refine Talks.mono hx fun h' r hr => ?_
  cases r with
  | ok a => exact ⟨hr.1, himp h' a hr.1 hr.2⟩
  | error e => exact hr

lemma Runs.andThen {x : Prog α} {f : Except Failure α → Prog β}
    (hx : Runs sc tokens draws x h s Good)
    (hok : ∀ h' a s, Before h h' → Good h' a → Runs sc tokens draws (f (.ok a)) h' s Good')
    (herror : ∀ h' e s, Before h h' → Fails sc tokens h' e →
      Runs sc tokens draws (f (.error e)) h' s Good') :
    Runs sc tokens draws (x.andThen f) h s Good' := by
  refine Talks.andThen (Talks.mono hx fun h' r hr s => ?_)
  obtain ⟨hh, hr⟩ := hr
  have hend : Runs sc tokens draws (f r) h' s Good' := by
    cases r with
    | ok a => exact hok h' a s hh hr
    | error e => exact herror h' e s hh hr
  exact Talks.mono hend fun h'' r hr => ⟨hh.trans hr.1, hr.2⟩

lemma runs_pure {a : α} (ha : Good h a) : Runs sc tokens draws (pure a : Prog α) h s Good :=
  talks_pure ⟨.refl h, ha⟩

lemma runs_raise {e : Failure} (he : Fails sc tokens h e) :
    Runs sc tokens draws (raise e : Prog α) h s Good :=
  talks_raise ⟨.refl h, he⟩

lemma Runs.bind {x : Prog α} {f : α → Prog β} (hx : Runs sc tokens draws x h s Good)
    (hf : ∀ h' a s, Before h h' → Good h' a → Runs sc tokens draws (f a) h' s Good') :
    Runs sc tokens draws (x >>= f) h s Good' :=
  hx.andThen hf fun _ _ _ _ he => runs_raise he

lemma Runs.tryCatch {x : Prog α} {handler : Failure → Prog α} {Good₁ : History → α → Prop}
    (hx : Runs sc tokens draws x h s Good) (hok : ∀ h' a, Before h h' → Good h' a → Good₁ h' a)
    (hhandler : ∀ h' e s, Before h h' → Fails sc tokens h' e →
      Runs sc tokens draws (handler e) h' s Good₁) :
    Runs sc tokens draws (x.tryCatch handler) h s Good₁ :=
  hx.andThen (fun _ _ _ hh ha => runs_pure (hok _ _ hh ha)) hhandler

/-- The rule of checks. -/
lemma runs_ofExcept_bind {r : Except Failure α} {f : α → Prog β}
    (hr : StandsOut tokens.railway → Tactful tokens.railway r)
    (hok : ∀ a, r = .ok a → ∀ s, Runs sc tokens draws (f a) h s Good') :
    Runs sc tokens draws (ofExcept r >>= f) h s Good' :=
  talks_ofExcept_bind (fun _ he => ⟨.refl h, Tactful.fails hr he⟩) hok

lemma goes_ofExcept_bind {r : Except Failure α} {f : α → Prog β}
    (hr : StandsOut tokens.railway → Tactful tokens.railway r)
    (hok : ∀ a, r = .ok a → ∀ s, Goes sc tokens draws (f a) h s Good') :
    Goes sc tokens draws (ofExcept r >>= f) h s Good' :=
  talks_ofExcept_bind (fun _ he => Tactful.fails hr he) hok

lemma runs_emit_bind {update : Progress} {k : Unit → Prog β}
    (hk : ∀ s, Runs sc tokens draws (k ()) h s Good') :
    Runs sc tokens draws (emitProgress update >>= k) h s Good' :=
  talks_modify_bind (hk _)

lemma goes_emit_bind {update : Progress} {k : Unit → Prog β}
    (hk : ∀ s, Goes sc tokens draws (k ()) h s Good') :
    Goes sc tokens draws (emitProgress update >>= k) h s Good' :=
  talks_modify_bind (hk _)

/-- A request that fails fails as it may. -/
lemma fails_request {p : Point} {e : Failure} :
    Fails sc tokens (h ++ [⟨p, .error e⟩]) e :=
  fun hg => .inl (hg.requests ⟨p, .error e⟩ (by simp) e rfl).discreet

/-- The rule of points at which nothing is deployed. -/
lemma runs_wait {p : Point} (hask : Asks sc tokens draws h p) (hno : deploys p = false) :
    Runs sc tokens draws (wait p : Prog p.Answer) h s fun h' r => h' = h ++ [⟨p, .ok r⟩] := by
  refine talks_wait hask fun r => ⟨before_append hno, ?_⟩
  cases r with
  | error e => exact fails_request
  | ok r => rfl

/-- A query, with all that may come of it. -/
lemma talks_railway {query : Query}
    (hask : Asks sc tokens draws h (.fetch route (.railway query tokens.railway))) :
    Talks (Asks sc tokens draws) (fun h' r => ∃ response,
      h' = h ++ [⟨.fetch route (.railway query tokens.railway), response⟩] ∧
        r = response >>= readRailway sc tokens.railway query.step)
      (railway sc route tokens.railway query) h s := by
  refine Talks.bind (talks_wait hask fun r => ?_)
  cases r with
  | error e => exact ⟨.error e, rfl, rfl⟩
  | ok reply => exact fun _ => talks_ofExcept ⟨.ok reply, rfl, rfl⟩

lemma runs_ofExcept {r : Except Failure α} (hr : StandsOut tokens.railway → Tactful tokens.railway r)
    (hok : ∀ a, r = .ok a → Good h a) : Runs sc tokens draws (ofExcept r : Prog α) h s Good := by
  refine talks_ofExcept ⟨.refl h, ?_⟩
  cases hcases : r with
  | ok a => exact hok a hcases
  | error e => exact Tactful.fails hr hcases

/-- A question to GitHub. -/
lemma runs_github {method path step : String} {body : Option Json} {allow404 : Bool}
    (hask : Asks sc tokens draws h (.fetch route (.github method path tokens.github body))) :
    Runs sc tokens draws (github route method path tokens.github body allow404 step) h s
      fun h' value => ∃ reply, told route (.github method path tokens.github body) reply ∈ h' ∧
        readGithub allow404 step reply = .ok value := by
  refine Runs.bind (runs_wait hask rfl) ?_
  rintro h' reply s - rfl
  exact runs_ofExcept (fun htoken => throws_readGithub htoken.discreet _ _ _) fun value hread =>
    ⟨reply, by simp [told], hread⟩

lemma runs_get {path step : String} {allow404 : Bool}
    (hask : Asks sc tokens draws h (.fetch route (.github "GET" path tokens.github none))) :
    Runs sc tokens draws (github route "GET" path tokens.github none allow404 step) h s
      fun h' value => Fetched tokens route h' path value := by
  refine (runs_github hask).mono fun h' value _ => ?_
  rintro ⟨reply, hmem, hread⟩
  exact ⟨reply, allow404, step, hmem, hread⟩

/-- A query that deploys nothing. -/
lemma runs_query {query : Query} (hq : Qualified tokens route h) (hown : Own sc tokens route h query)
    (hno : deploys (.fetch route (.railway query tokens.railway)) = false) :
    Runs sc tokens draws (railway sc route tokens.railway query) h s fun h' data =>
      Answered sc tokens route h' query data := by
  refine Runs.bind (runs_wait (.railway hq hown hno) hno) ?_
  rintro h' reply s - rfl
  exact runs_ofExcept (fun htoken => tactful_readRailway htoken _ _) fun data hread =>
    ⟨reply, by simp [told], hread⟩

end Rules

end Installation
