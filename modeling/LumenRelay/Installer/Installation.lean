import LumenRelay.Installer.Preparation

/-!
# Whole installations

An installation deploys only what it has prepared, asks only for what is its own, reports what has
happened, and tells no token, whatever the services answer.
-/

namespace Installation

open Lib Lib.Coroutine Installer Py

variable {sc : Script} {tokens : Tokens} {draws : Draws} {route : Route} {h : History}
  {s : List Progress}

/-! ## The deployment -/

section Polls

variable (sc tokens) in
/-- What a check of a deployment makes of a response. -/
def pollOutcome (response : Except Failure Reply) : String × String :=
  match response >>= readRailway sc tokens.railway "deployment-status" >>= readStatus sc with
  | .ok status => (status, "")
  | .error e => ("NO_RESPONSE", pollError sc e)

/-- A check of a deployment is one request. -/
lemma talks_checkDeployment (hq : Qualified tokens route h) (id : String) :
    Talks (Asks sc tokens draws) (fun h' r => ∃ response,
      h' = h ++ [⟨.fetch route (.railway (.deployment id) tokens.railway), response⟩] ∧
        r = .ok (pollOutcome sc tokens response))
      (checkDeployment sc route tokens.railway id) h s := by
  unfold checkDeployment
  refine Talks.tryCatch (Talks.bind (Talks.mono (talks_railway (.railway hq trivial rfl)) ?_))
  rintro h' _ ⟨response, rfl, rfl⟩
  have hstep : (Query.deployment id).step = "deployment-status" := rfl
  rw [hstep]
  cases hread : response >>= readRailway sc tokens.railway "deployment-status" with
  | error e =>
    refine fun s => talks_pure ⟨response, rfl, ?_⟩
    rw [pollOutcome, hread]
    rfl
  | ok checked =>
    refine fun s => talks_ofExcept_bind (fun e he s => talks_pure ⟨response, rfl, ?_⟩)
      fun status hstatus s => talks_pure ⟨response, rfl, ?_⟩
    · rw [pollOutcome, hread]
      change _ = Except.ok (match readStatus sc checked with
        | .ok status => (status, "")
        | .error e => ("NO_RESPONSE", pollError sc e))
      rw [he]
    · rw [pollOutcome, hread]
      change _ = Except.ok (match readStatus sc checked with
        | .ok status => (status, "")
        | .error e => ("NO_RESPONSE", pollError sc e))
      rw [hstatus]

/-- A status that was read was answered. -/
lemma answered_of_status {response : Except Failure Reply} {status : String}
    (hread : response >>= readRailway sc tokens.railway "deployment-status" >>= readStatus sc =
      .ok status) : ∃ reply data, response = .ok reply ∧
        readRailway sc tokens.railway "deployment-status" reply = .ok data ∧
        readStatus sc data = .ok status := by
  cases response with
  | error e => cases hread
  | ok reply =>
    change readRailway sc tokens.railway "deployment-status" reply >>= readStatus sc = .ok status
      at hread
    cases hdata : readRailway sc tokens.railway "deployment-status" reply with
    | error e =>
      rw [hdata] at hread
      cases hread
    | ok data =>
      rw [hdata] at hread
      exact ⟨reply, data, rfl, hdata, hread⟩

lemma success_of_pollOutcome {response : Except Failure Reply}
    (hstatus : (pollOutcome sc tokens response).1 = "SUCCESS") :
    ∃ reply data, response = .ok reply ∧
      readRailway sc tokens.railway "deployment-status" reply = .ok data ∧
      readStatus sc data = .ok "SUCCESS" := by
  have hne : "NO_RESPONSE" ≠ "SUCCESS" := by decide +kernel
  unfold pollOutcome at hstatus
  split at hstatus
  · rename_i status hread
    exact answered_of_status (hread.trans (congrArg _ hstatus))
  · exact absurd hstatus hne

variable (sc tokens h) in
/-- A text has the token only if Railway has said it in a status. -/
def Told (text : String) : Prop :=
  Guarded sc tokens h → tokens.railway.toList <:+: text.toList → StatusSaid sc tokens h

lemma told_short {text : String} (hshort : shortFrom 0 text.toList = true) : Told sc tokens h text :=
  fun hg hin => absurd hin (hg.standsOut.not_infix_short (by decide) hshort)

lemma Told.append {text : String} (ht : Told sc tokens h text) (l : History) :
    Told sc tokens (h ++ l) text :=
  fun hg hin => (ht hg.start hin).append l

/-- What is kept of an error that does not tell the token. -/
lemma Silent.told_pollError {e : Failure} (he : Silent tokens.railway e) :
    Told sc tokens h (pollError sc e) := by
  intro hg hin
  cases e with
  | other => exact absurd hin (not_infix_slice 180 hg.language)
  | install e =>
    refine absurd hin (not_infix_slice 180 ?_)
    split_ifs
    · exact he.1
    · exact he.2

variable (sc tokens route h) in
/-- What a check makes of a response has the token only if it is in the status. -/
lemma told_pollOutcome (id : String) (response : Except Failure Reply) :
    Told sc tokens (h ++ [⟨.fetch route (.railway (.deployment id) tokens.railway), response⟩])
        (pollOutcome sc tokens response).1 ∧
      Told sc tokens (h ++ [⟨.fetch route (.railway (.deployment id) tokens.railway), response⟩])
        (pollOutcome sc tokens response).2 := by
  have hno : shortFrom 0 "NO_RESPONSE".toList = true := by decide +kernel
  unfold pollOutcome
  split
  · rename_i status hread
    refine ⟨fun _ hin => ?_, told_short rfl⟩
    obtain ⟨reply, data, rfl, hdata, hstatus⟩ := answered_of_status hread
    exact ⟨route, id, data, status,
      ⟨reply, List.mem_append_right _ List.mem_cons_self, hdata⟩, hstatus, hin⟩
  · rename_i e hread
    refine ⟨told_short hno, fun hg => Silent.told_pollError ?_ hg⟩
    cases response with
    | error e' =>
      cases hread
      exact hg.requests _ (List.mem_append_right _ List.mem_cons_self) _ rfl
    | ok reply =>
      exact (silent_readRailway hg.standsOut reply).bind
        (fun _ _ => throws_readStatus trivial _) e hread

/-- What is told when the checks are over. -/
lemma told_timeout {status lastError : String} (hstatus : Told sc tokens h status)
    (hlast : Told sc tokens h lastError) : Told sc tokens h
      ("Last deployment status: " ++ status ++ (if lastError = "" then "" else " | " ++ lastError)) := by
  have hstart : "Last deployment status: ".toList = "Last deployment status:".toList ++ [' '] := by
    decide +kernel
  have hbar : " | ".toList = [' ', '|', ' '] := by decide +kernel
  have hwords : shortFrom 0 "Last deployment status:".toList = true := by decide +kernel
  intro hg hin
  have hshort : ∀ {l}, shortFrom 0 l = true → ¬ tokens.railway.toList <:+: l := fun hl =>
    hg.standsOut.not_infix_short (by decide) hl
  rw [String.toList_append, String.toList_append, hstart, List.append_assoc, List.append_assoc,
    List.singleton_append] at hin
  -- the token has no blank, so it is in one of the words
  rcases hg.standsOut.infix_cases hin with hin | hin
  · exact absurd hin (hshort hwords)
  · split_ifs at hin
    · rw [String.toList_empty, List.append_nil] at hin
      exact hstatus hg hin
    · rw [String.toList_append, hbar, List.cons_append] at hin
      rcases hg.standsOut.infix_cases hin with hin | hin
      · exact hstatus hg hin
      · rcases hg.standsOut.infix_cases (l := ['|']) hin with hin | hin
        · exact absurd hin (hshort rfl)
        · exact hlast hg hin

lemma Told.fails {code step messageEn messageFa details : String} {status : ℕ}
    {hs : 400 ≤ status ∧ status < 600} (ht : Told sc tokens h details) :
    Fails sc tokens h (faultWith code step messageEn messageFa status hs details) := by
  intro hg
  by_cases hin : tokens.railway.toList <:+: details.toList
  · exact .inr (ht hg hin)
  · exact .inl hin

variable (sc tokens route) in
/-- A deployment was checked so many times at most, with pauses, and at last it had succeeded. -/
structure Seen (id : String) (checks : ℕ) (polls : History) : Prop where
  bounded : polls.length ≤ 2 * checks
  watch : ∀ e ∈ polls, e.1 = .pause 20000 ∨
    e.1 = .fetch route (.railway (.deployment id) tokens.railway)
  success : ∃ early reply data,
    polls = early ++ [told route (.railway (.deployment id) tokens.railway) reply] ∧
      readRailway sc tokens.railway "deployment-status" reply = .ok data ∧
      readStatus sc data = .ok "SUCCESS"

lemma seen_now {id : String} {n : ℕ} {pause : Exchange Point.Answer Failure} {reply : Reply}
    {data : Json} (hpause : pause.1 = .pause 20000)
    (hdata : readRailway sc tokens.railway "deployment-status" reply = .ok data)
    (hread : readStatus sc data = .ok "SUCCESS") : Seen sc tokens route id (n + 1)
      [pause, told route (.railway (.deployment id) tokens.railway) reply] where
  bounded := by
    rw [List.length_cons, List.length_singleton]
    omega
  watch e he := by
    rcases List.mem_cons.mp he with rfl | he
    · exact .inl hpause
    · exact .inr (congrArg Sigma.fst (List.mem_singleton.mp he))
  success := ⟨[pause], reply, data, rfl, hdata, hread⟩

lemma Seen.later {id : String} {n : ℕ} {polls : History} {pause check : Exchange Point.Answer Failure}
    (hseen : Seen sc tokens route id n polls) (hpause : pause.1 = .pause 20000)
    (hcheck : check.1 = .fetch route (.railway (.deployment id) tokens.railway)) :
    Seen sc tokens route id (n + 1) (pause :: check :: polls) where
  bounded := by
    have hbounded := hseen.bounded
    rw [List.length_cons, List.length_cons]
    omega
  watch e he := by
    rcases List.mem_cons.mp he with rfl | he
    · exact .inl hpause
    · rcases List.mem_cons.mp he with rfl | he
      · exact .inr hcheck
      · exact hseen.watch e he
  success := by
    obtain ⟨early, reply, data, rfl, hread⟩ := hseen.success
    exact ⟨pause :: check :: early, reply, data, rfl, hread⟩

/-- The loop of checks: what it keeps of the last one may be told. -/
lemma goes_pollDeployment {id status lastError : String} {attempt left : ℕ}
    (hq : Qualified tokens route h) (hstatus : Told sc tokens h status)
    (hlast : Told sc tokens h lastError) :
    Goes sc tokens draws (pollDeployment sc route tokens.railway id attempt status lastError left) h s
      fun h' status => status = "SUCCESS" ∧ ∃ polls, h' = h ++ polls ∧
        Seen sc tokens route id left polls := by
  -- on the checks that are left; what is kept of a check may be told after all later ones
  induction left generalizing h s attempt status lastError with
  | zero => exact talks_raise (told_timeout hstatus hlast).fails
  | succ left ih =>
    unfold pollDeployment
    refine goes_emit_bind fun s => ?_
    refine Goes.bind (runs_wait (p := Point.pause 20000) (.pause h _) rfl).goes ?_
    rintro _ u s ⟨-, rfl⟩
    refine Talks.bind (Talks.mono (talks_checkDeployment (hq.append _) id) ?_)
    rintro _ _ ⟨response, rfl, rfl⟩ s
    obtain ⟨htold, htold'⟩ :=
      told_pollOutcome sc tokens route (h ++ [⟨.pause 20000, .ok u⟩]) id response
    cases hr : pollOutcome sc tokens response with | mk status lastError =>
    rw [hr] at htold htold'
    refine goes_emit_bind fun s => ?_
    split_ifs with hdone hfailed
    · obtain ⟨reply, data, rfl, hdata, hread⟩ := success_of_pollOutcome (by rw [hr]; exact hdone)
      exact talks_pure ⟨hdone, _, List.append_assoc _ _ _, seen_now rfl hdata hread⟩
    · -- the details name one of three statuses
      refine talks_raise (Told.fails (told_short ?_))
      simp only [List.mem_cons, List.not_mem_nil, or_false] at hfailed
      rcases hfailed with rfl | rfl | rfl
      all_goals decide +kernel
    · refine (ih ((hq.append _).append _) htold htold').mono fun h' r hr => ?_
      cases r with
      | error e => exact hr
      | ok status =>
        obtain ⟨hstatus, polls, rfl, hseen⟩ := hr
        refine ⟨hstatus, ⟨.pause 20000, .ok u⟩ ::
          ⟨.fetch route (.railway (.deployment id) tokens.railway), response⟩ :: polls, ?_,
          hseen.later rfl rfl⟩
        rw [List.append_assoc, List.append_assoc]
        rfl

end Polls

/-! ## The deployment -/

lemma runs_createDomain (hq : Qualified tokens route h) {place : Place}
    (hplaced : Placed sc tokens route h place) :
    Runs sc tokens draws (createDomain sc route tokens.railway place) h s fun h' domain =>
      isDomain domain = true ∧ ∃ data, Answered sc tokens route h' (.createDomain place) data ∧
        textOrEmpty sc (andAttr (field "serviceDomainCreate" data) "domain") = .ok domain := by
  unfold createDomain
  refine Runs.bind (runs_query hq hplaced rfl) fun h₁ data s _ hdata => ?_
  refine runs_ofExcept_bind (fun _ => throws_textOrEmpty trivial _) fun domain hdomain s => ?_
  split_ifs with hok
  · exact runs_pure ⟨hok, data, hdata, hdomain⟩
  · exact runs_raise fails_fault

variable (sc tokens route) in
/-- Railway has accepted a deployment. -/
structure Started (place : Place) (commitSha id : String) (reply : Reply) : Prop where
  accepted : ∃ data, readRailway sc tokens.railway "deploy" reply = .ok data ∧
    text sc (either (field "serviceInstanceDeployV2" data) (some (.str ""))) = .ok id
  id_ne : id ≠ ""

lemma goes_startDeployment {place : Place} {source : Source} {domain : String}
    (hready : Ready sc tokens draws route h place source domain) :
    Goes sc tokens draws (startDeployment sc route tokens.railway place source.commitSha) h s
      fun h' id => ∃ reply,
        h' = h ++ [told route (.railway (.deploy place source.commitSha) tokens.railway) reply] ∧
          Started sc tokens place source.commitSha id reply := by
  unfold startDeployment
  refine Talks.bind (Talks.mono (talks_railway (.deploy hready)) ?_)
  rintro _ _ ⟨response, rfl, rfl⟩
  cases response with
  | error e => exact fails_request
  | ok reply =>
    have hbind : (.ok reply : Except Failure Reply) >>=
        readRailway sc tokens.railway (Query.deploy place source.commitSha).step =
          readRailway sc tokens.railway "deploy" reply := rfl
    rw [hbind]
    cases hdata : readRailway sc tokens.railway "deploy" reply with
    | error e => exact Tactful.fails (fun htoken => tactful_readRailway htoken _ _) hdata
    | ok data =>
      refine fun s => goes_ofExcept_bind (fun _ => throws_text trivial _) fun id hid s => ?_
      split_ifs with hempty
      · exact talks_raise fails_fault
      · exact talks_pure ⟨reply, rfl, ⟨data, hdata, hid⟩, hempty⟩

variable (sc tokens draws route h) in
/-- A place was prepared, its deployment was started, and it was watched until it had succeeded. -/
structure Deployed (source : Source) (p : Provisioned) : Prop where
  history : ∃ before reply polls domain, h = before ++
      told route (.railway (.deploy p.place source.commitSha) tokens.railway) reply :: polls ∧
    Ready sc tokens draws route before p.place source domain ∧
    Started sc tokens p.place source.commitSha p.deploymentId reply ∧
    Seen sc tokens route p.deploymentId 7 polls ∧
    p.panelUrl = "https://" ++ domain ++ "/dashboard"
  status : p.deploymentStatus = "SUCCESS"

lemma goes_deployAt (hq : Qualified tokens route h) {source : Source} {workspace : Workspace}
    {place : Place} (hforked : Forked sc tokens route h source)
    (hplaced : Placed sc tokens route h place)
    (hconfigured : ∃ data, Answered sc tokens route h (.configure place) data)
    (hnone : ∀ e ∈ h, deploys e.1 = false) :
    Goes sc tokens draws (deployAt sc route tokens draws source workspace place) h s fun h' p =>
      Deployed sc tokens draws route h' source p := by
  unfold deployAt
  refine goes_ofExcept_bind (fun _ => throws_text trivial _) fun repo hrepo s => ?_
  refine Goes.bind (Runs.goes (runs_query hq hplaced rfl)) fun h₁ stored s ⟨hh₁, hstored⟩ => ?_
  refine goes_emit_bind fun s => ?_
  refine Goes.bind (Runs.goes (runs_query (hq.mono hh₁) (hplaced.mono hh₁) rfl))
    fun h₂ volume s ⟨hh₂, hvolume⟩ => ?_
  have h₁₂ := hh₁.trans hh₂
  refine goes_emit_bind fun s => ?_
  refine Goes.bind (runs_createDomain (hq.mono h₁₂) (hplaced.mono h₁₂)).goes
    fun h₃ domain s ⟨hh₃, hdomain, data, hdata, htext⟩ => ?_
  have h₁₃ := h₁₂.trans hh₃
  refine Goes.bind (Runs.goes (runs_query (hq.mono h₁₃) (hplaced.mono h₁₃) rfl))
    fun h₄ connected s ⟨hh₄, hconnected⟩ => ?_
  have h₁₄ := h₁₃.trans hh₄
  -- everything was answered in this order, and nothing was deployed meanwhile
  have hready : Ready sc tokens draws route h₄ place source domain := by
    obtain ⟨settings, hsettings⟩ := hconfigured
    refine ⟨hq.mono h₁₄, hforked.mono h₁₄, hplaced.mono h₁₄, ⟨settings, hsettings.mono h₁₄⟩,
      ⟨repo, stored, connected, hrepo, hstored.mono ((hh₂.trans hh₃).trans hh₄), hconnected⟩,
      ⟨volume, hvolume.mono (hh₃.trans hh₄)⟩, ⟨hdomain, data, hdata.mono hh₄, htext⟩,
      h₁₄.quiet hnone⟩
  refine goes_emit_bind fun s => Goes.bind (goes_startDeployment hready) ?_
  rintro _ id s ⟨reply, rfl, hstarted⟩
  refine Goes.bind (goes_pollDeployment (hready.qualified.append _) (told_short rfl)
    (told_short rfl)) ?_
  rintro _ status s ⟨hstatus, polls, rfl, hseen⟩
  refine goes_ofExcept_bind (fun _ => throws_text trivial _) fun project _ s => ?_
  exact talks_pure ⟨⟨h₄, reply, polls, domain, List.append_assoc _ _ _, hready, hstarted, hseen, rfl⟩,
    hstatus⟩

/-! ## The whole -/

variable (sc tokens draws h) in
/-- What is reported of an installation has happened: the deployment was prepared, started and seen to
succeed, over a route that was selected, and the password is the one that was stored. -/
structure Happened (r : Installed) : Prop where
  deployed : ∃ source, Deployed sc tokens draws r.network.selected.route h source r.provisioned ∧
    source.repo sc = .ok r.forkRepository ∧ r.branch = source.branch
  password : r.adminPassword = draws.adminPassword

lemma goes_installWith : Goes sc tokens draws (installWith sc tokens draws) [] s
    fun h' r => Happened sc tokens draws h' r := by
  unfold installWith
  refine goes_emit_bind fun s => ?_
  refine Goes.bind runs_selectTransport.goes fun h₁ checks s ⟨hh₁, hprobed⟩ => ?_
  refine Goes.bind (runs_tryRoutes hprobed (by simp)).goes
    fun h₂ network s ⟨hh₂, hq, hidentity⟩ => ?_
  refine goes_ofExcept_bind (fun htoken => throws_readLogin trivial htoken.discreet _)
    fun login hlogin s => ?_
  refine Goes.bind (runs_prepareSource hq hidentity hlogin).goes
    fun h₃ source s ⟨hh₃, hforked⟩ => ?_
  have hprovision : Goes sc tokens draws
      (provisionRailway sc network.selected.route tokens draws source) h₃ s fun h' p =>
        Deployed sc tokens draws network.selected.route h' source p := by
    unfold provisionRailway
    refine Goes.bind (runs_createPlace (hq.mono hh₃)).goes
      fun h₄ r s ⟨hh₄, hplaced, hconfigured⟩ => ?_
    refine goes_deployAt ((hq.mono hh₃).mono hh₄) (hforked.mono hh₄) hplaced hconfigured ?_
    exact (((hh₁.trans hh₂).trans hh₃).trans hh₄).quiet fun _ he => absurd he List.not_mem_nil
  refine Goes.bind hprovision fun h₄ provisioned s hdeployed => ?_
  refine goes_ofExcept_bind (fun _ => throws_text trivial _) fun repo hrepo s => ?_
  refine goes_ofExcept_bind (fun _ => throws_text trivial _) fun forkUrl _ s => ?_
  exact talks_pure ⟨⟨source, hdeployed, hrepo, rfl⟩, rfl⟩

section Runs

variable {payload : Json} {visited : List (Prog Installed × List Progress)}
  {y : Prog Installed × List Progress}

lemma goes_installPayload (ht : readTokens payload = .ok tokens) :
    Goes sc tokens draws (installPayload sc payload draws) [] s
      fun h' r => Happened sc tokens draws h' r := by
  unfold installPayload
  refine goes_ofExcept_bind (fun _ => ht ▸ throws_ok _) fun tokens' ht' s => ?_
  obtain rfl := Except.ok.inj (ht.symm.trans ht')
  exact goes_installWith

/-- **Deployments are prepared.**  Whenever an installation asks for a deployment, it is the first one,
and the service was prepared for the commit of the fork. -/
theorem deployment_prepared (ht : readTokens payload = .ok tokens)
    (hrun : conversation.Run ((installPayload sc payload draws).advance s) visited h y)
    {before after : History} {e : Exchange Point.Answer Failure} (hh : h = before ++ e :: after)
    (he : deploys e.1 = true) : ∃ route place source domain,
      e.1 = .fetch route (.railway (.deploy place source.commitSha) tokens.railway) ∧
        Ready sc tokens draws route before place source domain := by
  have hasks := (Talks.run (goes_installPayload ht) hrun).past before e after hh
  generalize e.1 = p at hasks he ⊢
  cases hasks with
  | scan => cases he
  | pause => cases he
  | identity => cases he
  | github => cases he
  | railway _ _ hno => exact absurd (hno.symm.trans he) Bool.false_ne_true
  | deploy hready => exact ⟨_, _, _, _, rfl, hready⟩

/-- **Installations are truthful.**  When an installation reports that it is done, everything that it
reports has happened. -/
theorem installation_truthful (ht : readTokens payload = .ok tokens)
    (hrun : conversation.Run ((installPayload sc payload draws).advance s) visited h y) {r : Installed}
    (hend : y.1.outcome = some (.ok r)) : Happened sc tokens draws h r :=
  (Talks.run (goes_installPayload ht) hrun).ended (.ok r) hend

/-- **Requests stay with their own.**  A request goes over a route whose probe succeeded, and carries
the token of the service that it is sent to.  The token of Railway is sent only after GitHub has
accepted its own over the same route, and only for what this installation has created. -/
theorem requests_own (ht : readTokens payload = .ok tokens)
    (hrun : conversation.Run ((installPayload sc payload draws).advance s) visited h y)
    {before after : History} {e : Exchange Point.Answer Failure} (hh : h = before ++ e :: after)
    {route : Route} {request : Request} (he : e.1 = .fetch route request) :
    Probed route before ∧
      ((∃ method path body, request = .github method path tokens.github body) ∨
        ∃ query, request = .railway query tokens.railway ∧ Qualified tokens route before ∧
          Own sc tokens route before query) := by
  have hasks := (Talks.run (goes_installPayload ht) hrun).past before e after hh
  rw [he] at hasks
  cases hasks with
  | identity hprobed => exact ⟨hprobed, .inl ⟨_, _, _, rfl⟩⟩
  | github method path body hq => exact ⟨hq.probed, .inl ⟨_, _, _, rfl⟩⟩
  | railway hq hown _ => exact ⟨hq.probed, .inr ⟨_, rfl, hq, hown⟩⟩
  | deploy hready =>
    exact ⟨hready.qualified.probed, .inr ⟨_, rfl, hready.qualified, hready.placed⟩⟩

/-- **Errors do not tell the token.**  The details of the error with which an installation ends have
the token of Railway only if Railway itself has named a status of a deployment like that. -/
theorem errors_discreet (ht : readTokens payload = .ok tokens)
    (hrun : conversation.Run ((installPayload sc payload draws).advance s) visited h y)
    (hguarded : Guarded sc tokens h) {e : Failure} (hend : y.1.outcome = some (.error e)) :
    Discreet tokens.railway e ∨ StatusSaid sc tokens h :=
  (Talks.run (goes_installPayload ht) hrun).ended (.error e) hend hguarded

end Runs

/-! ## An installation -/

/-- A library for texts of ASCII. -/
def exampleScript : Script where
  numberText _ := "0"
  lower s := String.ofList (s.toList.map Char.toLower)
  upper s := String.ofList (s.toList.map Char.toUpper)
  encode s := s
  errorText := "error"

/-- The tokens that are entered. -/
def exampleTokens : Tokens := ⟨"github-token-of-twenty", "railway-token-of-twenty"⟩

/-- The request. -/
def examplePayload : Json :=
  .obj [("githubToken", .str exampleTokens.github), ("railwayToken", .str exampleTokens.railway)]

/-- What is drawn. -/
def exampleDraws : Draws := ⟨"password", "secret", "key", "time", "other"⟩

/-- The place that is created. -/
def examplePlace : Place := ⟨.str "p", .str "e", .str "s"⟩

/-- A question to GitHub over the direct route, with the answer. -/
def exampleGithub (method path : String) (body : Json) : Exchange Point.Answer Failure :=
  told .direct (.github method path exampleTokens.github none) ⟨200, some body⟩

/-- A query over the direct route, with the data of the answer. -/
def exampleRailway (query : Query) (data : Obj) : Exchange Point.Answer Failure :=
  told .direct (.railway query exampleTokens.railway) ⟨200, some (.obj [("data", .obj data)])⟩

/-- Only the direct route works, and the user is found. -/
def exampleRoute : History :=
  [⟨.scan, .ok (some fun route : Route => if route = .direct then ⟨.ok 200, .ok 200, 1⟩
      else ⟨.error .other, .error .other, 1⟩)⟩,
    exampleGithub "GET" "/user" (.obj [("login", .str "tester")])]

/-- A commit of the fork. -/
def exampleSha : String := "0123456789abcdef0123456789abcdef01234567"

/-- The fork is there. -/
def exampleFork : History :=
  [exampleGithub "PUT" ("/user/starred/" ++ sourceFull) .null,
    exampleGithub "GET" ("/repos/tester/" ++ sourceRepo) (.obj [("fork", .bool true),
      ("full_name", .str "tester/relay"), ("owner", .obj [("login", .str "tester")]),
      ("parent", .obj [("full_name", .str sourceFull)])]),
    exampleGithub "GET" ("/repos/tester/" ++ sourceRepo ++ "/commits/main")
      (.obj [("sha", .str exampleSha)])]

/-- A service is created and prepared. -/
def exampleService : History :=
  [exampleRailway .workspaces [("me", .obj [("workspaces",
      .arr [.obj [("id", .str "w"), ("name", .str "Lumen tester")]])])],
    exampleRailway (.createProject "w" (railwayProjectName exampleScript "tester" "time"))
      [("projectCreate", .obj [("id", .str "p"), ("environments", .obj [("edges",
        .arr [.obj [("node", .obj [("id", .str "e")])]])])])],
    exampleRailway (.createService (.str "p") (.str "e"))
      [("serviceCreate", .obj [("id", .str "s")])],
    exampleRailway (.configure examplePlace) [],
    exampleRailway (.storeVariables examplePlace
      (panelVariables exampleTokens exampleDraws "tester/relay" "main")) [],
    exampleRailway (.createVolume examplePlace) [],
    exampleRailway (.createDomain examplePlace)
      [("serviceDomainCreate", .obj [("domain", .str "panel.example")])],
    exampleRailway (.connectSource examplePlace "tester/relay" "main") []]

/-- Railway accepts the deployment. -/
def exampleDeploy : Exchange Point.Answer Failure :=
  exampleRailway (.deploy examplePlace exampleSha) [("serviceInstanceDeployV2", .str "d")]

/-- It succeeds. -/
def exampleWatch : History :=
  [⟨.pause 20000, .ok ()⟩,
    exampleRailway (.deployment "d") [("deployment", .obj [("status", .str "success")])]]

/-- Everything up to the deployment. -/
def examplePrepared : History := exampleRoute ++ exampleFork ++ exampleService

/-- The installation is done. -/
def isDone (x : Prog Installed) : Bool :=
  match x.outcome with
  | some (.ok _) => true
  | _ => false

lemma exampleTokens_read : readTokens examplePayload = .ok exampleTokens := by
  have hread : (readTokens examplePayload).toOption = some exampleTokens := by decide +kernel
  cases htokens : readTokens examplePayload with
  | error e =>
    rw [htokens] at hread
    cases hread
  | ok tokens =>
    rw [htokens] at hread
    rw [Option.some.inj hread]

lemma exampleRun : ∃ visited y, conversation.Run
    ((installPayload exampleScript examplePayload exampleDraws).advance []) visited
    (examplePrepared ++ exampleDeploy :: exampleWatch) y ∧ isDone y.1 = true :=
  exists_run_answers (fun y => isDone y.1) (by decide +kernel)

theorem exampleDeploy_prepared : ∃ route place source domain,
    exampleDeploy.1 = .fetch route (.railway (.deploy place source.commitSha) exampleTokens.railway) ∧
      Ready exampleScript exampleTokens exampleDraws route examplePrepared place source domain := by
  obtain ⟨visited, y, hrun, -⟩ := exampleRun
  exact deployment_prepared exampleTokens_read hrun rfl rfl

theorem exampleWatch_truthful : ∃ r, Happened exampleScript exampleTokens exampleDraws
    (examplePrepared ++ exampleDeploy :: exampleWatch) r := by
  obtain ⟨visited, y, hrun, hdone⟩ := exampleRun
  unfold isDone at hdone
  split at hdone
  · rename_i r hend
    exact ⟨r, installation_truthful exampleTokens_read hrun hend⟩
  · cases hdone

theorem exampleDeploy_own : Probed .direct examplePrepared ∧
    ((∃ method path body, Request.railway (.deploy examplePlace exampleSha) exampleTokens.railway =
        .github method path exampleTokens.github body) ∨
      ∃ query, Request.railway (.deploy examplePlace exampleSha) exampleTokens.railway =
          .railway query exampleTokens.railway ∧
        Qualified exampleTokens .direct examplePrepared ∧
        Own exampleScript exampleTokens .direct examplePrepared query) := by
  obtain ⟨visited, y, hrun, -⟩ := exampleRun
  exact requests_own exampleTokens_read hrun rfl rfl

/-- Railway rejects the token, and repeats it. -/
def exampleRejected : History := exampleRoute ++ exampleFork ++
  [told .direct (.railway .workspaces exampleTokens.railway) ⟨200, some (.obj [("errors",
    .arr [.obj [("message", .str ("unauthorized: " ++ exampleTokens.railway))]])])⟩]

/-- The installation has failed with details. -/
def hasDetails (x : Prog Installed) : Bool :=
  match x.outcome with
  | some (.error (.install e)) => e.safeDetails = some "unauthorized: [redacted]"
  | _ => false

lemma exampleTokens_standOut : StandsOut exampleTokens.railway where
  long := by decide +kernel
  plain c hc := by
    have hplain : exampleTokens.railway.toList.all (fun c => c ≠ ' ' && c ≠ '[' && c ≠ ']') = true := by
      decide +kernel
    simpa [and_assoc] using List.all_eq_true.mp hplain c hc

lemma exampleTokens_guarded : Guarded exampleScript exampleTokens exampleRejected where
  standsOut := exampleTokens_standOut
  language := by decide +kernel
  requests ex hex := by
    have hanswered : exampleRejected.all (fun ex => ex.2.toOption.isSome) = true := by decide +kernel
    intro e he
    have hsome := List.all_eq_true.mp hanswered ex hex
    rw [he] at hsome
    cases hsome

lemma exampleRun_rejected : ∃ visited y, conversation.Run
    ((installPayload exampleScript examplePayload exampleDraws).advance []) visited exampleRejected y ∧
      hasDetails y.1 = true :=
  exists_run_answers (fun y => hasDetails y.1) (by decide +kernel)

theorem exampleRejected_discreet : ∃ visited y e, conversation.Run
    ((installPayload exampleScript examplePayload exampleDraws).advance []) visited exampleRejected y ∧
      y.1.outcome = some (.error e) ∧ (Discreet exampleTokens.railway e ∨
        StatusSaid exampleScript exampleTokens exampleRejected) := by
  obtain ⟨visited, y, hrun, hfailed⟩ := exampleRun_rejected
  unfold hasDetails at hfailed
  split at hfailed
  · rename_i e hend
    exact ⟨visited, y, _, hrun, hend,
      errors_discreet exampleTokens_read hrun exampleTokens_guarded hend⟩
  · cases hfailed

end Installation
