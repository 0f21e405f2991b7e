import LumenRelay.Installer.Stages

/-!
# What an installation prepares

The parts of an installation before the deployment, one after the other: the route, the fork, and the
place for the panel.
-/

namespace Installation

open Lib Lib.Coroutine Installer Py

variable {sc : Script} {tokens : Tokens} {draws : Draws} {route : Route} {h : History}
  {s : List Progress}

/-! ## The route -/

lemma mem_candidates {checks : List Check} {c : Check} (hc : c ∈ candidates checks) :
    c ∈ checks ∧ c.ok = true := by
  rw [candidates, List.mem_append] at hc
  rcases hc with hc | hc
  · exact List.mem_filter.mp (List.mem_filter.mp (List.mem_of_mem_take hc)).1
  · rw [List.mem_insertionSort] at hc
    exact List.mem_filter.mp (List.mem_filter.mp hc).1

lemma runs_selectTransport : Runs sc tokens draws selectTransport [] s fun h' checks =>
    ∀ c ∈ candidates checks, Probed c.route h' := by
  unfold selectTransport
  refine Runs.bind (runs_wait .scan rfl) ?_
  rintro h' probes s - rfl
  cases probes with
  | none => exact runs_raise fails_fault
  | some probes =>
    dsimp only
    split_ifs
    · exact runs_raise fails_fault
    · refine runs_pure fun c hc => ?_
      obtain ⟨hmem, hok⟩ := mem_candidates hc
      exact ⟨probes, c, by simp, hmem, hok, rfl⟩

lemma eq_of_credentialError {e : Failure} {e' : InstallError}
    (he : credentialError e = some e') : e = .install e' := by
  cases e with
  | other => cases he
  | install e =>
    simp only [credentialError, Option.ite_none_right_eq_some, Option.some.injEq] at he
    rw [he.2]

lemma fails_noRoute {attempts : List Json} {errors : List InstallError}
    (herrors : ∀ e ∈ errors, Fails sc tokens h (.install e)) :
    Fails sc tokens h (noRoute attempts errors) := by
  have hunknown : Fails sc tokens h (noRoute.unknown attempts) :=
    fun hg => .inl fun hin => hg.standsOut.ne_nil (List.infix_nil.mp hin)
  cases errors with
  | nil => exact hunknown
  | cons e errors =>
    unfold noRoute
    dsimp only
    split_ifs
    · exact herrors e List.mem_cons_self
    · exact hunknown

lemma Fails.mono {h' : History} {e : Failure} (he : Fails sc tokens h e) (hh : Before h h') :
    Fails sc tokens h' e := by
  obtain ⟨l, rfl, -⟩ := hh
  intro hg
  rcases he hg.start with hd | hsaid
  · exact .inl hd
  · exact .inr (hsaid.append l)

/-- The loop over the routes: what it has kept of the failures may be told. -/
lemma runs_tryRoutes {checks attempts : List _} {errors : List InstallError} {rest : List Check}
    (hrest : ∀ c ∈ rest, Probed c.route h)
    (herrors : ∀ e ∈ errors, Fails sc tokens h (.install e)) :
    Runs sc tokens draws (tryRoutes tokens.github checks attempts errors rest) h s fun h' network =>
      Qualified tokens network.selected.route h' ∧
        Fetched tokens network.selected.route h' "/user" network.identity := by
  -- on the routes that are left; the failures so far were told before the history went on
  induction rest generalizing h attempts errors s with
  | nil => exact runs_raise (fails_noRoute herrors)
  | cons c rest ih =>
    have hc := hrest c List.mem_cons_self
    unfold tryRoutes
    refine Runs.tryCatch (Runs.bind (runs_get (.identity hc)) fun h' identity s hh hidentity =>
      runs_pure ⟨⟨hc.mono hh, identity, hidentity⟩, hidentity⟩) (fun _ _ _ => id) ?_
    intro h' e s hh he
    refine ih (fun c hc => (hrest c (List.mem_cons_of_mem _ hc)).mono hh) fun e' he' => ?_
    rcases List.mem_append.mp he' with he' | he'
    · exact (herrors e' he').mono hh
    · exact eq_of_credentialError (Option.mem_toList.mp he') ▸ he

/-! ## The fork -/

lemma runs_awaitFork (hq : Qualified tokens route h) {login : String} {attempt left : ℕ} :
    Runs sc tokens draws (awaitFork sc route tokens.github login attempt left) h s fun h' repo =>
      Fetched tokens route h' (forkPath sc login) repo ∧ isFork sc repo = .ok true := by
  induction left generalizing h attempt s with
  | zero => exact runs_raise fails_fault
  | succ left ih =>
    unfold awaitFork
    refine Runs.bind (runs_wait (p := Point.pause _) (.pause h _) rfl) fun h₁ _ s hh _ => ?_
    refine Runs.bind (runs_get (.github _ _ _ (hq.mono hh))) fun h₂ repo s hh' hrepo => ?_
    refine runs_ofExcept_bind (fun _ => ?_) fun accepted haccepted s => ?_
    · split_ifs
      · exact throws_isFork trivial repo
      · exact throws_ok _
    · cases accepted with
      | false => exact ih ((hq.mono hh).mono hh')
      | true =>
        split_ifs at haccepted
        · exact runs_pure ⟨hrepo, haccepted⟩
        · cases haccepted

lemma runs_ensureFork (hq : Qualified tokens route h) (login : String) :
    Runs sc tokens draws (ensureFork sc route tokens.github login) h s fun h' repo =>
      Fetched tokens route h' (forkPath sc login) repo ∧ isFork sc repo = .ok true := by
  unfold ensureFork
  refine Runs.bind (runs_get (.github _ _ _ hq)) fun h₁ repo s hh hrepo => ?_
  split_ifs
  · refine runs_ofExcept_bind (fun _ => throws_isFork trivial repo) fun accepted haccepted s => ?_
    cases accepted with
    | false => exact runs_raise fails_fault
    | true => exact runs_pure ⟨hrepo, haccepted⟩
  · refine Runs.bind (runs_github (.github _ _ _ (hq.mono hh))) fun h₂ _ s hh' _ => ?_
    exact runs_awaitFork ((hq.mono hh).mono hh')

lemma runs_prepareSource (hq : Qualified tokens route h) {identity : Json} {login : String}
    (hidentity : Fetched tokens route h "/user" identity) (hlogin : readLogin sc identity = .ok login) :
    Runs sc tokens draws (prepareSource sc route tokens.github login) h s fun h' source =>
      Forked sc tokens route h' source := by
  unfold prepareSource
  refine runs_emit_bind fun s => ?_
  refine Runs.bind (runs_github (.github _ _ _ hq)) fun h₁ _ s hh₁ _ => ?_
  refine runs_emit_bind fun s => ?_
  refine Runs.bind (runs_ensureFork (hq.mono hh₁) login) fun h₂ fork s hh₂ hfork => ?_
  have hh := hh₁.trans hh₂
  refine runs_ofExcept_bind (fun _ => throws_text trivial _) fun branch hbranch s => ?_
  refine Runs.bind (runs_get (.github _ _ _ (hq.mono hh))) fun h₃ commit s hh₃ hcommit => ?_
  refine runs_ofExcept_bind (fun htoken => throws_readSha trivial htoken.discreet commit) fun sha hsha s => ?_
  exact runs_pure ⟨identity, login, commit, hidentity.mono (hh.trans hh₃), hlogin,
    hfork.1.mono hh₃, hfork.2, hbranch, hcommit, hsha⟩

/-! ## The place -/

lemma runs_createWorkspace (hq : Qualified tokens route h) {name : String} :
    Runs sc tokens draws (createWorkspace sc route tokens.railway name) h s fun _ _ => True := by
  unfold createWorkspace
  refine Runs.bind (runs_query hq trivial rfl) fun h₁ capability s hh _ => ?_
  dsimp only
  split_ifs
  · refine Runs.bind (runs_query (hq.mono hh) trivial rfl) fun h₂ created s _ _ => ?_
    split
    · exact runs_ofExcept_bind (fun _ => throws_nameOr trivial _ _) fun _ _ s => runs_pure trivial
    · exact runs_pure trivial
  · exact runs_pure trivial

lemma runs_ensureWorkspace (hq : Qualified tokens route h) {owner : Value} :
    Runs sc tokens draws (ensureWorkspace sc route tokens.railway owner) h s fun _ _ => True := by
  unfold ensureWorkspace
  refine runs_ofExcept_bind (fun _ => throws_text trivial _) fun owner _ s => ?_
  refine Runs.bind (runs_query hq trivial rfl) fun h₁ listed s hh _ => ?_
  refine runs_ofExcept_bind (fun _ => throws_findNamed trivial _ _) fun found _ s => ?_
  split
  · exact runs_ofExcept_bind (fun _ => throws_nameOr trivial _ _) fun _ _ s => runs_pure trivial
  · refine Runs.bind (Runs.tryCatch (runs_createWorkspace (hq.mono hh)) (fun _ _ _ => id)
      fun _ _ _ _ _ => runs_pure trivial) fun h₂ created s _ _ => ?_
    split
    · exact runs_pure trivial
    · split
      · exact runs_ofExcept_bind (fun _ => throws_nameOr trivial _ _) fun _ _ s => runs_pure trivial
      · exact runs_raise fails_fault

lemma runs_createProject (hq : Qualified tokens route h) {workspaceId name retryName : String} :
    Runs sc tokens draws (createProject sc route tokens.railway workspaceId name retryName) h s
      fun h' data => ∃ name, Answered sc tokens route h' (.createProject workspaceId name) data := by
  unfold createProject
  refine Runs.tryCatch (runs_query hq trivial rfl) (fun _ _ _ ha => ⟨name, ha⟩) fun h' e s hh he => ?_
  split_ifs
  · have hown : Own sc tokens route h' (.createProject workspaceId retryName) := trivial
    exact (runs_query (hq.mono hh) hown rfl).mono fun _ _ _ ha => ⟨retryName, ha⟩
  · exact runs_raise he

lemma runs_findEnvironment (hq : Qualified tokens route h) {project projectId : Json}
    (hproject : Created sc tokens route h projectId) :
    Runs sc tokens draws (findEnvironment sc route tokens.railway project projectId) h s
      fun _ _ => True := by
  have hload : Runs sc tokens draws (loadEnvironment sc route tokens.railway project projectId) h s
      fun _ _ => True := by
    unfold loadEnvironment
    split
    · exact runs_pure trivial
    · exact Runs.bind (runs_query hq hproject rfl) fun _ _ _ _ _ => runs_pure trivial
  unfold findEnvironment
  refine Runs.bind hload fun h₁ environment s _ _ => ?_
  split
  · exact runs_pure trivial
  · exact runs_raise fails_fault

lemma runs_createService (hq : Qualified tokens route h) {projectId environmentId : Json}
    (hproject : Created sc tokens route h projectId) :
    Runs sc tokens draws (createService sc route tokens.railway projectId environmentId) h s
      fun h' place => Placed sc tokens route h' place ∧
        ∃ data, Answered sc tokens route h' (.configure place) data := by
  unfold createService
  refine Runs.bind (runs_query hq hproject rfl) fun h₁ created s hh hcreated => ?_
  split
  · exact runs_raise fails_fault
  · rename_i serviceId hid
    have hplaced : Placed sc tokens route h₁ ⟨projectId, environmentId, serviceId⟩ :=
      ⟨hproject.mono hh, created, hcreated, hid⟩
    refine Runs.bind (runs_query (hq.mono hh) hplaced rfl) fun h₂ data s hh' hdata => ?_
    exact runs_pure ⟨hplaced.mono hh', data, hdata⟩

lemma runs_createPlace (hq : Qualified tokens route h) {fork : Json} :
    Runs sc tokens draws (createPlace sc route tokens draws fork) h s fun h' r =>
      Placed sc tokens route h' r.2 ∧ ∃ data, Answered sc tokens route h' (.configure r.2) data := by
  unfold createPlace
  refine runs_emit_bind fun s => runs_ofExcept_bind (fun _ => throws_attr trivial _ _) fun owner _ s => ?_
  refine Runs.bind (runs_ensureWorkspace hq) fun h₁ workspace s hh₁ _ => ?_
  refine runs_emit_bind fun s => runs_ofExcept_bind (fun _ => throws_text trivial _) fun ownerText _ s => ?_
  refine Runs.bind (runs_createProject (hq.mono hh₁)) fun h₂ created s hh₂ hcreated => ?_
  have hq₂ := hq.mono (hh₁.trans hh₂)
  split
  · exact runs_raise fails_fault
  · rename_i project hproject
    split
    · exact runs_raise fails_fault
    · rename_i projectId hid
      obtain ⟨name, hcreated⟩ := hcreated
      -- what is asked about this project from here on is asked about one that was created
      have hown : Created sc tokens route h₂ projectId :=
        ⟨workspace.id, name, created, hcreated, hproject ▸ hid⟩
      refine Runs.bind (runs_findEnvironment hq₂ hown) fun h₃ environmentId s hh₃ _ => ?_
      refine runs_emit_bind fun s => ?_
      refine Runs.bind (runs_createService (hq₂.mono hh₃) (hown.mono hh₃)) ?_
      exact fun h₄ place s hh₄ hplace => runs_pure hplace

end Installation
