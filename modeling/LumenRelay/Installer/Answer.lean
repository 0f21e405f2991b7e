import LumenRelay.Installer.Handler
import LumenRelay.Py.Dynamic

/-!
# The answer to a request

A handler is run by itself here: each point gets a reply, which may be an exception, and the other
handlers and the installations change the server in any way while it waits.
-/

namespace Installer

open Lib Lib.Coroutine Py

/-- What comes at each point. -/
abbrev Replies : Type := (p : Point) → Except Failure p.Result

/-- What is changed while a handler waits: the server, and not what it sent to its client. -/
def meanwhile (others : Point → Server → Server) (p : Point) (s : Server × List Reply) :
    Server × List Reply := (others p s.1, s.2)

/-- How the promise of the handler settles, with the server and the responses that were sent. -/
def handle (node : Node) (req : Request) (replies : Replies) (others : Point → Server → Server)
    (s : Server) : Except Failure Unit × Server × List Reply :=
  (nodeHandler node req).runWith replies (meanwhile others) (s, [])

/-- A request for an installation is let through and accepted, and the installation has a result. -/
structure Installs (node : Node) (req : Request) (replies : Replies) (s : Server) (result : Json) :
    Prop where
  method_eq : req.method = "POST"
  url_ok : ∃ url, req.url = some url ∧ url.pathname = "/api/install" ∧ checkHeaders req url = .ok ()
  not_busy : s.activeInstalls < 4
  takes : req.takesRequest = true
  body_ok : ∃ parts body, replies (.body true) = .ok parts ∧ readParts 0 [] parts = .ok body
  text_ok : ∃ raw payload, replies (.text true) = .ok raw ∧ readPayload node raw = .ok payload ∧
    checkTokens payload = .ok ()
  install_ok : replies .install = .ok result

/-- The page is asked for, and its bytes cannot be read. -/
def PageFails (req : Request) (replies : Replies) : Prop :=
  req.method = "GET" ∧ (∃ url, req.url = some url ∧ url.pathname = "/") ∧
    ∃ e, replies .arrayBuffer = .error e

/-! ## Parts of a handler -/

section Parts

variable {node : Node} {req : Request} {url : Url} {replies : Replies}
  {others : Point → Server → Server} {s s' : Server} {α β : Type}

/-- Run a part of a handler that has not sent anything. -/
def run (replies : Replies) (others : Point → Server → Server) (x : Handler α) (s : Server) :
    Except Failure α × Server × List Reply := x.runWith replies (meanwhile others) (s, [])

/-- A part of a handler with this outcome, which sends nothing. -/
def Silent (replies : Replies) (others : Point → Server → Server) (x : Handler α)
    (r : Except Failure α) : Prop := ∀ s, ∃ s', run replies others x s = (r, s', [])

lemma silent_ofExcept (r : Except Failure α) : Silent replies others (Coroutine.ofExcept r) r :=
  fun s => ⟨s, runWith_ofExcept r (s, [])⟩

lemma silent_wait (p : Point) : Silent replies others (wait p) (replies p) :=
  fun s => ⟨others p s, runWith_wait p (s, [])⟩

lemma Silent.bind {x : Handler α} {f : α → Handler β} {r : Except Failure α} {g : α → Except Failure β}
    (hx : Silent replies others x r) (hf : ∀ a, Silent replies others (f a) (g a)) :
    Silent replies others (x >>= f) (r >>= g) := by
  intro s
  obtain ⟨s', hs'⟩ := hx s
  cases r with
  | error e => exact ⟨s', runWith_bind_error hs' f⟩
  | ok a =>
    obtain ⟨s'', hs''⟩ := hf a s'
    exact ⟨s'', (runWith_bind_ok hs' f).trans hs''⟩

lemma silent_readNodeBody (direct : Bool) : Silent replies others (readNodeBody direct)
    (replies (.body direct) >>= readParts 0 []) :=
  (silent_wait _).bind fun _ => silent_ofExcept _

lemma silent_parseInstallRequest (direct : Bool) :
    Silent replies others (parseInstallRequest node req url direct)
      (checkHeaders req url >>= fun _ => replies (.text direct) >>= readPayload node) :=
  (silent_ofExcept _).bind fun _ => (silent_wait _).bind fun _ => silent_ofExcept _

/-- What `handleInstall` comes to. -/
def outcome (node : Node) (req : Request) (url : Url) (replies : Replies) : Except Failure Json :=
  (checkHeaders req url >>= fun _ => replies (.text true) >>= readPayload node) >>= fun payload =>
    checkTokens payload >>= fun _ => replies .install

lemma silent_handleInstall : Silent replies others (handleInstall node req url)
    (outcome node req url replies) :=
  (silent_parseInstallRequest true).bind fun _ => (silent_ofExcept _).bind fun _ => silent_wait _

lemma outcome_eq_ok {result : Json} : outcome node req url replies = .ok result ↔
    checkHeaders req url = .ok () ∧
    (∃ raw payload, replies (.text true) = .ok raw ∧ readPayload node raw = .ok payload ∧
      checkTokens payload = .ok ()) ∧ replies .install = .ok result := by
  constructor
  · intro h
    obtain ⟨payload, hpayload, h⟩ := bind_eq_ok h
    obtain ⟨⟨⟩, hheaders, htext⟩ := bind_eq_ok hpayload
    obtain ⟨raw, hraw, hread⟩ := bind_eq_ok htext
    obtain ⟨⟨⟩, htokens, hinstall⟩ := bind_eq_ok h
    exact ⟨hheaders, ⟨raw, payload, hraw, hread, htokens⟩, hinstall⟩
  · rintro ⟨hheaders, ⟨raw, payload, hraw, hread, htokens⟩, hinstall⟩
    unfold outcome
    rw [hheaders, hraw]
    change (readPayload node raw >>= _) = _
    rw [hread]
    change (checkTokens payload >>= _) = _
    rw [htokens]
    exact hinstall

/-- One response was sent, or an exception was thrown before one was sent. -/
def OneOrNone (value : α) (out : Except Failure α × Server × List Reply) : Prop :=
  (∃ s r, out = (.ok value, s, [r])) ∨ ∃ e s, out = (.error e, s, [])

lemma oneOrNone_sendJson (status : ℕ) (value : Json) (headers : List (String × String)) (s : Server) :
    OneOrNone () (run replies others (sendJson node status value headers) s) := .inl ⟨s, _, rfl⟩

lemma oneOrNone_answered {x : Handler Unit} (h : OneOrNone () (run replies others x s)) :
    OneOrNone (pure ()) (run replies others (answered x) s) := by
  rcases h with ⟨s', r, h⟩ | ⟨e, s', h⟩
  · exact .inl ⟨s', r, runWith_bind_ok h _⟩
  · exact .inr ⟨e, s', runWith_bind_error h _⟩

/-- What comes before the response is sent sends nothing. -/
lemma Silent.oneOrNone {x : Handler α} {f : α → Handler β} {r : Except Failure α} {value : β}
    (hx : Silent replies others x r) (hf : ∀ a s', OneOrNone value (run replies others (f a) s')) :
    OneOrNone value (run replies others (x >>= f) s) := by
  obtain ⟨s', hs'⟩ := hx s
  cases r with
  | error e => exact .inr ⟨e, s', runWith_bind_error hs' f⟩
  | ok a =>
    have hf := hf a s'
    have hrun : run replies others (x >>= f) s = run replies others (f a) s' := runWith_bind_ok hs' f
    rwa [← hrun] at hf

lemma run_server_bind (f : Server → Handler α) :
    run replies others (server >>= f) s = run replies others (f s) s := rfl

lemma run_setServer_bind (g : Server → Server) (f : Unit → Handler α) :
    run replies others (setServer g >>= f) s = run replies others (f ()) (g s) := rfl

lemma oneOrNone_installStatus : OneOrNone () (run replies others (installStatus node url) s) := by
  unfold installStatus
  rw [run_setServer_bind, run_server_bind]
  split
  · exact oneOrNone_sendJson _ _ _ _
  · exact oneOrNone_sendJson _ _ _ _

lemma oneOrNone_installStart : OneOrNone () (run replies others (installStart node req url) s) := by
  unfold installStart
  rw [run_server_bind]
  split
  · exact oneOrNone_sendJson _ _ _ _
  · refine (silent_readNodeBody false).oneOrNone fun body s' => ?_
    dsimp only
    split
    · exact .inr ⟨.other, s', rfl⟩
    · refine (silent_parseInstallRequest false).oneOrNone fun payload s' => ?_
      refine (silent_ofExcept _).oneOrNone fun _ s' => ?_
      rw [run_setServer_bind]
      exact oneOrNone_sendJson _ _ _ _

/-- Where the installation of a request has a result, the `try` block returns the promise of a response
for it, which is not sent yet.  Otherwise it fails before a response. -/
lemma run_install (hmethod : req.method = "POST") (hurl : req.url = some url)
    (hpath : url.pathname = "/api/install") (hbusy : s.activeInstalls < 4) :
    (∃ result s', Installs node req replies s result ∧
      run replies others (install node req url) s = (.ok (sendWebResponse (.plain result)), s', [])) ∨
    ((∀ result, ¬ Installs node req replies s result) ∧
      ∃ e s', run replies others (install node req url) s = (.error e, s', [])) := by
  unfold install
  rw [run_server_bind, if_neg (not_le.mpr hbusy)]
  have hread : Silent replies others (readNodeBody true) _ := silent_readNodeBody true
  obtain ⟨s₁, hs₁⟩ := hread s
  cases hbody : replies (.body true) >>= readParts 0 [] with
  | error e =>
    rw [hbody] at hs₁
    refine .inr ⟨fun result h => ?_, e, s₁, runWith_bind_error hs₁ _⟩
    obtain ⟨parts, body, hparts, hread⟩ := h.body_ok
    rw [hparts] at hbody
    cases hbody.symm.trans hread
  | ok body =>
    obtain ⟨parts, hparts, hread⟩ := bind_eq_ok hbody
    rw [hbody] at hs₁
    have hrun (f : List UInt8 → Handler (Handler Unit)) :
        run replies others (readNodeBody true >>= f) s = run replies others (f body) s₁ :=
      runWith_bind_ok hs₁ f
    rw [hrun]
    dsimp only
    split
    · rename_i htakes
      exact .inr ⟨fun result h => htakes h.takes, .other, s₁, rfl⟩
    · rename_i htakes
      rw [run_setServer_bind]
      have hinstalled : Silent replies others (handleInstall node req url) _ := silent_handleInstall
      obtain ⟨s₂, hs₂⟩ := hinstalled { s₁ with activeInstalls := s₁.activeInstalls + 1 }
      cases houtcome : outcome node req url replies with
      | error e =>
        rw [houtcome] at hs₂
        refine .inr ⟨fun result h => ?_, e, _,
          runWith_andFinally_modify (runWith_bind_error hs₂ _) _⟩
        obtain ⟨url', hurl', -, hheaders⟩ := h.url_ok
        obtain rfl : url' = url := Option.some.inj (hurl'.symm.trans hurl)
        cases houtcome.symm.trans (outcome_eq_ok.mpr ⟨hheaders, h.text_ok, h.install_ok⟩)
      | ok result =>
        rw [houtcome] at hs₂
        obtain ⟨hheaders, htext, hinstall⟩ := outcome_eq_ok.mp houtcome
        have hinstalls : Installs node req replies s result :=
          ⟨hmethod, ⟨url, hurl, hpath, hheaders⟩, hbusy, not_not.mp htakes,
            ⟨parts, body, hparts, hread⟩, htext, hinstall⟩
        exact .inl ⟨result, _, hinstalls, runWith_andFinally_modify (runWith_bind_ok hs₂ _) _⟩

/-! ## Routes -/

/-- The page is asked for. -/
def asksPage (req : Request) (url : Url) : Prop := req.method = "GET" ∧ url.pathname = "/"

/-- An installation is asked for, with its result as the response. -/
def asksInstall (req : Request) (url : Url) : Prop :=
  req.method = "POST" ∧ url.pathname = "/api/install"

lemma oneOrNone_route (hurl : req.url = some url) (hpage : ¬ asksPage req url)
    (hinstall : ¬ asksInstall req url) :
    OneOrNone (pure ()) (run replies others (route node req) s) := by
  unfold route
  rw [hurl]
  dsimp only
  split_ifs
  · refine oneOrNone_answered ?_
    rw [run_server_bind]
    exact oneOrNone_sendJson _ _ _ _
  · refine oneOrNone_answered ?_
    rw [run_server_bind]
    exact oneOrNone_sendJson _ _ _ _
  · refine oneOrNone_answered ((silent_wait Point.refresh).oneOrNone fun ready s' => ?_)
    rw [run_server_bind]
    exact oneOrNone_sendJson _ _ _ _
  · rename_i h
    exact absurd h hpage
  · exact oneOrNone_answered oneOrNone_installStatus
  · exact oneOrNone_answered oneOrNone_installStart
  · rename_i h
    exact absurd h hinstall
  · exact oneOrNone_answered (oneOrNone_sendJson _ _ _ _)

lemma run_route_page (hurl : req.url = some url) (hpage : asksPage req url) :
    run replies others (route node req) s =
      (.ok (sendWebResponse (htmlResponse node req.nonce)), s, []) := by
  obtain ⟨hmethod, hpath⟩ := hpage
  unfold route
  simp only [hurl, hmethod, hpath]
  rfl

lemma run_route_install (hurl : req.url = some url) (hinstall : asksInstall req url) :
    run replies others (route node req) s = run replies others (install node req url) s := by
  obtain ⟨hmethod, hpath⟩ := hinstall
  unfold route
  simp only [hurl, hmethod, hpath]
  rfl

/-- What the `try` block sent is all that is sent, and an exception of it is answered. -/
lemma handle_of_oneOrNone (h : OneOrNone (pure ()) (run replies others (route node req) s)) :
    ∃ s' r, handle node req replies others s = (.ok (), s', [r]) := by
  rcases h with ⟨s', r, h⟩ | ⟨e, s', h⟩
  · exact ⟨s', r, runWith_bind_ok (runWith_tryCatch_ok h _) _⟩
  · have hcaught := runWith_tryCatch_error h fun e => answered (sendJson node e.status (.obj
      [("ok", .bool false), ("error", installErrorDetail req.requestId e)]) [])
    exact ⟨s', _, runWith_bind_ok hcaught _⟩

/-- A promise that the `try` block returned settles outside of it. -/
lemma handle_of_promise {promise : Handler Unit}
    (h : run replies others (route node req) s = (.ok promise, s', [])) :
    handle node req replies others s = run replies others promise s' :=
  runWith_bind_ok (runWith_tryCatch_ok h _) _

end Parts

/-! ## The answer -/

/-- A promise that is resolved after exactly one response, which has the result of the installation
that succeeded for it. -/
def Answered (node : Node) (req : Request) (replies : Replies) (s : Server)
    (out : Except Failure Unit × Server × List Reply) : Prop :=
  ∃ s' r, out = (.ok (), s', [r]) ∧ ∀ result, Installs node req replies s result →
    (node.stringify result).toList <:+: r.body.toList

section Answer

variable {node : Node} {req : Request} {url : Url} {replies : Replies}
  {others : Point → Server → Server} {s : Server}

/-- A response is an answer when there is no result that it must have. -/
lemma answered_iff_of_sent (h : ∃ s' r, handle node req replies others s = (.ok (), s', [r]))
    (hinstall : ∀ result, ¬ Installs node req replies s result) (hpage : ¬ PageFails req replies) :
    Answered node req replies s (handle node req replies others s) ↔
      (¬ ∃ result, Installs node req replies s result) ∧ ¬ PageFails req replies := by
  obtain ⟨s', r, h⟩ := h
  constructor
  · exact fun _ => ⟨fun ⟨result, hresult⟩ => hinstall result hresult, hpage⟩
  · exact fun _ => ⟨s', r, h, fun result hresult => absurd hresult (hinstall result)⟩

/-- A promise that is rejected is no answer. -/
lemma not_answered {e : Failure} {s' : Server × List Reply}
    (h : handle node req replies others s = (.error e, s')) :
    ¬ Answered node req replies s (handle node req replies others s) := by
  rintro ⟨s'', r, hok, -⟩
  cases h.symm.trans hok

lemma Installs.asks (hurl : req.url = some url) {result : Json}
    (h : Installs node req replies s result) : asksInstall req url := by
  obtain ⟨url', hurl', hpath, -⟩ := h.url_ok
  obtain rfl : url' = url := Option.some.inj (hurl'.symm.trans hurl)
  exact ⟨h.method_eq, hpath⟩

lemma PageFails.asks (hurl : req.url = some url) (h : PageFails req replies) : asksPage req url := by
  obtain ⟨hmethod, ⟨url', hurl', hpath⟩, -⟩ := h
  obtain rfl : url' = url := Option.some.inj (hurl'.symm.trans hurl)
  exact ⟨hmethod, hpath⟩

lemma not_asks_both (hpage : asksPage req url) : ¬ asksInstall req url := by
  intro hinstall
  have hmethods := hpage.1.symm.trans hinstall.1
  exact absurd hmethods (by decide +kernel)

/-- The page is sent after its bytes are read. -/
lemma answered_page_iff (hurl : req.url = some url) (hpage : asksPage req url) :
    Answered node req replies s (handle node req replies others s) ↔
      (¬ ∃ result, Installs node req replies s result) ∧ ¬ PageFails req replies := by
  have hnone (result : Json) : ¬ Installs node req replies s result :=
    fun h => not_asks_both hpage (h.asks hurl)
  have hroute : run replies others (route node req) s = _ := run_route_page hurl hpage
  have hhandle := handle_of_promise hroute
  have hbytes : run replies others (wait Point.arrayBuffer) s = _ := runWith_wait _ _
  cases hreply : replies .arrayBuffer with
  | error e =>
    rw [hreply] at hbytes
    have hrejected := hhandle.trans (runWith_bind_error hbytes _)
    have hfails : PageFails req replies := ⟨hpage.1, ⟨url, hurl, hpage.2⟩, e, hreply⟩
    exact ⟨fun h => absurd h (not_answered hrejected), fun h => absurd hfails h.2⟩
  | ok bytes =>
    rw [hreply] at hbytes
    refine answered_iff_of_sent ⟨_, _, hhandle.trans (runWith_bind_ok hbytes _)⟩ hnone ?_
    rintro ⟨-, -, e, he⟩
    cases hreply.symm.trans he

/-- The response for the result of an installation is not sent: it is no `Response`. -/
lemma answered_install_iff (hurl : req.url = some url) (hasks : asksInstall req url) :
    Answered node req replies s (handle node req replies others s) ↔
      (¬ ∃ result, Installs node req replies s result) ∧ ¬ PageFails req replies := by
  have hpage : ¬ PageFails req replies := fun h => not_asks_both (h.asks hurl) hasks
  have hroute : run replies others (route node req) s = _ := run_route_install hurl hasks
  by_cases hbusy : s.activeInstalls < 4
  · have hinstall : _ ∨ (_ ∧ ∃ e s', run replies others (install node req url) s = (.error e, s', [])) :=
      run_install hasks.1 hurl hasks.2 hbusy
    rcases hinstall with ⟨result, s', hresult, hrun⟩ | ⟨hnone, e, s', hrun⟩
    · have hrejected := handle_of_promise (hroute.trans hrun)
      exact ⟨fun h => absurd h (not_answered hrejected), fun h => absurd ⟨result, hresult⟩ h.1⟩
    · refine answered_iff_of_sent (handle_of_oneOrNone ?_) hnone hpage
      exact .inr ⟨e, s', hroute.trans hrun⟩
  · -- the installer is busy
    refine answered_iff_of_sent (handle_of_oneOrNone ?_) (fun _ h => hbusy h.not_busy) hpage
    rw [hroute]
    unfold install
    rw [run_server_bind, if_pos (not_lt.mp hbusy)]
    exact oneOrNone_answered (oneOrNone_sendJson _ _ _ _)

/-- Whatever the operations of a handler come to, the request is answered, unless an installation that
the response waits for succeeds, or the bytes of the page cannot be read. -/
theorem request_is_answered_iff :
    Answered node req replies s (handle node req replies others s) ↔
      (¬ ∃ result, Installs node req replies s result) ∧ ¬ PageFails req replies := by
  cases hurl : req.url with
  | none =>
    have hroute : OneOrNone (pure ()) (run replies others (route node req) s) := by
      unfold route
      rw [hurl]
      exact .inr ⟨.other, s, rfl⟩
    refine answered_iff_of_sent (handle_of_oneOrNone hroute) (fun _ h => ?_) fun h => ?_
    · obtain ⟨url, hsome, -⟩ := h.url_ok
      cases hurl.symm.trans hsome
    · obtain ⟨-, ⟨url, hsome, -⟩, -⟩ := h
      cases hurl.symm.trans hsome
  | some url =>
    by_cases hpage : asksPage req url
    · exact answered_page_iff hurl hpage
    · by_cases hinstall : asksInstall req url
      · exact answered_install_iff hurl hinstall
      · exact answered_iff_of_sent (handle_of_oneOrNone (oneOrNone_route hurl hpage hinstall))
          (fun _ h => hinstall (h.asks hurl)) fun h => hpage (h.asks hurl)

end Answer

/-- Everything succeeds. -/
def exampleReplies : Replies
  | .body _ => .ok []
  | .text _ => .ok "\x7b\x7d"
  | .install => .ok (.obj [("ok", .bool true)])
  | .refresh => .ok true
  | .arrayBuffer => .ok ()

/-- An installation succeeds, and its request gets no response. -/
theorem result_is_not_sent :
    let req := exampleRequest "/api/install"
    let s : Server := ⟨0, [], ⟨true, []⟩, 0⟩
    let out := handle exampleNode req exampleReplies (fun _ s => s) s
    out.1.isOk = false ∧ out.2.2.length = 0 ∧ ¬ Answered exampleNode req exampleReplies s out := by
  have hrejected : (handle exampleNode (exampleRequest "/api/install") exampleReplies (fun _ s => s)
      ⟨0, [], ⟨true, []⟩, 0⟩).1.isOk = false := by decide +kernel
  refine ⟨hrejected, by decide +kernel, ?_⟩
  rintro ⟨s', r, hout, -⟩
  rw [hout] at hrejected
  cases hrejected

end Installer
