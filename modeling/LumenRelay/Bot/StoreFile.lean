import LumenRelay.Bot.Data
import LumenRelay.Lib.Machine
import LumenRelay.Py.Sample
import LumenRelay.State.Files

/-!
# The store file

The bot reads its store from a file when it starts, and writes the store to this file after its
operations, when its offset moves, and when it stops.  A start that cannot read the file goes on with
a new store, and one that finds a collection of a wrong type goes on without it; so with the next
save nothing is left of what could not be read.
-/

namespace Bot

open Lib Py

/-! ## Loading -/

/-- The collections that `_load_store` takes over one by one. -/
def storeCollections : List String := ["users", "orders", "gift_codes", "discount_codes"]

/-- `_default_store`, as it is written. -/
def defaultStoreJson (env : Env) : Obj :=
  [("version", .int 2), ("poll_offset", .int 0), ("users", .obj []), ("orders", .obj []),
    ("gift_codes", .obj []), ("discount_codes", .obj []), ("redemption_audit", .arr []),
    ("admin_audit", .arr []),
    ("settings", .obj [("store_name", .str env.storeName), ("card_number", .str env.cardNumber),
      ("card_holder", .str env.cardHolder), ("support", .str env.support),
      ("currency", .str "تومان")])]

/-- `base[key] = loaded[key]`, if this is a dictionary. -/
def takeCollection (loaded base : Obj) (key : String) : Obj :=
  match loaded.get key with
  | .obj records => base.set key (.obj records)
  | _ => base

/-- The last entries of an audit, if it is a list. -/
def takeAudit (loaded : Obj) (key : String) (n : ℕ) (base : Obj) : Obj :=
  match loaded.get key with
  | .arr entries => base.set key (.arr (lastN n entries))
  | _ => base

/-- The offset, if it is a number that is not negative; a truth value is a number. -/
def takeOffset (loaded base : Obj) : Obj :=
  match loaded.get "poll_offset" with
  | .int n => if 0 ≤ n then base.set "poll_offset" (.int n) else base
  | .bool b => base.set "poll_offset" (.bool b)
  | _ => base

/-- `settings.update(fields)`. -/
def mergeFields (settings fields : Obj) : Obj :=
  fields.foldl (fun settings e => settings.set e.1 e.2) settings

/-- The settings, with the variables of the environment that are set. -/
def takeSettings (env : Env) (loaded : Obj) : Obj :=
  let settings := mergeFields (((defaultStoreJson env).get "settings").asObj.getD [])
    ((loaded.get "settings").asObj.getD [])
  let settings :=
    if env.cardNumber ≠ "" then settings.set "card_number" (.str env.cardNumber) else settings
  let settings :=
    if env.cardHolder ≠ "" then settings.set "card_holder" (.str env.cardHolder) else settings
  if env.support ≠ "" then settings.set "support" (.str env.support) else settings

/-- `_load_store` on the object in the file. -/
def mergeStore (env : Env) (loaded : Obj) : Obj :=
  let base := storeCollections.foldl (takeCollection loaded) (defaultStoreJson env)
  let base := takeAudit loaded "redemption_audit" 5000 base
  let base := takeAudit loaded "admin_audit" 1000 base
  (takeOffset loaded base).set "settings" (.obj (takeSettings env loaded))

/-- `_load_store`: whatever cannot be read gives a new store. -/
def loadStoreFile (rt : Runtime) (env : Env) : State.Stored → Obj
  | .absent => defaultStoreJson env
  | .unreadable => defaultStoreJson env
  | .holds bytes =>
    match rt.decodeUtf8 bytes >>= rt.jsonLoads with
    | some (.obj loaded) => mergeStore env loaded
    | _ => defaultStoreJson env

/-! ## The bot and its file -/

/-- The file, the store, and the copies of the store that are being written. -/
structure StoreProcess where
  file : State.Stored
  store : Obj
  writes : List Obj

/-- The bot after a start. -/
def StoreProcess.started (rt : Runtime) (env : Env) (file : State.Stored) : StoreProcess :=
  ⟨file, loadStoreFile rt env file, []⟩

/-- An operation changes the store; a save takes a copy of it; and the write of a copy succeeds or
fails. -/
inductive StoreLabel (ω : Type)
  | perform (operation : ω)
  | save
  | written (i : ℕ) (success : Bool)

/-- The bot at work on its store, with any operations.  The copies that replace the file are its
events; a copy without a text is not written. -/
def storeProcess {ω : Type} (rt : Runtime) (perform : ω → Obj → Obj) :
    Machine StoreProcess (StoreLabel ω) Obj where
  step p
    | .perform operation => some ({ p with store := perform operation p.store }, [])
    | .save => some ({ p with writes := p.writes ++ [p.store] }, [])
    | .written i success =>
      match p.writes[i]? with
      | none => none
      | some copy =>
        let p := { p with writes := p.writes.eraseIdx i }
        if success then
          (rt.jsonDumps .indented (.obj copy)).map fun text =>
            ({ p with file := .holds text }, [copy])
        else some (p, [])

/-- A write that replaces the file. -/
def StoreLabel.replaces {ω : Type} : StoreLabel ω → Bool
  | .written _ success => success
  | _ => false

/-! ## Stores that are derived from a file -/

/-- The value of the text of a file, where it can be read and has one. -/
def document (rt : Runtime) : State.Stored → Option Json
  | .holds bytes => rt.decodeUtf8 bytes >>= rt.jsonLoads
  | _ => none

/-- What a file may say: the object that it holds, and anything where it exists and holds none. -/
structure MaySay (rt : Runtime) (file : State.Stored) (doc : Obj) : Prop where
  exists_file : file ≠ .absent
  object : ∀ loaded, document rt file = some (.obj loaded) → doc = loaded

/-- A store keeps a file: its collections are those of the file, whatever the file may say. -/
def Keeps (rt : Runtime) (file : State.Stored) (store : Obj) : Prop :=
  ∀ doc, MaySay rt file doc → ∀ key ∈ storeCollections, ∀ value, doc.find key = some value →
    store.get key = value

/-- A store is what operations made of another one. -/
def MadeOf {ω : Type} (perform : ω → Obj → Obj) (start store : Obj) : Prop :=
  ∃ operations : List ω, store = operations.foldl (fun store operation => perform operation store) start

/-- A store is derived from a file when operations made it of a store that keeps the file. -/
structure DerivedFrom {ω : Type} (rt : Runtime) (perform : ω → Obj → Obj) (file : State.Stored)
    (start store : Obj) : Prop where
  keeps : Keeps rt file start
  made : MadeOf perform start store

/-- The file holds a store: it can be read, and its collections are dictionaries. -/
structure HoldsStore (rt : Runtime) (file : State.Stored) (loaded : Obj) : Prop where
  text : document rt file = some (.obj loaded)
  collections : ∀ key ∈ storeCollections, ∀ value, loaded.find key = some value →
    ∃ records, value = .obj records

/-- A dictionary of an object. -/
def dictionary (doc : Obj) (key : String) : Option Obj :=
  match doc.get key with
  | .obj records => some records
  | _ => none

/-- A dictionary of a file. -/
def records (rt : Runtime) (file : State.Stored) (key : String) : Option Obj :=
  match document rt file with
  | some (.obj doc) => dictionary doc key
  | _ => none

variable {ω : Type} {rt : Runtime} {env : Env} {perform : ω → Obj → Obj} {file : State.Stored}
  {start store : Obj} {visited : List StoreProcess} {written : List Obj} {p p' : StoreProcess}

/-! ### What a start makes of a file -/

lemma get_takeCollection (loaded base : Obj) (key key' : String) :
    (takeCollection loaded base key).get key' =
      if key' = key then ((dictionary loaded key).map Json.obj).getD (base.get key')
      else base.get key' := by
  unfold takeCollection dictionary
  split_ifs with hkey
  · subst hkey
    cases loaded.get key' with
    | obj records => simp
    | null | bool b | int n | float x | str text | arr entries => rfl
  · cases loaded.get key with
    | obj records => exact Obj.get_set_ne hkey _ _
    | null | bool b | int n | float x | str text | arr entries => rfl

/-- The collections are taken over one by one; the induction is on those still to come. -/
lemma get_takeCollections (loaded : Obj) (keys : List String) (base : Obj) (key : String) :
    (keys.foldl (takeCollection loaded) base).get key =
      if key ∈ keys then ((dictionary loaded key).map Json.obj).getD (base.get key)
      else base.get key := by
  induction keys generalizing base with
  | nil => rfl
  | cons k keys ih =>
    rw [List.foldl_cons, ih, get_takeCollection]
    by_cases hk : key = k
    · subst hk
      cases dictionary loaded key <;> simp
    · simp [hk]

lemma get_takeAudit (loaded base : Obj) (n : ℕ) {key key' : String} (h : key' ≠ key) :
    (takeAudit loaded key n base).get key' = base.get key' := by
  unfold takeAudit
  split
  · exact Obj.get_set_ne h _ _
  · rfl

lemma get_takeOffset (loaded base : Obj) {key : String} (h : key ≠ "poll_offset") :
    (takeOffset loaded base).get key = base.get key := by
  unfold takeOffset
  split
  · split
    · exact Obj.get_set_ne h _ _
    · rfl
  · exact Obj.get_set_ne h _ _
  · rfl

/-- A collection of the store that is made of an object is the object's dictionary, or empty. -/
lemma get_mergeStore (loaded : Obj) {key : String} (h : key ∈ storeCollections) :
    (mergeStore env loaded).get key = .obj ((dictionary loaded key).getD []) := by
  have hne : key ≠ "settings" ∧ key ≠ "poll_offset" ∧ key ≠ "admin_audit" ∧
      key ≠ "redemption_audit" ∧ (defaultStoreJson env).get key = .obj [] := by
    simp only [storeCollections, List.mem_cons, List.not_mem_nil, or_false] at h
    rcases h with rfl | rfl | rfl | rfl <;> exact ⟨by decide, by decide, by decide, by decide, rfl⟩
  obtain ⟨hsettings, hoffset, hadmin, hredemption, hdefault⟩ := hne
  unfold mergeStore
  dsimp only
  rw [Obj.get_set_ne hsettings, get_takeOffset _ _ hoffset, get_takeAudit _ _ _ hadmin,
    get_takeAudit _ _ _ hredemption, get_takeCollections, if_pos h, hdefault]
  cases dictionary loaded key <;> rfl

/-- The bot starts with the dictionaries of the file, and with an empty collection where the file has
none: where it cannot be read, where it holds no object, and where the collection has a wrong type. -/
lemma get_loadStoreFile {key : String} (h : key ∈ storeCollections) :
    (loadStoreFile rt env file).get key = .obj ((records rt file key).getD []) := by
  have hdefault : (defaultStoreJson env).get key = .obj [] := by
    simp only [storeCollections, List.mem_cons, List.not_mem_nil, or_false] at h
    rcases h with rfl | rfl | rfl | rfl <;> rfl
  cases file with
  | absent => exact hdefault
  | unreadable => exact hdefault
  | holds bytes =>
    simp only [loadStoreFile, records, document]
    generalize rt.decodeUtf8 bytes >>= rt.jsonLoads = value
    rcases value with _ | value
    · exact hdefault
    · cases value with
      | obj loaded => exact get_mergeStore loaded h
      | null | bool b | int n | float x | str text | arr entries => exact hdefault

/-- A start keeps the file if and only if the file is absent or holds a store. -/
lemma keeps_loadStoreFile_iff : Keeps rt file (loadStoreFile rt env file) ↔
    file = .absent ∨ ∃ loaded, HoldsStore rt file loaded := by
  constructor
  · intro h
    by_cases habsent : file = .absent
    · exact .inl habsent
    · right
      by_cases hobject : ∃ loaded, document rt file = some (.obj loaded)
      · obtain ⟨loaded, htext⟩ := hobject
        refine ⟨loaded, htext, fun key hkey value hvalue => ?_⟩
        have hmay : MaySay rt file loaded := by
          refine ⟨habsent, fun loaded' htext' => ?_⟩
          cases htext.symm.trans htext'
          rfl
        have hkept := h loaded hmay key hkey value hvalue
        rw [get_loadStoreFile hkey] at hkept
        exact ⟨_, hkept.symm⟩
      · -- the file may say one thing as well as another
        exfalso
        have hmay : ∀ doc, MaySay rt file doc := fun doc =>
          ⟨habsent, fun loaded htext => absurd ⟨loaded, htext⟩ hobject⟩
        have hempty := h [("users", .obj [])] (hmay _) "users" List.mem_cons_self _ rfl
        have hone := h [("users", .obj [("7", .obj [])])] (hmay _) "users" List.mem_cons_self _ rfl
        rw [hempty] at hone
        cases hone
  · rintro (rfl | ⟨loaded, hholds⟩)
    · intro doc hmay
      exact absurd rfl hmay.exists_file
    · intro doc hmay key hkey value hvalue
      obtain rfl := hmay.object loaded hholds.text
      obtain ⟨entries, rfl⟩ := hholds.collections key hkey value hvalue
      have hget : doc.get key = .obj entries := by
        unfold Obj.find at hvalue
        simp [Obj.get, Obj.getD, hvalue]
      rw [get_loadStoreFile hkey, records, hholds.text]
      simp [dictionary, hget]

lemma not_keeps_of_document {bytes : List UInt8} (h : document rt (.holds bytes) = none) :
    ¬ Keeps rt (.holds bytes) (StoreProcess.started rt env (.holds bytes)).store := by
  rw [StoreProcess.started, keeps_loadStoreFile_iff]
  rintro (habsent | ⟨loaded, hholds⟩)
  · cases habsent
  · cases h.symm.trans hholds.text

/-! ### Runs -/

lemma MadeOf.operate (h : MadeOf perform start store) (operation : ω) :
    MadeOf perform start (perform operation store) := by
  obtain ⟨operations, rfl⟩ := h
  refine ⟨operations ++ [operation], ?_⟩
  rw [List.foldl_append]
  rfl

/-- The store, the copies that are being written and those that were written come from the store of
the start. -/
structure AllMade (perform : ω → Obj → Obj) (start : Obj) (written : List Obj) (p : StoreProcess) :
    Prop where
  store : MadeOf perform start p.store
  writes : ∀ copy ∈ p.writes, MadeOf perform start copy
  written : ∀ copy ∈ written, MadeOf perform start copy

/-- What a step does: an operation, a save that takes its copy, or the end of a write. -/
lemma storeProcess_cases {l : StoreLabel ω} {es : List Obj}
    (hstep : (storeProcess rt perform).step p l = some (p', es)) :
    (∃ operation, l = .perform operation ∧ p'.store = perform operation p.store ∧
        p'.writes = p.writes ∧ es = []) ∨
      (l = .save ∧ p'.store = p.store ∧ p'.writes = p.writes ++ [p.store] ∧ es = []) ∨
      ∃ i success copy, l = .written i success ∧ p.writes[i]? = some copy ∧ p'.store = p.store ∧
        p'.writes = p.writes.eraseIdx i ∧ es = if success then [copy] else [] := by
  cases l with
  | perform operation =>
    obtain ⟨rfl, rfl⟩ := Prod.mk.inj (Option.some.inj hstep)
    exact .inl ⟨operation, rfl, rfl, rfl, rfl⟩
  | save =>
    obtain ⟨rfl, rfl⟩ := Prod.mk.inj (Option.some.inj hstep)
    exact .inr (.inl ⟨rfl, rfl, rfl, rfl⟩)
  | written i success =>
    simp only [storeProcess] at hstep
    split at hstep
    · cases hstep
    · rename_i copy hcopy
      refine .inr (.inr ⟨i, success, copy, rfl, hcopy, ?_⟩)
      cases success with
      | true =>
        obtain ⟨text, -, heq⟩ := Option.map_eq_some_iff.mp hstep
        obtain ⟨rfl, rfl⟩ := Prod.mk.inj heq
        exact ⟨rfl, rfl, rfl⟩
      | false =>
        obtain ⟨rfl, rfl⟩ := Prod.mk.inj (Option.some.inj hstep)
        exact ⟨rfl, rfl, rfl⟩

lemma AllMade.step {l : StoreLabel ω} {es : List Obj} (h : AllMade perform start written p)
    (hstep : (storeProcess rt perform).step p l = some (p', es)) :
    AllMade perform start (written ++ es) p' := by
  obtain ⟨operation, -, hstore, hwrites, rfl⟩ | ⟨-, hstore, hwrites, rfl⟩ |
    ⟨i, success, copy, -, hcopy, hstore, hwrites, rfl⟩ := storeProcess_cases hstep
  · rw [List.append_nil]
    exact ⟨hstore ▸ h.store.operate operation, hwrites ▸ h.writes, h.written⟩
  · rw [List.append_nil]
    refine ⟨hstore ▸ h.store, fun copy hcopy => ?_, h.written⟩
    rw [hwrites, List.mem_append, List.mem_singleton] at hcopy
    rcases hcopy with hold | rfl
    · exact h.writes copy hold
    · exact h.store
  · refine ⟨hstore ▸ h.store, fun copy' hmem => ?_, fun copy' hmem => ?_⟩
    · rw [hwrites] at hmem
      exact h.writes copy' (List.mem_of_mem_eraseIdx hmem)
    · rcases List.mem_append.mp hmem with hold | hnew
      · exact h.written copy' hold
      · cases success with
        | true =>
          rw [List.mem_singleton.mp hnew]
          exact h.writes copy (List.mem_of_getElem? hcopy)
        | false => cases hnew

/-- Every store that replaces the file comes from the store of the start. -/
lemma madeOf_of_run
    (hrun : (storeProcess rt perform).Run (.started rt env file) visited written p) :
    ∀ store ∈ written, MadeOf perform (loadStoreFile rt env file) store := by
  have hstart : AllMade perform (loadStoreFile rt env file) [] (.started rt env file) :=
    ⟨⟨[], rfl⟩, nofun, nofun⟩
  exact (hrun.invariant_events
    (I := fun written p => AllMade perform (loadStoreFile rt env file) written p) hstart
    fun _ _ _ _ _ h hstep => h.step hstep).written

/-- A step replaces the file by one store if its label says so, and by none otherwise. -/
lemma length_of_step {l : StoreLabel ω} {es : List Obj}
    (hstep : (storeProcess rt perform).step p l = some (p', es)) :
    es.length = if l.replaces then 1 else 0 := by
  obtain ⟨operation, rfl, -, -, rfl⟩ | ⟨rfl, -, -, rfl⟩ | ⟨i, success, copy, rfl, -, -, -, rfl⟩ :=
    storeProcess_cases hstep
  · rfl
  · rfl
  · cases success <;> rfl

/-- Nothing replaces the file if and only if no step is a write that replaces it. -/
lemma written_eq_nil_iff {labels : List (StoreLabel ω)}
    (hexec : (storeProcess rt perform).exec labels p = some (visited, written, p')) :
    written = [] ↔ ∀ l ∈ labels, l.replaces = false := by
  induction labels generalizing p visited written with
  | nil =>
    cases hexec
    simp
  | cons l labels ih =>
    rw [Machine.exec] at hexec
    cases hstep : (storeProcess rt perform).step p l with
    | none => simp [hstep] at hexec
    | some r =>
      obtain ⟨p₁, es⟩ := r
      simp only [hstep, Option.map_eq_some_iff] at hexec
      obtain ⟨⟨visited', written', p''⟩, hrest, heq⟩ := hexec
      cases heq
      have hlength := length_of_step hstep
      rw [List.append_eq_nil_iff, ih hrest, List.forall_mem_cons, ← List.length_eq_zero_iff, hlength]
      cases l.replaces <;> simp

/-- Whatever file is there at the start, and whatever the bot does after it has loaded its store:
every store that replaces the file is derived from it if and only if there was no file, or the file
holds a store, or no write replaces it.  In every run, the bot starts with the dictionaries of the
file and with an empty collection where the file has none, and what replaces the file is made of
this. -/
theorem replaced_by_derived_iff {labels : List (StoreLabel ω)}
    (hexec : (storeProcess rt perform).exec labels (.started rt env file) =
      some (visited, written, p)) :
    let start := (StoreProcess.started rt env file).store
    ((∀ store ∈ written, DerivedFrom rt perform file start store) ↔
        file = .absent ∨ (∃ loaded, HoldsStore rt file loaded) ∨ ∀ l ∈ labels, l.replaces = false) ∧
      (∀ key ∈ storeCollections, start.get key = .obj ((records rt file key).getD [])) ∧
      ∀ store ∈ written, MadeOf perform start store := by
  have hmade := madeOf_of_run (Machine.Run.start.exec hexec)
  rw [List.nil_append] at hmade
  refine ⟨?_, fun key hkey => get_loadStoreFile hkey, hmade⟩
  have hkeeps : Keeps rt file (loadStoreFile rt env file) ↔ _ := keeps_loadStoreFile_iff
  rw [← or_assoc, ← hkeeps, ← written_eq_nil_iff hexec]
  constructor
  · intro h
    cases written with
    | nil => exact .inr rfl
    | cons store rest => exact .inl (h store List.mem_cons_self).keeps
  · rintro (hkeeps | rfl)
    · exact fun store hmem => ⟨hkeeps, hmade store hmem⟩
    · exact nofun

/-- A shop without settings. -/
def namelessShop : Env := ⟨"", "", "", "", [], 0, 0⟩

/-- The polling offset moves. -/
def moveOffset (offset : ℕ) (store : Obj) : Obj := store.set "poll_offset" (.int offset)

/-- A store with the balance of a user. -/
def balances : Obj := [("users", .obj [("7", .obj [("balance", .int 5000)])])]

/-- The text of this store. -/
def balanceText : List UInt8 := (Runtime.sample.jsonDumps .indented (.obj balances)).getD []

lemma balanceText_holds : HoldsStore .sample (.holds balanceText) balances := by
  have hloads : document .sample (.holds balanceText) = some (.obj balances) := by decide +kernel
  refine ⟨hloads, fun key hkey value hvalue => ?_⟩
  obtain ⟨rfl, rfl⟩ : key = "users" ∧ .obj [("7", .obj [("balance", .int 5000)])] = value := by
    simp only [storeCollections, List.mem_cons, List.not_mem_nil, or_false] at hkey
    rcases hkey with rfl | rfl | rfl | rfl
    · exact ⟨rfl, Option.some.inj hvalue⟩
    all_goals cases hvalue
  exact ⟨_, rfl⟩

/-- The offset moves after the file was loaded, and the store is written with the users in it. -/
theorem replaced_by_derived_balance : ∃ visited written p,
    (storeProcess .sample moveOffset).exec [.perform 8, .save, .written 0 true]
        (.started .sample namelessShop (.holds balanceText)) = some (visited, written, p) ∧
      written.map (fun store => store.get "users") =
        [.obj [("7", .obj [("balance", .int 5000)])]] ∧
      ∀ store ∈ written, DerivedFrom .sample moveOffset (.holds balanceText)
        (StoreProcess.started .sample namelessShop (.holds balanceText)).store store := by
  have hends : ((storeProcess .sample moveOffset).exec [.perform 8, .save, .written 0 true]
      (.started .sample namelessShop (.holds balanceText))).any (fun r =>
        r.2.1.map (fun store => store.get "users") =
          [.obj [("7", .obj [("balance", .int 5000)])]]) = true := by decide +kernel
  obtain ⟨⟨visited, written, p⟩, hexec, husers⟩ := (Option.any_eq_true _ _).mp hends
  exact ⟨visited, written, p, hexec, of_decide_eq_true husers,
    (replaced_by_derived_iff hexec).1.mpr (.inr (.inl ⟨_, balanceText_holds⟩))⟩

/-- The file was cut: the bot starts with a new store, and replaces the file when it stops. -/
theorem replaced_by_new_store : ∃ visited written p,
    (storeProcess .sample moveOffset).exec [.save, .written 0 true]
        (.started .sample namelessShop (.holds (balanceText.take 20))) = some (visited, written, p) ∧
      written = [defaultStoreJson namelessShop] ∧
      ¬ ∀ store ∈ written, DerivedFrom .sample moveOffset (.holds (balanceText.take 20))
        (StoreProcess.started .sample namelessShop (.holds (balanceText.take 20))).store store := by
  have hends : ((storeProcess .sample moveOffset).exec [.save, .written 0 true]
      (.started .sample namelessShop (.holds (balanceText.take 20)))).any (fun r =>
        r.2.1 = [defaultStoreJson namelessShop]) = true := by decide +kernel
  obtain ⟨⟨visited, written, p⟩, hexec, hwritten⟩ := (Option.any_eq_true _ _).mp hends
  have hnew : written = [defaultStoreJson namelessShop] := of_decide_eq_true hwritten
  have hcut : document .sample (.holds (balanceText.take 20)) = none := by decide +kernel
  refine ⟨visited, written, p, hexec, hnew, fun hderived => ?_⟩
  have hmem : defaultStoreJson namelessShop ∈ written := by
    rw [hnew]
    exact List.mem_cons_self
  exact @not_keeps_of_document _ namelessShop _ hcut (hderived _ hmem).keeps

end Bot
