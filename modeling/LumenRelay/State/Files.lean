import LumenRelay.Lib.Disk
import LumenRelay.Py.Text
import LumenRelay.State.Snapshot

/-!
# The state file and its backups

The state is written to a temporary file that then takes the place of the state file; before
that the state file and its backup move down by one place.  A start reads the first of the
three files that holds a state, and the snapshot if none does.  Whatever a crash cuts, the
state file is the one that was written last or the one being written.
-/

namespace State

open Lib Py Routing

/-! ## Reading -/

/-- The files: `DATA_FILE`, the two of `STATE_BACKUPS` and the temporary one. -/
inductive StateFile
  | data
  | backup1
  | backup2
  | tmp
deriving DecidableEq, Repr

/-- `path.name`. -/
def StateFile.name : StateFile → String
  | .data => "code_state.json"
  | .backup1 => "code_state.backup-1.json"
  | .backup2 => "code_state.backup-2.json"
  | .tmp => "code_state.tmp"

/-- What is found under the name of a file. -/
inductive Stored
  | absent
  | unreadable
  | holds (bytes : List UInt8)
deriving DecidableEq

/-- What is found for the content of a file that can be read. -/
def Stored.ofContent : Option (List UInt8) → Stored
  | none => .absent
  | some bytes => .holds bytes

/-- The state in a file. -/
def readCopy (rt : Runtime) : Stored → Except PyErr Obj
  | .absent => .error (.osError "No such file or directory")
  | .unreadable => .error (.osError "the file cannot be read")
  | .holds bytes =>
    match rt.decodeUtf8 bytes >>= rt.jsonLoads with
    | none => .error (.valueError "the file holds no JSON text")
    | some value => validateState value

/-- The candidates of `load_state`, in their order. -/
def candidates : List StateFile := [.data, .backup1, .backup2]

/-- The candidates that exist. -/
def existing (disk : StateFile → Stored) : List StateFile :=
  candidates.filter fun file => disk file ≠ .absent

/-- The first file with a state in it, and the errors of the files before it. -/
def firstCopy (rt : Runtime) (disk : StateFile → Stored) :
    List StateFile → Option (StateFile × Obj) × List String
  | [] => (none, [])
  | file :: files =>
    match readCopy rt (disk file) with
    | .ok data => (some (file, data), [])
    | .error e =>
      let rest := firstCopy rt disk files
      (rest.1, (file.name ++ ": " ++ errorText e) :: rest.2)

/-- Where a state was loaded from. -/
inductive Origin
  | file (file : StateFile)
  | snapshot
deriving DecidableEq

/-- The part of `load_state` that picks a copy of the state; without any copy it gives none. -/
def loadedCopy (site : Site) (disk : StateFile → Stored) (snapshot : String) :
    Except PyErr (Option (Origin × Obj)) :=
  match firstCopy site.rt disk (existing disk) with
  | (some (file, data), _) => .ok (some (.file file, data))
  | (none, errors) =>
    if strip snapshot ≠ "" then
      match snapshotDecode site (strip snapshot) with
      | .ok data => .ok (some (.snapshot, data))
      | .error _ => .ok none
    else if existing disk ≠ [] then
      .error (.runtimeError
        ("All persistent state copies are invalid; refusing to start and overwrite them: " ++
          "; ".intercalate errors))
    else .ok none

/-- A state file that holds a state is the one that is read. -/
lemma loadedCopy_data {site : Site} {disk : StateFile → Stored} {data : Obj}
    (h : readCopy site.rt (disk .data) = .ok data) (snapshot : String) :
    loadedCopy site disk snapshot = .ok (some (.file .data, data)) := by
  have hpresent : disk .data ≠ .absent := by
    intro habsent
    rw [habsent] at h
    cases h
  have hfirst : ∃ rest, existing disk = .data :: rest := by
    unfold existing candidates
    rw [List.filter_cons, if_pos (by simpa using hpresent)]
    exact ⟨_, rfl⟩
  obtain ⟨rest, hrest⟩ := hfirst
  unfold loadedCopy
  rw [hrest, firstCopy, h]

/-! ## Writing -/

/-- A call of `_atomic_write_state` with a payload that passes the check and has a text. -/
structure WriteCall (rt : Runtime) where
  rotate : Bool
  payload : Obj
  valid : validateState (.obj payload) = .ok payload
  text : List UInt8
  written : rt.jsonDumps .indented (.obj payload) = some text

/-- The files. -/
abbrev Files : Type := Disk StateFile UInt8

/-- The copies that a call makes first. -/
def rotation (rotate : Bool) (d : Files) : List (FileOp StateFile UInt8) :=
  if rotate ∧ (d .data).isSome then
    (if (d .backup1).isSome then [.copy .backup1 .backup2] else []) ++ [.copy .data .backup1]
  else []

/-- `_atomic_write_state`: the copies, the temporary file, and its new name. -/
def WriteCall.ops {rt : Runtime} (c : WriteCall rt) (d : Files) : List (FileOp StateFile UInt8) :=
  rotation c.rotate d ++ [.write .tmp c.text, .rename .tmp .data]

/-- The files after a call. -/
def WriteCall.complete {rt : Runtime} (d : Files) (c : WriteCall rt) : Files :=
  FileOp.run (c.ops d) d

/-- The files after several calls. -/
def completed {rt : Runtime} (d : Files) (calls : List (WriteCall rt)) : Files :=
  calls.foldl WriteCall.complete d

variable {rt : Runtime}

/-- The text of a call is read as its payload. -/
lemma readCopy_text (c : WriteCall rt) : readCopy rt (.holds c.text) = .ok c.payload := by
  rw [readCopy, rt.jsonLoads_dumps _ _ _ c.written]
  exact c.valid

/-- A part of the text of a call is read only if it is the whole text. -/
lemma readCopy_part {c : WriteCall rt} {part : List UInt8} {data : Obj} (hpart : part <+: c.text)
    (h : readCopy rt (.holds part) = .ok data) : data = c.payload := by
  by_cases hwhole : part = c.text
  · rw [hwhole, readCopy_text] at h
    exact (Except.ok.inj h).symm
  · rw [readCopy, rt.jsonLoads_cut _ _ _ _ c.written hpart hwhole] at h
    cases h

/-- What a file holds comes from a call: the text of the call, or a beginning of it. -/
def FromCalls (calls : List (WriteCall rt)) (content : Option (List UInt8)) : Prop :=
  ∀ bytes, content = some bytes → ∃ c ∈ calls, bytes <+: c.text

lemma FromCalls.part {calls : List (WriteCall rt)} {content : Option (List UInt8)}
    {bytes part : List UInt8} (h : FromCalls calls content) (hbytes : content = some bytes)
    (hpart : part <+: bytes) : FromCalls calls (some part) := by
  intro bytes' h'
  obtain rfl := Option.some.inj h'
  obtain ⟨c, hc, hprefix⟩ := h bytes hbytes
  exact ⟨c, hc, hpart.trans hprefix⟩

lemma FromCalls.of_text {calls : List (WriteCall rt)} {c : WriteCall rt} (hc : c ∈ calls) :
    FromCalls calls (some c.text) := by
  intro bytes h
  obtain rfl := Option.some.inj h
  exact ⟨c, hc, List.prefix_rfl⟩

/-- A valid copy that comes from a call is its payload. -/
lemma FromCalls.read {calls : List (WriteCall rt)} {content : Option (List UInt8)} {data : Obj}
    (h : FromCalls calls content) (hread : readCopy rt (.ofContent content) = .ok data) :
    ∃ c ∈ calls, data = c.payload := by
  cases content with
  | none => cases hread
  | some bytes =>
    obtain ⟨c, hc, hpart⟩ := h bytes rfl
    exact ⟨c, hc, readCopy_part hpart hread⟩

lemma mem_rotation {rotate : Bool} {d : Files} {op : FileOp StateFile UInt8}
    (h : op ∈ rotation rotate d) : op = .copy .backup1 .backup2 ∨ op = .copy .data .backup1 := by
  unfold rotation at h
  split at h
  · rcases List.mem_append.mp h with h | h
    · split at h
      · exact .inl (List.mem_singleton.mp h)
      · cases h
    · exact .inr (List.mem_singleton.mp h)
  · cases h

/-- What a copy of the rotation leaves, whole or cut: the state file as it was. -/
lemma rotation_data {rotate : Bool} {d₀ d : Files} {op : FileOp StateFile UInt8}
    (hop : op ∈ rotation rotate d₀) :
    (op.apply d) .data = d .data ∧ ∀ d', FileOp.Cut op d d' → d' .data = d .data := by
  rcases mem_rotation hop with rfl | rfl
  all_goals
    refine ⟨rfl, ?_⟩
    intro d' hcut
    cases hcut
    rfl

/-- The three files hold what comes from calls. -/
def AllFromCalls (calls : List (WriteCall rt)) (d : Files) : Prop :=
  FromCalls calls (d .data) ∧ FromCalls calls (d .backup1) ∧ FromCalls calls (d .backup2)

/-- The copies of the rotation, whole or cut, copy what comes from calls. -/
lemma rotation_fromCalls {calls : List (WriteCall rt)} {rotate : Bool} {d₀ d : Files}
    {op : FileOp StateFile UInt8} (hop : op ∈ rotation rotate d₀) (hd : AllFromCalls calls d) :
    AllFromCalls calls (op.apply d) ∧ ∀ d', FileOp.Cut op d d' → AllFromCalls calls d' := by
  obtain ⟨hdata, hfirst, hsecond⟩ := hd
  rcases mem_rotation hop with rfl | rfl
  · -- the first backup moves to the second place
    refine ⟨⟨hdata, hfirst, hfirst⟩, ?_⟩
    intro d' hcut
    cases hcut with
    | copy hsource hpart => exact ⟨hdata, hfirst, hfirst.part hsource hpart⟩
  · -- the state file is copied to the first backup
    refine ⟨⟨hdata, hdata, hsecond⟩, ?_⟩
    intro d' hcut
    cases hcut with
    | copy hsource hpart => exact ⟨hdata, hdata.part hsource hpart, hsecond⟩

lemma run_rotation_data (rotate : Bool) (d : Files) :
    (FileOp.run (rotation rotate d) d) .data = d .data :=
  FileOp.run_invariant (I := fun d' => d' .data = d .data)
    (fun _ hop _ hd => (rotation_data hop).1.trans hd) rfl

lemma run_rotation_fromCalls {calls : List (WriteCall rt)} (rotate : Bool) {d : Files}
    (hd : AllFromCalls calls d) : AllFromCalls calls (FileOp.run (rotation rotate d) d) :=
  FileOp.run_invariant (I := AllFromCalls calls) (fun _ hop _ hd => (rotation_fromCalls hop hd).1) hd

/-- A call puts its text into the state file and leaves the backups to its copies. -/
lemma complete_spec (d : Files) (c : WriteCall rt) :
    (WriteCall.complete d c) .data = some c.text ∧
      (WriteCall.complete d c) .backup1 = (FileOp.run (rotation c.rotate d) d) .backup1 ∧
      (WriteCall.complete d c) .backup2 = (FileOp.run (rotation c.rotate d) d) .backup2 := by
  unfold WriteCall.complete WriteCall.ops
  rw [FileOp.run, List.foldl_append]
  exact ⟨rfl, rfl, rfl⟩

/-- A complete call leaves files that come from calls. -/
lemma AllFromCalls.complete {calls : List (WriteCall rt)} {d : Files} (hd : AllFromCalls calls d)
    {c : WriteCall rt} (hc : c ∈ calls) : AllFromCalls calls (WriteCall.complete d c) := by
  obtain ⟨hdata, hfirst, hsecond⟩ := complete_spec d c
  obtain ⟨-, hbackup1, hbackup2⟩ := run_rotation_fromCalls c.rotate hd
  unfold AllFromCalls
  rw [hdata, hfirst, hsecond]
  exact ⟨.of_text hc, hbackup1, hbackup2⟩

/-- So do several calls. -/
lemma AllFromCalls.completed {calls : List (WriteCall rt)} {d : Files} (hd : AllFromCalls calls d)
    {run : List (WriteCall rt)} (hrun : ∀ c ∈ run, c ∈ calls) :
    AllFromCalls calls (State.completed d run) := by
  induction run generalizing d with
  | nil => exact hd
  | cons c run ih =>
    refine ih (hd.complete (hrun c List.mem_cons_self)) ?_
    intro c' hc'
    exact hrun c' (List.mem_cons_of_mem _ hc')

/-- After some calls, the state file holds the text of the last. -/
lemma completed_data (d : Files) (calls : List (WriteCall rt)) (last : WriteCall rt) :
    (completed d (calls ++ [last])) .data = some last.text := by
  rw [completed, List.foldl_append]
  exact (complete_spec _ last).1

/-- A crash in a call leaves the state file as it was, or the text of the call in it. -/
lemma crash_data {interrupted : WriteCall rt} {d d' : Files}
    (h : FileOp.Crash (interrupted.ops d) d d') :
    d' .data = d .data ∨ d' .data = some interrupted.text := by
  rcases h.append with h | h
  · -- the crash is in the copies
    exact .inl (h.invariant (I := fun d' => d' .data = d .data)
      (fun _ hop _ hd => (rotation_data hop).1.trans hd)
      (fun _ hop _ d' hd hcut => ((rotation_data hop).2 d' hcut).trans hd) rfl)
  · have hkept := run_rotation_data interrupted.rotate d
    cases h with
    | before => exact .inl hkept
    | inside hcut =>
      -- the temporary file is cut, and nothing reads it
      cases hcut with
      | write => exact .inl hkept
    | after h =>
      cases h with
      | before => exact .inl hkept
      | inside hcut => cases hcut
      | after h =>
        cases h with
        | before => exact .inr rfl

/-- A crash in a call leaves backups that come from the calls before. -/
lemma crash_backups {calls : List (WriteCall rt)} {interrupted : WriteCall rt} {d d' : Files}
    (hd : AllFromCalls calls d) (h : FileOp.Crash (interrupted.ops d) d d') :
    FromCalls calls (d' .backup1) ∧ FromCalls calls (d' .backup2) := by
  rcases h.append with h | h
  · exact (h.invariant (I := AllFromCalls calls) (fun _ hop _ hd => (rotation_fromCalls hop hd).1)
      (fun _ hop _ d' hd => (rotation_fromCalls hop hd).2 d') hd).2
  · have hkept := (run_rotation_fromCalls interrupted.rotate hd).2
    cases h with
    | before => exact hkept
    | inside hcut =>
      cases hcut with
      | write => exact hkept
    | after h =>
      cases h with
      | before => exact hkept
      | inside hcut => cases hcut
      | after h =>
        cases h with
        | before => exact hkept

/-- The state file survives a crash.  After some calls and one that a crash interrupts, a start
reads the payload of the last call or of the interrupted one, whatever the files were at first.
If they came from earlier calls, or there were none, a backup that holds a state holds the
payload of one of the calls that were completed. -/
theorem state_file_crash_safe (site : Site) (d₀ d : Files) (calls : List (WriteCall site.rt))
    (last interrupted : WriteCall site.rt)
    (h : FileOp.Crash (interrupted.ops (completed d₀ (calls ++ [last])))
      (completed d₀ (calls ++ [last])) d) :
    (∀ snapshot, ∃ payload ∈ [last.payload, interrupted.payload],
        loadedCopy site (fun file => .ofContent (d file)) snapshot =
          .ok (some (.file .data, payload))) ∧
      ∀ earlier, (∀ file ∈ candidates, FromCalls earlier (d₀ file)) →
        ∀ backup ∈ [StateFile.backup1, StateFile.backup2], ∀ data,
          readCopy site.rt (.ofContent (d backup)) = .ok data →
            ∃ c ∈ earlier ++ (calls ++ [last]), data = c.payload := by
  constructor
  · intro snapshot
    rcases crash_data h with hdata | hdata
    · refine ⟨last.payload, List.mem_cons_self, loadedCopy_data ?_ snapshot⟩
      rw [hdata, completed_data]
      exact readCopy_text last
    · refine ⟨interrupted.payload, List.mem_cons_of_mem _ List.mem_cons_self,
        loadedCopy_data ?_ snapshot⟩
      rw [hdata]
      exact readCopy_text interrupted
  · intro earlier hearlier backup hbackup data hread
    have hold : ∀ file ∈ candidates, FromCalls (earlier ++ (calls ++ [last])) (d₀ file) := by
      intro file hfile bytes hbytes
      obtain ⟨c, hc, hpart⟩ := hearlier file hfile bytes hbytes
      exact ⟨c, List.mem_append_left _ hc, hpart⟩
    have hbefore : AllFromCalls (earlier ++ (calls ++ [last])) (completed d₀ (calls ++ [last])) :=
      AllFromCalls.completed ⟨hold _ (by decide), hold _ (by decide), hold _ (by decide)⟩
        fun c hc => List.mem_append_right _ hc
    obtain ⟨hfirst, hsecond⟩ := crash_backups hbefore h
    simp only [List.mem_cons, List.not_mem_nil, or_false] at hbackup
    rcases hbackup with rfl | rfl
    · exact hfirst.read hread
    · exact hsecond.read hread

/-- A call with the short state. -/
def shortCall (rotate : Bool) : WriteCall (longSite 1).rt where
  rotate := rotate
  payload := longState 1
  valid := rfl
  text := longBytes 1
  written := longSite_dumps .indented 1

/-- One call, and a second one that is cut when it has copied nothing of the first backup. -/
theorem state_file_crash_safe_cut :
    let d := Function.update (completed (fun _ => none) [shortCall true]) .backup1 (some [])
    loadedCopy (longSite 1) (fun file => .ofContent (d file)) "" =
      .ok (some (.file .data, longState 1)) := by
  intro d
  have hcrash : FileOp.Crash ((shortCall true).ops (completed (fun _ => none) [shortCall true]))
      (completed (fun _ => none) [shortCall true]) d :=
    .inside (.copy rfl List.nil_prefix)
  obtain ⟨payload, hmem, hload⟩ :=
    (state_file_crash_safe (longSite 1) (fun _ => none) d [] (shortCall true) (shortCall true)
      hcrash).1 ""
  have hpayload : payload = longState 1 := by simpa [shortCall] using hmem
  rw [hpayload] at hload
  exact hload

end State
