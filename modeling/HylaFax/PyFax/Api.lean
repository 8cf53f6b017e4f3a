import HylaFax.PyFax.Types
import HylaFax.Py.Triple

/-!
# `PyFaxAPI`: the wrapper's methods over `libfaxapi`

The library is an oracle: the program's `n`-th call into it gets the answer `o n`
(`Backend` holds one answer for each of its functions), so a statement about every `o` is a
statement about every behaviour of the library. Each call is logged (`Issued`) with the
flags `connected` and `logged_in` at that moment and the answer it got; the log is what the
statements about the order of calls read.

`PyM` runs Python code: its state is the instance's flags, the log, and the files of the
upload folder of `rest_api.py`; an exception keeps the state it was raised in. Each method
of `PyFaxAPI` is written from its source, in its order of evaluation.
-/

namespace HylaFax.PyFax

open HylaFax.Py

/-- The four job-control functions of the library. -/
inductive ControlOp
  | kill
  | suspend
  | resume
  | wait
  deriving DecidableEq, Repr

/-- A call into `libfaxapi`, with the arguments the wrapper passes. -/
inductive Call
  /-- `fax_api_create(host)`. -/
  | create (host : Bytes)
  /-- `fax_api_destroy`. -/
  | destroy
  /-- `fax_api_connect`. -/
  | connect
  /-- `fax_api_disconnect`. -/
  | disconnect
  /-- `fax_api_login(username)`, `NULL` for the default user. -/
  | login (username : Option Bytes)
  /-- `fax_api_send_fax` with the file and destination arrays, their lengths being the
  counts it is passed. -/
  | sendFax (files : List Bytes) (destinations : List Bytes) (options : FaxSendOptions)
  /-- `fax_api_get_job_status(queue)`. -/
  | getJobStatus (queue : Nat)
  /-- `fax_api_kill_job`, `fax_api_suspend_job`, `fax_api_resume_job` or
  `fax_api_wait_for_job`. -/
  | control (op : ControlOp) (jobId : Bytes)

/-- A job operation: the calls a request makes once logged in. -/
def Call.IsJobOp : Call → Prop
  | .sendFax .. | .getJobStatus _ | .control .. => True
  | _ => False

/-- What the library answers at one moment, for each of its functions: the return value,
and what it writes into the buffers the wrapper passes (`error_msg`, the result structure,
`jobs_count` and the 1000-entry `jobs_array`). -/
structure Backend where
  connect : Bool × Bytes
  disconnect : Bool
  login : Bool × Bytes
  sendFax : Bool × FaxSubmissionResult
  getJobStatus : Bool × BitVec 32 × (Fin 1000 → FaxJobInfo)
  control : ControlOp → Bool × Bytes

/-- A library that answers every call with success and writes nothing. -/
def Backend.allOk : Backend :=
  ⟨(true, []), true, (true, []), (true, ⟨true, none, none, none, 0⟩), (true, 0, fun _ => FaxJobInfo.null),
    fun _ => (true, [])⟩

/-- The library's behaviour: its answer to the program's `n`-th call. -/
abbrev Oracle := Nat → Backend

/-- `self.connected` and `self.logged_in`. -/
structure Flags where
  connected : Bool
  loggedIn : Bool
  deriving DecidableEq, Repr

/-- A call the program made, with the instance's flags when it was made and the answer. -/
structure Issued where
  call : Call
  flags : Flags
  reply : Backend

/-- The state of the Python process. -/
structure World where
  /-- The flags of the `PyFaxAPI` instance. -/
  api : Flags
  /-- The calls into the library so far. -/
  log : List Issued
  /-- Which paths exist in `UPLOAD_FOLDER`. -/
  uploads : PyStr → Bool

/-- Python code. -/
abbrev PyM := EStateM PyExc World

/-- Make call `c`: log it, and return the library's answer. -/
def issue (o : Oracle) (c : Call) : PyM Backend := fun w =>
  .ok (o w.log.length) { w with log := w.log ++ [⟨c, w.api, o w.log.length⟩] }

/-- `w` once call `c` is made. -/
def World.logged (w : World) (o : Oracle) (c : Call) : World :=
  { w with log := w.log ++ [⟨c, w.api, o w.log.length⟩] }

@[simp] theorem World.logged_api (w : World) (o : Oracle) (c : Call) : (w.logged o c).api = w.api := rfl
@[simp] theorem World.logged_uploads (w : World) (o : Oracle) (c : Call) :
    (w.logged o c).uploads = w.uploads := rfl
@[simp] theorem World.logged_log (w : World) (o : Oracle) (c : Call) :
    (w.logged o c).log = w.log ++ [⟨c, w.api, o w.log.length⟩] := rfl

theorem issue_run (o : Oracle) (c : Call) (w : World) : (issue o c).run w = .ok (o w.log.length) (w.logged o c) :=
  rfl

/-- Set both flags. -/
def setFlags (f : Flags) : PyM Unit := modify fun w => { w with api := f }

/-- `error_msg.value.decode('utf-8') if error_msg.value else ""`, `error_msg` being the
1024-byte buffer the library wrote `buf` into. -/
def decodeBuffer (buf : Bytes) : Except PyExc PyStr := decodeOrEmpty (some (cstr (buf.take 1024)))

/-- What `PyFaxAPI.__init__` finds on the host: which paths exist, and the exception
`ctypes.CDLL(path)` or the symbol lookups of `_setup_function_signatures` raise, if any. -/
structure LibEnv where
  pathExists : PyStr → Bool
  load : PyStr → Option PyExc

/-- The dict `send_fax` returns. -/
inductive SendResult
  /-- `{'success': False, 'error': 'Not connected or logged in'}`. -/
  | refused
  /-- `{'success', 'job_id', 'group_id', 'total_pages', 'error'}`. -/
  | submitted (success : Bool) (jobId groupId : PyStr) (totalPages : Int) (error : PyStr)

/-- `result['success']`. -/
def SendResult.success : SendResult → Bool
  | .refused => false
  | .submitted s .. => s

/-- `result['error']`. -/
def SendResult.error : SendResult → PyStr
  | .refused => "Not connected or logged in"
  | .submitted _ _ _ _ e => e

namespace PyFaxAPI

variable (o : Oracle) (w : World)

/-- `_find_library`'s candidates, in its order. -/
def possiblePaths : List String :=
  ["./libfaxapi.so", "/usr/local/lib/libfaxapi.so", "/usr/lib/libfaxapi.so", "../api/libfaxapi.so"]

/-- `_find_library`: the first candidate that exists. -/
def findLibrary (env : LibEnv) : Except PyExc PyStr :=
  match (possiblePaths.map PyStr.ofString).find? env.pathExists with
  | some path => .ok path
  | none => .error (.osError "Could not find libfaxapi shared library")

/-- `ctypes.CDLL(lib_path)` and the symbol lookups, on the path `_find_library` returns. -/
def loadLibrary (env : LibEnv) : Except PyExc Unit := do
  let path ← findLibrary env
  match env.load path with
  | some e => .error e
  | none => .ok ()

/-- `PyFaxAPI(host)`: load the library, `fax_api_create`, then both flags false. -/
def init (env : LibEnv) (host : PyStr) : PyM Unit := do
  orRaise (loadLibrary env)
  let h ← orRaise (encodeUtf8 host)
  let _ ← issue o (.create h)
  setFlags ⟨false, false⟩

theorem init_run (env : LibEnv) (host : PyStr) :
    (init o env host).run w =
      match loadLibrary env, encodeUtf8 host with
      | .error e, _ => .error e w
      | .ok (), .error e => .error e w
      | .ok (), .ok h => .ok () { w.logged o (.create h) with api := ⟨false, false⟩ } := by
  simp only [init, run_apply, bind, EStateM.bind, setFlags, modify, modifyGet,
    MonadStateOf.modifyGet, EStateM.modifyGet, issue, World.logged]
  rcases loadLibrary env with _ | ⟨⟩ <;> cases encodeUtf8 host <;> rfl

/-- `connect`: `self.connected = success` before the message is decoded. -/
def connect : PyM (Bool × PyStr) := do
  let b ← issue o .connect
  modify fun w => { w with api := { w.api with connected := b.connect.1 } }
  return (b.connect.1, ← orRaise (decodeBuffer b.connect.2))

theorem connect_run :
    (connect o).run w =
      resultOf ((decodeBuffer (o w.log.length).connect.2).map ((o w.log.length).connect.1, ·))
        { w.logged o .connect with api := { w.api with connected := (o w.log.length).connect.1 } } := by
  simp only [connect, run_apply, bind, EStateM.bind, issue, modify, modifyGet,
    MonadStateOf.modifyGet, EStateM.modifyGet, World.logged]
  cases decodeBuffer (o w.log.length).connect.2 <;> rfl

/-- `disconnect`. -/
def disconnect : PyM Bool := do
  if (← get).api.connected then
    let b ← issue o .disconnect
    setFlags ⟨false, false⟩
    return b.disconnect
  return true

theorem disconnect_run :
    (disconnect o).run w =
      if w.api.connected then .ok (o w.log.length).disconnect { w.logged o .disconnect with api := ⟨false, false⟩ }
      else .ok true w := by
  simp only [disconnect, run_apply, bind, EStateM.bind, issue, get, getThe, MonadStateOf.get,
    EStateM.get, setFlags, modify, modifyGet, MonadStateOf.modifyGet, EStateM.modifyGet, World.logged]
  split <;> rfl

/-- `login(username)`: an empty name is passed as `None`. -/
def login (username : PyStr) : PyM (Bool × PyStr) := do
  let user ← if username.isEmpty then pure none else some <$> orRaise (encodeUtf8 username)
  let b ← issue o (.login user)
  modify fun w => { w with api := { w.api with loggedIn := b.login.1 } }
  return (b.login.1, ← orRaise (decodeBuffer b.login.2))

/-- The argument `login` passes for the user name. -/
def loginUser (username : PyStr) : Except PyExc (Option Bytes) :=
  if username.isEmpty then .ok none else (encodeUtf8 username).map some

theorem login_run (username : PyStr) :
    (login o username).run w =
      match loginUser username with
      | .error e => .error e w
      | .ok user =>
        resultOf ((decodeBuffer (o w.log.length).login.2).map ((o w.log.length).login.1, ·))
          { w.logged o (.login user) with api := { w.api with loggedIn := (o w.log.length).login.1 } } := by
  by_cases h : username.isEmpty <;>
    simp only [login, loginUser, h, ite_true, ite_false, Bool.false_eq_true, run_apply, bind,
      EStateM.bind, pure, EStateM.pure, Functor.map, EStateM.map, issue, modify, modifyGet,
      MonadStateOf.modifyGet, EStateM.modifyGet, World.logged]
  · cases decodeBuffer (o w.log.length).login.2 <;> rfl
  · cases encodeUtf8 username <;> simp only [orRaise, Except.map, pure, EStateM.pure] <;> try rfl
    cases decodeBuffer (o w.log.length).login.2 <;> rfl

/-- What `send_fax` passes the library: the options loop, then the file array, then the
destination array (`len` and `enumerate` of `destinations`). -/
def sendFaxArgs (files : List PyStr) (destinations options : PyVal) :
    Except PyExc (FaxSendOptions × List Bytes × List Bytes) := do
  let opts ← marshalOptions options
  let filesArray ← files.mapM encodeUtf8
  let destArray ← (← destinations.iter).mapM PyVal.encode
  return (opts, filesArray, destArray)

/-- With options that marshal and strings without surrogates, `fax_api_send_fax` gets the
caller's files and destinations, in order and as many, empty lists included. -/
theorem sendFaxArgs_strs {files destinations : List PyStr} {options : PyVal} {opts : FaxSendOptions}
    (ho : marshalOptions options = .ok opts)
    (h : ∀ s ∈ files ++ destinations, ∀ c ∈ s, c.isSurrogate = false) :
    sendFaxArgs files (.list (destinations.map .str)) options =
      .ok (opts, files.map encodeStr, destinations.map encodeStr) := by
  have hf : files.mapM encodeUtf8 = .ok (files.map encodeStr) := by
    simpa using mapM_eq_ok_map (k := id) fun s hs => encodeUtf8_eq_ok (h s (List.mem_append_left _ hs))
  have hd : (destinations.map PyVal.str).mapM PyVal.encode = .ok (destinations.map encodeStr) :=
    mapM_eq_ok_map fun s hs => encodeUtf8_eq_ok (h s (List.mem_append_right _ hs))
  simp only [sendFaxArgs, ho, hf, PyVal.iter, bind, Except.bind, hd]
  rfl

/-- Whatever the files and options, a destination array of strings that gets to the library
gets there as their UTF-8 encodings, in order and as many. -/
theorem sendFaxArgs_destinations {files ds : List PyStr} {options : PyVal}
    {args : FaxSendOptions × List Bytes × List Bytes}
    (h : sendFaxArgs files (.list (ds.map .str)) options = .ok args) : args.2.2 = ds.map encodeStr := by
  obtain ⟨_, -, h⟩ := except_bind_eq_ok.mp h
  obtain ⟨_, -, h⟩ := except_bind_eq_ok.mp h
  obtain ⟨_, hxs, h⟩ := except_bind_eq_ok.mp h
  cases hxs
  obtain ⟨da, hda, h⟩ := except_bind_eq_ok.mp h
  cases h
  exact eq_map_encodeStr_of_forall₂ (List.forall₂_map_left_iff.mp (mapM_eq_ok_iff.mp hda))

/-- The dict `send_fax` returns once the library answered: the result's strings decoded in
the order of the dict literal. -/
def sendResult (success : Bool) (r : FaxSubmissionResult) : Except PyExc SendResult := do
  return .submitted (success && r.success) (← decodeCharP r.jobId) (← decodeCharP r.groupId)
    r.totalPages.toInt (← decodeCharP r.errorMessage)

/-- `send_fax(files, destinations, options)`. -/
def sendFax (files : List PyStr) (destinations options : PyVal) : PyM SendResult := do
  let w ← get
  if !w.api.connected || !w.api.loggedIn then return .refused
  let (opts, filesArray, destArray) ← orRaise (sendFaxArgs files destinations options)
  let b ← issue o (.sendFax filesArray destArray opts)
  orRaise (sendResult b.sendFax.1 b.sendFax.2)

theorem sendFax_run (files : List PyStr) (destinations options : PyVal) :
    (sendFax o files destinations options).run w =
      if w.api.connected && w.api.loggedIn then
        match sendFaxArgs files destinations options with
        | .error e => .error e w
        | .ok (opts, fa, da) =>
          resultOf (sendResult (o w.log.length).sendFax.1 (o w.log.length).sendFax.2)
            (w.logged o (.sendFax fa da opts))
      else .ok .refused w := by
  cases hc : w.api.connected <;> cases hl : w.api.loggedIn <;>
    simp only [sendFax, hc, hl, run_apply, bind, EStateM.bind, get, getThe, MonadStateOf.get,
      EStateM.get, pure, EStateM.pure, Bool.not_false, Bool.not_true, Bool.or_true, Bool.or_false,
      Bool.and_true, Bool.and_false, Bool.false_eq_true, ite_true, ite_false]
  rcases sendFaxArgs files destinations options with _ | ⟨opts, fa, da⟩ <;>
    simp only [orRaise, throw, throwThe, MonadExceptOf.throw, EStateM.throw, pure, EStateM.pure, issue]
  cases sendResult (o w.log.length).sendFax.1 (o w.log.length).sendFax.2 <;> rfl

/-- The records of `get_job_status` once the library reported `count` jobs: entry `i` of
the 1000-entry array for each `i` in `range(count)`, past the array an `IndexError`. -/
def decodeJobs (count : BitVec 32) (jobs : Fin 1000 → FaxJobInfo) : Except PyExc (List JobRecord) :=
  (List.range count.toInt.toNat).mapM fun i =>
    if h : i < 1000 then (jobs ⟨i, h⟩).toRecord else .error (.indexError "invalid index")

/-- `get_job_status(queue_type)`. -/
def getJobStatus (q : QueueType) : PyM (List JobRecord) := do
  let w ← get
  if !w.api.connected || !w.api.loggedIn then return []
  let b ← issue o (.getJobStatus q.value)
  if !b.getJobStatus.1 then return []
  orRaise (decodeJobs b.getJobStatus.2.1 b.getJobStatus.2.2)

theorem getJobStatus_run (q : QueueType) :
    (getJobStatus o q).run w =
      if w.api.connected && w.api.loggedIn then
        if (o w.log.length).getJobStatus.1 then
          resultOf (decodeJobs (o w.log.length).getJobStatus.2.1 (o w.log.length).getJobStatus.2.2)
            (w.logged o (.getJobStatus q.value))
        else .ok [] (w.logged o (.getJobStatus q.value))
      else .ok [] w := by
  cases hc : w.api.connected <;> cases hl : w.api.loggedIn <;>
    simp only [getJobStatus, hc, hl, run_apply, bind, EStateM.bind, get, getThe, MonadStateOf.get,
      EStateM.get, pure, EStateM.pure, Bool.not_false, Bool.not_true, Bool.or_true, Bool.or_false,
      Bool.and_true, Bool.and_false, Bool.false_eq_true, ite_true, ite_false, issue, World.logged]
  cases (o w.log.length).getJobStatus.1
  · rfl
  · exact orRaise_run _ _

/-- `kill_job`, `suspend_job`, `resume_job` and `wait_for_job`, which differ only in the
function they call. -/
def jobControl (op : ControlOp) (jobId : PyStr) : PyM (Bool × PyStr) := do
  let id ← orRaise (encodeUtf8 jobId)
  let b ← issue o (.control op id)
  return ((b.control op).1, ← orRaise (decodeBuffer (b.control op).2))

theorem jobControl_run (op : ControlOp) (jobId : PyStr) :
    (jobControl o op jobId).run w =
      match encodeUtf8 jobId with
      | .error e => .error e w
      | .ok id =>
        resultOf ((decodeBuffer ((o w.log.length).control op).2).map (((o w.log.length).control op).1, ·))
          (w.logged o (.control op id)) := by
  simp only [jobControl, run_apply, bind, EStateM.bind, issue, World.logged]
  cases encodeUtf8 jobId with
  | error e => rfl
  | ok id =>
    simp only [orRaise, pure, EStateM.pure]
    cases decodeBuffer ((o w.log.length).control op).2 <;> rfl

/-- `kill_job`. -/
def killJob : PyStr → PyM (Bool × PyStr) := jobControl o .kill

/-- `suspend_job`. -/
def suspendJob : PyStr → PyM (Bool × PyStr) := jobControl o .suspend

/-- `resume_job`. -/
def resumeJob : PyStr → PyM (Bool × PyStr) := jobControl o .resume

/-- `wait_for_job`. -/
def waitForJob : PyStr → PyM (Bool × PyStr) := jobControl o .wait

/-- `__exit__`: `disconnect()`, then `fax_api_destroy`; `api_instance` is set once
`__init__` has returned. -/
def exit : PyM Unit := do
  let _ ← disconnect o
  let _ ← issue o .destroy

/-- `w` after `disconnect()`. -/
def disconnected : World :=
  if w.api.connected then { w.logged o .disconnect with api := ⟨false, false⟩ } else w

theorem exit_run : (exit o).run w = .ok () ((disconnected o w).logged o .destroy) := by
  have h := disconnect_run o w
  simp only [run_apply] at h
  cases hc : w.api.connected <;>
    simp only [exit, run_apply, bind, EStateM.bind, h, disconnected, hc, ite_true, ite_false,
      Bool.false_eq_true] <;> rfl

end PyFaxAPI

/-- `with PyFaxAPI(host) as fax_api: body`: `__exit__` runs when `body` returns and when it
raises, and the exception goes on, as `__exit__` returns `None`. -/
def withPyFaxAPI (env : LibEnv) (o : Oracle) (host : PyStr) (body : PyM α) : PyM α := do
  PyFaxAPI.init o env host
  let r ← tryCatch body fun e => do PyFaxAPI.exit o; throw e
  PyFaxAPI.exit o
  return r

end HylaFax.PyFax
