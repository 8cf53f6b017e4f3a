import HylaFax.PyFax.Api

/-!
# Runs of `PyFaxAPI`

A run is any sequence of calls of the instance's methods (`Method`), the caller going on
after a call that raised; `step` is one call and `run` a sequence, from any state.
`step_cases` says once what one call can do to the flags and the log, from the methods' run
equations; every fact about runs below is derived from it:

* `send_query_guarded`: `fax_api_send_fax` and `fax_api_get_job_status` are called only
  with both flags set, `send_fax` and `get_job_status` answer without a call otherwise, and
  the lists `fax_api_send_fax` gets are the caller's, empty ones included;
* `reconnect_keeps_loggedIn`: a failed reconnect after a login leaves `logged_in` set and
  `connected` clear;
* `exit_after_run`: `__exit__` calls `fax_api_destroy` once, last, and `fax_api_disconnect`
  before it when the run's last `fax_api_connect` succeeded.
-/

namespace HylaFax.PyFax

open HylaFax.Py

/-- A call of a method of `PyFaxAPI`, with its arguments. -/
inductive Method
  | connect
  | disconnect
  | login (username : PyStr)
  | sendFax (files : List PyStr) (destinations options : PyVal)
  | getJobStatus (q : QueueType)
  | control (op : ControlOp) (jobId : PyStr)

/-- The method's code, its result dropped. -/
def Method.call (o : Oracle) : Method → PyM Unit
  | .connect => discard (PyFaxAPI.connect o)
  | .disconnect => discard (PyFaxAPI.disconnect o)
  | .login u => discard (PyFaxAPI.login o u)
  | .sendFax fs ds os => discard (PyFaxAPI.sendFax o fs ds os)
  | .getJobStatus q => discard (PyFaxAPI.getJobStatus o q)
  | .control op id => discard (PyFaxAPI.jobControl o op id)

/-- One call, the caller going on whether it returned or raised. -/
def step (o : Oracle) (w : World) (m : Method) : World := stateOf ((m.call o).run w)

/-- A run of calls. -/
def run (o : Oracle) (w : World) (ms : List Method) : World := ms.foldl (step o) w

/-- The process before a request: no call made, no file uploaded, both flags clear as
`__init__` leaves them. -/
def World.fresh : World := ⟨⟨false, false⟩, [], fun _ => false⟩

theorem stateOf_discard {α : Type} (x : PyM α) (w : World) :
    stateOf ((discard x).run w) = stateOf (x.run w) := by
  show stateOf (EStateM.map (fun _ => ()) x w) = stateOf (x w)
  simp only [EStateM.map]
  cases x w <;> rfl

/-! ## One call -/

section Step

variable (o : Oracle) (w : World)

theorem step_connect :
    step o w .connect =
      { w.logged o .connect with api := { w.api with connected := (o w.log.length).connect.1 } } := by
  simp only [step, Method.call, stateOf_discard, PyFaxAPI.connect_run, stateOf_resultOf]

theorem step_disconnect : step o w .disconnect = PyFaxAPI.disconnected o w := by
  simp only [step, Method.call, stateOf_discard, PyFaxAPI.disconnect_run, PyFaxAPI.disconnected]
  split <;> rfl

theorem step_login (u : PyStr) :
    step o w (.login u) =
      match PyFaxAPI.loginUser u with
      | .error _ => w
      | .ok user => { w.logged o (.login user) with api := { w.api with loggedIn := (o w.log.length).login.1 } } := by
  simp only [step, Method.call, stateOf_discard, PyFaxAPI.login_run]
  cases PyFaxAPI.loginUser u <;> simp only [stateOf_ok, stateOf_error, stateOf_resultOf]

theorem step_sendFax (fs : List PyStr) (ds os : PyVal) :
    step o w (.sendFax fs ds os) =
      if w.api.connected && w.api.loggedIn then
        match PyFaxAPI.sendFaxArgs fs ds os with
        | .error _ => w
        | .ok (opts, fa, da) => w.logged o (.sendFax fa da opts)
      else w := by
  simp only [step, Method.call, stateOf_discard, PyFaxAPI.sendFax_run]
  split
  · rcases PyFaxAPI.sendFaxArgs fs ds os with _ | ⟨_, _, _⟩ <;> simp only [stateOf_ok, stateOf_error, stateOf_resultOf]
  · rfl

theorem step_getJobStatus (q : QueueType) :
    step o w (.getJobStatus q) =
      if w.api.connected && w.api.loggedIn then w.logged o (.getJobStatus q.value) else w := by
  simp only [step, Method.call, stateOf_discard, PyFaxAPI.getJobStatus_run]
  split
  · split <;> simp only [stateOf_ok, stateOf_error, stateOf_resultOf]
  · rfl

theorem step_control (op : ControlOp) (jobId : PyStr) :
    step o w (.control op jobId) =
      match encodeUtf8 jobId with
      | .error _ => w
      | .ok id => w.logged o (.control op id) := by
  simp only [step, Method.call, stateOf_discard, PyFaxAPI.jobControl_run]
  cases encodeUtf8 jobId <;> simp only [stateOf_ok, stateOf_error, stateOf_resultOf]

/-- The call is `fax_api_send_fax` or `fax_api_get_job_status`. -/
def Call.IsSendOrQuery : Call → Prop
  | .sendFax .. | .getJobStatus _ => True
  | _ => False

/-- What one call can do: nothing, or one call into the library and the flag updates that
go with it. Only `send_fax` and `get_job_status` look at the flags first. -/
theorem step_cases (m : Method) :
    step o w m = w ∨
    step o w m = { w.logged o .connect with api := { w.api with connected := (o w.log.length).connect.1 } } ∨
    (w.api.connected ∧ step o w m = { w.logged o .disconnect with api := ⟨false, false⟩ }) ∨
    (∃ u, step o w m = { w.logged o (.login u) with api := { w.api with loggedIn := (o w.log.length).login.1 } }) ∨
    (∃ c, c.IsSendOrQuery ∧ w.api.connected ∧ w.api.loggedIn ∧ step o w m = w.logged o c) ∨
    (∃ op id, step o w m = w.logged o (.control op id)) := by
  cases m with
  | connect => exact .inr (.inl (step_connect o w))
  | disconnect =>
    rw [step_disconnect, PyFaxAPI.disconnected]
    split
    · exact .inr (.inr (.inl ⟨‹_›, rfl⟩))
    · exact .inl rfl
  | login u =>
    rw [step_login]
    split
    · exact .inl rfl
    · exact .inr (.inr (.inr (.inl ⟨_, rfl⟩)))
  | sendFax fs ds os =>
    rw [step_sendFax]
    split
    · rename_i h
      simp only [Bool.and_eq_true] at h
      split
      · exact .inl rfl
      · exact .inr (.inr (.inr (.inr (.inl ⟨.sendFax _ _ _, trivial, h.1, h.2, rfl⟩))))
    · exact .inl rfl
  | getJobStatus q =>
    rw [step_getJobStatus]
    split
    · rename_i h
      simp only [Bool.and_eq_true] at h
      exact .inr (.inr (.inr (.inr (.inl ⟨.getJobStatus _, trivial, h.1, h.2, rfl⟩))))
    · exact .inl rfl
  | control op jobId =>
    rw [step_control]
    split
    · exact .inl rfl
    · exact .inr (.inr (.inr (.inr (.inr ⟨op, _, rfl⟩))))

end Step

/-! ## Every run -/

/-- A call that needs both flags was made with both set. -/
def Issued.Guarded (e : Issued) : Prop :=
  e.call.IsSendOrQuery → e.flags.connected = true ∧ e.flags.loggedIn = true

/-- What `connected` is after calls `es`, from `b`: a `fax_api_connect` sets it to its
result, a `fax_api_disconnect` clears it, any other call keeps it. -/
def connectedAfter (b : Bool) (es : List Issued) : Bool :=
  es.foldl (fun b e => match e.call with
    | .connect => e.reply.connect.1
    | .disconnect => false
    | _ => b) b

theorem connectedAfter_append (b : Bool) (xs ys : List Issued) :
    connectedAfter b (xs ++ ys) = connectedAfter (connectedAfter b xs) ys := List.foldl_append ..

theorem connectedAfter_of_forall {es : List Issued} (h : ∀ e ∈ es, e.call ≠ .connect ∧ e.call ≠ .disconnect)
    (b : Bool) : connectedAfter b es = b := by
  induction es generalizing b with
  | nil => rfl
  | cons e es ih =>
    obtain ⟨h1, h2⟩ := h e (List.mem_cons_self ..)
    -- the match's last case applies, by `h1` and `h2`
    simp only [connectedAfter, List.foldl_cons] at ih ⊢
    exact ih (fun e he => h e (List.mem_cons_of_mem _ he)) b

/-- What a run does to the log: it appends calls, none of them `fax_api_destroy` and each
guarded, and `connected` is what those calls leave. -/
structure RunLog (w w' : World) (es : List Issued) : Prop where
  log : w'.log = w.log ++ es
  noDestroy : ∀ e ∈ es, e.call ≠ .destroy
  guarded : ∀ e ∈ es, e.Guarded
  connected : w'.api.connected = connectedAfter w.api.connected es

theorem RunLog.trans {w w' w'' : World} {es es' : List Issued} (h : RunLog w w' es)
    (h' : RunLog w' w'' es') : RunLog w w'' (es ++ es') where
  log := by rw [h'.log, h.log, List.append_assoc]
  noDestroy e he := (List.mem_append.mp he).elim (h.noDestroy e) (h'.noDestroy e)
  guarded e he := (List.mem_append.mp he).elim (h.guarded e) (h'.guarded e)
  connected := by rw [h'.connected, h.connected, connectedAfter_append]

theorem step_runLog (o : Oracle) (w : World) (m : Method) : ∃ es, RunLog w (step o w m) es := by
  rcases step_cases o w m with h | h | ⟨hc, h⟩ | ⟨u, h⟩ | ⟨c, hc, h1, h2, h⟩ | ⟨op, id, h⟩ <;>
    rw [h]
  · exact ⟨[], ⟨by simp, by simp, by simp, rfl⟩⟩
  · exact ⟨[_], ⟨rfl, by simp, by simp [Issued.Guarded, Call.IsSendOrQuery], rfl⟩⟩
  · exact ⟨[_], ⟨rfl, by simp, by simp [Issued.Guarded, Call.IsSendOrQuery], rfl⟩⟩
  · exact ⟨[_], ⟨rfl, by simp, by simp [Issued.Guarded, Call.IsSendOrQuery],
      by simp [connectedAfter]⟩⟩
  · refine ⟨[_], ⟨rfl, ?_, by simp [Issued.Guarded, h1, h2], ?_⟩⟩ <;>
      cases c <;> simp_all [Call.IsSendOrQuery, connectedAfter]
  · exact ⟨[_], ⟨rfl, by simp, by simp [Issued.Guarded, Call.IsSendOrQuery],
      by simp [connectedAfter]⟩⟩

theorem run_runLog (o : Oracle) (w : World) (ms : List Method) : ∃ es, RunLog w (run o w ms) es := by
  induction ms generalizing w with
  | nil => exact ⟨[], ⟨by simp [run], by simp, by simp, rfl⟩⟩
  | cons m ms ih =>
    obtain ⟨es, h⟩ := step_runLog o w m
    obtain ⟨es', h'⟩ := ih (step o w m)
    exact ⟨es ++ es', h.trans h'⟩

/-! ## Submission and query need both flags -/

section Guard

variable {o : Oracle} {w : World}

theorem sendFax_refused (h : ¬(w.api.connected ∧ w.api.loggedIn)) (files : List PyStr)
    (destinations options : PyVal) :
    (PyFaxAPI.sendFax o files destinations options).run w = .ok .refused w := by
  rw [PyFaxAPI.sendFax_run, if_neg (by simpa using h)]

theorem getJobStatus_refused (h : ¬(w.api.connected ∧ w.api.loggedIn)) (q : QueueType) :
    (PyFaxAPI.getJobStatus o q).run w = .ok [] w := by
  rw [PyFaxAPI.getJobStatus_run, if_neg (by simpa using h)]

theorem step_sendFax_strs {files destinations : List PyStr} {options : PyVal} {opts : FaxSendOptions}
    (hc : w.api.connected) (hl : w.api.loggedIn) (ho : marshalOptions options = .ok opts)
    (h : ∀ s ∈ files ++ destinations, ∀ c ∈ s, c.isSurrogate = false) :
    step o w (.sendFax files (.list (destinations.map .str)) options) =
      w.logged o (.sendFax (files.map encodeStr) (destinations.map encodeStr) opts) := by
  rw [step_sendFax, if_pos (by simp [hc, hl]), PyFaxAPI.sendFaxArgs_strs ho h]

end Guard

/-- In every run `fax_api_send_fax` and `fax_api_get_job_status` are called only with both
flags set; without them `send_fax` and `get_job_status` return their failure value and call
nothing; and `fax_api_send_fax` gets the caller's files and destinations as they are, however
many, none included. -/
theorem send_query_guarded (o : Oracle) :
    (∀ w ms, ∃ es, (run o w ms).log = w.log ++ es ∧ ∀ e ∈ es, e.Guarded) ∧
    (∀ w : World, ¬(w.api.connected ∧ w.api.loggedIn) →
      (∀ files destinations options,
        (PyFaxAPI.sendFax o files destinations options).run w = .ok .refused w) ∧
      ∀ q, (PyFaxAPI.getJobStatus o q).run w = .ok [] w) ∧
    (∀ (w : World) files destinations options opts, w.api.connected → w.api.loggedIn →
      marshalOptions options = .ok opts →
      (∀ s ∈ files ++ destinations, ∀ c ∈ s, c.isSurrogate = false) →
      step o w (.sendFax files (.list (destinations.map .str)) options) =
        w.logged o (.sendFax (files.map encodeStr) (destinations.map encodeStr) opts)) :=
  ⟨fun w ms => (run_runLog o w ms).imp fun _ h => ⟨h.log, h.guarded⟩,
    fun _ h => ⟨sendFax_refused h, getJobStatus_refused h⟩,
    fun _ _ _ _ _ hc hl ho h => step_sendFax_strs hc hl ho h⟩

/-- What each call into the library needs of the instance and its arguments: `fax_api_login`
an instance that is connected; the job operations one that is connected and logged in, the
flags `send_fax` and `get_job_status` test; and `fax_api_send_fax`, whose arrays and counts
(`len(files)`, `len(destinations)`) are the job's documents and recipients, at least one of
each. -/
def Issued.SpecPre (e : Issued) : Prop :=
  match e.call with
  | .login _ => e.flags.connected = true
  | .sendFax fa da _ => e.flags.connected = true ∧ e.flags.loggedIn = true ∧ fa ≠ [] ∧ da ≠ []
  | .getJobStatus _ | .control .. => e.flags.connected = true ∧ e.flags.loggedIn = true
  | _ => True

/-- `connect()`, `login()`, then `send_fax([], ["555"])` against a library that accepts
everything: `fax_api_send_fax` is called with no file. -/
theorem sendFax_without_files_called :
    ¬ ∀ e ∈ (run (fun _ => Backend.allOk) World.fresh
      [.connect, .login "", .sendFax [] (.list [.str "555"]) .null]).log, e.SpecPre := fun h =>
  (h _ (List.mem_append_right _ (List.mem_singleton_self _))).2.2.1 rfl

/-! ## A failed reconnect -/

/-- A library whose `fax_api_connect` fails at the program's call number `n`. -/
def connectFailsAt (n : Nat) : Oracle := fun k =>
  if k = n then { Backend.allOk with connect := (false, []) } else Backend.allOk

/-- `connect()`, `login()`, then a second `connect()` that fails: `logged_in` stays set and
`connected` is cleared. -/
theorem reconnect_keeps_loggedIn :
    (run (connectFailsAt 2) World.fresh [.connect, .login "", .connect]).api = ⟨false, true⟩ := rfl

/-! ## `__exit__` -/

/-- The world after a run and `__exit__`. -/
def afterExit (o : Oracle) (w : World) (ms : List Method) : World :=
  stateOf ((PyFaxAPI.exit o).run (run o w ms))

theorem exit_log (o : Oracle) (w : World) :
    ∃ D d, (stateOf ((PyFaxAPI.exit o).run w)).log = w.log ++ (D ++ [d]) ∧ d.call = .destroy ∧
      (∀ e ∈ D, e.call = .disconnect) ∧ (w.api.connected = true → D ≠ []) := by
  rw [PyFaxAPI.exit_run, stateOf_ok, PyFaxAPI.disconnected]
  split
  · exact ⟨[⟨.disconnect, w.api, o w.log.length⟩], ⟨.destroy, ⟨false, false⟩, o (w.log.length + 1)⟩,
      by simp, rfl, by simp, fun _ => by simp⟩
  · exact ⟨[], ⟨.destroy, w.api, o w.log.length⟩, by simp, rfl, by simp, by simp_all⟩

/-- If `es ++ T` splits around `c` and `c` is not in `T`, then `c` is in `es`. -/
theorem split_of_not_mem {es T A B : List Issued} {c : Issued} (h : es ++ T = A ++ c :: B)
    (hc : c ∉ T) : ∃ B₀, es = A ++ c :: B₀ ∧ B = B₀ ++ T := by
  rcases List.append_eq_append_iff.mp h with ⟨a', -, hT⟩ | ⟨c', rfl, hc'⟩
  · exact absurd (hT ▸ List.mem_append_right _ (List.mem_cons_self _ _)) hc
  · cases c' with
    | nil =>
      rw [List.nil_append] at hc'
      exact absurd (hc' ▸ List.mem_cons_self c B) hc
    | cons c₀ B₀ =>
      obtain ⟨rfl, rfl⟩ := List.cons_eq_cons.mp hc'
      exact ⟨B₀, rfl, rfl⟩

/-- After a successful `fax_api_connect` and no other connect, `connected` is set unless a
`fax_api_disconnect` came after it. -/
theorem connectedAfter_last_connect {A B : List Issued} {c : Issued} (hc : c.call = .connect)
    (hok : c.reply.connect.1 = true) (hB : ∀ e ∈ B, e.call ≠ .connect)
    (hd : ∀ e ∈ B, e.call ≠ .disconnect) (b : Bool) : connectedAfter b (A ++ c :: B) = true := by
  rw [connectedAfter_append, ← List.singleton_append, connectedAfter_append,
    connectedAfter_of_forall fun e he => ⟨hB e he, hd e he⟩]
  simp [connectedAfter, hc, hok]

/-- `__exit__` after any run calls `fax_api_destroy` once, as the last call, and when the
run's last `fax_api_connect` succeeded, a `fax_api_disconnect` after it. -/
theorem exit_after_run (o : Oracle) (w : World) (ms : List Method) :
    ∃ es, (afterExit o w ms).log = w.log ++ es ∧
      (∃ es' d, es = es' ++ [d] ∧ d.call = .destroy ∧ ∀ e ∈ es', e.call ≠ .destroy) ∧
      ∀ A c B, es = A ++ c :: B → c.call = .connect → c.reply.connect.1 = true →
        (∀ e ∈ B, e.call ≠ .connect) → ∃ d ∈ B, d.call = .disconnect := by
  obtain ⟨es, h⟩ := run_runLog o w ms
  obtain ⟨D, d, hlog, hd, hD, hconnD⟩ := exit_log o (run o w ms)
  refine ⟨es ++ (D ++ [d]), by rw [afterExit, hlog, h.log, List.append_assoc],
    ⟨es ++ D, d, by simp, hd, ?_⟩, ?_⟩
  · intro e he
    rcases List.mem_append.mp he with he | he
    · exact h.noDestroy e he
    · simp [hD e he]
  · intro A c B hsplit hc hok hB
    have hT : c ∉ D ++ [d] := fun hm => by
      rcases List.mem_append.mp hm with hm | hm
      · simp [hD c hm] at hc
      · simp [List.mem_singleton.mp hm, hd] at hc
    obtain ⟨B₀, rfl, rfl⟩ := split_of_not_mem hsplit hT
    by_cases hdis : ∃ e ∈ B₀, e.call = .disconnect
    · obtain ⟨e, he, hed⟩ := hdis
      exact ⟨e, List.mem_append_left _ he, hed⟩
    · -- no disconnect after the connect: `connected` is still set, so `__exit__` disconnects
      have hconn : (run o w ms).api.connected = true := by
        rw [h.connected]
        exact connectedAfter_last_connect hc hok (fun e he => hB e (List.mem_append_left _ he))
          (fun e he hed => hdis ⟨e, he, hed⟩) _
      obtain ⟨e, he⟩ := List.exists_mem_of_ne_nil D (hconnD hconn)
      exact ⟨e, List.mem_append_right _ (List.mem_append_left _ he), hD e he⟩

/-- A successful `connect()`, a failed one, then `__exit__`: the library is never told to
disconnect. -/
theorem failed_reconnect_skips_disconnect :
    (afterExit (connectFailsAt 1) World.fresh [.connect, .connect]).log.map (·.call) =
        [.connect, .connect, .destroy] ∧
      (afterExit (connectFailsAt 1) World.fresh [.connect, .connect]).log.map (·.reply.connect.1) =
        [true, false, true] :=
  ⟨rfl, rfl⟩

end HylaFax.PyFax
