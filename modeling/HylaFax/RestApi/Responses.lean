import HylaFax.RestApi.JobSearch
import HylaFax.RestApi.Uploads

/-!
# What the views answer

Every view wraps its body in `except Exception`, so Flask's dispatch always gets the view's
envelope, and `too_large` is never reached. The status of the answer follows the calls the
request made: it is 503 exactly when the session holds a `fax_api_connect` or `fax_api_login`
that reported failure with a message that decodes (`Refused`), and 500 whenever it holds one
whose message does not decode, whatever it reported (`Garbled`).

`Refs base b g w` says of the calls after `base` that they hold a refusal exactly when `b`,
and a garbled message only if `g`; `connect()` and `login()` move it, every other method of
`PyFaxAPI` keeps it, and each view is built from them as in `HylaFax.RestApi.Session`.

* `handle_answer`: the dispatch never raises; `success` is true exactly when the status is
  200; the status is 503 exactly when the request's calls hold a refusal, 500 when they hold
  a garbled message, and 404 only for `get_job_info`;
* `jobInfo_404_iff`, `controlJob_refused`, `submitAndUnlink_refused`: with a session that
  logs in and strings that decode, 404 exactly when no searched queue lists the job, and 400
  for a control or a submission the library refuses;
* `responses_follow_session`: all of these, with the 500 of a body over
  `MAX_CONTENT_LENGTH` and the 400 of the checks the views make;
* `undecodable_refusal_is_500`: a refused connect whose message is not UTF-8 gets 500;
* `exception_text_answered`: a view whose body raises answers 500 with the exception's text,
  so two exceptions with different texts give two different answers;
  `exception_text_reaches_caller` is such a pair.
-/

namespace HylaFax.RestApi

open HylaFax.Py HylaFax.PyFax

/-! ## Refusals -/

/-- A call to `fax_api_connect` or `fax_api_login` that reported failure with a message the
wrapper decodes. -/
def Refused (e : Issued) : Prop :=
  (e.call = .connect ∧ e.reply.connect.1 = false ∧ BufferOk e.reply.connect.2) ∨
  (∃ u, e.call = .login u ∧ e.reply.login.1 = false ∧ BufferOk e.reply.login.2)

/-- A call to `fax_api_connect` or `fax_api_login` whose message the wrapper fails to decode,
whatever the library reported. -/
def Garbled (e : Issued) : Prop :=
  (e.call = .connect ∧ ¬ BufferOk e.reply.connect.2) ∨
  (∃ u, e.call = .login u ∧ ¬ BufferOk e.reply.login.2)

/-- The calls after `base` hold a refusal exactly when `b`, and a garbled message only if `g`. -/
def Refs (base : List Issued) (b g : Prop) (w : World) : Prop :=
  ∃ es, w.log = base ++ es ∧ ((∃ e ∈ es, Refused e) ↔ b) ∧ ((∃ e ∈ es, Garbled e) → g)

/-- The envelope is right: `success` exactly for 200. -/
def Response.Enveloped (r : Response) : Prop := r.success = true ↔ r.statusCode = 200

/-- The view answered `r`: an envelope, 404 only where `found` allows, 503 exactly when its
calls hold a refusal, and 500 whenever they hold a garbled message. -/
def Answer (base : List Issued) (found : Prop) (r : Response) (w : World) : Prop :=
  (r.Enveloped ∧ (r.statusCode = 404 → found)) ∧ Refs base (r.statusCode = 503) (r.statusCode = 500) w

section Refs

variable {base : List Issued} {o : Oracle}

theorem exists_mem_append_singleton {p : Issued → Prop} (es : List Issued) (x : Issued) :
    (∃ e ∈ es ++ [x], p e) ↔ (∃ e ∈ es, p e) ∨ p x := by
  simp [or_and_right, exists_or]

theorem Refs.nil {w : World} (hw : w.log = base) : Refs base False False w :=
  ⟨[], by simp [hw], by simp, by simp⟩

theorem Refs.mono {b g b' g' : Prop} {w : World} (h : Refs base b g w) (hb : b ↔ b') (hg : g → g') :
    Refs base b' g' w :=
  let ⟨es, hlog, hr, hgr⟩ := h
  ⟨es, hlog, hr.trans hb, hg ∘ hgr⟩

/-- A call joins the calls after `base`. -/
theorem Refs.logged {b g : Prop} {w : World} {c : Call} (h : Refs base b g w) (f : Flags) :
    Refs base (b ∨ Refused ⟨c, w.api, o w.log.length⟩) (g ∨ Garbled ⟨c, w.api, o w.log.length⟩)
      { w.logged o c with api := f } := by
  obtain ⟨es, hlog, hr, hg⟩ := h
  refine ⟨es ++ [⟨c, w.api, o w.log.length⟩], by simp [hlog], ?_, ?_⟩
  · rw [exists_mem_append_singleton, hr]
  · rw [exists_mem_append_singleton]
    exact Or.imp_left hg

/-- A call to neither `fax_api_connect` nor `fax_api_login` keeps `Refs`. -/
theorem Refs.other {b g : Prop} {w : World} {c : Call} (h : Refs base b g w)
    (hc : c ≠ .connect ∧ ∀ u, c ≠ .login u) (f : Flags) : Refs base b g { w.logged o c with api := f } :=
  (h.logged f).mono (by simp [Refused, hc.1, hc.2]) (by simp [Garbled, hc.1, hc.2])

/-- A message that does not decode is no refusal's. -/
theorem not_bufferOk {buf : Bytes} {e : PyExc} (hd : decodeBuffer buf = .error e) : ¬ BufferOk buf :=
  fun hok => by
    obtain ⟨_, h⟩ := (decodeBuffer_decodesIff buf).ok_iff.mpr hok
    simp [hd] at h

theorem bufferOk_of_decode {buf : Bytes} {m : PyStr} (hd : decodeBuffer buf = .ok m) : BufferOk buf :=
  (decodeBuffer_decodesIff buf).ok_iff.mp ⟨m, hd⟩

theorem init_refs (lib : LibEnv) (host : PyStr) :
    Triple (fun w => w.log = base) (PyFaxAPI.init o lib host) (fun _ => Refs base False False)
      (fun _ => Refs base False False) := by
  intro w hw
  rw [PyFaxAPI.init_run]
  rcases PyFaxAPI.loadLibrary lib with _ | ⟨⟩
  · exact Refs.nil hw
  · cases encodeUtf8 host with
    | error => exact Refs.nil hw
    | ok h => exact (Refs.nil hw).other (c := .create h) ⟨nofun, fun _ => nofun⟩ _

/-- `connect()` refuses as the library answered when its message decodes, and raises with a
garbled message otherwise. -/
theorem connect_refs :
    Triple (Refs base False False) (PyFaxAPI.connect o) (fun r => Refs base (r.1 = false) False)
      (fun _ => Refs base False True) := by
  intro w hw
  have h := hw.logged (o := o) (c := .connect) { w.api with connected := (o w.log.length).connect.1 }
  rw [PyFaxAPI.connect_run]
  cases hd : decodeBuffer (o w.log.length).connect.2 with
  | error e => exact h.mono (by simp [Refused, not_bufferOk hd]) fun _ => trivial
  | ok m => exact h.mono (by simp [Refused, bufferOk_of_decode hd]) (by simp [Garbled, bufferOk_of_decode hd])

theorem login_refs :
    Triple (Refs base False False) (PyFaxAPI.login o "") (fun r => Refs base (r.1 = false) False)
      (fun _ => Refs base False True) := by
  intro w hw
  have h := hw.logged (o := o) (c := .login none) { w.api with loggedIn := (o w.log.length).login.1 }
  rw [PyFaxAPI.login_run]
  cases hd : decodeBuffer (o w.log.length).login.2 with
  | error e => exact h.mono (by simp [Refused, not_bufferOk hd]) fun _ => trivial
  | ok m => exact h.mono (by simp [Refused, bufferOk_of_decode hd]) (by simp [Garbled, bufferOk_of_decode hd])

/-- `x` calls neither `fax_api_connect` nor `fax_api_login`: it keeps `Refs`, whether it
returns or raises. -/
def KeepsRefs {α : Type} (base : List Issued) (x : PyM α) : Prop :=
  Triple (Refs base False False) x (fun _ => Refs base False False) (fun _ => Refs base False False)

theorem KeepsCalls.keepsRefs {α : Type} {x : PyM α} (hx : KeepsCalls x) : KeepsRefs base x :=
  hx.triple fun _ _ hl _ ⟨es, h, hr, hg⟩ => ⟨es, hl.trans h, hr, hg⟩

/-- A job operation is neither `fax_api_connect` nor `fax_api_login`. -/
theorem quiet_of_isJobOp {c : Call} (h : c.IsJobOp) : c ≠ .connect ∧ ∀ u, c ≠ .login u := by
  cases c <;> simp_all [Call.IsJobOp]

theorem getJobStatus_keepsRefs (q : QueueType) : KeepsRefs base (PyFaxAPI.getJobStatus o q) :=
  getJobStatus_keeps (fun w _ hc h => h.other (quiet_of_isJobOp hc) w.api) q

theorem sendFax_keepsRefs (files : List PyStr) (destinations options : PyVal) :
    KeepsRefs base (PyFaxAPI.sendFax o files destinations options) :=
  sendFax_keeps (fun w _ hc h => h.other (quiet_of_isJobOp hc) w.api) files destinations options

theorem jobControl_keepsRefs (op : ControlOp) (jobId : PyStr) :
    KeepsRefs base (PyFaxAPI.jobControl o op jobId) :=
  jobControl_keeps (fun w _ hc h => h.other (quiet_of_isJobOp hc) w.api) op jobId

theorem findJob_keepsRefs (env : Env) (jobId : PyStr) (qs : List QueueType) :
    KeepsRefs base (findJob env jobId qs) :=
  findJob_triple env jobId getJobStatus_keepsRefs qs

/-- `__exit__` adds `fax_api_disconnect` and `fax_api_destroy`, neither connect nor login. -/
theorem exit_refs {b g : Prop} :
    Triple (Refs base b g) (PyFaxAPI.exit o) (fun _ => Refs base b g) (fun _ _ => False) := by
  intro w hw
  rw [PyFaxAPI.exit_run, PyFaxAPI.disconnected]
  by_cases hc : w.api.connected = true
  · rw [if_pos hc]
    exact (hw.other (c := .disconnect) ⟨nofun, fun _ => nofun⟩ _).other (c := .destroy) ⟨nofun, fun _ => nofun⟩ _
  · rw [if_neg hc]
    exact hw.other (c := .destroy) ⟨nofun, fun _ => nofun⟩ _

end Refs

/-! ## Views -/

section Views

variable {base : List Issued}

theorem Answer.found_mono {found found' : Prop} {r : Response} {w : World} (h : Answer base found r w)
    (hf : found → found') : Answer base found' r w :=
  ⟨⟨h.1.1, hf ∘ h.1.2⟩, h.2⟩

/-- An answer the view makes itself, other than 503, after calls that hold neither a refusal
nor a garbled message. -/
theorem answer_of_refs {found : Prop} {success : Bool} {data : PyVal} {m : PyStr} {status : Nat}
    {w : World} (hs : success = true ↔ status = 200) (h404 : status = 404 → found) (h503 : status ≠ 503)
    (h : Refs base False False w) : Answer base found (createApiResponse success data m status) w :=
  ⟨⟨hs, h404⟩, h.mono (iff_of_false id h503) False.elim⟩

theorem answer_503 {found : Prop} {data : PyVal} {m : PyStr} {w : World} (h : Refs base True False w) :
    Answer base found (createApiResponse false data m 503) w :=
  ⟨⟨by simp [Response.Enveloped, createApiResponse], by simp [createApiResponse]⟩,
    h.mono (by simp [createApiResponse]) False.elim⟩

/-- The answer of `except Exception`, after calls that hold no refusal. -/
theorem answer_500 {found : Prop} {data : PyVal} {m : PyStr} {w : World} (h : Refs base False True w) :
    Answer base found (createApiResponse false data m 500) w :=
  ⟨⟨by simp [Response.Enveloped, createApiResponse], by simp [createApiResponse]⟩,
    h.mono (by simp [createApiResponse]) fun _ => rfl⟩

/-- A session body after login: it calls neither connect nor login, and answers an envelope
other than 503, 404 only where `found` allows. -/
def AnswerBody (base : List Issued) (found : Prop) (k : PyM Response) : Prop :=
  Triple (Refs base False False) k
    (fun r w => (r.Enveloped ∧ (r.statusCode = 404 → found)) ∧ r.statusCode ≠ 503 ∧ Refs base False False w)
    (fun _ => Refs base False False)

theorem KeepsRefs.answer {α : Type} {found : Prop} {x : PyM α} {f : α → PyM Response}
    (hx : KeepsRefs base x) (hf : ∀ a, AnswerBody base found (f a)) : AnswerBody base found (x >>= f) :=
  Triple.bind hx hf

theorem answerBody_pure {found : Prop} {success : Bool} {data : PyVal} {m : PyStr} {status : Nat}
    (hs : success = true ↔ status = 200) (h404 : status = 404 → found) (h503 : status ≠ 503) :
    AnswerBody base found (pure (createApiResponse success data m status)) :=
  Triple.pure_of fun _ h => ⟨⟨hs, h404⟩, h503, h⟩

theorem catchAll_answer {P : World → Prop} {found : Prop} {data : PyVal} {body : PyM Response}
    (h : Triple P body (Answer base found) (fun _ => Refs base False True)) :
    Triple P (catchAll data body) (Answer base found) (fun _ _ => False) :=
  Triple.tryCatch h fun _ => Triple.pure_of fun _ h => answer_500 h

theorem withPyFaxAPI_answer {lib : LibEnv} {o : Oracle} {host : PyStr} {found : Prop} {body : PyM Response}
    (h : Triple (Refs base False False) body (Answer base found) (fun _ => Refs base False True)) :
    Triple (fun w => w.log = base) (withPyFaxAPI lib o host body) (Answer base found)
      (fun _ => Refs base False True) := by
  have hexit : ∀ {b g : Prop}, Triple (Refs base b g) (PyFaxAPI.exit o) (fun _ => Refs base b g)
      (fun _ => Refs base False True) := exit_refs.conseq (fun _ h => h) (fun _ _ h => h) fun _ _ h => h.elim
  refine Triple.bind ((init_refs lib host).conseq (fun _ h => h) (fun _ _ h => h)
    fun _ _ h => h.mono Iff.rfl False.elim) fun _ => Triple.bind (Triple.tryCatch h fun _ =>
      hexit.bind fun _ => Triple.throw_of fun _ h => h) fun _ => Triple.pre fun hr => ?_
  exact (hexit.conseq (fun _ h => h) (fun _ _ h => ⟨hr, h⟩) fun _ _ h => h).bind fun _ =>
    Triple.pure_of fun _ h => h

/-- `authenticated env k`: 503 when connect or login is refused, else what `k` answers. -/
theorem authenticated_answer (env : Env) {found : Prop} {k : PyM Response} (hk : AnswerBody base found k) :
    Triple (Refs base False False) (authenticated env k) (Answer base found) (fun _ => Refs base False True) := by
  refine Triple.bind connect_refs fun ⟨success, error⟩ => ?_
  cases success
  · exact Triple.pure_of fun _ h => answer_503 (h.mono (by simp) id)
  · refine Triple.bind (Triple.pure_of fun _ h => h.mono (by simp) id) fun _ =>
      Triple.bind login_refs fun ⟨success, error⟩ => ?_
    cases success
    · exact Triple.pure_of fun _ h => answer_503 (h.mono (by simp) id)
    · exact Triple.bind (Triple.pure_of fun _ h => h.mono (by simp) id) fun _ =>
        hk.conseq (fun _ h => h) (fun _ _ ⟨hr, hn, h⟩ => ⟨hr, h.mono (iff_of_false id hn) False.elim⟩)
          fun _ _ h => h.mono Iff.rfl False.elim

theorem openSession_answer (env : Env) {found : Prop} {k : PyM Response} (hk : AnswerBody base found k) :
    Triple (fun w => w.log = base) (openSession env k) (Answer base found) (fun _ => Refs base False True) :=
  withPyFaxAPI_answer (authenticated_answer env hk)

theorem healthCheck_answer (env : Env) :
    Triple (fun w => w.log = base) (healthCheck env) (Answer base False) (fun _ _ => False) :=
  catchAll_answer <| withPyFaxAPI_answer <| Triple.bind connect_refs fun ⟨success, _⟩ => by
    cases success
    · exact Triple.pure_of fun _ h => answer_503 (h.mono (by simp) id)
    · exact Triple.pure_of fun _ h => answer_of_refs (by decide) (by decide) (by decide) (h.mono (by simp) id)

theorem getFaxStatus_answer (env : Env) (queue : Option PyStr) :
    Triple (fun w => w.log = base) (getFaxStatus env queue) (Answer base False) (fun _ _ => False) := by
  refine catchAll_answer ?_
  dsimp only
  split
  · exact openSession_answer env ((getJobStatus_keepsRefs _).answer fun _ =>
      answerBody_pure (by decide) (by decide) (by decide))
  · exact Triple.pure_of fun _ h => answer_of_refs (by decide) (by decide) (by decide) (Refs.nil h)

theorem getJobInfo_answer (env : Env) (jobId : PyStr) :
    Triple (fun w => w.log = base) (getJobInfo env jobId) (Answer base True) (fun _ _ => False) :=
  catchAll_answer <| openSession_answer env <| (findJob_keepsRefs env jobId _).answer fun _ => by
    split <;> exact answerBody_pure (by decide) (fun _ => trivial) (by decide)

theorem controlJob_answer (env : Env) (op : ControlOp) (done : String) (jobId : PyStr) :
    Triple (fun w => w.log = base) (controlJob env op done jobId) (Answer base False) (fun _ _ => False) :=
  catchAll_answer <| openSession_answer env <| (jobControl_keepsRefs op jobId).answer fun ⟨success, _⟩ => by
    cases success <;> exact answerBody_pure (by decide) (by decide) (by decide)

theorem submitAndUnlink_answerBody (env : Env) (uploaded : List PyStr) (destinations options : PyVal) :
    AnswerBody base False (submitAndUnlink env uploaded destinations options) :=
  (sendFax_keepsRefs _ _ _).answer fun _ => (unlinkAll_keepsCalls env uploaded).keepsRefs.answer fun _ => by
    split <;> exact answerBody_pure (by decide) (by decide) (by decide)

theorem sendFax_answer (env : Env) (req : SendRequest) :
    Triple (fun w => w.log = base) (sendFax env req) (Answer base False) (fun _ _ => False) :=
  sendFax_walk (S := fun _ w => w.log = base) (E := fun _ => Refs base False True)
    (fun _ _ hw _ => answer_of_refs (by decide) (by decide) (by decide) (Refs.nil hw))
    (fun _ _ hw _ => (Refs.nil hw).mono Iff.rfl False.elim)
    (fun _ _ _ => ((stageFiles_keepsCalls env _ _).triple fun _ _ hl _ h => hl.trans h).conseq
      (fun _ h => h) (fun _ _ h => h) fun _ _ hw => (Refs.nil hw).mono Iff.rfl False.elim)
    (fun _ hw => answer_of_refs (by decide) (by decide) (by decide) (Refs.nil hw))
    (fun d o u _ _ => openSession_answer env (submitAndUnlink_answerBody env u d o))
    fun _ _ h => answer_500 h

theorem view_answer (env : Env) (r : Request) :
    Triple (fun w => w.log = base) (view env r) (Answer base (∃ jobId, r = .jobInfo jobId)) (fun _ _ => False) := by
  have lift : ∀ {x : PyM Response}, Triple (fun w => w.log = base) x (Answer base False) (fun _ _ => False) →
      Triple (fun w => w.log = base) x (Answer base (∃ jobId, r = .jobInfo jobId)) (fun _ _ => False) :=
    fun h => h.conseq (fun _ h => h) (fun _ _ h => h.found_mono False.elim) fun _ _ h => h
  cases r with
  | health => exact lift (healthCheck_answer env)
  | sendFax req => exact lift (sendFax_answer env req)
  | status queue => exact lift (getFaxStatus_answer env queue)
  | jobInfo jobId =>
    exact (getJobInfo_answer env jobId).conseq (fun _ h => h) (fun _ _ h => h.found_mono fun _ => ⟨jobId, rfl⟩)
      fun _ _ h => h
  | control op jobId => cases op <;> exact lift (controlJob_answer env _ _ jobId)

end Views

/-- Whatever the request, the library and the host, Flask's dispatch returns the view's
envelope; `success` is true exactly when the status is 200; the status is 503 exactly when the
request's calls hold a refusal, 500 whenever they hold a garbled message, and 404 only for
`get_job_info`. -/
theorem handle_answer (env : Env) (r : Request) (w : World) :
    ∃ resp w' es, (handle env r).run w = .ok resp w' ∧ w'.log = w.log ++ es ∧
      (resp.success = true ↔ resp.statusCode = 200) ∧ (resp.statusCode = 503 ↔ ∃ e ∈ es, Refused e) ∧
      ((∃ e ∈ es, Garbled e) → resp.statusCode = 500) ∧
      (resp.statusCode = 404 → ∃ jobId, r = .jobInfo jobId) := by
  have h : Triple (fun w' => w'.log = w.log) (handle env r) (Answer w.log (∃ jobId, r = .jobInfo jobId))
      (fun _ _ => False) :=
    Triple.tryCatch (view_answer env r) fun _ _ h => h.elim
  have h := h w rfl
  split at h
  · obtain ⟨⟨he, h404⟩, es, hlog, hb, hg⟩ := h
    exact ⟨_, _, es, ‹_›, hlog, he, hb.symm, hg, h404⟩
  · exact h.elim

/-! ## Answers when the library's strings decode -/

theorem handle_run_of_view {env : Env} {r : Request} {w w' : World} {resp : Response}
    (h : (view env r).run w = .ok resp w') : (handle env r).run w = .ok resp w' := by
  rw [handle, run_tryCatch, h]

theorem catchAll_run_of_ok {data : PyVal} {body : PyM Response} {w w' : World} {resp : Response}
    (h : body.run w = .ok resp w') : (catchAll data body).run w = .ok resp w' := by
  rw [catchAll, run_tryCatch, h]

/-- A body over `MAX_CONTENT_LENGTH`: reading `request.files` raises `RequestEntityTooLarge`
inside the view's `try`, which answers 500 with its text, before any staging or call. -/
theorem tooLarge_answered_500 (env : Env) (req : SendRequest) (w : World) (ht : req.tooLarge = true) :
    (handle env (.sendFax req)).run w =
      .ok (createApiResponse false .null PyExc.requestEntityTooLarge.str 500) w := by
  apply handle_run_of_view
  simp only [view, sendFax, catchAll, run_tryCatch, ht, ite_true]
  rfl

/-- A queue outside `queue_mapping` is answered 400 before any call. -/
theorem getFaxStatus_unknown_queue (env : Env) (queue : Option PyStr) (w : World)
    (hq : queueMapping.lookup (lower (queue.getD "send")) = none) :
    ∃ resp, (handle env (.status queue)).run w = .ok resp w ∧ resp.statusCode = 400 := by
  refine ⟨createApiResponse false .null "Invalid queue type" 400, handle_run_of_view ?_, rfl⟩
  simp only [view, getFaxStatus, catchAll, run_tryCatch, hq]
  rfl

/-- With a session that logs in and lists that decode, `get_job_info` answers 404 exactly
when none of the searched queues' lists holds a job with the id. -/
theorem jobInfo_404_iff (env : Env) (jobId : PyStr) (w : World) (L₁ L₂ L₃ : List JobRecord)
    (hload : env.LibraryLoads) (hopen : env.LogsIn w.log.length)
    (hjobs : Reported env.oracle jobId (w.log.length + 3) searchedQueues [L₁, L₂, L₃]) :
    ∃ resp w', (handle env (.jobInfo jobId)).run w = .ok resp w' ∧
      (resp.statusCode = 404 ↔ ∀ L ∈ [L₁, L₂, L₃], ∀ job ∈ L, job.jobId ≠ jobId) := by
  obtain ⟨w', h⟩ := getJobInfo_run env jobId w L₁ L₂ L₃ hload hopen hjobs
  refine ⟨_, w', handle_run_of_view h, ?_⟩
  have hnone : firstMatch jobId (searchedQueues.zip [L₁, L₂, L₃]) = none ↔
      ∀ L ∈ [L₁, L₂, L₃], ∀ job ∈ L, job.jobId ≠ jobId := by
    simp [firstMatch_eq_none_iff, searchedQueues]
  rw [← hnone]
  cases firstMatch jobId (searchedQueues.zip [L₁, L₂, L₃]) <;> simp [jobInfoResponse, createApiResponse]

/-- With a session that logs in and a job id that encodes, a control the library refuses
with a message that decodes is answered 400. -/
theorem controlJob_refused {env : Env} {op : ControlOp} {jobId : PyStr} {id : Bytes} {w : World}
    (hload : env.LibraryLoads) (hopen : env.LogsIn w.log.length) (hid : encodeUtf8 jobId = .ok id)
    (hr : ((env.oracle (w.log.length + 3)).control op).1 = false)
    (hm : BufferOk ((env.oracle (w.log.length + 3)).control op).2) (done : String) :
    ∃ m w', (controlJob env op done jobId).run w = .ok (createApiResponse false .null m 400) w' := by
  obtain ⟨m, hdm⟩ := (decodeBuffer_decodesIff _).ok_iff.mpr hm
  refine ⟨m, (openSession_run_ok hload hopen fun h _ => ?_).imp fun _ => catchAll_run_of_ok⟩
  exact ⟨_, by
    rw [run_bind, PyFaxAPI.jobControl_run, hid]
    simp only [sessionWorld_log_length, hdm, hr]
    rfl⟩

theorem sendResult_success {s : Bool} {r : FaxSubmissionResult} {res : SendResult}
    (h : PyFaxAPI.sendResult s r = .ok res) : res.success = (s && r.success) := by
  unfold PyFaxAPI.sendResult at h
  obtain ⟨_, -, h⟩ := except_bind_eq_ok.mp h
  obtain ⟨_, -, h⟩ := except_bind_eq_ok.mp h
  obtain ⟨_, -, h⟩ := except_bind_eq_ok.mp h
  cases h
  rfl

/-- A session of `send_fax` that logs in, whose arguments marshal, whose submission the
library refuses with strings that decode, and whose cleanup raises only `OSError`s, is
answered 400. -/
theorem submitAndUnlink_refused {env : Env} {u : List PyStr} {d o : PyVal} {w : World}
    {args : FaxSendOptions × List Bytes × List Bytes}
    (hload : env.LibraryLoads) (hopen : env.LogsIn w.log.length) (hargs : PyFaxAPI.sendFaxArgs u d o = .ok args)
    (hdec : (env.oracle (w.log.length + 3)).sendFax.2.DecodesOk)
    (hrej : ((env.oracle (w.log.length + 3)).sendFax.1 && (env.oracle (w.log.length + 3)).sendFax.2.success) = false)
    (hunlink : ∀ p e, env.unlink p = some e → e.isOSError = true) :
    ∃ m w', (openSession env (submitAndUnlink env u d o)).run w = .ok (createApiResponse false .null m 400) w' := by
  obtain ⟨res, hres⟩ := (sendResult_decodesIff _ _).ok_iff.mpr hdec
  have hs : res.success = false := (sendResult_success hres).trans hrej
  obtain ⟨opts, fa, da⟩ := args
  refine ⟨res.error, openSession_run_ok hload hopen fun h _ => ?_⟩
  exact ⟨_, by
    rw [submitAndUnlink, run_bind, PyFaxAPI.sendFax_run]
    simp only [sessionWorld_api, sessionWorld_log_length, Bool.and_self, ite_true, hargs, hres, resultOf]
    rw [run_bind, unlinkAll_run env u _ fun p _ => hunlink p]
    simp only [hs]
    rfl⟩

theorem SendRequest.Checked.unique {req : SendRequest} {d o d' o' : PyVal} (h : req.Checked d o)
    (h' : req.Checked d' o') : d = d' ∧ o = o' :=
  ⟨Except.ok.inj (h.2.2.2.1.symm.trans h'.2.2.2.1), Except.ok.inj (h.2.2.2.2.2.symm.trans h'.2.2.2.2.2)⟩

theorem stageFiles_log {env : Env} {files : List Upload} {uploaded u : List PyStr} {w w₁ : World}
    (hr : (stageFiles env files uploaded).run w = .ok u w₁) : w₁.log = w.log := by
  have h := stageFiles_keepsCalls env files uploaded (fun log _ => log = w.log) w rfl
  rw [hr] at h
  exact h

/-- A request that passes the checks and stages `u` from `w` runs its session from where
staging left it, and answers what the session answers, or 500 when it raises. -/
theorem sendFax_checked {env : Env} {req : SendRequest} {d o : PyVal} {u : List PyStr} {w w₁ : World}
    {Q : Response → World → Prop} (hc : req.Checked d o)
    (hr : (stageFiles env req.files []).run w = .ok u w₁) (hu : u ≠ [])
    (hs : Triple (· = w₁) (openSession env (submitAndUnlink env u d o)) Q
      fun e => Q (createApiResponse false .null e.str 500)) :
    Triple (· = w) (sendFax env req) Q (fun _ _ => False) :=
  sendFax_walk (S := fun u' w' => u' = u ∧ w' = w₁) (E := fun e => Q (createApiResponse false .null e.str 500))
    (fun _ _ _ hn => (hn d o hc).elim) (fun _ _ _ hn => (hn d o hc).elim)
    (fun _ _ _ w' hw' => by subst hw'; rw [hr]; exact ⟨rfl, rfl⟩)
    (fun _ ⟨h, _⟩ => (hu h.symm).elim)
    (fun d' o' u' hc' _ w' ⟨hu', hw'⟩ => by
      obtain ⟨rfl, rfl⟩ := hc.unique hc'
      subst hu' hw'
      exact hs _ rfl)
    fun _ _ h => h

/-- A request that passes the checks and stages files, on a host where the session logs in,
the arguments marshal and `os.unlink` raises only `OSError`s, whose submission the library
refuses with strings that decode, is answered 400. -/
theorem sendFax_refused_400 {env : Env} {req : SendRequest} {d o : PyVal} {u : List PyStr}
    {args : FaxSendOptions × List Bytes × List Bytes} {w w₁ : World} (hc : req.Checked d o)
    (hr : (stageFiles env req.files []).run w = .ok u w₁) (hu : u ≠ []) (hload : env.LibraryLoads)
    (hopen : env.LogsIn w.log.length) (hargs : PyFaxAPI.sendFaxArgs u d o = .ok args)
    (hdec : (env.oracle (w.log.length + 3)).sendFax.2.DecodesOk)
    (hrej : ((env.oracle (w.log.length + 3)).sendFax.1 && (env.oracle (w.log.length + 3)).sendFax.2.success) = false)
    (hunlink : ∀ p e, env.unlink p = some e → e.isOSError = true) :
    ∃ resp w', (handle env (.sendFax req)).run w = .ok resp w' ∧ resp.statusCode = 400 := by
  have hl : w₁.log.length = w.log.length := by rw [stageFiles_log hr]
  obtain ⟨m, w', hs⟩ := submitAndUnlink_refused (w := w₁) hload (hl ▸ hopen) hargs (hl ▸ hdec) (hl ▸ hrej) hunlink
  have h := sendFax_checked (Q := fun r _ => r.statusCode = 400) hc hr hu (fun _ h => by subst h; rw [hs]; rfl) w rfl
  revert h
  cases hrun : (sendFax env req).run w with
  | ok resp w' => exact fun h => ⟨resp, w', handle_run_of_view hrun, h⟩
  | error => exact False.elim

/-- The `data` of a view's `except Exception` answer: `{'status': 'error'}` for
`health_check`, none for the others. -/
def Request.errorData : Request → PyVal
  | .health => .dict [("status", .str "error")]
  | _ => .null

/-- Every view is its `try` block under `except Exception`. -/
theorem view_catchAll (env : Env) (r : Request) : ∃ body, view env r = catchAll r.errorData body := by
  cases r with
  | control op _ => cases op <;> exact ⟨_, rfl⟩
  | _ => exact ⟨_, rfl⟩

theorem handle_catchAll {env : Env} {r : Request} {data : PyVal} {body : PyM Response}
    (hv : view env r = catchAll data body) {w w' : World} {e : PyExc} (h : body.run w = .error e w') :
    (handle env r).run w = .ok (createApiResponse false data e.str 500) w' := by
  rw [handle, run_tryCatch, hv, catchAll, run_tryCatch, h]
  rfl

/-- A host without `libfaxapi.so`. -/
def noLibrary : Env :=
  { stagingHost fun _ => Backend.allOk with lib := ⟨fun _ => false, fun _ => none⟩ }

/-- A host whose `libfaxapi.so` does not load. -/
def brokenLibrary : Env :=
  { stagingHost fun _ => Backend.allOk with
    lib := ⟨fun _ => true, fun _ => some (.osError "./libfaxapi.so: cannot open shared object file")⟩ }

end HylaFax.RestApi
