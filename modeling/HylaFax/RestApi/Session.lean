import HylaFax.RestApi.Handlers

/-!
# One scoped session per request

`Phase` is the protocol a request's calls into `libfaxapi` should follow, as an automaton
over the log: `fax_api_create`, then `fax_api_connect`; `fax_api_login` only after a
successful connect; job operations only after a successful login; `fax_api_disconnect`
exactly in the phases a successful connect leads to, and nothing but `fax_api_destroy`
after it; `fax_api_destroy` last. `ScopedSession es` says the calls `es` are one whole run of it.

`At base p w` ties the program to the automaton: the calls logged after `base` lead to phase
`p`, and the instance's flags are those of `p`. Each method of `PyFaxAPI` moves `At` along
the automaton (`init_triple`, `connect_triple`, `login_triple`, the job operations,
`exit_triple`); `withPyFaxAPI_triple` puts them together for a `with` block whose body is a
session, and each view is one. Whether a request gets to its session is `Request.Admitted`:
the checks its view makes before `with PyFaxAPI(HYLAFAX_HOST)` pass.

* `unlinkAll_spec`: the cleanup loop of `send_fax` removes the staged files `os.unlink`
  removes, and raises only what `os.unlink` raises other than an `OSError`;
* `sendFax_walk`: the checks `send_fax` makes before its session, walked once for any
  invariant; every statement about the view is read off it;
* `request_calls_one_session`: a request its view admits, on a host whose library loads, makes
  one whole scoped session of calls; any other request makes none.
-/

namespace HylaFax.RestApi

open HylaFax.Py HylaFax.PyFax

/-! ## The protocol -/

/-- Where a session is in the protocol. -/
inductive Phase
  | start
  | created
  | unconnected
  | connected
  | loginFailed
  | authenticated
  | disconnected
  | closed
  deriving DecidableEq, Repr

/-- The protocol's step: the phase after call `e`, `none` where `e` is not allowed. -/
def Phase.next (p : Phase) (e : Issued) : Option Phase :=
  match p, e.call with
  | .start, .create _ => some .created
  | .created, .connect => some (if e.reply.connect.1 then .connected else .unconnected)
  | .connected, .login _ => some (if e.reply.login.1 then .authenticated else .loginFailed)
  | .authenticated, .sendFax .. | .authenticated, .getJobStatus _ | .authenticated, .control .. =>
    some .authenticated
  | .connected, .disconnect | .loginFailed, .disconnect | .authenticated, .disconnect => some .disconnected
  | .unconnected, .destroy | .disconnected, .destroy => some .closed
  | _, _ => none

/-- The phase after calls `es`. -/
def Phase.after : Phase → List Issued → Option Phase
  | p, [] => some p
  | p, e :: es => (p.next e).bind (Phase.after · es)

/-- `es` is one whole session. -/
def ScopedSession (es : List Issued) : Prop := Phase.after .start es = some .closed

instance (es : List Issued) : Decidable (ScopedSession es) := inferInstanceAs (Decidable (_ = _))

theorem Phase.after_append (p : Phase) (xs ys : List Issued) :
    p.after (xs ++ ys) = (p.after xs).bind (Phase.after · ys) := by
  induction xs generalizing p with
  | nil => rfl
  | cons e xs ih => cases h : p.next e <;> simp [Phase.after, h, ih]

/-- The flags of `PyFaxAPI` in each phase. -/
def Phase.flags : Phase → Flags
  | .connected | .loginFailed => ⟨true, false⟩
  | .authenticated => ⟨true, true⟩
  | _ => ⟨false, false⟩

/-- The phases a `with` block can leave its body in. -/
def Phase.IsOpen : Phase → Prop
  | .unconnected | .connected | .loginFailed | .authenticated => True
  | _ => False

/-! ## The program along the protocol -/

/-- `w` is at phase `p` of a session whose calls follow `base` in the log. -/
def At (base : List Issued) (p : Phase) (w : World) : Prop :=
  ∃ es, w.log = base ++ es ∧ Phase.start.after es = some p ∧ w.api = p.flags

/-- `w` is at a phase a `with` body leaves. -/
def Opened (base : List Issued) (w : World) : Prop := ∃ p, p.IsOpen ∧ At base p w


/-- The calls after `base`: none while `A` fails, one whole session once it holds. -/
def Settled (base : List Issued) (A : Prop) (w : World) : Prop :=
  (w.log = base ∧ ¬A) ∨ (At base .closed w ∧ A)

/-- `PyFaxAPI(HYLAFAX_HOST)` returns: `_find_library` finds a path, `ctypes.CDLL` loads it,
and the host name encodes. -/
def Env.LibraryLoads (env : Env) : Prop :=
  PyFaxAPI.loadLibrary env.lib = .ok () ∧ ∃ h, encodeUtf8 env.host = .ok h

section Steps

variable {base : List Issued} {o : Oracle}

theorem At.api_eq {p : Phase} {w : World} (h : At base p w) : w.api = p.flags := by
  obtain ⟨_, _, _, h⟩ := h
  exact h

/-- A call the protocol allows moves `At` along it, the flags set to the new phase's. -/
theorem At.step {p p' : Phase} {w : World} {c : Call} {f : Flags} (h : At base p w)
    (hn : p.next ⟨c, w.api, o w.log.length⟩ = some p') (hf : f = p'.flags) :
    At base p' { w.logged o c with api := f } := by
  obtain ⟨es, hlog, hp, -⟩ := h
  refine ⟨es ++ [⟨c, w.api, o w.log.length⟩], by simp [hlog], ?_, hf⟩
  rw [Phase.after_append, hp]
  simpa [Phase.after] using hn

theorem At.logged {p p' : Phase} {w : World} {c : Call} (h : At base p w)
    (hn : p.next ⟨c, w.api, o w.log.length⟩ = some p') (hf : w.api = p'.flags) :
    At base p' (w.logged o c) :=
  h.step hn hf

theorem At.job {w : World} {c : Call} (h : At base .authenticated w) (hc : c.IsJobOp) :
    At base .authenticated (w.logged o c) :=
  h.logged (by cases c <;> first | rfl | exact hc.elim) h.api_eq

theorem At.opened {p : Phase} {w : World} (h : At base p w) (hp : p.IsOpen) : Opened base w :=
  ⟨p, hp, h⟩


/-- `PyFaxAPI(host)`: `fax_api_create` when the library loads and the host name encodes;
otherwise it raises before any call. -/
theorem init_triple (lib : LibEnv) (host : PyStr) :
    Triple (fun w => w.log = base) (PyFaxAPI.init o lib host)
      (fun _ w => (PyFaxAPI.loadLibrary lib = .ok () ∧ ∃ h, encodeUtf8 host = .ok h) ∧ At base .created w)
      (fun _ w => w.log = base ∧ ¬(PyFaxAPI.loadLibrary lib = .ok () ∧ ∃ h, encodeUtf8 host = .ok h)) := by
  intro w hw
  rw [PyFaxAPI.init_run]
  rcases PyFaxAPI.loadLibrary lib with _ | ⟨⟩
  · exact ⟨hw, fun ⟨h, _⟩ => nomatch h⟩
  · cases encodeUtf8 host with
    | error => exact ⟨hw, fun ⟨_, _, h⟩ => nomatch h⟩
    | ok h => exact ⟨⟨rfl, h, rfl⟩, [⟨.create h, w.api, o w.log.length⟩], by simp [hw], rfl, rfl⟩

theorem connect_triple :
    Triple (At base .created) (PyFaxAPI.connect o)
      (fun r => At base (if r.1 then .connected else .unconnected)) (fun _ => Opened base) := by
  intro w hw
  have hat := hw.step (o := o) (c := .connect) rfl
    (f := { w.api with connected := (o w.log.length).connect.1 })
    (by rw [hw.api_eq]; cases (o w.log.length).connect.1 <;> rfl)
  rw [PyFaxAPI.connect_run]
  cases decodeBuffer (o w.log.length).connect.2
  · exact hat.opened (by split <;> trivial)
  · exact hat

theorem login_triple :
    Triple (At base .connected) (PyFaxAPI.login o "")
      (fun r => At base (if r.1 then .authenticated else .loginFailed)) (fun _ => Opened base) := by
  intro w hw
  have hat := hw.step (o := o) (c := .login none) rfl
    (f := { w.api with loggedIn := (o w.log.length).login.1 })
    (by rw [hw.api_eq]; cases (o w.log.length).login.1 <;> rfl)
  rw [PyFaxAPI.login_run]
  cases decodeBuffer (o w.log.length).login.2
  · exact hat.opened (by split <;> trivial)
  · exact hat

/-- `__exit__` closes the session from every phase a body leaves it in. -/
theorem exit_triple :
    Triple (Opened base) (PyFaxAPI.exit o) (fun _ => At base .closed) (fun _ _ => False) := by
  rintro w ⟨p, hp, hw⟩
  rw [PyFaxAPI.exit_run, PyFaxAPI.disconnected]
  cases p <;> simp only [Phase.IsOpen] at hp
  case unconnected =>
    rw [if_neg (by simp [hw.api_eq, Phase.flags])]
    exact hw.logged rfl hw.api_eq
  all_goals
    rw [if_pos (by simp [hw.api_eq, Phase.flags])]
    exact (hw.step (o := o) (c := .disconnect) (f := ⟨false, false⟩) rfl rfl).logged rfl rfl

end Steps

/-! ## Job operations -/

section Jobs

variable {o : Oracle} {I : World → Prop}

/-- `get_job_status` makes one job call with the flags as they are, or none: it keeps what
logging such a call keeps, whether it returns or raises. -/
theorem getJobStatus_keeps (hI : ∀ w c, c.IsJobOp → I w → I (w.logged o c)) (q : QueueType) :
    Triple I (PyFaxAPI.getJobStatus o q) (fun _ => I) (fun _ => I) := by
  intro w hw
  rw [PyFaxAPI.getJobStatus_run]
  split_ifs
  · exact resultOf_post _ (fun _ => hI w _ trivial hw) fun _ => hI w _ trivial hw
  · exact hI w _ trivial hw
  · exact hw

theorem sendFax_keeps (hI : ∀ w c, c.IsJobOp → I w → I (w.logged o c)) (files : List PyStr)
    (destinations options : PyVal) :
    Triple I (PyFaxAPI.sendFax o files destinations options) (fun _ => I) (fun _ => I) := by
  intro w hw
  rw [PyFaxAPI.sendFax_run]
  split_ifs
  · rcases PyFaxAPI.sendFaxArgs files destinations options with _ | ⟨_, _, _⟩
    · exact hw
    · exact resultOf_post _ (fun _ => hI w _ trivial hw) fun _ => hI w _ trivial hw
  · exact hw

theorem jobControl_keeps (hI : ∀ w c, c.IsJobOp → I w → I (w.logged o c)) (op : ControlOp) (jobId : PyStr) :
    Triple I (PyFaxAPI.jobControl o op jobId) (fun _ => I) (fun _ => I) := by
  intro w hw
  rw [PyFaxAPI.jobControl_run]
  cases encodeUtf8 jobId
  · exact hw
  · exact resultOf_post _ (fun _ => hI w _ trivial hw) fun _ => hI w _ trivial hw

end Jobs

section Bodies

variable {base : List Issued} {o : Oracle}

/-- A job operation keeps the session authenticated, whether it returns or raises. -/
def JobBody {α : Type} (base : List Issued) (x : PyM α) : Prop :=
  Triple (At base .authenticated) x (fun _ => At base .authenticated) (fun _ => At base .authenticated)

theorem getJobStatus_jobBody (q : QueueType) : JobBody base (PyFaxAPI.getJobStatus o q) :=
  getJobStatus_keeps (fun _ _ hc h => h.job hc) q

theorem sendFax_jobBody (files : List PyStr) (destinations options : PyVal) :
    JobBody base (PyFaxAPI.sendFax o files destinations options) :=
  sendFax_keeps (fun _ _ hc h => h.job hc) files destinations options

theorem jobControl_jobBody (op : ControlOp) (jobId : PyStr) :
    JobBody base (PyFaxAPI.jobControl o op jobId) :=
  jobControl_keeps (fun _ _ hc h => h.job hc) op jobId

end Bodies

/-! ## Code that makes no call -/

/-- `x` leaves the log and the flags as they are, whether it returns or raises. -/
def KeepsCalls {α : Type} (x : PyM α) : Prop :=
  ∀ A : List Issued → Flags → Prop,
    Triple (fun w => A w.log w.api) x (fun _ w => A w.log w.api) (fun _ w => A w.log w.api)

/-- Code that makes no call keeps any property of the state that only reads the log and the
flags. -/
theorem KeepsCalls.triple {α : Type} {x : PyM α} (hx : KeepsCalls x) {I : World → Prop}
    (hI : ∀ w w' : World, w'.log = w.log → w'.api = w.api → I w → I w') :
    Triple I x (fun _ => I) (fun _ => I) := by
  intro w hw
  have h := hx (fun log api => ∃ v : World, v.log = log ∧ v.api = api ∧ I v) w ⟨w, rfl, rfl, hw⟩
  revert h
  cases x.run w <;> exact fun ⟨v, hl, ha, hv⟩ => hI v _ hl.symm ha.symm hv

theorem loadsOr_keepsCalls (x : Except PyExc PyVal) : KeepsCalls (loadsOr x) := fun _ _ h => by
  rcases x with e | v
  · cases e <;> exact h
  · exact h

theorem saveFile_keepsCalls (env : Env) (path : PyStr) : KeepsCalls (saveFile env path) := fun A => by
  unfold saveFile addUpload
  split
  · exact modify_triple fun _ h => h
  · refine Triple.ite (fun _ => ?_) fun _ => ?_
    · exact Triple.bind (modify_triple fun _ h => h) fun _ => Triple.throw_of fun _ h => h
    · exact Triple.bind (Triple.pure_of fun _ h => h) fun _ => Triple.throw_of fun _ h => h

theorem stageFiles_keepsCalls (env : Env) :
    ∀ files uploaded, KeepsCalls (stageFiles env files uploaded)
  | [], _ => fun _ => Triple.pure_of fun _ h => h
  | file :: files, uploaded => fun A => by
    unfold stageFiles
    split
    · exact (saveFile_keepsCalls env _ A).bind fun _ => stageFiles_keepsCalls env files _ A
    · exact stageFiles_keepsCalls env files uploaded A

theorem osUnlink_keepsCalls (env : Env) (path : PyStr) : KeepsCalls (osUnlink env path) := fun _ => by
  unfold osUnlink
  split
  · exact modify_triple fun _ h => h
  · exact Triple.throw_of fun _ h => h

theorem unlinkAll_keepsCalls (env : Env) : ∀ paths, KeepsCalls (unlinkAll env paths)
  | [] => fun _ => Triple.pure_of fun _ h => h
  | path :: paths => fun A =>
    Triple.bind (Triple.tryCatch (osUnlink_keepsCalls env path A) fun _ =>
      Triple.ite (fun _ => Triple.pure_of fun _ h => h) fun _ => Triple.throw_of fun _ h => h)
      fun _ => unlinkAll_keepsCalls env paths A

/-- The folder `u` after `os.unlink` of each of `paths`: those it removes are gone. -/
def afterUnlink (env : Env) (paths : List PyStr) (u : PyStr → Bool) : PyStr → Bool :=
  fun p => !(paths.contains p && (env.unlink p).isNone) && u p

@[simp] theorem afterUnlink_nil (env : Env) (u : PyStr → Bool) : afterUnlink env [] u = u := rfl

theorem afterUnlink_cons (env : Env) (path : PyStr) (paths : List PyStr) (u : PyStr → Bool) :
    afterUnlink env (path :: paths) u = afterUnlink env paths (afterUnlink env [path] u) := by
  funext p
  by_cases hp : p = path
  · subst hp
    cases h : env.unlink p <;> simp [afterUnlink, h]
  · simp [afterUnlink, hp]

theorem afterUnlink_of_not_mem {env : Env} {paths : List PyStr} {p : PyStr} (h : p ∉ paths)
    (u : PyStr → Bool) : afterUnlink env paths u p = u p := by
  simp [afterUnlink, h]

/-- `os.unlink(path)` from `w₀` removes the file, or raises what `os.unlink` raises for
`path` with the state as it was. -/
theorem osUnlink_spec (env : Env) (path : PyStr) (w₀ : World) :
    Triple (· = w₀) (osUnlink env path) (fun _ w => w = { w₀ with uploads := afterUnlink env [path] w₀.uploads })
      (fun e w => w = w₀ ∧ env.unlink path = some e) := by
  rintro w rfl
  unfold osUnlink
  cases hu : env.unlink path with
  | none =>
    have h1 : afterUnlink env [path] w.uploads = fun p => p != path && w.uploads p := by
      funext p
      by_cases hp : p = path
      · simp [afterUnlink, hp, hu]
      · simp only [bne_iff_ne.mpr hp, Bool.true_and]
        simp [afterUnlink, hp]
    rw [h1]
    rfl
  | some e => exact ⟨rfl, rfl⟩

/-- The cleanup loop from `w₀` makes no call. It returns with the paths `os.unlink` removes
gone; or it raises, when `os.unlink` raised something other than an `OSError` for one of the
paths, with the folder changed only at `paths`. -/
theorem unlinkAll_spec (env : Env) : ∀ (paths : List PyStr) (w₀ : World),
    Triple (· = w₀) (unlinkAll env paths) (fun _ w => w = { w₀ with uploads := afterUnlink env paths w₀.uploads })
      (fun _ w => (∀ p, w.uploads p ≠ w₀.uploads p → p ∈ paths) ∧
        ∃ p ∈ paths, ∃ e, env.unlink p = some e ∧ e.isOSError = false)
  | [], _ => fun _ hw => hw
  | path :: paths, w₀ => by
    -- `os.unlink(path)` under `except OSError: pass`
    have hstep : Triple (· = w₀) (tryCatch (osUnlink env path) fun e => if e.isOSError then pure () else throw e)
        (fun _ w => w = { w₀ with uploads := afterUnlink env [path] w₀.uploads })
        (fun _ w => (∀ p, w.uploads p ≠ w₀.uploads p → p ∈ path :: paths) ∧
          ∃ p ∈ path :: paths, ∃ e, env.unlink p = some e ∧ e.isOSError = false) := by
      refine Triple.tryCatch (osUnlink_spec env path w₀) fun e => Triple.ite (fun ho =>
        Triple.pure_of fun w ⟨hw, hu⟩ => ?_) fun ho => Triple.throw_of fun w ⟨hw, hu⟩ => ?_
      · have h1 : afterUnlink env [path] w₀.uploads = w₀.uploads := funext fun p => by
          by_cases hp : p = path <;> simp [afterUnlink, hp, hu]
        rw [hw, h1]
      · subst hw
        exact ⟨fun _ h => absurd rfl h, path, List.mem_cons_self _ _, e, hu, by simpa using ho⟩
    rw [unlinkAll]
    refine Triple.bind hstep fun _ => ?_
    refine (unlinkAll_spec env paths _).conseq (fun _ h => h) (fun _ w h => by rw [afterUnlink_cons, h])
      fun _ w ⟨hf, p, hp, he⟩ => ⟨fun q hq => ?_, p, List.mem_cons_of_mem _ hp, he⟩
    by_cases hq' : q = path
    · exact hq' ▸ List.mem_cons_self _ _
    · exact List.mem_cons_of_mem _ (hf q fun h => hq (h.trans (afterUnlink_of_not_mem (by simpa using hq') _)))

/-- When `os.unlink` raises nothing but `OSError`s, the cleanup loop returns, having removed
the paths `os.unlink` removes and kept the others. -/
theorem unlinkAll_run (env : Env) (paths : List PyStr) (w : World)
    (h : ∀ p ∈ paths, ∀ e, env.unlink p = some e → e.isOSError = true) :
    (unlinkAll env paths).run w = .ok () { w with uploads := afterUnlink env paths w.uploads } := by
  have hs := unlinkAll_spec env paths w w rfl
  revert hs
  cases (unlinkAll env paths).run w with
  | ok _ w' => exact fun h => h ▸ rfl
  | error _ w' => exact fun ⟨_, p, hp, e, he, ho⟩ => absurd (h p hp e he) (by simp [ho])

/-! ## The checks of `send_fax` -/

/-- The request passes the checks `send_fax` makes before staging, its fields loading as
`destinations` and `options`. -/
def SendRequest.Checked (req : SendRequest) (destinations options : PyVal) : Prop :=
  req.tooLarge = false ∧ req.files.isEmpty = false ∧ req.files.all (·.filename.isEmpty) = false ∧
    req.destinations = .ok destinations ∧ destinations.truthy = true ∧ req.options = .ok options

/-- `json.loads` under `except json.JSONDecodeError`: what it returns is the field's value,
and it raises only on a field that has none. -/
theorem loadsOr_spec {P : World → Prop} {E : PyExc → World → Prop} (x : Except PyExc PyVal)
    (he : ∀ e w, P w → (∀ v, x ≠ .ok v) → E e w) :
    Triple P (loadsOr x) (fun r w => (∀ v, x = .ok v ↔ r = some v) ∧ P w) E := by
  intro w hw
  rcases x with e | v
  · cases e
    case jsonDecodeError => exact ⟨fun _ => iff_of_false (nomatch ·) (nomatch ·), hw⟩
    all_goals exact he _ w hw fun _ h => nomatch h
  · exact ⟨fun _ => ⟨fun h => by cases h; rfl, fun h => by cases h; rfl⟩, hw⟩

/-- The checks of `send_fax` before its session, walked once for any invariant `P`: a check
that turns the request away answers 400, or raises, from a `P` state, no loading of the
fields passing them all; staging runs from `P` once they pass; an empty staging answers 400;
and the session runs on what staging leaves. `except Exception` answers 500 from where the
body raised. -/
theorem sendFax_walk {P : World → Prop} {S : List PyStr → World → Prop}
    {Q : Response → World → Prop} {E : PyExc → World → Prop} {env : Env} {req : SendRequest}
    (h400 : ∀ m w, P w → (∀ d o, ¬ req.Checked d o) → Q (createApiResponse false .null m 400) w)
    (hraise : ∀ e w, P w → (∀ d o, ¬ req.Checked d o) → E e w)
    (hstage : ∀ d o, req.Checked d o → Triple P (stageFiles env req.files []) S E)
    (hnone : ∀ w, S [] w → Q (createApiResponse false .null "No valid files uploaded" 400) w)
    (hsession : ∀ d o u, req.Checked d o → u ≠ [] →
      Triple (S u) (openSession env (submitAndUnlink env u d o)) Q E)
    (h500 : ∀ e w, E e w → Q (createApiResponse false .null e.str 500) w) :
    Triple P (sendFax env req) Q (fun _ _ => False) := by
  have ret : ∀ m, (∀ d o, ¬ req.Checked d o) →
      Triple P (pure (createApiResponse false .null m 400) : PyM Response) Q E :=
    fun _ hn => Triple.pure_of fun w h => h400 _ w h hn
  have skip : Triple P (pure PUnit.unit : PyM PUnit) (fun _ => P) E := Triple.pure_of fun _ h => h
  refine Triple.tryCatch ?_ fun e => Triple.pure_of fun w h => h500 e w h
  refine Triple.ite (fun ht => Triple.bind (Triple.throw_of (Q := fun _ _ => False) fun w h =>
    hraise _ w h fun _ _ hc => by simp [hc.1] at ht) fun _ _ h => h.elim) fun ht => skip.bind fun _ => ?_
  refine Triple.ite (fun hf => ret _ fun _ _ hc => by simp [hc.2.1] at hf) fun hf => skip.bind fun _ => ?_
  refine Triple.ite (fun ha => ret _ fun _ _ hc => by simp [hc.2.2.1] at ha) fun ha => skip.bind fun _ => ?_
  refine (loadsOr_spec _ fun e w h hd => hraise e w h fun d _ hc => hd d hc.2.2.2.1).bind
    fun destinations => Triple.pre fun hd => ?_
  rcases destinations with _ | d
  · exact ret _ fun d _ hc => nomatch (hd d).mp hc.2.2.2.1
  refine Triple.ite (fun hdt => ret _ fun d' _ hc => ?_) fun hdt => skip.bind fun _ => ?_
  · obtain rfl := Option.some.inj ((hd d').mp hc.2.2.2.1)
    simp [hc.2.2.2.2.1] at hdt
  refine (loadsOr_spec _ fun e w h ho => hraise e w h fun d' o hc => ho o hc.2.2.2.2.2).bind
    fun options => Triple.pre fun ho => ?_
  rcases options with _ | o
  · exact ret _ fun _ o hc => nomatch (ho o).mp hc.2.2.2.2.2
  have hc : req.Checked d o := ⟨by simpa using ht, by simpa using hf, by simpa using ha,
    (hd d).mpr rfl, by simpa using hdt, (ho o).mpr rfl⟩
  refine (hstage d o hc).bind fun u => Triple.ite (fun hu => Triple.pure_of fun w h => ?_) fun hu =>
    Triple.bind (Triple.pure_of (Q := fun _ => S u) fun _ h => h) fun _ => hsession d o u hc ?_
  · obtain rfl := List.isEmpty_iff.mp hu
    exact hnone w h
  · exact fun h => hu (by simp [h])

/-! ## Sessions and views -/

section Views

variable {base : List Issued}

theorem JobBody.bind {α β : Type} {x : PyM α} {f : α → PyM β} (hx : JobBody base x)
    (hf : ∀ a, JobBody base (f a)) : JobBody base (x >>= f) := by
  unfold JobBody at *
  exact Triple.bind hx hf

theorem JobBody.pure {α : Type} (a : α) : JobBody base (Pure.pure a : PyM α) :=
  Triple.pure_of fun _ h => h

theorem KeepsCalls.jobBody {α : Type} {x : PyM α} (hx : KeepsCalls x) : JobBody base x :=
  hx fun log api => ∃ es, log = base ++ es ∧ Phase.start.after es = some .authenticated ∧ api = Phase.authenticated.flags

theorem submitAndUnlink_jobBody (env : Env) (uploaded : List PyStr) (destinations options : PyVal) :
    JobBody base (submitAndUnlink env uploaded destinations options) :=
  (sendFax_jobBody _ _ _).bind fun _ => (unlinkAll_keepsCalls env uploaded).jobBody.bind fun _ => by
    split <;> exact .pure _

/-- The search of `get_job_info` calls nothing but `get_job_status`: it keeps what every
`get_job_status` keeps. -/
theorem findJob_triple (env : Env) (jobId : PyStr) {P : World → Prop}
    (hq : ∀ q, Triple P (PyFaxAPI.getJobStatus env.oracle q) (fun _ => P) (fun _ => P))
    (qs : List QueueType) : Triple P (findJob env jobId qs) (fun _ => P) (fun _ => P) := by
  have step : ∀ {β : Type} (c : Prop) [Decidable c] (a b : β),
      Triple P (if c then pure a else do pure PUnit.unit; pure b : PyM β) (fun _ => P) (fun _ => P) :=
    fun _ _ _ _ => Triple.ite (fun _ => Triple.pure_of fun _ h => h) fun _ =>
      Triple.bind (Triple.pure_of fun _ h => h) fun _ => Triple.pure_of fun _ h => h
  exact Triple.bind (forIn_triple (fun q _ => Triple.bind (hq q) fun jobs =>
    Triple.bind (forIn_triple (fun _ _ => step _ _ _) jobs _) fun _ => step _ _ _) qs _) fun _ =>
      Triple.pure_of fun _ h => h

theorem findJob_jobBody (env : Env) (jobId : PyStr) (qs : List QueueType) :
    JobBody base (findJob env jobId qs) :=
  findJob_triple env jobId getJobStatus_jobBody qs

theorem catchAll_triple {P R : World → Prop} {E : PyExc → World → Prop} {data : PyVal} {body : PyM Response}
    (h : Triple P body (fun _ => R) (fun _ => R)) : Triple P (catchAll data body) (fun _ => R) E :=
  Triple.tryCatch h fun _ => Triple.pure_of fun _ h => h

/-- A `with PyFaxAPI(HYLAFAX_HOST)` block entered with `A` holding, whose body is a session
from its creation: one whole session when the library loads, no call when it does not. -/
theorem withPyFaxAPI_triple {α : Type} {lib : LibEnv} {o : Oracle} {host : PyStr} {body : PyM α}
    {A : Prop} (hA : A) (h : Triple (At base .created) body (fun _ => Opened base) (fun _ => Opened base)) :
    Triple (fun w => w.log = base) (withPyFaxAPI lib o host body)
      (fun _ => Settled base (A ∧ PyFaxAPI.loadLibrary lib = .ok () ∧ ∃ h, encodeUtf8 host = .ok h))
      (fun _ => Settled base (A ∧ PyFaxAPI.loadLibrary lib = .ok () ∧ ∃ h, encodeUtf8 host = .ok h)) := by
  refine Triple.bind ((init_triple lib host).conseq (fun _ h => h) (fun _ _ h => h)
    fun _ _ ⟨h, hn⟩ => .inl ⟨h, fun ⟨_, hL⟩ => hn hL⟩) fun _ => Triple.pre fun hL => ?_
  have hexit : ∀ {Q : World → Prop}, (∀ w, Settled base (A ∧ _) w → Q w) →
      Triple (Opened base) (PyFaxAPI.exit o) (fun _ => Q) (fun _ => Q) :=
    fun hQ => exit_triple.conseq (fun _ h => h) (fun _ _ h => hQ _ (.inr ⟨h, hA, hL⟩)) fun _ _ h => h.elim
  refine Triple.bind (Triple.tryCatch h fun e => (hexit fun _ h => h).bind fun _ => Triple.throw_of fun _ h => h)
    fun r => (hexit fun _ h => h).bind fun _ => Triple.pure_of fun _ h => h

/-- `authenticated env k` from a new session, `k` a job body, leaves it open. -/
theorem authenticated_triple (env : Env) {k : PyM Response} (hk : JobBody base k) :
    Triple (At base .created) (authenticated env k) (fun _ => Opened base) (fun _ => Opened base) := by
  refine Triple.bind connect_triple fun ⟨success, error⟩ => ?_
  cases success
  · exact Triple.pure_of fun _ h => h.opened trivial
  · refine Triple.bind (Triple.pure_of fun _ h => h) fun _ => Triple.bind login_triple fun ⟨success, error⟩ => ?_
    cases success
    · exact Triple.pure_of fun _ h => h.opened trivial
    · exact Triple.bind (Triple.pure_of fun _ h => h) fun _ =>
        hk.conseq (fun _ h => h) (fun _ _ h => h.opened trivial) fun _ _ h => h.opened trivial

theorem openSession_triple (env : Env) {k : PyM Response} {A : Prop} (hA : A) (hk : JobBody base k) :
    Triple (fun w => w.log = base) (openSession env k) (fun _ => Settled base (A ∧ env.LibraryLoads))
      (fun _ => Settled base (A ∧ env.LibraryLoads)) :=
  withPyFaxAPI_triple hA (authenticated_triple env hk)

theorem healthCheck_triple (env : Env) {E : PyExc → World → Prop} :
    Triple (fun w => w.log = base) (healthCheck env) (fun _ => Settled base (True ∧ env.LibraryLoads)) E :=
  catchAll_triple <| withPyFaxAPI_triple trivial <| Triple.bind connect_triple fun ⟨success, _⟩ => by
    cases success <;> exact Triple.pure_of fun _ h => h.opened trivial

theorem getFaxStatus_triple (env : Env) (queue : Option PyStr) {E : PyExc → World → Prop} :
    Triple (fun w => w.log = base) (getFaxStatus env queue)
      (fun _ => Settled base ((queueMapping.lookup (lower (queue.getD "send"))).isSome ∧ env.LibraryLoads)) E := by
  refine catchAll_triple ?_
  dsimp only
  split
  · rename_i hq
    exact openSession_triple env (by simp [hq]) ((getJobStatus_jobBody _).bind fun _ => .pure _)
  · rename_i hq
    exact Triple.pure_of fun _ h => .inl ⟨h, fun ⟨hs, _⟩ => by
      obtain ⟨q, hs⟩ := Option.isSome_iff_exists.mp hs
      exact hq q hs⟩

theorem getJobInfo_triple (env : Env) (jobId : PyStr) {E : PyExc → World → Prop} :
    Triple (fun w => w.log = base) (getJobInfo env jobId) (fun _ => Settled base (True ∧ env.LibraryLoads)) E :=
  catchAll_triple <| openSession_triple env trivial <| (findJob_jobBody env jobId _).bind fun _ => by
    split <;> exact .pure _

theorem controlJob_triple (env : Env) (op : ControlOp) (done : String) (jobId : PyStr)
    {E : PyExc → World → Prop} :
    Triple (fun w => w.log = base) (controlJob env op done jobId) (fun _ => Settled base (True ∧ env.LibraryLoads)) E :=
  catchAll_triple <| openSession_triple env trivial <| (jobControl_jobBody op jobId).bind fun ⟨success, _⟩ => by
    cases success <;> exact .pure _

end Views

/-! ## Requests -/

/-- From `w`, the request gets past its view's checks to `with PyFaxAPI(HYLAFAX_HOST)`: for
`send_fax`, its fields pass and the staging loop saves at least one file; for
`get_fax_status`, the queue is one of `queue_mapping`'s; the other views check nothing. -/
def Request.Admitted (env : Env) (w : World) : Request → Prop
  | .sendFax req => ∃ d o u w', req.Checked d o ∧ (stageFiles env req.files []).run w = .ok u w' ∧ u ≠ []
  | .status queue => (queueMapping.lookup (lower (queue.getD "send"))).isSome
  | _ => True

theorem sendFax_triple (env : Env) (req : SendRequest) (w₀ : World) :
    Triple (· = w₀) (sendFax env req)
      (fun _ => Settled w₀.log ((Request.sendFax req).Admitted env w₀ ∧ env.LibraryLoads)) (fun _ _ => False) := by
  have turned : ∀ w, w = w₀ → (∀ d o, ¬ req.Checked d o) →
      Settled w₀.log ((Request.sendFax req).Admitted env w₀ ∧ env.LibraryLoads) w :=
    fun _ hw hn => .inl ⟨congrArg World.log hw, fun ⟨⟨d, o, _, _, hc, _⟩, _⟩ => hn d o hc⟩
  refine sendFax_walk (S := fun u w => (stageFiles env req.files []).run w₀ = .ok u w ∧ w.log = w₀.log)
    (Q := fun _ => Settled w₀.log ((Request.sendFax req).Admitted env w₀ ∧ env.LibraryLoads))
    (E := fun _ => Settled w₀.log ((Request.sendFax req).Admitted env w₀ ∧ env.LibraryLoads))
    (fun _ w hw hn => turned w hw hn) (fun _ w hw hn => turned w hw hn) (fun _ _ _ w hw => ?_)
    (fun w ⟨hr, hl⟩ => .inl ⟨hl, fun ⟨⟨_, _, u, _, _, hr', hu⟩, _⟩ => hu ?_⟩)
    (fun d o u hc hu w ⟨hr, hl⟩ => openSession_triple env ⟨d, o, u, w, hc, hr, hu⟩
      (submitAndUnlink_jobBody env u d o) w hl) fun _ _ h => h
  · subst hw
    have hl := stageFiles_keepsCalls env req.files [] (fun log _ => log = w.log) w rfl
    revert hl
    cases hr : (stageFiles env req.files []).run w with
    | ok u w' => exact fun hl => ⟨rfl, hl⟩
    | error e w' => exact fun hl => .inl ⟨hl, fun ⟨⟨_, _, _, _, _, hr', _⟩, _⟩ => by rw [hr] at hr'; cases hr'⟩
  · rw [hr] at hr'
    cases hr'
    rfl

/-- Every view, from `w₀`: no call when the request is turned away or the library does not
load, one whole session otherwise; and it never raises. -/
theorem view_triple (env : Env) (r : Request) (w₀ : World) :
    Triple (· = w₀) (view env r) (fun _ => Settled w₀.log (r.Admitted env w₀ ∧ env.LibraryLoads))
      (fun _ _ => False) := by
  have unlogged : ∀ w : World, w = w₀ → w.log = w₀.log := fun _ h => congrArg World.log h
  cases r with
  | health => exact (healthCheck_triple env).conseq unlogged (fun _ _ h => h) fun _ _ h => h
  | sendFax req => exact sendFax_triple env req w₀
  | status queue => exact (getFaxStatus_triple env queue).conseq unlogged (fun _ _ h => h) fun _ _ h => h
  | jobInfo jobId => exact (getJobInfo_triple env jobId).conseq unlogged (fun _ _ h => h) fun _ _ h => h
  | control op jobId =>
    cases op <;> exact (controlJob_triple env _ _ jobId).conseq unlogged (fun _ _ h => h) fun _ _ h => h

/-- A request its view admits, on a host whose library loads, makes one whole scoped session
of calls into the library: `fax_api_create`, then `fax_api_connect`, and so on along `Phase`
to `fax_api_destroy`, whatever the library answers. Any other request makes no call at all. -/
theorem request_calls_one_session (env : Env) (r : Request) (w : World) :
    ∃ es, (stateOf ((handle env r).run w)).log = w.log ++ es ∧
      (r.Admitted env w ∧ env.LibraryLoads → ScopedSession es) ∧
      (¬(r.Admitted env w ∧ env.LibraryLoads) → es = []) := by
  have h : Triple (· = w) (handle env r) (fun _ => Settled w.log (r.Admitted env w ∧ env.LibraryLoads))
      (fun _ => Settled w.log (r.Admitted env w ∧ env.LibraryLoads)) :=
    Triple.tryCatch (view_triple env r w) fun _ _ h => h.elim
  rcases h.state_of rfl with ⟨hlog, hn⟩ | ⟨⟨es, hlog, hp, -⟩, hA⟩
  · exact ⟨[], by simp [hlog], fun hA => absurd hA hn, fun _ => rfl⟩
  · exact ⟨es, hlog, fun _ => hp, fun hn => absurd hA hn⟩

end HylaFax.RestApi
