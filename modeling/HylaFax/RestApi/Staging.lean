import HylaFax.RestApi.Session
import HylaFax.RestApi.Uploads

/-!
# The upload folder

Only `send_fax` touches `UPLOAD_FOLDER`: its staging loop saves each accepted file at
`UPLOAD_FOLDER/<uuid4>_<secure_filename(name)>` (a `StagingPath` of the request's files), and
its session unlinks what was saved once the wrapper's `send_fax` has returned. The library's
methods, `__init__` and `__exit__`, and every other view leave the folder alone
(`KeepsUploads`).

Along the view the folder is `Staged` (the files saved so far at their staging paths, the rest
as before) and then `Unlinked` (those files gone where `os.unlink` removed them, the rest as
before); whatever happens it is `Framed` (it differs from before only at staging paths).

* `request_touches_only_staging_paths`: every request, whatever the library and the host do,
  changes the folder only at staging paths of the files of a `send_fax` request;
* `answered_send_unlinks_staged`: a `send_fax` request answered 200 or 400 leaves the folder
  as it found it but at the files it staged, each gone where `os.unlink` removed it and kept
  where `os.unlink` raised an `OSError`.
-/

namespace HylaFax.RestApi

open HylaFax.Py HylaFax.PyFax

/-! ## Code that leaves the folder alone -/

/-- `x` leaves the upload folder as it is, whether it returns or raises. -/
def KeepsUploads {α : Type} (x : PyM α) : Prop :=
  ∀ A : (PyStr → Bool) → Prop,
    Triple (fun w => A w.uploads) x (fun _ w => A w.uploads) (fun _ w => A w.uploads)

section Keeps

variable {o : Oracle}

theorem init_keepsUploads (lib : LibEnv) (host : PyStr) : KeepsUploads (PyFaxAPI.init o lib host) := by
  intro _ w hw
  rw [PyFaxAPI.init_run]
  rcases PyFaxAPI.loadLibrary lib with _ | ⟨⟩
  · exact hw
  · cases encodeUtf8 host <;> exact hw

theorem connect_keepsUploads : KeepsUploads (PyFaxAPI.connect o) := fun _ w hw => by
  rw [PyFaxAPI.connect_run]
  exact resultOf_post _ (fun _ => hw) fun _ => hw

theorem login_keepsUploads (username : PyStr) : KeepsUploads (PyFaxAPI.login o username) :=
  fun _ w hw => by
    rw [PyFaxAPI.login_run]
    cases PyFaxAPI.loginUser username
    · exact hw
    · exact resultOf_post _ (fun _ => hw) fun _ => hw

theorem sendFax_keepsUploads (files : List PyStr) (destinations options : PyVal) :
    KeepsUploads (PyFaxAPI.sendFax o files destinations options) := fun _ =>
  sendFax_keeps (fun _ _ _ h => h) files destinations options

theorem getJobStatus_keepsUploads (q : QueueType) : KeepsUploads (PyFaxAPI.getJobStatus o q) := fun _ =>
  getJobStatus_keeps (fun _ _ _ h => h) q

theorem jobControl_keepsUploads (op : ControlOp) (jobId : PyStr) :
    KeepsUploads (PyFaxAPI.jobControl o op jobId) := fun _ =>
  jobControl_keeps (fun _ _ _ h => h) op jobId

/-- `__exit__` leaves the folder alone, and never raises. -/
theorem exit_uploads {E : PyExc → World → Prop} (A : (PyStr → Bool) → Prop) :
    Triple (fun w => A w.uploads) (PyFaxAPI.exit o) (fun _ w => A w.uploads) E := fun w hw => by
  rw [PyFaxAPI.exit_run, PyFaxAPI.disconnected]
  split_ifs <;> exact hw

end Keeps

/-! ## Sessions, as the folder sees them -/

section Session

variable {A E : (PyStr → Bool) → Prop}

/-- A `with PyFaxAPI(...)` block does to the folder what its body does. -/
theorem withPyFaxAPI_uploads {α : Type} {Q : α → (PyStr → Bool) → Prop} {lib : LibEnv} {o : Oracle}
    {host : PyStr} {body : PyM α} (hA : ∀ u, A u → E u)
    (h : Triple (fun w => A w.uploads) body (fun r w => Q r w.uploads) (fun _ w => E w.uploads)) :
    Triple (fun w => A w.uploads) (withPyFaxAPI lib o host body) (fun r w => Q r w.uploads)
      (fun _ w => E w.uploads) := by
  refine Triple.bind ((init_keepsUploads lib host A).conseq (fun _ h => h) (fun _ _ h => h)
    fun _ _ h => hA _ h) fun _ => Triple.bind (Triple.tryCatch h fun _ => ?_) fun r => ?_
  · exact (exit_uploads E).bind fun _ => Triple.throw_of fun _ h => h
  · exact (exit_uploads (Q r)).bind fun _ => Triple.pure_of (Q := fun r (w : World) => Q r w.uploads) fun _ h => h

/-- `authenticated env k` answers 503 with the folder as it found it, or does what `k` does. -/
theorem authenticated_uploads {Q : Response → (PyStr → Bool) → Prop} {env : Env} {k : PyM Response}
    (hA : ∀ u, A u → E u) (h503 : ∀ m u, A u → Q (createApiResponse false .null m 503) u)
    (hk : Triple (fun w => A w.uploads) k (fun r w => Q r w.uploads) (fun _ w => E w.uploads)) :
    Triple (fun w => A w.uploads) (authenticated env k) (fun r w => Q r w.uploads) (fun _ w => E w.uploads) := by
  have keep : ∀ {β : Type} {x : PyM β}, KeepsUploads x →
      Triple (fun w => A w.uploads) x (fun _ w => A w.uploads) (fun _ w => E w.uploads) :=
    fun hx => (hx A).conseq (fun _ h => h) (fun _ _ h => h) fun _ _ h => hA _ h
  refine Triple.bind (keep connect_keepsUploads) fun ⟨success, _⟩ => ?_
  cases success
  · exact Triple.pure_of fun _ h => h503 _ _ h
  · refine Triple.bind (Triple.pure_of fun _ h => h) fun _ =>
      Triple.bind (keep (login_keepsUploads "")) fun ⟨success, _⟩ => ?_
    cases success
    · exact Triple.pure_of fun _ h => h503 _ _ h
    · exact Triple.bind (Triple.pure_of fun _ h => h) fun _ => hk

theorem openSession_uploads {Q : Response → (PyStr → Bool) → Prop} {env : Env} {k : PyM Response}
    (hA : ∀ u, A u → E u) (h503 : ∀ m u, A u → Q (createApiResponse false .null m 503) u)
    (hk : Triple (fun w => A w.uploads) k (fun r w => Q r w.uploads) (fun _ w => E w.uploads)) :
    Triple (fun w => A w.uploads) (openSession env k) (fun r w => Q r w.uploads) (fun _ w => E w.uploads) :=
  withPyFaxAPI_uploads hA (authenticated_uploads hA h503 hk)

/-- `except Exception` answers 500, from where the body raised. -/
theorem catchAll_uploads {Q : Response → (PyStr → Bool) → Prop} {E' : PyExc → World → Prop}
    {P : World → Prop} {data : PyVal} {body : PyM Response}
    (h500 : ∀ m u, E u → Q (createApiResponse false data m 500) u)
    (h : Triple P body (fun r w => Q r w.uploads) (fun _ w => E w.uploads)) :
    Triple P (catchAll data body) (fun r w => Q r w.uploads) E' :=
  Triple.tryCatch h fun _ => Triple.pure_of fun _ h => h500 _ _ h

end Session

section Views

variable (env : Env)

/-- A view whose session keeps the folder keeps it. -/
theorem openSession_keepsUploads {k : PyM Response} (hk : KeepsUploads k) :
    KeepsUploads (openSession env k) :=
  fun U => openSession_uploads (fun _ h => h) (fun _ _ h => h) (hk U)

theorem healthCheck_keepsUploads : KeepsUploads (healthCheck env) := fun U =>
  catchAll_triple <| withPyFaxAPI_uploads (fun _ h => h) <|
    Triple.bind (connect_keepsUploads U) fun ⟨success, _⟩ => by
      cases success <;> exact Triple.pure_of fun _ h => h

theorem getFaxStatus_keepsUploads (queue : Option PyStr) : KeepsUploads (getFaxStatus env queue) := by
  intro U
  refine catchAll_triple ?_
  dsimp only
  split
  · exact openSession_keepsUploads env (fun U => Triple.bind (getJobStatus_keepsUploads _ U)
      fun _ => Triple.pure_of fun _ h => h) U
  · exact Triple.pure_of fun _ h => h

theorem getJobInfo_keepsUploads (jobId : PyStr) : KeepsUploads (getJobInfo env jobId) := fun U =>
  catchAll_triple <| openSession_keepsUploads env (fun U =>
    (findJob_triple env jobId (fun q => getJobStatus_keepsUploads q U) _).bind fun _ => by
      split <;> exact Triple.pure_of fun _ h => h) U

theorem controlJob_keepsUploads (op : ControlOp) (done : String) (jobId : PyStr) :
    KeepsUploads (controlJob env op done jobId) := fun U =>
  catchAll_triple <| openSession_keepsUploads env (fun U =>
    (jobControl_keepsUploads op jobId U).bind fun ⟨success, _⟩ => by
      cases success <;> exact Triple.pure_of fun _ h => h) U

end Views

/-! ## Staging and unlinking -/

/-- A path `send_fax` may stage one of `files` at: `UPLOAD_FOLDER/<uuid4>_<secure_filename>`
for a file with a name and an allowed extension, the `uuid4()` being one of the request's
first `len(files)`. -/
def StagingPath (env : Env) (files : List Upload) (p : PyStr) : Prop :=
  ∃ f ∈ files, (!f.filename.isEmpty && allowedFile f.filename) = true ∧ ∃ k < files.length,
    p = joinPath env.uploadFolder (env.uuid4 k ++ PyStr.ofString "_" ++ env.secureFilename f.filename)

section Folder

variable {env : Env} {files : List Upload} {u₀ : PyStr → Bool}

/-- The folder `u` differs from `u₀` only at staging paths. -/
def Framed (env : Env) (files : List Upload) (u₀ u : PyStr → Bool) : Prop :=
  ∀ p, u p ≠ u₀ p → StagingPath env files p

/-- The folder `u` is `u₀` but at the paths `uploaded`, each a staging path that holds a file. -/
def Staged (env : Env) (files : List Upload) (u₀ : PyStr → Bool) (uploaded : List PyStr)
    (u : PyStr → Bool) : Prop :=
  (∀ p ∈ uploaded, StagingPath env files p ∧ u p = true) ∧ ∀ p, p ∉ uploaded → u p = u₀ p

/-- The folder `u` is `u₀` but at the paths `uploaded`, each a staging path: a file stays at
one of them exactly when `os.unlink` raised an `OSError` for it. -/
def Unlinked (env : Env) (files : List Upload) (u₀ : PyStr → Bool) (uploaded : List PyStr)
    (u : PyStr → Bool) : Prop :=
  (∀ p ∈ uploaded, StagingPath env files p) ∧
    u = fun p => if uploaded.contains p then (env.unlink p).isSome else u₀ p

theorem Staged.framed {uploaded : List PyStr} {u : PyStr → Bool} (h : Staged env files u₀ uploaded u) :
    Framed env files u₀ u := fun p hp =>
  (h.1 p (by_contra fun hn => hp (h.2 p hn))).1

theorem Unlinked.framed {uploaded : List PyStr} {u : PyStr → Bool} (h : Unlinked env files u₀ uploaded u) :
    Framed env files u₀ u := fun p hp => by
  by_cases hm : p ∈ uploaded
  · exact h.1 p hm
  · simp [h.2, hm] at hp

theorem framed_of_eq {u : PyStr → Bool} (h : u = u₀) : Framed env files u₀ u := fun p hp =>
  absurd (congrFun h p) hp

theorem staged_of_eq {u : PyStr → Bool} (h : u = u₀) : Staged env files u₀ [] u :=
  ⟨by simp, fun p _ => congrFun h p⟩

theorem unlinked_of_eq {u : PyStr → Bool} (h : u = u₀) : Unlinked env files u₀ [] u :=
  ⟨by simp, by simpa using h⟩

/-- Saving at a staging path keeps the folder staged. -/
theorem Staged.add {uploaded : List PyStr} {u : PyStr → Bool} {path : PyStr}
    (h : Staged env files u₀ uploaded u) (hp : StagingPath env files path) :
    Staged env files u₀ (uploaded ++ [path]) fun p => p == path || u p := by
  refine ⟨fun p hm => ?_, fun p hm => ?_⟩
  · rcases List.mem_append.mp hm with hm | hm
    · exact ⟨(h.1 p hm).1, by simp [(h.1 p hm).2]⟩
    · obtain rfl := List.mem_singleton.mp hm
      exact ⟨hp, by simp⟩
  · simp only [List.mem_append, List.mem_singleton, not_or] at hm
    simp [hm.2, h.2 p hm.1]

/-- `os.unlink` of each staged path leaves the folder as it was but at those paths, where a
file stays exactly when `os.unlink` raised. -/
theorem Staged.unlink {uploaded : List PyStr} {u : PyStr → Bool} (h : Staged env files u₀ uploaded u) :
    Unlinked env files u₀ uploaded (afterUnlink env uploaded u) := by
  refine ⟨fun p hm => (h.1 p hm).1, funext fun p => ?_⟩
  by_cases hm : p ∈ uploaded
  · cases hu : env.unlink p <;> simp [afterUnlink, hm, hu, (h.1 p hm).2]
  · simp [afterUnlink, hm, h.2 p hm]

/-- The cleanup loop on the staged paths: they are unlinked, or it raises with the folder
framed. -/
theorem unlinkAll_unlinked {uploaded : List PyStr} :
    Triple (fun w => Staged env files u₀ uploaded w.uploads) (unlinkAll env uploaded)
      (fun _ w => Unlinked env files u₀ uploaded w.uploads) (fun _ w => Framed env files u₀ w.uploads) := by
  intro w hw
  have h := unlinkAll_spec env uploaded w w rfl
  revert h
  cases (unlinkAll env uploaded).run w with
  | ok _ w' => exact fun h => h ▸ hw.unlink
  | error _ w' =>
    refine fun ⟨hf, _⟩ p hp => ?_
    by_cases hw' : w'.uploads p = w.uploads p
    · exact hw.framed p (hw' ▸ hp)
    · exact (hw.1 p (hf p hw')).1

/-- `file.save(path)` at a staging path: saved, it is staged; raising, the folder is framed,
whether the file was created or not. -/
theorem saveFile_staged {uploaded : List PyStr} {path : PyStr} (hp : StagingPath env files path) :
    Triple (fun w => Staged env files u₀ uploaded w.uploads) (saveFile env path)
      (fun _ w => Staged env files u₀ (uploaded ++ [path]) w.uploads) (fun _ w => Framed env files u₀ w.uploads) := by
  unfold saveFile addUpload
  split
  · exact modify_triple fun _ h => h.add hp
  · refine Triple.ite (fun _ => ?_) fun _ => ?_
    · exact Triple.bind (modify_triple (Q := fun _ w => Framed env files u₀ w.uploads) fun _ h => (h.add hp).framed)
        fun _ => Triple.throw_of fun _ h => h
    · exact Triple.bind (Triple.pure_of fun _ h => h.framed) fun _ => Triple.throw_of fun _ h => h

/-- The staging loop, from the file `fs` of `files` on: it saves each accepted file at a
staging path, appending it to `uploaded`, and raises only with the folder framed. -/
theorem stageFiles_staged (env : Env) (files : List Upload) (u₀ : PyStr → Bool) :
    ∀ (fs : List Upload) (uploaded : List PyStr), (∀ f ∈ fs, f ∈ files) →
      uploaded.length + fs.length ≤ files.length →
      Triple (fun w => Staged env files u₀ uploaded w.uploads) (stageFiles env fs uploaded)
        (fun r w => Staged env files u₀ r w.uploads) (fun _ w => Framed env files u₀ w.uploads)
  | [], _, _, _ => Triple.pure_of fun _ h => h
  | file :: fs, uploaded, hfs, hlen => by
    have hsub : ∀ f ∈ fs, f ∈ files := fun f hf => hfs f (List.mem_cons_of_mem _ hf)
    simp only [List.length_cons] at hlen
    unfold stageFiles
    split
    · rename_i hacc
      have hp : StagingPath env files (joinPath env.uploadFolder
          (env.uuid4 uploaded.length ++ PyStr.ofString "_" ++ env.secureFilename file.filename)) :=
        ⟨file, hfs file (List.mem_cons_self _ _), hacc, uploaded.length, by omega, rfl⟩
      exact (saveFile_staged hp).bind fun _ =>
        stageFiles_staged env files u₀ fs _ hsub (by simp only [List.length_append, List.length_singleton]; omega)
    · exact stageFiles_staged env files u₀ fs uploaded hsub (by omega)

end Folder

/-! ## `send_fax` and the folder -/

/-- What `send_fax` leaves in the folder, from `u₀`, with its response `r`: the folder
framed, and when the answer is 200 or 400, the staged files unlinked. -/
def SendPost (env : Env) (files : List Upload) (u₀ : PyStr → Bool) (r : Response) (u : PyStr → Bool) : Prop :=
  Framed env files u₀ u ∧ (r.statusCode = 200 ∨ r.statusCode = 400 → ∃ uploaded, Unlinked env files u₀ uploaded u)

/-- The session body of `send_fax`, from a staged folder: the wrapper's `send_fax` leaves the
folder alone, then the cleanup loop unlinks the staged files, or raises. -/
theorem submitAndUnlink_uploads {env : Env} {files : List Upload} {u₀ : PyStr → Bool} {uploaded : List PyStr}
    {destinations options : PyVal} :
    Triple (fun w => Staged env files u₀ uploaded w.uploads) (submitAndUnlink env uploaded destinations options)
      (fun r w => SendPost env files u₀ r w.uploads) (fun _ w => Framed env files u₀ w.uploads) := by
  refine Triple.bind ((sendFax_keepsUploads _ _ _ _).conseq (fun _ h => h) (fun _ _ h => h)
    fun _ _ h => h.framed) fun _ => Triple.bind unlinkAll_unlinked fun _ => ?_
  split <;> exact Triple.pure_of fun _ h => ⟨h.framed, fun _ => ⟨_, h⟩⟩

theorem sendFax_uploads (env : Env) (req : SendRequest) (u₀ : PyStr → Bool) :
    Triple (fun w => w.uploads = u₀) (sendFax env req) (fun r w => SendPost env req.files u₀ r w.uploads)
      (fun _ _ => False) :=
  sendFax_walk (S := fun u w => Staged env req.files u₀ u w.uploads) (E := fun _ w => Framed env req.files u₀ w.uploads)
    (fun _ _ h _ => ⟨framed_of_eq h, fun _ => ⟨[], unlinked_of_eq h⟩⟩) (fun _ _ h _ => framed_of_eq h)
    (fun _ _ _ => (stageFiles_staged env req.files u₀ req.files [] (fun _ h => h) (by simp)).conseq
      (fun _ h => staged_of_eq h) (fun _ _ h => h) fun _ _ h => h)
    (fun _ h => ⟨h.framed, fun _ => ⟨[], unlinked_of_eq (funext fun p => h.2 p (List.not_mem_nil p))⟩⟩)
    (fun _ _ _ _ _ => openSession_uploads (fun _ h => h.framed)
      (fun _ _ h => ⟨h.framed, by simp [createApiResponse]⟩) submitAndUnlink_uploads)
    fun _ _ h => ⟨h, by simp [createApiResponse]⟩

/-- What a request may do to the folder, from `u₀`: change it only at staging paths of the
files of a `send_fax` request. -/
def Touched (env : Env) (r : Request) (u₀ u : PyStr → Bool) : Prop :=
  ∀ p, u p ≠ u₀ p → ∃ req, r = .sendFax req ∧ StagingPath env req.files p

theorem handle_touched (env : Env) (r : Request) (u₀ : PyStr → Bool) :
    Triple (fun w => w.uploads = u₀) (handle env r) (fun _ w => Touched env r u₀ w.uploads)
      (fun _ w => Touched env r u₀ w.uploads) := by
  have keep : ∀ {x : PyM Response}, KeepsUploads x → Triple (fun w => w.uploads = u₀) x
      (fun _ w => Touched env r u₀ w.uploads) (fun _ w => Touched env r u₀ w.uploads) := fun hx =>
    (hx (· = u₀)).conseq (fun _ h => h) (fun _ _ h p hp => absurd (congrFun h p) hp)
      fun _ _ h p hp => absurd (congrFun h p) hp
  have hv : Triple (fun w => w.uploads = u₀) (view env r) (fun _ w => Touched env r u₀ w.uploads)
      (fun _ w => Touched env r u₀ w.uploads) := by
    cases r with
    | health => exact keep (healthCheck_keepsUploads env)
    | sendFax req =>
      exact (sendFax_uploads env req u₀).conseq (fun _ h => h) (fun _ _ h p hp => ⟨req, rfl, h.1 p hp⟩)
        fun _ _ h => h.elim
    | status queue => exact keep (getFaxStatus_keepsUploads env queue)
    | jobInfo jobId => exact keep (getJobInfo_keepsUploads env jobId)
    | control op jobId => cases op <;> exact keep (controlJob_keepsUploads env _ _ jobId)
  exact Triple.tryCatch hv fun e => by
    cases e <;> first | exact Triple.pure_of fun _ h => h | exact Triple.throw_of fun _ h => h

/-- Every request changes the upload folder only at staging paths of the files of a
`send_fax` request: no other path of the folder is ever created or removed, whatever the
library, `uuid4`, `secure_filename` and `file.save` do, and whether the request is answered
or raises. -/
theorem request_touches_only_staging_paths (env : Env) (r : Request) (w : World) :
    Touched env r w.uploads (stateOf ((handle env r).run w)).uploads :=
  (handle_touched env r w.uploads).state_of rfl

/-- A `send_fax` request answered 200 or 400 leaves the folder as it found it but at the
files it staged, each at a staging path: each one is gone where `os.unlink` removed it, and
stays where `os.unlink` raised the `OSError` the view lets pass. -/
theorem answered_send_unlinks_staged (env : Env) (req : SendRequest) (w w' : World) (r : Response)
    (h : (handle env (.sendFax req)).run w = .ok r w') (hs : r.statusCode = 200 ∨ r.statusCode = 400) :
    ∃ uploaded : List PyStr, (∀ p ∈ uploaded, StagingPath env req.files p) ∧
      w'.uploads = fun p => if uploaded.contains p then (env.unlink p).isSome else w.uploads p := by
  have ht : Triple (fun w' => w'.uploads = w.uploads) (handle env (.sendFax req))
      (fun r w' => SendPost env req.files w.uploads r w'.uploads) (fun _ _ => False) :=
    Triple.tryCatch (sendFax_uploads env req w.uploads) fun _ _ h => h.elim
  have := ht w rfl
  rw [h] at this
  exact this.2 hs

/-- A host where every call succeeds but `os.unlink`, which raises `PermissionError`. -/
def lockedFolder : Env :=
  { stagingHost fun _ => Backend.allOk with unlink := fun _ => some (.osError "[Errno 13] Permission denied") }

/-- One `a.pdf` to `555` on that host: the answer is 200, and the folder is as before but for
the staged file, which stays. -/
theorem one_pdf_sent_unlink_refused :
    ∃ r w', (handle lockedFolder (.sendFax (onePdf (.list [.str "555"])))).run World.fresh = .ok r w' ∧
      r.statusCode = 200 ∧
      ∃ uploaded : List PyStr, (∀ p ∈ uploaded, StagingPath lockedFolder (onePdf (.list [.str "555"])).files p) ∧
        w'.uploads = fun p => if uploaded.contains p then (lockedFolder.unlink p).isSome else World.fresh.uploads p :=
  ⟨_, _, rfl, rfl, answered_send_unlinks_staged _ _ _ _ _ rfl (.inl rfl)⟩

end HylaFax.RestApi
