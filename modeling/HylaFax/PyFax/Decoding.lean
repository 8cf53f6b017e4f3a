import HylaFax.Py.Codec
import HylaFax.PyFax.Session

/-!
# What the library writes, decoded

The wrapper decodes every string the library reports with a strict `.decode('utf-8')`: the
1024-byte `error_msg` buffer up to its first NUL, the strings of `FaxSubmissionResult`, and
the twelve strings of each `FaxJobInfo` entry. `DecodesIff x P` (from `HylaFax.Py`) says
that `x` returns exactly when `P` holds and raises only a `UnicodeDecodeError`; the lemmas
here build it for each decoding step, as the code composes them.

* `operations_return_iff_utf8`: every method returns exactly when the strings it decodes are
  `NULL`, empty or valid UTF-8, and raises a `UnicodeDecodeError` otherwise;
* `connect_invalid_byte_raises`: one byte `0xff` in `error_msg` makes `connect` raise;
* `getJobStatus_records`: for a reported count up to 1000, `get_job_status` returns one record
  per entry, entry `i` giving record `i`, and it never returns more than 1000;
* `getJobStatus_over_1000_raises`: for a count of 1001 it raises `IndexError`, as it reads
  the 1000-entry array past its end;
* `listed_job_id_reaches_library`: a job id that `get_job_status` lists, handed back to
  `kill_job`, `suspend_job`, `resume_job` or `wait_for_job`, reaches the library as the bytes
  the library reported for that job, up to their NUL.
-/

namespace HylaFax.PyFax

open HylaFax.Py

/-! ## Decoding steps -/

/-- `error_msg.value` of the buffer the library wrote `buf` into decodes. -/
def BufferOk (buf : Bytes) : Prop := DecodesOk (some (cstr (buf.take 1024)))

/-- The strings of a `FaxSubmissionResult` decode. -/
def FaxSubmissionResult.DecodesOk (r : FaxSubmissionResult) : Prop :=
  Py.DecodesOk (r.jobId.map cstr) ∧ Py.DecodesOk (r.groupId.map cstr) ∧
    Py.DecodesOk (r.errorMessage.map cstr)

theorem decodeBuffer_decodesIff (buf : Bytes) : DecodesIff (decodeBuffer buf) (BufferOk buf) :=
  decodeOrEmpty_decodesIff _

theorem decodeCharP_decodesIff (p : Option Bytes) :
    DecodesIff (decodeCharP p) (Py.DecodesOk (p.map cstr)) :=
  decodeOrEmpty_decodesIff _

theorem toRecord_decodesIff (j : FaxJobInfo) : DecodesIff j.toRecord j.DecodesOk := by
  apply DecodesIff.congr
  · unfold FaxJobInfo.toRecord
    repeat (apply DecodesIff.bind (decodeCharP_decodesIff _); intro _)
    exact DecodesIff.pure _
  · simp [FaxJobInfo.DecodesOk]

theorem sendResult_decodesIff (success : Bool) (r : FaxSubmissionResult) :
    DecodesIff (PyFaxAPI.sendResult success r) r.DecodesOk := by
  apply DecodesIff.congr
  · unfold PyFaxAPI.sendResult
    repeat (apply DecodesIff.bind (decodeCharP_decodesIff _); intro _)
    exact DecodesIff.pure _
  · simp [FaxSubmissionResult.DecodesOk]

/-- Up to 1000 reported jobs, the records decode exactly when the entries read do. -/
theorem decodeJobs_decodesIff {count : BitVec 32} (h : count.toInt ≤ 1000) (jobs : Fin 1000 → FaxJobInfo) :
    DecodesIff (PyFaxAPI.decodeJobs count jobs)
      (∀ i : Fin 1000, i.val < count.toInt.toNat → (jobs i).DecodesOk) := by
  refine (DecodesIff.mapM (P := fun i => ∀ hi : i < 1000, (jobs ⟨i, hi⟩).DecodesOk) fun i hi => ?_).congr
    ⟨fun H j hj => H j (List.mem_range.mpr hj) j.isLt, fun H i hi hi' => H ⟨i, hi'⟩ (List.mem_range.mp hi)⟩
  have hi' : i < 1000 := by have := List.mem_range.mp hi; omega
  rw [dif_pos hi']
  exact (toRecord_decodesIff _).congr ⟨fun d _ => d, fun d => d hi'⟩

/-- The records `decodeJobs` returns are the entries `0, …, n - 1` decoded, in order. -/
theorem decodeJobs_eq_ok_iff {count : BitVec 32} {jobs : Fin 1000 → FaxJobInfo} {rs : List JobRecord} :
    PyFaxAPI.decodeJobs count jobs = .ok rs ↔
      List.Forall₂ (fun i r => ∃ h : i < 1000, (jobs ⟨i, h⟩).toRecord = .ok r)
        (List.range count.toInt.toNat) rs := by
  rw [PyFaxAPI.decodeJobs, mapM_eq_ok_iff]
  refine ⟨fun H => H.imp fun i r hr => ?_, fun H => H.imp fun i r ⟨hi, hr⟩ => by rwa [dif_pos hi]⟩
  split at hr
  · exact ⟨_, hr⟩
  · cases hr

/-- `decodeJobs` returns at most 1000 records: past the array it raises. -/
theorem decodeJobs_length_le {count : BitVec 32} {jobs : Fin 1000 → FaxJobInfo} {rs : List JobRecord}
    (h : PyFaxAPI.decodeJobs count jobs = .ok rs) : rs.length ≤ 1000 := by
  have H := decodeJobs_eq_ok_iff.mp h
  rw [← H.length_eq, List.length_range]
  by_contra hn
  obtain ⟨_, hlt, -⟩ := exists_of_mem_forall₂ H (List.mem_range.mpr (by omega : 1000 < count.toInt.toNat))
  omega

/-- A count above 1000 raises `IndexError` once the first 1000 entries are decoded. -/
theorem decodeJobs_over_1000 {count : BitVec 32} {jobs : Fin 1000 → FaxJobInfo} (hn : 1000 < count.toInt)
    (hd : ∀ i, (jobs i).DecodesOk) :
    PyFaxAPI.decodeJobs count jobs = .error (.indexError "invalid index") := by
  obtain ⟨rs, hrs⟩ := (decodeJobs_decodesIff (show (1000#32).toInt ≤ 1000 by decide) jobs).ok_iff.mpr fun i _ => hd i
  simp only [PyFaxAPI.decodeJobs, show (1000#32).toInt.toNat = 1000 from rfl] at hrs
  obtain ⟨k, hk⟩ : ∃ k, count.toInt.toNat = 1000 + (k + 1) := ⟨count.toInt.toNat - 1001, by omega⟩
  rw [PyFaxAPI.decodeJobs, hk, List.range_add, List.mapM_append, hrs, List.range_succ_eq_map,
    List.map_cons, List.mapM_cons]
  simp [bind, Except.bind]

/-! ## Each method -/

/-- From `w`, `x` returns exactly when `P` holds, and raises nothing but a
`UnicodeDecodeError`. -/
def ReturnsIff {α : Type} (x : PyM α) (w : World) (P : Prop) : Prop :=
  ((∃ a w', x.run w = .ok a w') ↔ P) ∧ ∀ e w', x.run w = .error e w' → e.IsDecodeError

theorem ReturnsIff.of_resultOf {α : Type} {x : PyM α} {y : Except PyExc α} {w w' : World} {P : Prop}
    (hx : x.run w = resultOf y w') (hy : DecodesIff y P) : ReturnsIff x w P := by
  rw [ReturnsIff, hx, ← hy.ok_iff]
  rcases y with e | a
  · exact ⟨by simp [resultOf], fun e' _ h => hy.fails e' (by cases h; rfl)⟩
  · exact ⟨by simp [resultOf], fun _ _ h => nomatch h⟩

theorem ReturnsIff.of_ok {α : Type} {x : PyM α} {w w' : World} {a : α} {P : Prop}
    (hx : x.run w = .ok a w') (hP : P) : ReturnsIff x w P := by
  rw [ReturnsIff, hx]
  exact ⟨iff_of_true ⟨a, w', rfl⟩ hP, fun _ _ h => nomatch h⟩

section Methods

variable (o : Oracle) (w : World)

theorem connect_returnsIff : ReturnsIff (PyFaxAPI.connect o) w (BufferOk (o w.log.length).connect.2) :=
  .of_resultOf (PyFaxAPI.connect_run o w) ((decodeBuffer_decodesIff _).map _)

theorem login_returnsIff {username : PyStr} {user : Option Bytes} (hu : PyFaxAPI.loginUser username = .ok user) :
    ReturnsIff (PyFaxAPI.login o username) w (BufferOk (o w.log.length).login.2) := by
  have h := PyFaxAPI.login_run o w username
  rw [hu] at h
  exact .of_resultOf h ((decodeBuffer_decodesIff _).map _)

theorem jobControl_returnsIff {op : ControlOp} {jobId : PyStr} {id : Bytes} (hid : encodeUtf8 jobId = .ok id) :
    ReturnsIff (PyFaxAPI.jobControl o op jobId) w (BufferOk ((o w.log.length).control op).2) := by
  have h := PyFaxAPI.jobControl_run o w op jobId
  rw [hid] at h
  exact .of_resultOf h ((decodeBuffer_decodesIff _).map _)

theorem sendFax_returnsIff {files : List PyStr} {destinations options : PyVal}
    {args : FaxSendOptions × List Bytes × List Bytes}
    (ha : PyFaxAPI.sendFaxArgs files destinations options = .ok args) :
    ReturnsIff (PyFaxAPI.sendFax o files destinations options) w
      (w.api.connected ∧ w.api.loggedIn → (o w.log.length).sendFax.2.DecodesOk) := by
  obtain ⟨opts, fa, da⟩ := args
  have h := PyFaxAPI.sendFax_run o w files destinations options
  rw [ha] at h
  split at h
  · rename_i hf
    simp only [Bool.and_eq_true] at hf
    exact .of_resultOf h ((sendResult_decodesIff _ _).congr ⟨fun d _ => d, fun d => d hf⟩)
  · rename_i hf
    exact .of_ok h fun hf' => absurd (by simpa using hf') hf

theorem getJobStatus_returnsIff (q : QueueType) (h : (o w.log.length).getJobStatus.2.1.toInt ≤ 1000) :
    ReturnsIff (PyFaxAPI.getJobStatus o q) w
      (w.api.connected ∧ w.api.loggedIn ∧ (o w.log.length).getJobStatus.1 →
        ∀ i : Fin 1000, i.val < (o w.log.length).getJobStatus.2.1.toInt.toNat →
          ((o w.log.length).getJobStatus.2.2 i).DecodesOk) := by
  have hr := PyFaxAPI.getJobStatus_run o w q
  split at hr
  · rename_i hf
    simp only [Bool.and_eq_true] at hf
    split at hr
    · rename_i hs
      exact .of_resultOf hr ((decodeJobs_decodesIff h _).congr ⟨fun d _ => d, fun d => d ⟨hf.1, hf.2, hs⟩⟩)
    · rename_i hs
      exact .of_ok hr fun ⟨_, _, hs'⟩ => absurd hs' hs
  · rename_i hf
    exact .of_ok hr fun ⟨hc, hl, _⟩ => absurd (by simp [hc, hl]) hf

end Methods

/-- Every method returns its value exactly when the strings it decodes from the library are
`NULL`, empty or valid UTF-8 (for `get_job_status`, with a count up to 1000), and otherwise
raises a `UnicodeDecodeError`. -/
theorem operations_return_iff_utf8 (o : Oracle) (w : World) :
    ReturnsIff (PyFaxAPI.connect o) w (BufferOk (o w.log.length).connect.2) ∧
    (∀ username user, PyFaxAPI.loginUser username = .ok user →
      ReturnsIff (PyFaxAPI.login o username) w (BufferOk (o w.log.length).login.2)) ∧
    (∀ op jobId id, encodeUtf8 jobId = .ok id →
      ReturnsIff (PyFaxAPI.jobControl o op jobId) w (BufferOk ((o w.log.length).control op).2)) ∧
    (∀ files destinations options args, PyFaxAPI.sendFaxArgs files destinations options = .ok args →
      ReturnsIff (PyFaxAPI.sendFax o files destinations options) w
        (w.api.connected ∧ w.api.loggedIn → (o w.log.length).sendFax.2.DecodesOk)) ∧
    (∀ q, (o w.log.length).getJobStatus.2.1.toInt ≤ 1000 →
      ReturnsIff (PyFaxAPI.getJobStatus o q) w
        (w.api.connected ∧ w.api.loggedIn ∧ (o w.log.length).getJobStatus.1 →
          ∀ i : Fin 1000, i.val < (o w.log.length).getJobStatus.2.1.toInt.toNat →
            ((o w.log.length).getJobStatus.2.2 i).DecodesOk)) :=
  ⟨connect_returnsIff o w, fun _ _ hu => login_returnsIff o w hu,
    fun _ _ _ hid => jobControl_returnsIff o w hid, fun _ _ _ _ ha => sendFax_returnsIff o w ha,
    fun q h => getJobStatus_returnsIff o w q h⟩

/-- A library that writes the byte `0xff` into `error_msg` on a failed `fax_api_connect`:
`connect()` raises instead of returning `(False, message)`. -/
theorem connect_invalid_byte_raises :
    ∃ e w', (PyFaxAPI.connect fun _ => { Backend.allOk with connect := (false, [0xFF]) }).run World.fresh =
        .error e w' ∧ e.str = "'utf-8' codec can't decode byte 0xff in position 0: invalid start byte" :=
  ⟨_, _, rfl, rfl⟩

/-! ## `get_job_status` -/

/-- With both flags set, a successful `fax_api_get_job_status` and a count `n` up to 1000
whose entries decode, `get_job_status` returns `max n 0` records, record `i` decoded from
entry `i`; with a flag clear or a failed call it returns `[]`; and it never returns more than
1000 records. -/
theorem getJobStatus_records (o : Oracle) (w : World) (q : QueueType) :
    (∀ count jobs, w.api.connected → w.api.loggedIn → (o w.log.length).getJobStatus = (true, count, jobs) →
      count.toInt ≤ 1000 → (∀ i : Fin 1000, i.val < count.toInt.toNat → (jobs i).DecodesOk) →
      ∃ rs, (PyFaxAPI.getJobStatus o q).run w = .ok rs (w.logged o (.getJobStatus q.value)) ∧
        rs.length = count.toInt.toNat ∧
        List.Forall₂ (fun i r => ∃ h : i < 1000, (jobs ⟨i, h⟩).toRecord = .ok r)
          (List.range count.toInt.toNat) rs) ∧
    (¬(w.api.connected ∧ w.api.loggedIn ∧ (o w.log.length).getJobStatus.1) →
      ∃ w', (PyFaxAPI.getJobStatus o q).run w = .ok [] w') ∧
    (∀ rs w', (PyFaxAPI.getJobStatus o q).run w = .ok rs w' → rs.length ≤ 1000) := by
  refine ⟨fun count jobs hc hl hb hn hd => ?_, fun hf => ?_, fun rs w' h => ?_⟩ <;>
    rw [PyFaxAPI.getJobStatus_run] at *
  · obtain ⟨rs, hrs⟩ := (decodeJobs_decodesIff hn jobs).ok_iff.mpr hd
    have H := decodeJobs_eq_ok_iff.mp hrs
    refine ⟨rs, by simp [hc, hl, hb, hrs, resultOf], by rw [← H.length_eq, List.length_range], H⟩
  · by_cases hcl : w.api.connected ∧ w.api.loggedIn
    · have hs : (o w.log.length).getJobStatus.1 = false := by simpa [hcl] using hf
      exact ⟨w.logged o (.getJobStatus q.value), by simp [hcl, hs]⟩
    · exact ⟨_, by rw [if_neg (by simpa using hcl)]⟩
  · split at h
    · split at h
      · cases hd : PyFaxAPI.decodeJobs (o w.log.length).getJobStatus.2.1 (o w.log.length).getJobStatus.2.2 <;>
          simp only [hd, resultOf, reduceCtorEq, EStateM.Result.ok.injEq] at h
        exact h.1 ▸ decodeJobs_length_le hd
      · cases h
        exact Nat.zero_le _
    · cases h
      exact Nat.zero_le _

/-- A library that reports 1001 jobs: `get_job_status` raises `IndexError` instead of
returning a list. -/
theorem getJobStatus_over_1000_raises :
    ∃ w', (PyFaxAPI.getJobStatus (fun _ => { Backend.allOk with getJobStatus := (true, 1001, fun _ => .null) })
        .sendQueue).run ⟨⟨true, true⟩, [], fun _ => false⟩ = .error (.indexError "invalid index") w' := by
  rw [PyFaxAPI.getJobStatus_run]
  simp only [Bool.and_self, ite_true]
  rw [decodeJobs_over_1000 (by decide) fun _ => by simp [FaxJobInfo.DecodesOk, FaxJobInfo.null, DecodesOk]]
  exact ⟨_, rfl⟩

/-! ## Job ids, back to the library -/

/-- What `decodeOrEmpty` returns encodes back to the bytes it read, `""` to none. -/
theorem encodeUtf8_of_decodeOrEmpty {x : Option Bytes} {s : PyStr} (h : decodeOrEmpty x = .ok s) :
    encodeUtf8 s = .ok (x.getD []) := by
  rcases x with _ | _ | ⟨b, bs⟩
  · cases h
    rfl
  · cases h
    rfl
  · cases hd : utf8Decode (b :: bs) with
    | error e => simp only [decodeOrEmpty, decodeUtf8, hd, Except.mapError, reduceCtorEq] at h
    | ok s' =>
      simp only [decodeOrEmpty, decodeUtf8, hd, Except.mapError, Except.ok.injEq] at h
      subst h
      rw [encodeUtf8, utf8Encode_of_utf8DecodeFrom 0 _ _ hd]
      rfl

/-- The `job_id` of a record is the decoded `jobId` of its entry. -/
theorem toRecord_jobId {j : FaxJobInfo} {r : JobRecord} (h : j.toRecord = .ok r) :
    decodeCharP j.jobId = .ok r.jobId := by
  unfold FaxJobInfo.toRecord at h
  obtain ⟨a, ha, h⟩ := except_bind_eq_ok.mp h
  repeat obtain ⟨_, -, h⟩ := except_bind_eq_ok.mp h
  cases h
  exact ha

/-- A job id that `get_job_status` lists reaches `fax_api_kill_job`, `fax_api_suspend_job`,
`fax_api_resume_job` or `fax_api_wait_for_job`, whenever it is handed back, as the bytes the
library reported for some entry of its answer, up to their first NUL (`b""` for `NULL`). -/
theorem listed_job_id_reaches_library (o : Oracle) (w w' : World) (q : QueueType) (rs : List JobRecord)
    (h : (PyFaxAPI.getJobStatus o q).run w = .ok rs w') :
    ∀ r ∈ rs, ∃ i : Fin 1000, ∀ (op : ControlOp) (w₂ : World),
      stateOf ((PyFaxAPI.jobControl o op r.jobId).run w₂) =
        w₂.logged o (.control op ((((o w.log.length).getJobStatus.2.2 i).jobId.map cstr).getD [])) := by
  intro r hr
  rw [PyFaxAPI.getJobStatus_run] at h
  split at h
  · split at h
    · cases hd : PyFaxAPI.decodeJobs (o w.log.length).getJobStatus.2.1 (o w.log.length).getJobStatus.2.2 <;>
        simp only [hd, resultOf, reduceCtorEq, EStateM.Result.ok.injEq] at h
      obtain ⟨rfl, -⟩ := h
      obtain ⟨n, hn, hrec⟩ := exists_of_mem_forall₂ (decodeJobs_eq_ok_iff.mp hd).flip hr
      refine ⟨⟨n, hn⟩, fun op w₂ => ?_⟩
      rw [PyFaxAPI.jobControl_run, encodeUtf8_of_decodeOrEmpty (toRecord_jobId hrec)]
      exact stateOf_resultOf _ _
    · rw [← (EStateM.Result.ok.inj h).1] at hr
      cases hr
  · rw [← (EStateM.Result.ok.inj h).1] at hr
    cases hr

/-- The library lists one job, its id `42` followed by a NUL and `9`: `kill_job` on the
listed id passes `b"42"`. -/
theorem listed_job_42_reaches_library :
    ∃ rs w', (PyFaxAPI.getJobStatus (fun _ => { Backend.allOk with getJobStatus :=
        (true, 1, fun _ => { FaxJobInfo.null with jobId := some [0x34, 0x32, 0x00, 0x39] }) })
        .sendQueue).run ⟨⟨true, true⟩, [], fun _ => false⟩ = .ok rs w' ∧ rs ≠ [] ∧
      ∀ r ∈ rs, ∃ _ : Fin 1000, ∀ (op : ControlOp) (w₂ : World),
        stateOf ((PyFaxAPI.jobControl (fun _ => { Backend.allOk with getJobStatus :=
          (true, 1, fun _ => { FaxJobInfo.null with jobId := some [0x34, 0x32, 0x00, 0x39] }) })
          op r.jobId).run w₂) =
          w₂.logged (fun _ => { Backend.allOk with getJobStatus :=
            (true, 1, fun _ => { FaxJobInfo.null with jobId := some [0x34, 0x32, 0x00, 0x39] }) })
            (.control op [0x34, 0x32]) :=
  ⟨_, _, rfl, List.cons_ne_nil _ _,
    listed_job_id_reaches_library _ ⟨⟨true, true⟩, [], fun _ => false⟩ _ .sendQueue _ rfl⟩

end HylaFax.PyFax
