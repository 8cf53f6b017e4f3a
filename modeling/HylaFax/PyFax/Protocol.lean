import HylaFax.PyFax.Session

/-!
# The library's view of a run

`libfaxapi` sees only its own calls and its own answers, and the instance's two flags are a
function of that history: `Flags.after` is what one call does to them, and `flagsAfter` what
a list of calls does. `Replayed f es` says each call of `es` was made with the flags the
calls before it leave, from `f`.

* `step_replays`, `run_replays`: along every run each call is made with the flags its
  predecessors in the log leave, and the flags at the end are those of the whole log;
* `flagsAfter_last_set`: a flag that is set after a history that started with it clear was
  set by a call the library answered with success, with no `fax_api_disconnect` and no other
  call of that kind after it;
* `send_query_in_session`: from a fresh instance, the run is replayed by its log, and every
  `fax_api_send_fax` and `fax_api_get_job_status` comes after a `fax_api_connect` and a
  `fax_api_login` that the library answered with success, each the last of its kind, with no
  `fax_api_disconnect` since.
-/

namespace HylaFax.PyFax

open HylaFax.Py

/-! ## Flags as a function of the log -/

/-- What one call does to the flags: `connect()` sets `connected` to the library's answer,
`login()` sets `logged_in` to it, `disconnect()` clears both, any other call keeps them. -/
def Flags.after (f : Flags) (e : Issued) : Flags :=
  match e.call with
  | .connect => { f with connected := e.reply.connect.1 }
  | .login _ => { f with loggedIn := e.reply.login.1 }
  | .disconnect => ⟨false, false⟩
  | _ => f

/-- The flags after the calls `es`, from `f`. -/
def flagsAfter (f : Flags) (es : List Issued) : Flags := es.foldl Flags.after f

@[simp] theorem flagsAfter_nil (f : Flags) : flagsAfter f [] = f := rfl

@[simp] theorem flagsAfter_cons (f : Flags) (e : Issued) (es : List Issued) :
    flagsAfter f (e :: es) = flagsAfter (f.after e) es := rfl

theorem flagsAfter_append (f : Flags) (xs ys : List Issued) :
    flagsAfter f (xs ++ ys) = flagsAfter (flagsAfter f xs) ys := List.foldl_append ..

/-- Each call of `es` was made with the flags the calls before it leave, from `f`. -/
def Replayed : Flags → List Issued → Prop
  | _, [] => True
  | f, e :: es => e.flags = f ∧ Replayed (f.after e) es

theorem replayed_append :
    ∀ {f : Flags} {xs ys : List Issued}, Replayed f (xs ++ ys) ↔ Replayed f xs ∧ Replayed (flagsAfter f xs) ys
  | _, [], _ => by simp [Replayed]
  | f, e :: xs, ys => by simp [Replayed, replayed_append, and_assoc]

/-- A call in a replayed history was made with the flags of the calls before it. -/
theorem Replayed.flags_eq {f : Flags} {P S : List Issued} {e : Issued} (h : Replayed f (P ++ e :: S)) :
    e.flags = flagsAfter f P :=
  (replayed_append.mp h).2.1

/-- What a run does, as the library sees it: it appends calls, each made with the flags the
calls before it leave, and leaves the flags of the whole log. -/
structure Replays (w w' : World) (es : List Issued) : Prop where
  log : w'.log = w.log ++ es
  api : w'.api = flagsAfter w.api es
  replayed : Replayed w.api es

theorem Replays.trans {w w' w'' : World} {es es' : List Issued} (h : Replays w w' es)
    (h' : Replays w' w'' es') : Replays w w'' (es ++ es') where
  log := by rw [h'.log, h.log, List.append_assoc]
  api := by rw [h'.api, h.api, flagsAfter_append]
  replayed := replayed_append.mpr ⟨h.replayed, h.api ▸ h'.replayed⟩

theorem Flags.after_of_isSendOrQuery (f : Flags) {e : Issued} (h : e.call.IsSendOrQuery) :
    f.after e = f := by
  rcases e with ⟨_ | _ | _ | _ | _ | _ | _, _, _⟩ <;> first | rfl | exact h.elim

/-- One call appends no call, or one made with the instance's flags, which then are what that
call leaves. -/
theorem step_replays (o : Oracle) (w : World) (m : Method) : ∃ es, Replays w (step o w m) es := by
  rcases step_cases o w m with h | h | ⟨-, h⟩ | ⟨u, h⟩ | ⟨c, hc, -, -, h⟩ | ⟨op, id, h⟩ <;> rw [h]
  · exact ⟨[], ⟨by simp, rfl, trivial⟩⟩
  · exact ⟨[_], ⟨rfl, rfl, rfl, trivial⟩⟩
  · exact ⟨[_], ⟨rfl, rfl, rfl, trivial⟩⟩
  · exact ⟨[_], ⟨rfl, rfl, rfl, trivial⟩⟩
  · exact ⟨[_], ⟨rfl, (Flags.after_of_isSendOrQuery _ hc).symm, rfl, trivial⟩⟩
  · exact ⟨[_], ⟨rfl, rfl, rfl, trivial⟩⟩

theorem run_replays (o : Oracle) (w : World) (ms : List Method) : ∃ es, Replays w (run o w ms) es := by
  induction ms generalizing w with
  | nil => exact ⟨[], ⟨by simp [run], rfl, trivial⟩⟩
  | cons m ms ih =>
    obtain ⟨es, h⟩ := step_replays o w m
    obtain ⟨es', h'⟩ := ih (step o w m)
    exact ⟨es ++ es', h.trans h'⟩

/-! ## Where a flag was set -/

/-- A flag `p` that is set after `P` was set by the last call of `P` that `sets` it, to the
answer `val` of that call, with no `fax_api_disconnect` after it; or it was set before `P`
and `P` neither sets nor clears it. `hstep` says what one call does to the flag. -/
theorem flagsAfter_last_set {p : Flags → Bool} {sets : Issued → Prop} {val : Issued → Bool}
    (hstep : ∀ f x, (sets x ∧ p (f.after x) = val x) ∨ (x.call = .disconnect ∧ p (f.after x) = false) ∨
      (¬ sets x ∧ x.call ≠ .disconnect ∧ p (f.after x) = p f)) :
    ∀ {f : Flags} (P : List Issued), p (flagsAfter f P) = true →
      (∃ A c B, P = A ++ c :: B ∧ sets c ∧ val c = true ∧ ∀ x ∈ B, ¬ sets x ∧ x.call ≠ .disconnect) ∨
      (p f = true ∧ ∀ x ∈ P, ¬ sets x ∧ x.call ≠ .disconnect)
  | _, [], h => .inr ⟨h, by simp⟩
  | f, x :: P, h => by
    rcases flagsAfter_last_set hstep (f := f.after x) P h with ⟨A, c, B, rfl, hc⟩ | ⟨hp, hP⟩
    · exact .inl ⟨x :: A, c, B, rfl, hc⟩
    · rcases hstep f x with ⟨hs, hv⟩ | ⟨-, hv⟩ | ⟨hs, hd, hv⟩
      · exact .inl ⟨[], x, P, rfl, hs, hv ▸ hp, hP⟩
      · exact absurd (hv ▸ hp) Bool.false_ne_true
      · exact .inr ⟨hv ▸ hp, List.forall_mem_cons.mpr ⟨⟨hs, hd⟩, hP⟩⟩

theorem connected_after (f : Flags) (x : Issued) :
    (x.call = .connect ∧ (f.after x).connected = x.reply.connect.1) ∨
    (x.call = .disconnect ∧ (f.after x).connected = false) ∨
    (x.call ≠ .connect ∧ x.call ≠ .disconnect ∧ (f.after x).connected = f.connected) := by
  rcases x with ⟨_ | _ | _ | _ | _ | _ | _, _, _⟩ <;> simp [Flags.after]

theorem loggedIn_after (f : Flags) (x : Issued) :
    ((∃ u, x.call = .login u) ∧ (f.after x).loggedIn = x.reply.login.1) ∨
    (x.call = .disconnect ∧ (f.after x).loggedIn = false) ∨
    ((¬ ∃ u, x.call = .login u) ∧ x.call ≠ .disconnect ∧ (f.after x).loggedIn = f.loggedIn) := by
  rcases x with ⟨_ | _ | _ | _ | _ | _ | _, _, _⟩ <;> simp [Flags.after]

/-! ## Sessions -/

/-- From a fresh instance, every run is replayed by its log: each call is made with the flags
the calls before it leave, and the flags at the end are those of the whole log. And every
`fax_api_send_fax` and `fax_api_get_job_status` comes after a `fax_api_connect` and a
`fax_api_login` that the library answered with success, each the last call of its kind
before it, with no `fax_api_disconnect` since. -/
theorem send_query_in_session (o : Oracle) (ms : List Method) :
    Replays World.fresh (run o World.fresh ms) (run o World.fresh ms).log ∧
    ∀ P e S, (run o World.fresh ms).log = P ++ e :: S → e.call.IsSendOrQuery →
      (∃ A c B, P = A ++ c :: B ∧ c.call = .connect ∧ c.reply.connect.1 = true ∧
        ∀ x ∈ B, x.call ≠ .connect ∧ x.call ≠ .disconnect) ∧
      (∃ A l B, P = A ++ l :: B ∧ (∃ u, l.call = .login u) ∧ l.reply.login.1 = true ∧
        ∀ x ∈ B, (¬ ∃ u, x.call = .login u) ∧ x.call ≠ .disconnect) := by
  obtain ⟨es, hr⟩ := run_replays o World.fresh ms
  obtain rfl : es = (run o World.fresh ms).log := by rw [hr.log]; rfl
  refine ⟨hr, fun P e S h he => ?_⟩
  obtain ⟨es', hg⟩ := run_runLog o World.fresh ms
  obtain rfl : es' = P ++ e :: S := by rw [← h, hg.log]; rfl
  obtain ⟨hc, hl⟩ := hg.guarded e (List.mem_append_right _ (List.mem_cons_self _ _)) he
  rw [(show Replayed World.fresh.api (P ++ e :: S) from h ▸ hr.replayed).flags_eq] at hc hl
  constructor
  · rcases flagsAfter_last_set connected_after P hc with h | ⟨h, -⟩
    · exact h
    · cases h
  · rcases flagsAfter_last_set loggedIn_after P hl with h | ⟨h, -⟩
    · exact h
    · cases h

end HylaFax.PyFax
