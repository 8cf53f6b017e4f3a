import Mathlib.Logic.Basic

/-!
# Triples for Python code

Python code is modelled in `EStateM ε σ`: it returns a value or raises an exception, and in
both cases it leaves the state it reached, as an exception undoes nothing. `Triple P x Q E`:
from a state satisfying `P`, `x` returns some `a` in a state satisfying `Q a`, or raises some
`e` in a state satisfying `E e`. The code modelled always terminates, so a triple is total
correctness.

There is one rule per construct the code uses (`Triple.bind`, `Triple.pure`,
`Triple.throw`, `Triple.tryCatch`, `Triple.ite`, `Triple.get`, `Triple.modify`,
`Triple.orRaise`), and `Triple.conseq` and `Triple.pre` to weaken and to take a fact
about the state before.
-/

namespace HylaFax.Py

variable {ε σ α β : Type}

/-- Where `x` ends from `s`: its value or exception, and the state. -/
def Triple (P : σ → Prop) (x : EStateM ε σ α) (Q : α → σ → Prop) (E : ε → σ → Prop) : Prop :=
  ∀ s, P s → match x.run s with
    | .ok a s' => Q a s'
    | .error e s' => E e s'

/-- The state `x` leaves, whether it returns or raises. -/
def stateOf : EStateM.Result ε σ α → σ
  | .ok _ s => s
  | .error _ s => s

/-- Raise the exception of a failed operation. -/
def orRaise : Except ε α → EStateM ε σ α
  | .ok a => pure a
  | .error e => throw e

/-- Return the operation's value, or raise its exception, in state `s`. -/
def resultOf : Except ε α → σ → EStateM.Result ε σ α
  | .ok a, s => .ok a s
  | .error e, s => .error e s

/-- `x.run s` is `x` applied to `s`. -/
theorem run_apply (x : EStateM ε σ α) (s : σ) : x.run s = x s := rfl

theorem run_bind (x : EStateM ε σ α) (f : α → EStateM ε σ β) (s : σ) :
    (x >>= f).run s = match x.run s with
      | .ok a s' => (f a).run s'
      | .error e s' => .error e s' := rfl

theorem run_tryCatch (x : EStateM ε σ α) (h : ε → EStateM ε σ α) (s : σ) :
    (tryCatch x h).run s = match x.run s with
      | .ok a s' => .ok a s'
      | .error e s' => (h e).run s' := by
  show EStateM.tryCatch x h s = match x s with | .ok a s' => .ok a s' | .error e s' => h e s'
  unfold EStateM.tryCatch
  cases x s <;> rfl

@[simp] theorem stateOf_ok (a : α) (s : σ) : stateOf (EStateM.Result.ok a s : EStateM.Result ε σ α) = s :=
  rfl

@[simp] theorem stateOf_error (e : ε) (s : σ) :
    stateOf (EStateM.Result.error e s : EStateM.Result ε σ α) = s := rfl

@[simp] theorem stateOf_resultOf (x : Except ε α) (s : σ) : stateOf (resultOf x s) = s := by
  cases x <;> rfl

theorem orRaise_run (x : Except ε α) (s : σ) : (orRaise x).run s = resultOf x s := by
  cases x <;> rfl

namespace Triple

variable {P P' : σ → Prop} {Q Q' : α → σ → Prop} {E E' : ε → σ → Prop}

theorem conseq {x : EStateM ε σ α} (h : Triple P x Q E) (hp : ∀ s, P' s → P s)
    (hq : ∀ a s, Q a s → Q' a s) (he : ∀ e s, E e s → E' e s) : Triple P' x Q' E' := by
  intro s hs
  have := h s (hp s hs)
  split at this <;> simp_all

/-- A fact about the state before can be used in the proof. -/
theorem pre {x : EStateM ε σ α} {A : Prop} (h : A → Triple P x Q E) : Triple (fun s => A ∧ P s) x Q E :=
  fun s ⟨ha, hs⟩ => h ha s hs

theorem pure {a : α} : Triple (Q a) (Pure.pure a : EStateM ε σ α) Q E := fun _ hs => hs

theorem throw {e : ε} : Triple (E e) (throw e : EStateM ε σ α) Q E := fun _ hs => hs

theorem pure_of {a : α} (h : ∀ s, P s → Q a s) : Triple P (Pure.pure a : EStateM ε σ α) Q E := h

theorem throw_of {e : ε} (h : ∀ s, P s → E e s) : Triple P (MonadExcept.throw e : EStateM ε σ α) Q E := h

theorem get {Q : σ → σ → Prop} : Triple (fun s => Q s s) (MonadState.get : EStateM ε σ σ) Q E :=
  fun _ hs => hs

theorem modify {f : σ → σ} {Q : Unit → σ → Prop} :
    Triple (fun s => Q () (f s)) (modify f : EStateM ε σ Unit) Q E := fun _ hs => hs

theorem orRaise {x : Except ε α} :
    Triple (fun s => match x with | .ok a => Q a s | .error e => E e s) (Py.orRaise x) Q E := by
  intro s hs
  cases x <;> exact hs

theorem bind {x : EStateM ε σ α} {f : α → EStateM ε σ β} {R : β → σ → Prop}
    (hx : Triple P x Q E) (hf : ∀ a, Triple (Q a) (f a) R E) : Triple P (x >>= f) R E := by
  intro s hs
  have := hx s hs
  change match EStateM.bind x f s with | .ok a s' => R a s' | .error e s' => E e s'
  simp only [run_apply] at this
  unfold EStateM.bind
  split at this <;> rename_i h <;> rw [h]
  · exact hf _ _ this
  · exact this

theorem tryCatch {x : EStateM ε σ α} {h : ε → EStateM ε σ α} {E₁ : ε → σ → Prop}
    (hx : Triple P x Q E₁) (hh : ∀ e, Triple (E₁ e) (h e) Q E) :
    Triple P (tryCatch x h) Q E := by
  intro s hs
  have := hx s hs
  change match EStateM.tryCatch x h s with | .ok a s' => Q a s' | .error e s' => E e s'
  simp only [run_apply] at this
  unfold EStateM.tryCatch
  split at this <;> rename_i hr <;> rw [hr]
  · exact this
  · exact hh _ _ this

theorem ite {c : Prop} [Decidable c] {x y : EStateM ε σ α} (hx : c → Triple P x Q E)
    (hy : ¬c → Triple P y Q E) : Triple P (if c then x else y) Q E := by
  split
  · exact hx ‹_›
  · exact hy ‹_›

end Triple

/-- What `resultOf x s` leads to, when the post-conditions hold of `s` whatever the result. -/
theorem resultOf_post {Q : α → σ → Prop} {E : ε → σ → Prop} (x : Except ε α) {s : σ}
    (hq : ∀ a, Q a s) (he : ∀ e, E e s) :
    match resultOf x s with
    | .ok a s' => Q a s'
    | .error e s' => E e s' := by
  cases x with
  | error e => exact he e
  | ok a => exact hq a

theorem modify_triple {P : σ → Prop} {E : ε → σ → Prop} {f : σ → σ} {Q : Unit → σ → Prop}
    (h : ∀ s, P s → Q () (f s)) : Triple P (modify f : EStateM ε σ Unit) Q E := h

/-- A `for` loop over a list keeps what each of its iterations keeps, whether it breaks or not. -/
theorem forIn_triple {β : Type} {P : σ → Prop} {E : ε → σ → Prop}
    {f : α → β → EStateM ε σ (ForInStep β)} (hf : ∀ a b, Triple P (f a b) (fun _ => P) E) :
    ∀ (xs : List α) (b : β), Triple P (forIn xs b f) (fun _ => P) E
  | [], _ => Triple.pure_of fun _ h => h
  | a :: xs, b => by
    rw [List.forIn_cons]
    exact Triple.bind (hf a b) fun
      | .done _ => Triple.pure_of fun _ h => h
      | .yield b => forIn_triple hf xs b

theorem Triple.state_of {P : σ → Prop} {x : EStateM ε σ α} {I : σ → Prop}
    (h : Triple P x (fun _ => I) (fun _ => I)) {s : σ} (hs : P s) : I (stateOf (x.run s)) := by
  have := h s hs
  revert this
  cases x.run s <;> exact id

end HylaFax.Py
