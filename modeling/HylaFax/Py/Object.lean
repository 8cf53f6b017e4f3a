import HylaFax.Py.Text
import Mathlib.Data.List.Forall2

/-!
# Python values and exceptions

`PyVal` is what `json.loads` gives for the form fields `destinations` and `options`, and
what the REST handlers put into a response: `None`, `bool`, `int`, `float`, `str`, `list`
and `dict`. `PyVal.truthy` is `bool(v)`, `PyVal.iter` what `len(v)` counts and
`enumerate(v)` walks, and `PyVal.typeName` the name Python's messages give the type.

`PyExc` is an exception the program can raise, and `PyExc.str` its text `str(e)`: for the
codec errors CPython's rendering of the positions, for the others the message it was
raised with.
-/

namespace HylaFax.Py

/-- A Python `float`: the bits of an IEEE double. -/
structure PyFloat where
  bits : UInt64
  deriving DecidableEq, Repr

/-- `bool(x)`: false only for `0.0` and `-0.0`. -/
def PyFloat.truthy (x : PyFloat) : Bool := x.bits &&& 0x7FFFFFFFFFFFFFFF != 0

/-- A Python value of a kind JSON has. A `dict` lists its items in insertion order. -/
inductive PyVal
  | null
  | bool (b : Bool)
  | int (i : Int)
  | float (x : PyFloat)
  | str (s : PyStr)
  | list (xs : List PyVal)
  | dict (items : List (PyStr × PyVal))
  deriving Repr

namespace PyVal

/-- `bool(v)`. -/
def truthy : PyVal → Bool
  | null => false
  | bool b => b
  | int i => i != 0
  | float x => x.truthy
  | str s => !s.isEmpty
  | list xs => !xs.isEmpty
  | dict items => !items.isEmpty

/-- `type(v).__name__`. -/
def typeName : PyVal → String
  | null => "NoneType"
  | bool _ => "bool"
  | int _ => "int"
  | float _ => "float"
  | str _ => "str"
  | list _ => "list"
  | dict _ => "dict"

@[simp] theorem truthy_dict_cons (kv : PyStr × PyVal) (items : List (PyStr × PyVal)) :
    (dict (kv :: items)).truthy = true := rfl

end PyVal

/-! ## Exceptions -/

/-- An exception raised in the program, with what Python builds its text from. -/
inductive PyExc
  /-- `bytes.decode('utf-8')` of `obj` failed. -/
  | unicodeDecodeError (obj : Bytes) (e : DecodeError)
  /-- `str.encode('utf-8')` of `obj` failed. -/
  | unicodeEncodeError (obj : PyStr) (e : EncodeError)
  | typeError (msg : PyStr)
  | attributeError (msg : PyStr)
  | indexError (msg : PyStr)
  | overflowError (msg : PyStr)
  /-- An `OSError` or a subclass of it (`FileNotFoundError`). -/
  | osError (msg : PyStr)
  /-- `json.JSONDecodeError`, a `ValueError`. -/
  | jsonDecodeError (msg : PyStr)
  /-- Werkzeug's `RequestEntityTooLarge`, an `HTTPException`. -/
  | requestEntityTooLarge
  /-- Any other `Exception`, such as the `RecursionError` of `json.loads` on text nested
  too deep. -/
  | other (msg : PyStr)
  deriving Repr

/-- `n` in lower-case hexadecimal, padded with zeros to `width` digits (`%0*x`). -/
def hexPad (width n : Nat) : String :=
  let ds := Nat.toDigits 16 n
  String.mk (List.replicate (width - ds.length) '0' ++ ds)

/-- The name Python gives a decoding error's reason. -/
def DecodeReason.text : DecodeReason → String
  | .invalidStartByte => "invalid start byte"
  | .invalidContinuationByte => "invalid continuation byte"
  | .unexpectedEndOfData => "unexpected end of data"

/-- `str(e)` (CPython's `UnicodeDecodeError_str` and `UnicodeEncodeError_str`; the
character an encoding error starts at is a surrogate, below `0x10000`). -/
def PyExc.str : PyExc → PyStr
  | .unicodeDecodeError obj ⟨start, stop, reason⟩ =>
    if stop = start + 1 then
      "'utf-8' codec can't decode byte 0x" ++ hexPad 2 (obj.getD start 0).val ++
        " in position " ++ toString start ++ ": " ++ reason.text
    else
      "'utf-8' codec can't decode bytes in position " ++ toString start ++ "-" ++
        toString (stop - 1) ++ ": " ++ reason.text
  | .unicodeEncodeError obj ⟨start, stop⟩ =>
    if stop = start + 1 then
      "'utf-8' codec can't encode character '\\u" ++ hexPad 4 (obj.getD start 0).val ++
        "' in position " ++ toString start ++ ": surrogates not allowed"
    else
      "'utf-8' codec can't encode characters in position " ++ toString start ++ "-" ++
        toString (stop - 1) ++ ": surrogates not allowed"
  | .typeError msg | .attributeError msg | .indexError msg | .overflowError msg
  | .osError msg | .jsonDecodeError msg | .other msg => msg
  | .requestEntityTooLarge =>
    "413 Request Entity Too Large: The data value transmitted exceeds the capacity limit."

/-- Whether `except OSError` catches `e`. -/
def PyExc.isOSError : PyExc → Bool
  | .osError _ => true
  | _ => false

/-- `bs.decode('utf-8')`, raising. -/
def decodeUtf8 (bs : Bytes) : Except PyExc PyStr :=
  (utf8Decode bs).mapError (.unicodeDecodeError bs)

/-- `s.encode('utf-8')`, raising. -/
def encodeUtf8 (s : PyStr) : Except PyExc Bytes :=
  (utf8Encode s).mapError (.unicodeEncodeError s)

theorem encodeUtf8_eq_ok {s : PyStr} (h : ∀ c ∈ s, c.isSurrogate = false) :
    encodeUtf8 s = .ok (encodeStr s) := by
  rw [encodeUtf8, utf8Encode_eq_ok_iff.mpr ⟨h, rfl⟩]
  rfl

theorem encodeUtf8_eq_ok_iff {s : PyStr} {bs : Bytes} :
    encodeUtf8 s = .ok bs ↔ (∀ c ∈ s, c.isSurrogate = false) ∧ bs = encodeStr s := by
  rw [encodeUtf8, ← utf8Encode_eq_ok_iff]
  cases utf8Encode s <;> simp [Except.mapError]

/-- Strings encoded one by one give their encodings, in order. -/
theorem eq_map_encodeStr_of_forall₂ {ss : List PyStr} {bss : List Bytes}
    (h : List.Forall₂ (fun s bs => encodeUtf8 s = .ok bs) ss bss) : bss = ss.map encodeStr := by
  induction h with
  | nil => rfl
  | cons h _ ih => rw [List.map_cons, ← ih, ← (encodeUtf8_eq_ok_iff.mp h).2]

/-- A `mapM` whose every call returns gives the list of the values. -/
theorem mapM_eq_ok_map {ε α β γ : Type} {f : β → Except ε γ} {k : α → β} {g : α → γ} :
    ∀ {xs : List α}, (∀ x ∈ xs, f (k x) = .ok (g x)) → (xs.map k).mapM f = .ok (xs.map g)
  | [], _ => rfl
  | x :: xs, h => by
    rw [List.map_cons, List.mapM_cons, h x (List.mem_cons_self ..),
      mapM_eq_ok_map fun y hy => h y (List.mem_cons_of_mem _ hy)]
    rfl

/-- `bs.decode('utf-8') if bs else ""` for a `c_char_p` value, `None` or `bytes`: what the
wrapper does with every string the library reports. -/
def decodeOrEmpty : Option Bytes → Except PyExc PyStr
  | some (b :: bs) => decodeUtf8 (b :: bs)
  | _ => .ok []

/-- `x` is `None`, empty or valid UTF-8: `decodeOrEmpty` returns on it. -/
def DecodesOk (x : Option Bytes) : Prop := ∀ bs, x = some bs → bs ≠ [] → ∃ s, utf8Decode bs = .ok s

theorem decodeOrEmpty_ok_iff (x : Option Bytes) : (∃ s, decodeOrEmpty x = .ok s) ↔ DecodesOk x := by
  rcases x with _ | _ | ⟨b, bs⟩
  · simp [decodeOrEmpty, DecodesOk]
  · simp [decodeOrEmpty, DecodesOk]
  · simp only [decodeOrEmpty, decodeUtf8, DecodesOk, Option.some.injEq, forall_eq', ne_eq,
      reduceCtorEq, not_false_eq_true, forall_const]
    cases utf8Decode (b :: bs) <;> simp [Except.mapError]

/-- `e` is a `UnicodeDecodeError`. -/
def PyExc.IsDecodeError : PyExc → Prop
  | .unicodeDecodeError .. => True
  | _ => False

/-- `x` returns exactly when `P` holds, and raises nothing but a `UnicodeDecodeError`. -/
structure DecodesIff {α : Type} (x : Except PyExc α) (P : Prop) : Prop where
  ok_iff : (∃ a, x = .ok a) ↔ P
  fails : ∀ e, x = .error e → e.IsDecodeError

namespace DecodesIff

variable {α β : Type} {x : Except PyExc α} {P Q : Prop}

theorem congr (h : DecodesIff x P) (hPQ : P ↔ Q) : DecodesIff x Q := ⟨h.ok_iff.trans hPQ, h.fails⟩

theorem pure (a : α) : DecodesIff (Pure.pure a : Except PyExc α) True :=
  ⟨iff_true_intro ⟨a, rfl⟩, fun _ h => nomatch h⟩

/-- Two steps in sequence, the second's condition not depending on the first's value. -/
theorem bind {f : α → Except PyExc β} (hx : DecodesIff x P) (hf : ∀ a, DecodesIff (f a) Q) :
    DecodesIff (x >>= f) (P ∧ Q) := by
  rcases x with e | a
  · have hP : ¬P := fun p => by simpa using hx.ok_iff.mpr p
    exact ⟨by simp [bind, Except.bind, hP], fun e' h => hx.fails e' (by cases h; rfl)⟩
  · have hP : P := hx.ok_iff.mp ⟨a, rfl⟩
    exact ⟨(hf a).ok_iff.trans (by simp [hP]), (hf a).fails⟩

theorem map (f : α → β) (hx : DecodesIff x P) : DecodesIff (x.map f) P := by
  rcases x with e | a
  · exact ⟨by simpa [Except.map] using hx.ok_iff, fun e' h => hx.fails e' (by cases h; rfl)⟩
  · exact ⟨by simpa [Except.map] using hx.ok_iff, fun _ h => nomatch h⟩

theorem mapM {f : α → Except PyExc β} {P : α → Prop} :
    ∀ {xs : List α}, (∀ a ∈ xs, DecodesIff (f a) (P a)) → DecodesIff (xs.mapM f) (∀ a ∈ xs, P a)
  | [], _ => (pure []).congr (by simp)
  | a :: xs, h => by
    rw [List.mapM_cons]
    exact ((h a (List.mem_cons_self ..)).bind fun _ =>
      (mapM fun b hb => h b (List.mem_cons_of_mem _ hb)).bind fun _ => pure _).congr (by simp)

end DecodesIff

theorem decodeOrEmpty_decodesIff (x : Option Bytes) : DecodesIff (decodeOrEmpty x) (DecodesOk x) := by
  refine ⟨decodeOrEmpty_ok_iff x, fun e h => ?_⟩
  rcases x with _ | _ | ⟨b, bs⟩
  · cases h
  · cases h
  · simp only [decodeOrEmpty, decodeUtf8] at h
    cases hd : utf8Decode (b :: bs) <;> simp only [hd, Except.mapError, reduceCtorEq, Except.error.injEq] at h
    exact h ▸ trivial

theorem except_bind_eq_ok {ε α β : Type} {x : Except ε α} {g : α → Except ε β} {c : β} :
    x >>= g = .ok c ↔ ∃ a, x = .ok a ∧ g a = .ok c := by
  cases x <;> simp [bind, Except.bind]

theorem exists_of_mem_forall₂ {α β : Type} {R : α → β → Prop} {l₁ : List α} {l₂ : List β}
    (H : List.Forall₂ R l₁ l₂) {a : α} (ha : a ∈ l₁) : ∃ b, R a b := by
  induction H with
  | nil => cases ha
  | cons hr _ ih =>
    rcases List.mem_cons.mp ha with rfl | ha
    exacts [⟨_, hr⟩, ih ha]

/-- A `mapM` returns exactly the values its calls return, one for each element, in order. -/
theorem mapM_eq_ok_iff {ε α β : Type} {f : α → Except ε β} :
    ∀ {xs : List α} {ys : List β}, xs.mapM f = .ok ys ↔ List.Forall₂ (fun x y => f x = .ok y) xs ys
  | [], ys => by
    rw [List.mapM_nil, List.forall₂_nil_left_iff]
    exact ⟨fun h => (Except.ok.inj h).symm, fun h => h ▸ rfl⟩
  | x :: xs, ys => by
    simp only [List.mapM_cons, except_bind_eq_ok, mapM_eq_ok_iff, List.forall₂_cons_left_iff, pure,
      Except.pure, Except.ok.injEq]
    exact ⟨fun ⟨y, hy, ys', hys', e⟩ => ⟨y, ys', hy, hys', e.symm⟩,
      fun ⟨y, ys', hy, hys', e⟩ => ⟨y, hy, ys', hys', e.symm⟩⟩

/-! ## Iterating -/

/-- What `len(v)` counts and `enumerate(v)` walks: the characters of a `str`, the items
of a `list`, the keys of a `dict`; any other value has no `len()`. -/
def PyVal.iter : PyVal → Except PyExc (List PyVal)
  | .str s => .ok (s.map fun c => .str [c])
  | .list xs => .ok xs
  | .dict items => .ok (items.map fun kv => .str kv.1)
  | v => .error (.typeError ("object of type '" ++ v.typeName ++ "' has no len()"))

/-- `x.encode('utf-8')` for an element `x` of a sequence the wrapper expects to hold `str`s;
any other value has no attribute `encode`. -/
def PyVal.encode : PyVal → Except PyExc Bytes
  | .str s => encodeUtf8 s
  | v => .error (.attributeError ("'" ++ v.typeName ++ "' object has no attribute 'encode'"))

end HylaFax.Py
