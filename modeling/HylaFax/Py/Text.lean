import Mathlib.Data.List.Basic

/-!
# Python text: `str`, `bytes` and the strict UTF-8 codec

A Python `str` is a list of code points, lone surrogates included (`json.loads` makes one
from the escape `"\ud800"`), and a `bytes` value a list of bytes. `utf8Encode` and
`utf8Decode` are CPython's `str.encode('utf-8')` and `bytes.decode('utf-8')` with the
default `errors='strict'`: the encoder refuses a surrogate, the decoder a byte sequence
that is not UTF-8, each with the positions its `UnicodeError` carries. `cstr` is what C
reads through a `char *`: the bytes up to the first NUL.

`utf8Encode_eq_ok_iff` says when the encoder succeeds, and `cstr_encodeStr` that C reads
an encoded string whole exactly when the string has no NUL.
-/

namespace HylaFax.Py

/-- A byte: an element of a Python `bytes` value, or a C `char`. -/
abbrev Byte := Fin 256

/-- A Python `bytes` value. -/
abbrev Bytes := List Byte

/-- A code point of a Python `str`, surrogates included. -/
abbrev CodePoint := Fin 0x110000

/-- A Python `str`. -/
abbrev PyStr := List CodePoint

theorem char_toNat_lt (c : Char) : c.toNat < 0x110000 := by
  have := c.valid
  simp only [Char.toNat, UInt32.isValidChar, Nat.isValidChar] at *
  omega

/-- A string literal of the source, as a Python `str`. -/
def PyStr.ofString (s : String) : PyStr :=
  s.toList.map fun c => ⟨c.toNat, char_toNat_lt c⟩

instance : Coe String PyStr := ⟨PyStr.ofString⟩

@[simp] theorem PyStr.ofString_append (s t : String) :
    PyStr.ofString (s ++ t) = PyStr.ofString s ++ PyStr.ofString t := by
  simp [PyStr.ofString]

/-! ## Encoding -/

/-- A surrogate, U+D800 to U+DFFF: strict UTF-8 has no bytes for it. -/
def CodePoint.isSurrogate (c : CodePoint) : Bool := decide (0xD800 ≤ c.val ∧ c.val ≤ 0xDFFF)

/-- The UTF-8 bytes of a code point. -/
def encodeCodePoint (c : CodePoint) : Bytes :=
  if _ : c.val < 0x80 then [⟨c.val, by omega⟩]
  else if _ : c.val < 0x800 then [⟨0xC0 + c.val / 0x40, by omega⟩, ⟨0x80 + c.val % 0x40, by omega⟩]
  else if _ : c.val < 0x10000 then
    [⟨0xE0 + c.val / 0x1000, by omega⟩, ⟨0x80 + c.val / 0x40 % 0x40, by omega⟩,
      ⟨0x80 + c.val % 0x40, by omega⟩]
  else
    [⟨0xF0 + c.val / 0x40000, by omega⟩, ⟨0x80 + c.val / 0x1000 % 0x40, by omega⟩,
      ⟨0x80 + c.val / 0x40 % 0x40, by omega⟩, ⟨0x80 + c.val % 0x40, by omega⟩]

/-- The bytes of a string none of whose code points is a surrogate. -/
def encodeStr (s : PyStr) : Bytes := s.flatMap encodeCodePoint

/-- A `UnicodeEncodeError` of the UTF-8 codec: code points `[start, stop)` of the object,
the reason being `surrogates not allowed`. -/
structure EncodeError where
  start : Nat
  stop : Nat
  deriving DecidableEq, Repr

/-- `s.encode('utf-8')`. At the first surrogate it fails, the error covering the run of
surrogates that starts there (CPython's `unicode_encode_utf8`). -/
def utf8Encode (s : PyStr) : Except EncodeError Bytes :=
  match s.findIdx? CodePoint.isSurrogate with
  | none => .ok (encodeStr s)
  | some i => .error ⟨i, i + ((s.drop i).takeWhile CodePoint.isSurrogate).length⟩

theorem utf8Encode_eq_ok_iff {s : PyStr} {bs : Bytes} :
    utf8Encode s = .ok bs ↔ (∀ c ∈ s, c.isSurrogate = false) ∧ bs = encodeStr s := by
  unfold utf8Encode
  split
  · rename_i h
    simp only [Except.ok.injEq, List.findIdx?_eq_none_iff] at h ⊢
    exact ⟨fun e => ⟨fun c hc => by simpa using h c hc, e.symm⟩, fun ⟨_, e⟩ => e.symm⟩
  · rename_i i h
    obtain ⟨hi, hs, -⟩ := List.findIdx?_eq_some_iff_getElem.mp h
    simp only [reduceCtorEq, false_iff, not_and]
    exact fun hn => absurd (hn _ (List.getElem_mem hi)) (by simp [hs])

/-! ## Decoding -/

/-- Why CPython's strict UTF-8 decoder stops: the `reason` of its `UnicodeDecodeError`. -/
inductive DecodeReason
  | invalidStartByte
  | invalidContinuationByte
  | unexpectedEndOfData
  deriving DecidableEq, Repr

/-- A `UnicodeDecodeError` of the UTF-8 codec: bytes `[start, stop)` of the object. -/
structure DecodeError where
  start : Nat
  stop : Nat
  reason : DecodeReason
  deriving DecidableEq, Repr

/-- A continuation byte, `0x80`–`0xBF`. -/
def IsContinuation (b : Byte) : Prop := 0x80 ≤ b.val ∧ b.val ≤ 0xBF

instance (b : Byte) : Decidable (IsContinuation b) := inferInstanceAs (Decidable (_ ∧ _))

/-- The second byte of a three-byte sequence led by `b0`: a continuation byte, from
`0xA0` after `0xE0` (no overlong form) and below `0xA0` after `0xED` (no surrogate). -/
def Second3 (b0 b1 : Byte) : Prop :=
  IsContinuation b1 ∧ (b0.val = 0xE0 → 0xA0 ≤ b1.val) ∧ (b0.val = 0xED → b1.val < 0xA0)

/-- The second byte of a four-byte sequence led by `b0`: a continuation byte, from `0x90`
after `0xF0` (no overlong form) and below `0x90` after `0xF4` (nothing past U+10FFFF). -/
def Second4 (b0 b1 : Byte) : Prop :=
  IsContinuation b1 ∧ (b0.val = 0xF0 → 0x90 ≤ b1.val) ∧ (b0.val = 0xF4 → b1.val < 0x90)

instance (b0 b1 : Byte) : Decidable (Second3 b0 b1) := inferInstanceAs (Decidable (_ ∧ _))
instance (b0 b1 : Byte) : Decidable (Second4 b0 b1) := inferInstanceAs (Decidable (_ ∧ _))

/-- CPython's `utf8_decode`, from byte `pos` of the object on: the code points, or the
error at the first sequence that is not UTF-8. A sequence cut short by the end of the
object is `unexpectedEndOfData` up to that end; otherwise the error covers the bytes
before the first one that does not fit. -/
def utf8DecodeFrom (pos : Nat) : Bytes → Except DecodeError PyStr
  | [] => .ok []
  | b0 :: rest =>
    let stop := pos + rest.length + 1
    if b0.val < 0x80 then (utf8DecodeFrom (pos + 1) rest).map (⟨b0.val, by omega⟩ :: ·)
    else if b0.val < 0xC2 then .error ⟨pos, pos + 1, .invalidStartByte⟩
    else if b0.val < 0xE0 then
      match rest with
      | [] => .error ⟨pos, stop, .unexpectedEndOfData⟩
      | b1 :: rest =>
        if IsContinuation b1 then
          (utf8DecodeFrom (pos + 2) rest).map
            (⟨b0.val % 0x20 * 0x40 + b1.val % 0x40, by omega⟩ :: ·)
        else .error ⟨pos, pos + 1, .invalidContinuationByte⟩
    else if hF0 : b0.val < 0xF0 then
      match rest with
      | [] => .error ⟨pos, stop, .unexpectedEndOfData⟩
      | [b1] =>
        if Second3 b0 b1 then .error ⟨pos, stop, .unexpectedEndOfData⟩
        else .error ⟨pos, pos + 1, .invalidContinuationByte⟩
      | b1 :: b2 :: rest =>
        if ¬ Second3 b0 b1 then .error ⟨pos, pos + 1, .invalidContinuationByte⟩
        else if ¬ IsContinuation b2 then .error ⟨pos, pos + 2, .invalidContinuationByte⟩
        else (utf8DecodeFrom (pos + 3) rest).map
          (⟨b0.val % 0x10 * 0x1000 + b1.val % 0x40 * 0x40 + b2.val % 0x40, by omega⟩ :: ·)
    else if h0 : b0.val < 0xF5 then
      match rest with
      | [] => .error ⟨pos, stop, .unexpectedEndOfData⟩
      | [b1] =>
        if Second4 b0 b1 then .error ⟨pos, stop, .unexpectedEndOfData⟩
        else .error ⟨pos, pos + 1, .invalidContinuationByte⟩
      | [b1, b2] =>
        if ¬ Second4 b0 b1 then .error ⟨pos, pos + 1, .invalidContinuationByte⟩
        else if ¬ IsContinuation b2 then .error ⟨pos, pos + 2, .invalidContinuationByte⟩
        else .error ⟨pos, stop, .unexpectedEndOfData⟩
      | b1 :: b2 :: b3 :: rest =>
        if h1 : ¬ Second4 b0 b1 then .error ⟨pos, pos + 1, .invalidContinuationByte⟩
        else if ¬ IsContinuation b2 then .error ⟨pos, pos + 2, .invalidContinuationByte⟩
        else if ¬ IsContinuation b3 then .error ⟨pos, pos + 3, .invalidContinuationByte⟩
        else (utf8DecodeFrom (pos + 4) rest).map
          (⟨b0.val % 0x08 * 0x40000 + b1.val % 0x40 * 0x1000 + b2.val % 0x40 * 0x40 +
            b3.val % 0x40, by simp only [Second4, IsContinuation, not_not] at h1; omega⟩ :: ·)
    else .error ⟨pos, pos + 1, .invalidStartByte⟩

/-- `bs.decode('utf-8')`. -/
def utf8Decode (bs : Bytes) : Except DecodeError PyStr := utf8DecodeFrom 0 bs

/-! ## C strings -/

/-- What C reads through a `char *` to these bytes: up to the first NUL. -/
def cstr (bs : Bytes) : Bytes := bs.takeWhile (· != 0)

theorem encodeCodePoint_ne_zero {c : CodePoint} (hc : c.val ≠ 0) : ∀ b ∈ encodeCodePoint c, b ≠ 0 := by
  unfold encodeCodePoint
  split_ifs <;> simp only [List.mem_cons, List.mem_singleton, List.not_mem_nil, or_false] <;>
    rintro b (rfl | rfl | rfl | rfl) <;> simp only [ne_eq, Fin.ext_iff, Fin.val_zero] <;> omega

theorem zero_mem_encodeCodePoint_iff (c : CodePoint) : 0 ∈ encodeCodePoint c ↔ c.val = 0 := by
  refine ⟨fun h => by_contra fun hc => encodeCodePoint_ne_zero hc 0 h rfl, fun h => ?_⟩
  have : c = 0 := Fin.ext h
  subst this
  decide

theorem encodeCodePoint_ne_nil (c : CodePoint) : encodeCodePoint c ≠ [] := by
  unfold encodeCodePoint
  split_ifs <;> simp

/-- A string encodes to no bytes exactly when it is empty. -/
theorem encodeStr_isEmpty (s : PyStr) : (encodeStr s).isEmpty = s.isEmpty := by
  cases s with
  | nil => rfl
  | cons c s => simp [encodeStr, encodeCodePoint_ne_nil]

/-- C reads an encoded string up to its first NUL. -/
theorem cstr_encodeStr_takeWhile : ∀ s : PyStr, cstr (encodeStr s) = encodeStr (s.takeWhile (· != 0))
  | [] => rfl
  | c :: s => by
    by_cases hc : c = 0
    · subst hc
      rfl
    · have hb : ∀ b ∈ encodeCodePoint c, (b != 0) = true := fun b hb =>
        bne_iff_ne.mpr (encodeCodePoint_ne_zero (fun h => hc (Fin.ext h)) b hb)
      have ih := cstr_encodeStr_takeWhile s
      simp only [cstr, encodeStr, List.flatMap_cons, List.takeWhile_append_of_pos hb,
        List.takeWhile_cons, bne_iff_ne, ne_eq, hc, not_false_eq_true, ite_true] at ih ⊢
      rw [ih]

/-- C reads all of an encoded string exactly when the string has no NUL. -/
theorem cstr_encodeStr (s : PyStr) : cstr (encodeStr s) = encodeStr s ↔ ∀ c ∈ s, c.val ≠ 0 := by
  simp only [cstr, List.takeWhile_eq_self_iff, bne_iff_ne, ne_eq, encodeStr, List.mem_flatMap]
  constructor
  · intro h c hc h0
    exact h 0 ⟨c, hc, (zero_mem_encodeCodePoint_iff c).mpr h0⟩ rfl
  · rintro h b ⟨c, hc, hb⟩ rfl
    exact h c hc ((zero_mem_encodeCodePoint_iff c).mp hb)

end HylaFax.Py
