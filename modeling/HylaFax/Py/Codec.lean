import HylaFax.Py.Text

/-!
# The strict UTF-8 codec round trip

`utf8DecodeFrom` is CPython's strict decoder `utf8_decode`, one branch per range of the lead
byte, and `utf8Encode` the strict encoder. Every string the wrapper hands to `libfaxapi` goes through
the one, and every string it reads back through the other; here they are shown to be
inverse on the nose:

* `utf8DecodeFrom_one` ... `utf8DecodeFrom_four`: what the decoder does on a well-formed
  sequence of each width, the other rows of the table being the branches that raise;
* `encodeCodePoint_one` ... `encodeCodePoint_four`: the code point such a sequence decodes
  to is no surrogate, and encodes back to the same bytes;
* `utf8DecodeFrom_encodeStr`, `utf8Encode_of_utf8DecodeFrom`: the two directions;
* `utf8Decode_eq_ok_iff`: `bs.decode('utf-8')` returns `s` exactly when `s.encode('utf-8')`
  returns `bs`.
-/

namespace HylaFax.Py

variable {pos : Nat} {b0 b1 b2 b3 : Byte} {rest : Bytes} {c : CodePoint}

/-! ## The rows of the decoder

The decoder's equation lemmas are out of reach of Lean's generator (its nested matches
overlap), so each row is read off the definition by `delta`. -/

/-- A byte below `0x80` is a code point of its own. -/
theorem utf8DecodeFrom_one (h : b0.val < 0x80) (hc : c.val = b0.val) :
    utf8DecodeFrom pos (b0 :: rest) = (utf8DecodeFrom (pos + 1) rest).map (c :: ·) := by
  obtain ⟨v, hv⟩ := c
  subst hc
  delta utf8DecodeFrom
  dsimp only
  rw [if_pos h]

theorem utf8DecodeFrom_two (h : 0xC2 ≤ b0.val ∧ b0.val < 0xE0) (h1 : IsContinuation b1)
    (hc : c.val = b0.val % 0x20 * 0x40 + b1.val % 0x40) :
    utf8DecodeFrom pos (b0 :: b1 :: rest) = (utf8DecodeFrom (pos + 2) rest).map (c :: ·) := by
  obtain ⟨v, hv⟩ := c
  subst hc
  have r0 : ¬ b0.val < 0x80 := by omega
  have r1 : ¬ b0.val < 0xC2 := by omega
  delta utf8DecodeFrom
  dsimp only
  rw [if_neg r0, if_neg r1, if_pos h.2, if_pos h1]

theorem utf8DecodeFrom_three (h : 0xE0 ≤ b0.val ∧ b0.val < 0xF0) (h1 : Second3 b0 b1)
    (h2 : IsContinuation b2)
    (hc : c.val = b0.val % 0x10 * 0x1000 + b1.val % 0x40 * 0x40 + b2.val % 0x40) :
    utf8DecodeFrom pos (b0 :: b1 :: b2 :: rest) = (utf8DecodeFrom (pos + 3) rest).map (c :: ·) := by
  obtain ⟨v, hv⟩ := c
  subst hc
  have r0 : ¬ b0.val < 0x80 := by omega
  have r1 : ¬ b0.val < 0xC2 := by omega
  have r2 : ¬ b0.val < 0xE0 := by omega
  delta utf8DecodeFrom
  dsimp only
  rw [if_neg r0, if_neg r1, if_neg r2, dif_pos h.2, if_neg (not_not.mpr h1), if_neg (not_not.mpr h2)]

theorem utf8DecodeFrom_four (h : 0xF0 ≤ b0.val ∧ b0.val < 0xF5) (h1 : Second4 b0 b1)
    (h2 : IsContinuation b2) (h3 : IsContinuation b3)
    (hc : c.val = b0.val % 0x08 * 0x40000 + b1.val % 0x40 * 0x1000 + b2.val % 0x40 * 0x40 +
      b3.val % 0x40) :
    utf8DecodeFrom pos (b0 :: b1 :: b2 :: b3 :: rest) =
      (utf8DecodeFrom (pos + 4) rest).map (c :: ·) := by
  obtain ⟨v, hv⟩ := c
  subst hc
  have r0 : ¬ b0.val < 0x80 := by omega
  have r1 : ¬ b0.val < 0xC2 := by omega
  have r2 : ¬ b0.val < 0xE0 := by omega
  have r3 : ¬ b0.val < 0xF0 := by omega
  delta utf8DecodeFrom
  dsimp only
  rw [if_neg r0, if_neg r1, if_neg r2, dif_neg r3, dif_pos h.2, dif_neg (not_not.mpr h1),
    if_neg (not_not.mpr h2), if_neg (not_not.mpr h3)]

/-! ## Decoding what was encoded -/

/-- A code point that is no surrogate decodes from its own bytes, whatever follows them. -/
theorem utf8DecodeFrom_encodeCodePoint (hc : c.isSurrogate = false) (pos : Nat) (rest : Bytes) :
    utf8DecodeFrom pos (encodeCodePoint c ++ rest) =
      (utf8DecodeFrom (pos + (encodeCodePoint c).length) rest).map (c :: ·) := by
  have hs : ¬ (0xD800 ≤ c.val ∧ c.val ≤ 0xDFFF) := by simpa [CodePoint.isSurrogate] using hc
  have hc' := c.isLt
  unfold encodeCodePoint
  split_ifs with h1 h2 h3
  · exact utf8DecodeFrom_one h1 rfl
  · exact utf8DecodeFrom_two (by simp only; omega) (by simp only [IsContinuation]; omega)
      (by simp only; omega)
  · exact utf8DecodeFrom_three (by simp only; omega) (by simp only [Second3, IsContinuation]; omega)
      (by simp only [IsContinuation]; omega) (by simp only; omega)
  · exact utf8DecodeFrom_four (by simp only; omega) (by simp only [Second4, IsContinuation]; omega)
      (by simp only [IsContinuation]; omega) (by simp only [IsContinuation]; omega)
      (by simp only; omega)

theorem utf8DecodeFrom_encodeStr (s : PyStr) (hs : ∀ c ∈ s, c.isSurrogate = false) (pos : Nat) :
    utf8DecodeFrom pos (encodeStr s) = .ok s := by
  induction s generalizing pos with
  | nil => rfl
  | cons c s ih =>
    rw [encodeStr, List.flatMap_cons, utf8DecodeFrom_encodeCodePoint (hs c (List.mem_cons_self c s)),
      ← encodeStr, ih (fun d hd => hs d (List.mem_cons_of_mem c hd))]
    rfl

/-! ## Encoding what was decoded -/

/-- A four-byte sequence stops at U+10FFFF. -/
theorem fourByte_lt (b2 b3 : Byte) (h : 0xF0 ≤ b0.val ∧ b0.val < 0xF5) (h1 : Second4 b0 b1) :
    b0.val % 0x08 * 0x40000 + b1.val % 0x40 * 0x1000 + b2.val % 0x40 * 0x40 + b3.val % 0x40 <
      0x110000 := by
  simp only [Second4, IsContinuation] at h1
  omega

theorem encodeCodePoint_one (h : b0.val < 0x80) (hc : c.val = b0.val) :
    c.isSurrogate = false ∧ encodeCodePoint c = [b0] := by
  simp only [CodePoint.isSurrogate, decide_eq_false_iff_not, encodeCodePoint]
  rw [dif_pos (by omega)]
  exact ⟨by omega, by simp only [List.cons.injEq, Fin.ext_iff, and_true]; omega⟩

theorem encodeCodePoint_two (h : 0xC2 ≤ b0.val ∧ b0.val < 0xE0) (h1 : IsContinuation b1)
    (hc : c.val = b0.val % 0x20 * 0x40 + b1.val % 0x40) :
    c.isSurrogate = false ∧ encodeCodePoint c = [b0, b1] := by
  simp only [IsContinuation] at h1
  simp only [CodePoint.isSurrogate, decide_eq_false_iff_not, encodeCodePoint]
  rw [dif_neg (by omega), dif_pos (by omega)]
  exact ⟨by omega, by simp only [List.cons.injEq, Fin.ext_iff, and_true]; omega⟩

/-- The row after `0xED` stops below `0xA0`: no three-byte sequence decodes to a
surrogate. -/
theorem encodeCodePoint_three (h : 0xE0 ≤ b0.val ∧ b0.val < 0xF0) (h1 : Second3 b0 b1)
    (h2 : IsContinuation b2)
    (hc : c.val = b0.val % 0x10 * 0x1000 + b1.val % 0x40 * 0x40 + b2.val % 0x40) :
    c.isSurrogate = false ∧ encodeCodePoint c = [b0, b1, b2] := by
  simp only [Second3, IsContinuation] at h1 h2
  simp only [CodePoint.isSurrogate, decide_eq_false_iff_not, encodeCodePoint]
  rw [dif_neg (by omega), dif_neg (by omega), dif_pos (by omega)]
  exact ⟨by omega, by simp only [List.cons.injEq, Fin.ext_iff, and_true]; omega⟩

theorem encodeCodePoint_four (h : 0xF0 ≤ b0.val ∧ b0.val < 0xF5) (h1 : Second4 b0 b1)
    (h2 : IsContinuation b2) (h3 : IsContinuation b3)
    (hc : c.val = b0.val % 0x08 * 0x40000 + b1.val % 0x40 * 0x1000 + b2.val % 0x40 * 0x40 +
      b3.val % 0x40) :
    c.isSurrogate = false ∧ encodeCodePoint c = [b0, b1, b2, b3] := by
  simp only [Second4, IsContinuation] at h1 h2 h3
  simp only [CodePoint.isSurrogate, decide_eq_false_iff_not, encodeCodePoint]
  rw [dif_neg (by omega), dif_neg (by omega), dif_neg (by omega)]
  exact ⟨by omega, by simp only [List.cons.injEq, Fin.ext_iff, and_true]; omega⟩

/-- One decoded code point in front: the encoder gives its bytes in front. -/
theorem utf8Encode_of_map_cons {x : Except DecodeError PyStr} {s : PyStr} {bs tail : Bytes}
    (hx : x.map (c :: ·) = .ok s) (hc : c.isSurrogate = false ∧ encodeCodePoint c = bs)
    (ih : ∀ s, x = .ok s → utf8Encode s = .ok tail) : utf8Encode s = .ok (bs ++ tail) := by
  cases x with
  | error e => cases hx
  | ok s' =>
    cases hx
    obtain ⟨hs, rfl⟩ := utf8Encode_eq_ok_iff.mp (ih s' rfl)
    rw [← hc.2]
    exact utf8Encode_eq_ok_iff.mpr ⟨List.forall_mem_cons.mpr ⟨hc.1, hs⟩, rfl⟩

/-- What the decoder returns encodes back to the bytes it read. -/
theorem utf8Encode_of_utf8DecodeFrom (pos : Nat) (bs : Bytes) :
    ∀ s, utf8DecodeFrom pos bs = .ok s → utf8Encode s = .ok bs := by
  induction pos, bs using utf8DecodeFrom.induct
  case case1 => rintro s ⟨⟩; rfl
  case case2 _ b0 _ h ih =>
    intro s hs
    rw [utf8DecodeFrom_one h (c := ⟨b0.val, by omega⟩) rfl] at hs
    exact utf8Encode_of_map_cons hs (encodeCodePoint_one h rfl) ih
  case case5 _ b0 h0 h1 h2 b1 _ hb1 ih =>
    intro s hs
    have h : 0xC2 ≤ b0.val ∧ b0.val < 0xE0 := by omega
    rw [utf8DecodeFrom_two h hb1 (c := ⟨b0.val % 0x20 * 0x40 + b1.val % 0x40, by omega⟩) rfl] at hs
    exact utf8Encode_of_map_cons hs (encodeCodePoint_two h hb1 rfl) ih
  case case12 _ b0 h0 h1 h2 h3 b1 b2 _ hb1 hb2 ih =>
    intro s hs
    have h : 0xE0 ≤ b0.val ∧ b0.val < 0xF0 := by omega
    rw [utf8DecodeFrom_three h (not_not.mp hb1) (not_not.mp hb2)
      (c := ⟨b0.val % 0x10 * 0x1000 + b1.val % 0x40 * 0x40 + b2.val % 0x40, by omega⟩) rfl] at hs
    exact utf8Encode_of_map_cons hs (encodeCodePoint_three h (not_not.mp hb1) (not_not.mp hb2) rfl) ih
  case case22 _ b0 h0 h1 h2 h3 h4 b1 b2 b3 _ hb1 hb2 hb3 ih =>
    intro s hs
    have h : 0xF0 ≤ b0.val ∧ b0.val < 0xF5 := by omega
    rw [utf8DecodeFrom_four h (not_not.mp hb1) (not_not.mp hb2) (not_not.mp hb3)
      (c := ⟨_, fourByte_lt b2 b3 h (not_not.mp hb1)⟩) rfl] at hs
    exact utf8Encode_of_map_cons hs
      (encodeCodePoint_four h (not_not.mp hb1) (not_not.mp hb2) (not_not.mp hb3) rfl) ih
  -- every other row raises: its conditions pick the branch of the unrolled decoder
  all_goals
    intro s hs
    delta utf8DecodeFrom at hs
    dsimp only at hs
  case' case3 _ _ _ h0 h1 => rw [if_neg h0, if_pos h1] at hs
  case' case4 _ _ h0 h1 h2 => rw [if_neg h0, if_neg h1, if_pos h2] at hs
  case' case6 _ _ h0 h1 h2 _ _ hb1 => rw [if_neg h0, if_neg h1, if_pos h2, if_neg hb1] at hs
  case' case7 _ _ h0 h1 h2 h3 => rw [if_neg h0, if_neg h1, if_neg h2, dif_pos h3] at hs
  case' case8 _ _ h0 h1 h2 h3 _ hb1 => rw [if_neg h0, if_neg h1, if_neg h2, dif_pos h3, if_pos hb1] at hs
  case' case9 _ _ h0 h1 h2 h3 _ hb1 => rw [if_neg h0, if_neg h1, if_neg h2, dif_pos h3, if_neg hb1] at hs
  case' case10 _ _ h0 h1 h2 h3 _ _ _ hb1 =>
    rw [if_neg h0, if_neg h1, if_neg h2, dif_pos h3, if_pos hb1] at hs
  case' case11 _ _ h0 h1 h2 h3 _ _ _ hb1 hb2 =>
    rw [if_neg h0, if_neg h1, if_neg h2, dif_pos h3, if_neg hb1, if_pos hb2] at hs
  case' case13 _ _ h0 h1 h2 h3 h4 => rw [if_neg h0, if_neg h1, if_neg h2, dif_neg h3, dif_pos h4] at hs
  case' case14 _ _ h0 h1 h2 h3 h4 _ hb1 =>
    rw [if_neg h0, if_neg h1, if_neg h2, dif_neg h3, dif_pos h4, if_pos hb1] at hs
  case' case15 _ _ h0 h1 h2 h3 h4 _ hb1 =>
    rw [if_neg h0, if_neg h1, if_neg h2, dif_neg h3, dif_pos h4, if_neg hb1] at hs
  case' case16 _ _ h0 h1 h2 h3 h4 _ _ hb1 =>
    rw [if_neg h0, if_neg h1, if_neg h2, dif_neg h3, dif_pos h4, if_pos hb1] at hs
  case' case17 _ _ h0 h1 h2 h3 h4 _ _ hb1 hb2 =>
    rw [if_neg h0, if_neg h1, if_neg h2, dif_neg h3, dif_pos h4, if_neg hb1, if_pos hb2] at hs
  case' case18 _ _ h0 h1 h2 h3 h4 _ _ hb1 hb2 =>
    rw [if_neg h0, if_neg h1, if_neg h2, dif_neg h3, dif_pos h4, if_neg hb1, if_neg hb2] at hs
  case' case19 _ _ h0 h1 h2 h3 h4 _ _ _ _ hb1 =>
    rw [if_neg h0, if_neg h1, if_neg h2, dif_neg h3, dif_pos h4, dif_pos hb1] at hs
  case' case20 _ _ h0 h1 h2 h3 h4 _ _ _ _ hb1 hb2 =>
    rw [if_neg h0, if_neg h1, if_neg h2, dif_neg h3, dif_pos h4, dif_neg hb1, if_pos hb2] at hs
  case' case21 _ _ h0 h1 h2 h3 h4 _ _ _ _ hb1 hb2 hb3 =>
    rw [if_neg h0, if_neg h1, if_neg h2, dif_neg h3, dif_pos h4, dif_neg hb1, if_neg hb2, if_pos hb3] at hs
  case' case23 _ _ _ h0 h1 h2 h3 h4 => rw [if_neg h0, if_neg h1, if_neg h2, dif_neg h3, dif_neg h4] at hs
  all_goals cases hs

/-- `bs.decode('utf-8')` returns `s` exactly when `s.encode('utf-8')` returns `bs`. -/
theorem utf8Decode_eq_ok_iff {bs : Bytes} {s : PyStr} : utf8Decode bs = .ok s ↔ utf8Encode s = .ok bs :=
  ⟨utf8Encode_of_utf8DecodeFrom 0 bs s, fun h => by
    obtain ⟨hs, rfl⟩ := utf8Encode_eq_ok_iff.mp h
    exact utf8DecodeFrom_encodeStr s hs 0⟩

end HylaFax.Py
