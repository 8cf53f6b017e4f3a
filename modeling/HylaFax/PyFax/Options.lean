import HylaFax.PyFax.Types

/-!
# The options loop of `send_fax`

`marshalOptions` starts from `FaxSendOptions()` and, for each item of the JSON object, calls
`setattr` when `hasattr` accepts the key. What the loop leaves in a field is decided by the
last item whose key is the field's name (`lastValue`): the setter of the field's C type
applied to that item's value, a `str` encoded to UTF-8 first (`foldlM_marshalItem_fields`).

* `options_loop_raises`: `hasattr` also accepts `__class__`, whose `setattr` raises, and a
  field's setter raises on a value of another type;
* `unrecognized_keys_keep_defaults`: a key that names no field leaves every field as it was,
  and an object whose keys are neither field names nor attributes of the structure gives
  `FaxSendOptions()`;
* `options_stored_as_ctypes_sets`: what each field holds, and what C reads back: a string
  up to its first NUL, an integer as its signed 32-bit residue, a boolean as itself, and values
  of another type stored rather than refused;
* `options_wrap_and_coerce`: `maxRetries` 4294967297 reads back as 1, an integer `recipient`
  becomes a pointer, and the string `"false"` in `useECM` becomes true.
-/

namespace HylaFax.PyFax

open HylaFax.Py

/-- The value the loop hands to `setattr` for a JSON value whose encoding succeeded: a `str`
as its UTF-8 bytes, any other value as it is. -/
def Arg.ofValue : PyVal → Arg
  | .str s => .bytes (encodeStr s)
  | v => .val v

/-- The value of the last item of `items` whose key is the name of field `f`. -/
def lastValue (f : OptionField) : List (PyStr × PyVal) → Option PyVal
  | [] => none
  | kv :: items => (lastValue f items).or (if fieldOf kv.1 = some f then some kv.2 else none)

/-! ## One item -/

/-- `setattr` changes the field the key names, to what its setter makes of the value, and no
other field. -/
theorem setAttr_fields {o o' : OptionsObj} {key : PyStr} {a : Arg} (h : o.setAttr key a = .ok o')
    (f : OptionField) :
    if fieldOf key = some f then f.type.set a = .ok (o'.fields f) else o'.fields f = o.fields f := by
  unfold OptionsObj.setAttr at h
  cases hk : fieldOf key with
  | none =>
    rw [hk] at h
    cases hd : setOtherAttr o.dict key a <;> simp only [hd, bind, Except.bind, pure, Except.pure,
      reduceCtorEq, Except.ok.injEq] at h
    subst h
    simp
  | some g =>
    rw [hk] at h
    cases hv : g.type.set a <;> simp only [hv, bind, Except.bind, pure, Except.pure, reduceCtorEq,
      Except.ok.injEq] at h
    subst h
    by_cases hgf : g = f
    · subst hgf
      simp [hv]
    · simp [hgf, Function.update_noteq (Ne.symm hgf)]

/-- One item of the loop, when it returns: the field its key names holds what that field's
setter makes of the value, and every other field is unchanged. -/
theorem marshalItem_fields {o o' : OptionsObj} {kv : PyStr × PyVal} (h : marshalItem o kv = .ok o')
    (f : OptionField) :
    if fieldOf kv.1 = some f then f.type.set (Arg.ofValue kv.2) = .ok (o'.fields f)
    else o'.fields f = o.fields f := by
  obtain ⟨key, v⟩ := kv
  unfold marshalItem at h
  by_cases ha : o.hasAttr key = true
  · rw [if_pos ha] at h
    cases v with
    | str s =>
      cases he : encodeUtf8 s with
      | error e => simp [he, bind, Except.bind] at h
      | ok b =>
        have hb : b = encodeStr s := by
          unfold encodeUtf8 at he
          cases hu : utf8Encode s <;> simp only [hu, Except.mapError, reduceCtorEq, Except.ok.injEq] at he
          exact he ▸ (utf8Encode_eq_ok_iff.mp hu).2
        simp only [he, bind, Except.bind] at h
        simpa [Arg.ofValue, hb] using setAttr_fields h f
    | _ => exact setAttr_fields h f
  · rw [if_neg ha] at h
    cases h
    have hn : fieldOf key ≠ some f := fun hf => ha (by simp [OptionsObj.hasAttr, hf])
    simp [hn]

/-! ## The loop -/

/-- What the loop leaves in field `f`: what the field's setter makes of the last value a key
naming it carries, or what the field held before. -/
theorem foldlM_marshalItem_fields (f : OptionField) :
    ∀ {items : List (PyStr × PyVal)} {o o' : OptionsObj}, items.foldlM marshalItem o = .ok o' →
      match lastValue f items with
      | some v => f.type.set (Arg.ofValue v) = .ok (o'.fields f)
      | none => o'.fields f = o.fields f
  | [], _, _, h => by
    cases h
    rfl
  | kv :: items, o, o', h => by
    rw [List.foldlM_cons] at h
    cases h1 : marshalItem o kv with
    | error e => simp [h1, bind, Except.bind] at h
    | ok o₁ =>
      simp only [h1, bind, Except.bind] at h
      have ih := foldlM_marshalItem_fields f h
      have hstep := marshalItem_fields h1 f
      simp only [lastValue]
      cases hl : lastValue f items with
      | some v => simpa [hl] using ih
      | none =>
        -- no later item names `f`: this item decides, or the field keeps its value
        rw [hl] at ih
        by_cases hk : fieldOf kv.1 = some f
        · simpa [hk, ← ih] using hstep
        · simpa [hk, ih] using hstep

/-- The loop from `FaxSendOptions()` over a JSON object, when it returns. -/
theorem marshalOptions_fields {items : List (PyStr × PyVal)} {opts : FaxSendOptions}
    (h : marshalOptions (.dict items) = .ok opts) (f : OptionField) :
    match lastValue f items with
    | some v => f.type.set (Arg.ofValue v) = .ok (opts f)
    | none => opts f = f.type.zero := by
  cases items with
  | nil =>
    cases h
    rfl
  | cons kv items =>
    simp only [marshalOptions, PyVal.truthy_dict_cons, ite_true] at h
    cases hf : (kv :: items).foldlM marshalItem ⟨FaxSendOptions.zero, []⟩ with
    | error e => simp [hf, Except.map] at h
    | ok o' =>
      simp only [hf, Except.map, Except.ok.injEq] at h
      subst h
      exact foldlM_marshalItem_fields f hf

/-! ## What the loop raises and keeps -/

/-- `hasattr` accepts `__class__`, which is no field, and its `setattr` raises; and the
`c_int` field `maxRetries` refuses the bytes of the string `"3"`. -/
theorem options_loop_raises :
    fieldOf "__class__" = none ∧
      marshalOptions (.dict [("__class__", .int 0)]) =
        .error (.typeError "__class__ must be set to a class, not 'int' object") ∧
      marshalOptions (.dict [("maxRetries", .str "3")]) =
        .error (.typeError "'bytes' object cannot be interpreted as an integer") :=
  ⟨by decide, rfl, rfl⟩

/-- No item of `items` has a key that `hasattr` accepts on a fresh structure. -/
theorem foldlM_unrecognized : ∀ items : List (PyStr × PyVal),
    (∀ kv ∈ items, fieldOf kv.1 = none ∧ ∀ a ∈ structureAttrs, (a : PyStr) ≠ kv.1) →
    items.foldlM marshalItem ⟨FaxSendOptions.zero, []⟩ = .ok ⟨FaxSendOptions.zero, []⟩
  | [], _ => rfl
  | kv :: items, h => by
    obtain ⟨hf, ha⟩ := h kv (List.mem_cons_self _ _)
    have hskip : marshalItem ⟨FaxSendOptions.zero, []⟩ kv = .ok ⟨FaxSendOptions.zero, []⟩ := by
      simp only [marshalItem, OptionsObj.hasAttr, hf, Option.isSome_none, Bool.false_or,
        List.contains_nil, Bool.or_false, List.any_eq_false.mpr fun a hm he => ha a hm (of_decide_eq_true he)]
      rfl
    rw [List.foldlM_cons, hskip]
    exact foldlM_unrecognized items fun kv hk => h kv (List.mem_cons_of_mem _ hk)

/-- An item whose key names no field leaves every field as it was; and a JSON object none of
whose keys is a field name or an attribute every ctypes structure has gives
`FaxSendOptions()`. -/
theorem unrecognized_keys_keep_defaults :
    (∀ (o o' : OptionsObj) (kv : PyStr × PyVal), fieldOf kv.1 = none → marshalItem o kv = .ok o' →
      o'.fields = o.fields) ∧
    (∀ items : List (PyStr × PyVal),
      (∀ kv ∈ items, fieldOf kv.1 = none ∧ ∀ a ∈ structureAttrs, (a : PyStr) ≠ kv.1) →
      marshalOptions (.dict items) = .ok FaxSendOptions.zero) := by
  refine ⟨fun o o' kv hk h => funext fun f => ?_, fun items h => ?_⟩
  · simpa [hk] using marshalItem_fields h f
  · cases items with
    | nil => rfl
    | cons kv items =>
      simp only [marshalOptions, PyVal.truthy_dict_cons, ite_true, foldlM_unrecognized _ h]
      rfl

/-! ## What the fields hold -/

/-- A JSON integer's value in a `c_int` field, read as C reads it, is the integer exactly when
it fits in 32 signed bits. -/
theorem int_set_toInt (i : Int) :
    ∃ x : BitVec 32, CType.set .int (Arg.ofValue (.int i)) = .ok x ∧ x.toInt = i.bmod 4294967296 ∧
      (x.toInt = i ↔ -2147483648 ≤ i ∧ i < 2147483648) := by
  refine ⟨BitVec.ofInt 32 i, rfl, BitVec.toInt_ofInt i, ?_⟩
  simp only [BitVec.toInt_ofInt, Int.bmod]
  split <;> omega

/-- For a JSON object whose options loop returns: a field that no key names keeps its
default, and a field a key names holds what the field's ctypes setter makes of the last such
value. Read back as C reads it, a string comes back up to its first NUL, an integer in a
`c_int` field as its signed 32-bit residue, a boolean in a `c_bool` field as itself; an
integer or a boolean in a `c_char_p` field becomes a pointer, and a string in a `c_bool`
field becomes whether it is empty. -/
theorem options_stored_as_ctypes_sets (items : List (PyStr × PyVal)) (opts : FaxSendOptions)
    (h : marshalOptions (.dict items) = .ok opts) :
    (∀ f, lastValue f items = none → opts f = f.type.zero) ∧
    (∀ f v, lastValue f items = some v → f.type.set (Arg.ofValue v) = .ok (opts f)) ∧
    (∀ s : PyStr, CType.set .charP (Arg.ofValue (.str s)) = .ok (CharP.bytes (encodeStr s)) ∧
      cstr (encodeStr s) = encodeStr (s.takeWhile (· != 0))) ∧
    (∀ i : Int, ∃ x : BitVec 32, CType.set .int (Arg.ofValue (.int i)) = .ok x ∧
      x.toInt = i.bmod 4294967296 ∧ (x.toInt = i ↔ -2147483648 ≤ i ∧ i < 2147483648)) ∧
    (∀ b : Bool, CType.set .bool (Arg.ofValue (.bool b)) = .ok b) ∧
    (∀ i : Int, CType.set .charP (Arg.ofValue (.int i)) =
      .ok (if i = 0 then CharP.null else CharP.addr (BitVec.ofInt 64 i))) ∧
    (∀ b : Bool, CType.set .charP (Arg.ofValue (.bool b)) =
      .ok (if b then CharP.addr 1 else CharP.null)) ∧
    (∀ s : PyStr, CType.set .bool (Arg.ofValue (.str s)) = .ok !s.isEmpty) := by
  refine ⟨fun f hf => ?_, fun f v hv => ?_, fun s => ⟨rfl, cstr_encodeStr_takeWhile s⟩, int_set_toInt,
    fun _ => rfl, fun _ => rfl, fun _ => rfl, fun s => ?_⟩
  · simpa [hf] using marshalOptions_fields h f
  · simpa [hv] using marshalOptions_fields h f
  · simp [CType.set, Arg.ofValue, Arg.truthy, encodeStr_isEmpty]

/-- `{"maxRetries": 3}`: the loop returns, and `maxRetries` holds what the `c_int` setter
makes of 3. -/
theorem options_stored_for_maxRetries :
    ∃ opts, marshalOptions (.dict [("maxRetries", .int 3)]) = .ok opts ∧
      ∀ v, lastValue ⟨20, by decide⟩ [("maxRetries", .int 3)] = some v →
        CType.set (OptionField.type ⟨20, by decide⟩) (Arg.ofValue v) = .ok (opts ⟨20, by decide⟩) :=
  ⟨_, rfl, (options_stored_as_ctypes_sets [("maxRetries", .int 3)] _ rfl).2.1 _⟩

/-- `{"maxRetries": 4294967297, "recipient": 5, "useECM": "false"}`: the loop returns, C
reads `maxRetries` as 1, `recipient` holds the address 5, and `useECM` is true. -/
theorem options_wrap_and_coerce :
    ∃ opts, marshalOptions (.dict [("maxRetries", .int 4294967297), ("recipient", .int 5),
        ("useECM", .str "false")]) = .ok opts ∧
      OptionField.name ⟨20, by decide⟩ = "maxRetries" ∧ (opts ⟨20, by decide⟩ : BitVec 32).toInt = 1 ∧
      OptionField.name ⟨0, by decide⟩ = "recipient" ∧ (opts ⟨0, by decide⟩ : CharP) = .addr 5 ∧
      OptionField.name ⟨23, by decide⟩ = "useECM" ∧ (opts ⟨23, by decide⟩ : Bool) = true :=
  ⟨_, rfl, rfl, rfl, rfl, rfl, rfl, rfl⟩

end HylaFax.PyFax
