import HylaFax.Py.Object

/-!
# The ctypes structures of `pyfax.py`

`QueueType`, and `FaxSendOptions`, `FaxSubmissionResult` and `FaxJobInfo` as the wrapper
declares them, with what a ctypes field does when Python assigns to it or reads it.

A `FaxSendOptions` field holds a value of the C type `_fields_` gives it, whatever is
assigned (`CType.set`): a `c_int` field wraps modulo 2³², a `c_char_p` field takes bytes,
`None` or an integer address, a `c_bool` field the truth of any value. `marshalOptions` is
the options loop of `send_fax`: `setattr` for every key `hasattr` accepts, a field name or
an attribute of the Python object, which never reaches the C structure.
-/

namespace HylaFax.PyFax

open HylaFax.Py

/-- `QueueType`. -/
inductive QueueType
  | sendQueue
  | doneQueue
  | recvQueue
  | archiveQueue
  | documentQueue
  | serverStatus
  deriving DecidableEq, Repr

/-- `queue_type.value`. -/
def QueueType.value : QueueType → Nat
  | .sendQueue => 0
  | .doneQueue => 1
  | .recvQueue => 2
  | .archiveQueue => 3
  | .documentQueue => 4
  | .serverStatus => 5

/-- `queue_type.name`. -/
def QueueType.name : QueueType → String
  | .sendQueue => "SEND_QUEUE"
  | .doneQueue => "DONE_QUEUE"
  | .recvQueue => "RECV_QUEUE"
  | .archiveQueue => "ARCHIVE_QUEUE"
  | .documentQueue => "DOCUMENT_QUEUE"
  | .serverStatus => "SERVER_STATUS"

/-! ## Fields -/

/-- The C types of the fields the wrapper declares. -/
inductive CType
  | charP
  | float
  | int
  | bool
  deriving DecidableEq, Repr

/-- What a `c_char_p` field points to. -/
inductive CharP
  | null
  /-- The buffer of a Python `bytes` object; C reads it up to the first NUL. -/
  | bytes (b : Bytes)
  /-- An integer assigned as an address. -/
  | addr (a : BitVec 64)
  deriving DecidableEq, Repr

/-- What a `c_float` field holds: the Python number assigned, which C reads rounded to
single precision (the rounding is not modelled). -/
inductive CFloat
  | ofInt (i : Int)
  | ofFloat (x : PyFloat)
  deriving DecidableEq, Repr

/-- The values of a C type. -/
def CType.Val : CType → Type
  | .charP => CharP
  | .float => CFloat
  | .int => BitVec 32
  | .bool => Bool

/-- The value of a field of a new structure: ctypes zeroes its memory. -/
def CType.zero : (t : CType) → t.Val
  | .charP => CharP.null
  | .float => CFloat.ofFloat ⟨0⟩
  | .int => (0 : BitVec 32)
  | .bool => false

/-- A value the options loop assigns to an attribute: a `str` encoded to `bytes`, or any
other value as it is. -/
inductive Arg
  | bytes (b : Bytes)
  | val (v : PyVal)

/-- `type(a).__name__`. -/
def Arg.typeName : Arg → String
  | .bytes _ => "bytes"
  | .val v => v.typeName

/-- `bool(a)`. -/
def Arg.truthy : Arg → Bool
  | .bytes b => !b.isEmpty
  | .val v => v.truthy

/-- Assigning `a` to a field of C type `t`: ctypes' `z_set`, `f_set`, `i_set` and
`bool_set`. A `bool` is an `int` to ctypes; an `int` assigned to a `c_float` is converted
to a double first, which overflows from 2¹⁰²⁴ − 2⁹⁷⁰ on. -/
def CType.set : (t : CType) → Arg → Except PyExc t.Val
  | .charP, .bytes b => .ok (CharP.bytes b)
  | .charP, .val .null => .ok CharP.null
  | .charP, .val (.int i) => .ok (if i = 0 then CharP.null else CharP.addr (BitVec.ofInt 64 i))
  | .charP, .val (.bool b) => .ok (if b then CharP.addr 1 else CharP.null)
  | .charP, a =>
    .error (.typeError ("bytes or integer address expected instead of " ++ a.typeName ++ " instance"))
  | .int, .val (.int i) => .ok (BitVec.ofInt 32 i)
  | .int, .val (.bool b) => .ok (if b then 1 else 0 : BitVec 32)
  | .int, a => .error (.typeError ("'" ++ a.typeName ++ "' object cannot be interpreted as an integer"))
  | .bool, a => .ok a.truthy
  | .float, .val (.int i) =>
    if Nat.pow 2 1024 - Nat.pow 2 970 ≤ i.natAbs then .error (.overflowError "int too large to convert to float")
    else .ok (CFloat.ofInt i)
  | .float, .val (.bool b) => .ok (CFloat.ofInt (if b then 1 else 0))
  | .float, .val (.float x) => .ok (CFloat.ofFloat x)
  | .float, a => .error (.typeError ("must be real number, not " ++ a.typeName))

/-! ## `FaxSendOptions` -/

/-- `FaxSendOptions._fields_`. -/
def optionFields : List (String × CType) :=
  [("recipient", .charP), ("dialString", .charP), ("subAddress", .charP),
    ("coverComments", .charP), ("coverRegarding", .charP), ("coverFromVoice", .charP),
    ("coverFromFax", .charP), ("coverFromCompany", .charP), ("coverFromLocation", .charP),
    ("coverTemplate", .charP), ("tagLineFormat", .charP), ("jobTag", .charP), ("tsi", .charP),
    ("sendTime", .charP), ("killTime", .charP), ("retryTime", .charP), ("pageSize", .charP),
    ("notification", .charP), ("priority", .charP), ("vResolution", .float),
    ("maxRetries", .int), ("maxDials", .int), ("autoCoverPage", .bool), ("useECM", .bool),
    ("useXVRes", .bool), ("archive", .bool), ("desiredSpeed", .int), ("minSpeed", .int),
    ("desiredDataFormat", .int)]

/-- A field of `FaxSendOptions`. -/
abbrev OptionField := Fin optionFields.length

/-- The field's name. -/
def OptionField.name (f : OptionField) : PyStr := (optionFields.get f).1

/-- The field's C type. -/
def OptionField.type (f : OptionField) : CType := (optionFields.get f).2

/-- A `FaxSendOptions` structure: a value of its C type in every field. -/
def FaxSendOptions := (f : OptionField) → f.type.Val

/-- `FaxSendOptions()`: every field zero. -/
def FaxSendOptions.zero : FaxSendOptions := fun f => f.type.zero

/-- The field of that name. -/
def fieldOf (key : PyStr) : Option OptionField := (List.finRange _).find? (·.name = key)

/-- The attributes every instance of a ctypes `Structure` subclass has besides its fields
(`dir(FaxSendOptions())` in CPython 3.11). -/
def structureAttrs : List String :=
  ["__class__", "__ctypes_from_outparam__", "__delattr__", "__dict__", "__dir__", "__doc__",
    "__eq__", "__format__", "__ge__", "__getattribute__", "__getstate__", "__gt__", "__hash__",
    "__init__", "__init_subclass__", "__le__", "__lt__", "__module__", "__ne__", "__new__",
    "__reduce__", "__reduce_ex__", "__repr__", "__setattr__", "__setstate__", "__sizeof__",
    "__str__", "__subclasshook__", "__weakref__", "_b_base_", "_b_needsfree_", "_fields_",
    "_objects"]

/-- `c_options` while the loop runs: its C structure, and the names its `__dict__` holds. -/
structure OptionsObj where
  fields : FaxSendOptions
  dict : List PyStr

/-- `hasattr(c_options, key)`. -/
def OptionsObj.hasAttr (o : OptionsObj) (key : PyStr) : Bool :=
  (fieldOf key).isSome || structureAttrs.any (fun a => (a : PyStr) = key) || o.dict.contains key

/-- `setattr` of an attribute that is no field: `__class__` takes only a class and
`__dict__` only a dict, `__weakref__` and the ctypes slots are read-only, and any other name
goes into the instance's `__dict__`. -/
def setOtherAttr (dict : List PyStr) (key : PyStr) (a : Arg) : Except PyExc (List PyStr) :=
  if key = "__class__" then
    .error (.typeError ("__class__ must be set to a class, not '" ++ a.typeName ++ "' object"))
  else if key = "__dict__" then
    match a with
    | .val (.dict items) => .ok (items.map Prod.fst)
    | _ => .error (.typeError ("__dict__ must be set to a dictionary, not a '" ++ a.typeName ++ "'"))
  else if key = "__weakref__" then
    .error (.attributeError "attribute '__weakref__' of 'FaxSendOptions' objects is not writable")
  else if (["_b_base_", "_b_needsfree_", "_objects"] : List String).any (fun a => (a : PyStr) = key) then
    .error (.attributeError "readonly attribute")
  else .ok (if dict.contains key then dict else key :: dict)

/-- `setattr(c_options, key, a)`. -/
def OptionsObj.setAttr (o : OptionsObj) (key : PyStr) (a : Arg) : Except PyExc OptionsObj :=
  match fieldOf key with
  | some f => do
    let v ← f.type.set a
    return { o with fields := Function.update o.fields f v }
  | none => do
    let d ← setOtherAttr o.dict key a
    return { o with dict := d }

/-- One item of the options loop:
`if hasattr(c_options, key): setattr(c_options, key, value.encode('utf-8') if str else value)`. -/
def marshalItem (o : OptionsObj) (kv : PyStr × PyVal) : Except PyExc OptionsObj :=
  if o.hasAttr kv.1 then
    match kv.2 with
    | .str s => do o.setAttr kv.1 (.bytes (← encodeUtf8 s))
    | v => o.setAttr kv.1 (.val v)
  else .ok o

/-- The options loop of `send_fax`: `FaxSendOptions()`, then, when `options` is truthy,
each item of `options.items()` in turn. -/
def marshalOptions (options : PyVal) : Except PyExc FaxSendOptions :=
  let o : OptionsObj := ⟨FaxSendOptions.zero, []⟩
  if options.truthy then
    match options with
    | .dict items => (items.foldlM marshalItem o).map OptionsObj.fields
    | v => .error (.attributeError ("'" ++ v.typeName ++ "' object has no attribute 'items'"))
  else .ok o.fields

/-! ## What the library reports -/

/-- `FaxSubmissionResult` as the library leaves it; a `c_char_p` field is `NULL` or points
to bytes that Python reads up to the first NUL. -/
structure FaxSubmissionResult where
  success : Bool
  jobId : Option Bytes
  groupId : Option Bytes
  errorMessage : Option Bytes
  totalPages : BitVec 32

/-- `FaxJobInfo` as the library leaves it. -/
structure FaxJobInfo where
  jobId : Option Bytes
  state : Option Bytes
  pages : Option Bytes
  dials : Option Bytes
  tts : Option Bytes
  sender : Option Bytes
  number : Option Bytes
  modem : Option Bytes
  tag : Option Bytes
  status : Option Bytes
  fileName : Option Bytes
  received : Option Bytes

/-- An entry the library did not write: every pointer `NULL`. -/
def FaxJobInfo.null : FaxJobInfo := ⟨none, none, none, none, none, none, none, none, none, none, none, none⟩

/-- `p.decode('utf-8') if p else ""` for a `c_char_p` field. -/
def decodeCharP (p : Option Bytes) : Except PyExc PyStr := decodeOrEmpty (p.map cstr)

/-- A job as `get_job_status` reports it: the dict it builds from one `FaxJobInfo`. -/
structure JobRecord where
  jobId : PyStr
  state : PyStr
  pages : PyStr
  dials : PyStr
  tts : PyStr
  sender : PyStr
  number : PyStr
  modem : PyStr
  tag : PyStr
  status : PyStr
  fileName : PyStr
  received : PyStr
  deriving DecidableEq, Repr

/-- The record's dict, keys in the source's order. -/
def JobRecord.toDict (r : JobRecord) : List (PyStr × PyVal) :=
  [("job_id", .str r.jobId), ("state", .str r.state), ("pages", .str r.pages),
    ("dials", .str r.dials), ("tts", .str r.tts), ("sender", .str r.sender),
    ("number", .str r.number), ("modem", .str r.modem), ("tag", .str r.tag),
    ("status", .str r.status), ("file_name", .str r.fileName), ("received", .str r.received)]

/-- The dict literal of `get_job_status`, its entries decoded in the source's order. -/
def FaxJobInfo.toRecord (j : FaxJobInfo) : Except PyExc JobRecord := do
  return { jobId := ← decodeCharP j.jobId, state := ← decodeCharP j.state,
           pages := ← decodeCharP j.pages, dials := ← decodeCharP j.dials,
           tts := ← decodeCharP j.tts, sender := ← decodeCharP j.sender,
           number := ← decodeCharP j.number, modem := ← decodeCharP j.modem,
           tag := ← decodeCharP j.tag, status := ← decodeCharP j.status,
           fileName := ← decodeCharP j.fileName, received := ← decodeCharP j.received }

/-- Every string field of the entry is `NULL`, empty or valid UTF-8 up to its NUL. -/
def FaxJobInfo.DecodesOk (j : FaxJobInfo) : Prop :=
  ∀ p ∈ [j.jobId, j.state, j.pages, j.dials, j.tts, j.sender, j.number, j.modem, j.tag,
    j.status, j.fileName, j.received], Py.DecodesOk (p.map cstr)

end HylaFax.PyFax
