import RecDtn.Messages.Bundle
import RecDtn.Python.Msgpack

/-!
# Messages

The envelopes exchanged with the transport daemon: `Reply`, `Register`, `Fetch`,
`FetchReply` and `BundleCreate`, with their `__post_init__` checks, `dictify` and
`from_dict`, and `serialize` / `deserialize`. As for bundles, a message object (`MessageObj`)
holds whatever its constructor was given, and a `Message` is one the code built, carrying
the proof that its `__post_init__` passed.
-/

namespace RecDtn

/-- The object in an `endpoint_id` field: an identifier when the code built the message,
the decoded value when `from_dict` did, since it does not wrap it in `EID(...)`. -/
inductive Obj where
  | eid (e : EID)
  | val (v : Value)
  deriving DecidableEq, Repr

namespace Obj

/-- Python truthiness of an `endpoint_id`. -/
def truthy : Obj → Bool
  | .eid e => e.truthy
  | .val v => v.truthy

/-- What `msgpack.packb` writes for an `endpoint_id`: an identifier is a string. -/
def toValue : Obj → Value
  | .eid e => .str e.text
  | .val v => v

/-- Python `==` on `endpoint_id` objects: an identifier equals a string of its text. -/
def pyEq : Obj → Obj → Bool
  | .eid e, .eid e' => e == e'
  | .eid e, .val v | .val v, .eid e => v == .str e.text
  | .val v, .val w => v.pyEq w

end Obj

/-! ### Message objects -/

/-- A `Reply` object. -/
structure ReplyObj where
  type : Value
  success : Value
  error : Value
  deriving DecidableEq, Repr

/-- A `Register` object. -/
structure RegisterObj where
  type : Value
  endpointId : Obj
  deriving DecidableEq, Repr

/-- A `Fetch` object. -/
structure FetchObj where
  type : Value
  endpointId : Obj
  nodeType : Value
  deriving DecidableEq, Repr

/-- A `FetchReply` object; the class extends `Reply` with the fetched bundles. -/
structure FetchReplyObj where
  type : Value
  success : Value
  error : Value
  bundles : List BundleObj
  deriving DecidableEq, Repr

/-- A `BundleCreate` object. -/
structure BundleCreateObj where
  type : Value
  bundle : BundleObj
  deriving DecidableEq, Repr

/-- A message object, by class. -/
inductive MessageObj where
  | reply (r : ReplyObj)
  | register (r : RegisterObj)
  | fetch (f : FetchObj)
  | fetchReply (f : FetchReplyObj)
  | create (c : BundleCreateObj)
  deriving DecidableEq, Repr

/-! ### `__post_init__` -/

/-- The tag check every variant's `__post_init__` starts with; whatever the variant, the
error names `MessageType.REPLY`. -/
def checkType (expected : MessageType) (type : Value) : Except PyError Unit :=
  unless type.eqInt expected.value do throw (.invalidMessage (.needsType type))

/-- `Reply.__post_init__`. -/
def ReplyObj.postInit (r : ReplyObj) : Except PyError Unit := do
  checkType .reply r.type
  if !r.success.truthy && !r.error.truthy then
    throw (.invalidMessage .unsuccessfulWithoutError)
  if r.success.truthy && r.error.truthy then throw (.invalidMessage .successfulWithError)

/-- `Register.__post_init__`. -/
def RegisterObj.postInit (r : RegisterObj) : Except PyError Unit := do
  checkType .register r.type
  unless r.endpointId.truthy do throw (.invalidMessage .endpointNone)

/-- `Fetch.__post_init__`. -/
def FetchObj.postInit (f : FetchObj) : Except PyError Unit := do
  checkType .fetch f.type
  unless f.endpointId.truthy do throw (.invalidMessage .endpointNone)

/-- `FetchReply.__post_init__`. It overrides `Reply.__post_init__` and checks the tag
only, not `success` against `error`. -/
def FetchReplyObj.postInit (f : FetchReplyObj) : Except PyError Unit :=
  checkType .fetchReply f.type

/-- `BundleCreate.__post_init__`. -/
def BundleCreateObj.postInit (c : BundleCreateObj) : Except PyError Unit :=
  checkType .create c.type

/-- The `__post_init__` of a message's class. -/
def MessageObj.postInit : MessageObj → Except PyError Unit
  | .reply r => r.postInit
  | .register r => r.postInit
  | .fetch f => f.postInit
  | .fetchReply f => f.postInit
  | .create c => c.postInit

theorem checkType_eq_ok {t : MessageType} {type : Value} :
    checkType t type = .ok () ↔ type.eqInt t.value := by
  rw [checkType]; exact unless_eq_ok _

/-! ### `dictify` -/

namespace MessageObj

/-- `dictify`: the dataclass fields in order; the bundles of a `FetchReply` and the
bundle of a `BundleCreate` by their own `dictify`. -/
def dictify : MessageObj → List (String × Value)
  | .reply r => [("type", r.type), ("success", r.success), ("error", r.error)]
  | .register r => [("type", r.type), ("endpoint_id", r.endpointId.toValue)]
  | .fetch f => [("type", f.type), ("endpoint_id", f.endpointId.toValue),
      ("node_type", f.nodeType)]
  | .fetchReply f => [("type", f.type), ("success", f.success), ("error", f.error),
      ("bundles", .arr (f.bundles.map fun b => .map (Value.strDict b.dictify)))]
  | .create c => [("type", c.type), ("bundle", .map (Value.strDict c.bundle.dictify))]

/-- Python `==` on messages, the dataclass equality: the same class and equal fields. -/
def pyEq : MessageObj → MessageObj → Bool
  | .reply r, .reply r' => r.type.pyEq r'.type && r.success.pyEq r'.success &&
      r.error.pyEq r'.error
  | .register r, .register r' => r.type.pyEq r'.type && r.endpointId.pyEq r'.endpointId
  | .fetch f, .fetch f' => f.type.pyEq f'.type && f.endpointId.pyEq f'.endpointId &&
      f.nodeType.pyEq f'.nodeType
  | .fetchReply f, .fetchReply f' => f.type.pyEq f'.type && f.success.pyEq f'.success &&
      f.error.pyEq f'.error && f.bundles.length == f'.bundles.length &&
      (f.bundles.zip f'.bundles).all fun p => p.1.pyEq p.2
  | .create c, .create c' => c.type.pyEq c'.type && c.bundle.pyEq c'.bundle
  | _, _ => false

end MessageObj

/-! ### Messages built in the code -/

/-- The fields of a message at their declared types, by class. -/
inductive MessageFields where
  | reply (type : MessageType) (success : Bool) (error : String)
  | register (type : MessageType) (endpointId : EID)
  | fetch (type : MessageType) (endpointId : EID) (nodeType : NodeType)
  | fetchReply (type : MessageType) (success : Bool) (error : String) (bundles : List BundleData)
  | create (type : MessageType) (bundle : BundleData)

namespace MessageFields

/-- The object a message with these fields is. -/
def toObj : MessageFields → MessageObj
  | .reply t s e => .reply ⟨.int t.value, .bool s, .str e⟩
  | .register t e => .register ⟨.int t.value, .eid e⟩
  | .fetch t e n => .fetch ⟨.int t.value, .eid e, .int n.value⟩
  | .fetchReply t s e bs => .fetchReply ⟨.int t.value, .bool s, .str e, bs.map (·.toObj)⟩
  | .create t b => .create ⟨.int t.value, b.toObj⟩

/-- What `__post_init__` demands of a message whose fields have their declared types: its
class's tag, a `Reply`'s success exactly without error, and a truthy endpoint. -/
def Valid : MessageFields → Prop
  | .reply t s e => t = .reply ∧ (s = true ↔ e = "")
  | .register t e => t = .register ∧ e.truthy
  | .fetch t e _ => t = .fetch ∧ e.truthy
  | .fetchReply t _ _ _ => t = .fetchReply
  | .create t _ => t = .create

/-- The spec of `__post_init__` on declared types. -/
theorem postInit_toObj_eq_ok (m : MessageFields) : m.toObj.postInit = .ok () ↔ m.Valid := by
  cases m with
  | reply t s e =>
    simp only [toObj, MessageObj.postInit, ReplyObj.postInit, Valid, seq_eq_ok, checkType_eq_ok,
      Value.eqInt_int, decide_eq_true_eq, MessageType.value_inj]
    cases s <;> by_cases he : e = "" <;> simp [he]
  | register t e =>
    simp [toObj, MessageObj.postInit, RegisterObj.postInit, Valid, seq_eq_ok, checkType_eq_ok,
      MessageType.value_inj, Obj.truthy]
  | fetch t e n =>
    simp [toObj, MessageObj.postInit, FetchObj.postInit, Valid, seq_eq_ok, checkType_eq_ok,
      MessageType.value_inj, Obj.truthy]
  | fetchReply t s e bs =>
    simp [toObj, MessageObj.postInit, FetchReplyObj.postInit, Valid, checkType_eq_ok,
      MessageType.value_inj]
  | create t b =>
    simp [toObj, MessageObj.postInit, BundleCreateObj.postInit, Valid, checkType_eq_ok,
      MessageType.value_inj]

/-- The nested bundles of a message restore from their `dictify`
(`BundleFields.Restorable`). -/
def Restorable : MessageFields → Prop
  | .fetchReply _ _ _ bs => ∀ b ∈ bs, b.Restorable
  | .create _ b => b.Restorable
  | _ => True

end MessageFields

/-- A message the code built: its `__post_init__` passed. -/
structure Message where
  fields : MessageFields
  valid : fields.toObj.postInit = .ok ()

/-- The object a message the code built is. -/
def Message.toObj (m : Message) : MessageObj := m.fields.toObj

/-! ### `from_dict` and `deserialize` -/

/-- The `__init__` parameters of a message class; none has a default. -/
def messageParams (fields : List String) : List (String × Option Value) :=
  fields.map (·, none)

/-- `Reply.from_dict`: `cls(**data)`. -/
def ReplyObj.fromDict (kvs : List (Value × Value)) : Except PyError MessageObj := do
  let args ← bindKwargs (messageParams ["type", "success", "error"]) kvs
  let r : ReplyObj := ⟨args "type", args "success", args "error"⟩
  r.postInit
  pure (.reply r)

/-- `Register.from_dict`: `cls(**data)`; the endpoint stays the decoded value. -/
def RegisterObj.fromDict (kvs : List (Value × Value)) : Except PyError MessageObj := do
  let args ← bindKwargs (messageParams ["type", "endpoint_id"]) kvs
  let r : RegisterObj := ⟨args "type", .val (args "endpoint_id")⟩
  r.postInit
  pure (.register r)

/-- `Fetch.from_dict`: `cls(**data)`. -/
def FetchObj.fromDict (kvs : List (Value × Value)) : Except PyError MessageObj := do
  let args ← bindKwargs (messageParams ["type", "endpoint_id", "node_type"]) kvs
  let f : FetchObj := ⟨args "type", .val (args "endpoint_id"), args "node_type"⟩
  f.postInit
  pure (.fetch f)

/-- `FetchReply.from_dict`: each item of `data["bundles"]` through `BundleData.from_dict`,
then `cls(**data)`. -/
def FetchReplyObj.fromDict (E : EidCtor) (kvs : List (Value × Value)) :
    Except PyError MessageObj := do
  let items ← (← Value.dictGet kvs "bundles").iter
  let bundles ← items.mapM (BundleObj.fromDict E)
  let args ← bindKwargs (messageParams ["type", "success", "error", "bundles"]) kvs
  let f : FetchReplyObj := ⟨args "type", args "success", args "error", bundles⟩
  f.postInit
  pure (.fetchReply f)

/-- `BundleCreate.from_dict`: `data["bundle"]` through `BundleData.from_dict`, then
`cls(**data)`. -/
def BundleCreateObj.fromDict (E : EidCtor) (kvs : List (Value × Value)) :
    Except PyError MessageObj := do
  let bundle ← BundleObj.fromDict E (← Value.dictGet kvs "bundle")
  let args ← bindKwargs (messageParams ["type", "bundle"]) kvs
  let c : BundleCreateObj := ⟨args "type", bundle⟩
  c.postInit
  pure (.create c)

/-- `MESSAGE_CONSTRUCTORS`: one `from_dict` for every `MessageType`. -/
def messageConstructors (E : EidCtor) : MessageType → List (Value × Value) →
    Except PyError MessageObj
  | .reply => ReplyObj.fromDict
  | .register => RegisterObj.fromDict
  | .fetch => FetchObj.fromDict
  | .fetchReply => FetchReplyObj.fromDict E
  | .create => BundleCreateObj.fromDict E

/-- `deserialize`, given what `unpackb` decoded: `data_dict["type"]` must be a known tag,
whose constructor builds the message. -/
def deserialize (E : EidCtor) : Value → Except PyError MessageObj
  | .map kvs => do
    let tag ← Value.dictGet kvs "type"
    unless tag.hashable do throw (.typeError (.unhashable tag))
    match MessageType.ofValue? tag with
    | none => throw (.invalidMessage (.unknownType tag))
    | some t => messageConstructors E t kvs
  | v => throw (.typeError (.notSubscriptable v))

/-! ### `serialize` -/

/-- `serialize`: `packb(message.dictify())`. -/
def serialize (m : MessageObj) : Except PyError Value :=
  packb (.map (Value.strDict m.dictify))

end RecDtn
