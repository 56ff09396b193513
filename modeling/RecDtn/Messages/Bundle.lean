import RecDtn.Messages.Types

/-!
# Bundles

`BundleData`, the record a bundle carries, in two forms. `BundleObj` is the object as the
running program holds it, with `__post_init__`'s checks, `dictify` and `from_dict`: a
decoded bundle's fields are whatever `msgpack` decoded. `BundleData` is a bundle built in
the code, every field of its declared type, and carries the proof that its
`__post_init__` passed: an invalid bundle cannot be built.
-/

namespace RecDtn

/-- A `BundleData` object. `source`, `destination` and `submitter` are identifiers, since
`from_dict` wraps them in `EID(...)`; the other fields hold any object. -/
structure BundleObj where
  type : Value
  source : EID
  destination : EID
  payload : Value
  success : Value
  error : Value
  nodeType : Value
  submitter : Option EID
  namedData : Value
  deriving DecidableEq, Repr

namespace Value

/-- Python's chained `lo <= v <= hi`: the second comparison runs only if the first holds. -/
def between (v : Value) (lo hi : Int) : Except PyError Bool := do
  if ← intLe lo v then v.leInt hi else pure false

/-- Python `v < lo or v > hi`: the second comparison runs only if the first fails. -/
def outside (v : Value) (lo hi : Int) : Except PyError Bool := do
  if ← v.ltInt lo then pure true else v.gtInt hi

@[simp] theorem between_int (i lo hi : Int) :
    (int i).between lo hi = .ok (decide (lo ≤ i ∧ i ≤ hi)) := by
  by_cases h : lo ≤ i <;> simp [between, h]

/-- A value equal to the integer `n` lies between two integers exactly when `n` does. -/
theorem between_of_eqInt {v : Value} {n : Int} (h : v.eqInt n) (lo hi : Int) :
    v.between lo hi = .ok (decide (lo ≤ n ∧ n ≤ hi)) := by
  rw [← between_int]
  unfold between intLe leInt
  rw [orderInt_of_eqInt h, orderInt_of_eqInt h]

@[simp] theorem outside_int (i lo hi : Int) :
    (int i).outside lo hi = .ok (decide (i < lo ∨ hi < i)) := by
  by_cases h : i < lo <;> simp [outside, h]

section Raises

variable {p : PyError → Prop} {v : Value} {lo hi : Int}
  (h : ∀ k, k.caused → p (.typeError k))
include h

/-- A chained comparison raises nothing but `TypeError`. -/
theorem raisesOnly_between : RaisesOnly p (v.between lo hi) :=
  .bind (.map _ (raisesOnly_orderInt h)) fun c => by
    split
    · exact .map _ (raisesOnly_orderInt h)
    · exact .pure _

theorem raisesOnly_outside : RaisesOnly p (v.outside lo hi) :=
  .bind (.map _ (raisesOnly_orderInt h)) fun c => by
    split
    · exact .pure _
    · exact .map _ (raisesOnly_orderInt h)

end Raises

end Value

namespace BundleObj

/-- The general validity checks of `BundleData.__post_init__`. -/
def generalChecks (b : BundleObj) : Except PyError Unit := do
  unless b.source.truthy do throw (.invalidBundle .noSender)
  unless b.destination.truthy do throw (.invalidBundle .noAddressee)
  if !b.success.truthy && !b.error.truthy then throw (.invalidBundle .unsuccessfulWithoutError)
  if b.success.truthy && b.error.truthy then throw (.invalidBundle .successfulWithError)

/-- The checks of `BundleData.__post_init__` for discovery bundles. -/
def discoveryChecks (b : BundleObj) : Except PyError Unit := do
  if ← b.type.between BundleType.brokerAnnounce.value BundleType.brokerAck.value then
    if ← b.nodeType.outside NodeType.broker.value NodeType.client.value then
      throw (.invalidBundle (.invalidNodeType b.nodeType))

/-- The checks of `BundleData.__post_init__` for job query/list bundles. -/
def jobChecks (b : BundleObj) : Except PyError Unit :=
  if b.type.eqInt BundleType.jobQuery.value || b.type.eqInt BundleType.jobList.value then
    unless b.submitter.any EID.truthy do throw (.invalidBundle .noSubmitter)
  else pure ()

/-- The checks of `BundleData.__post_init__` for named data bundles. -/
def namedDataChecks (b : BundleObj) : Except PyError Unit := do
  if ← b.type.between BundleType.ndataPut.value BundleType.ndataDel.value then
    unless b.namedData.truthy do throw (.invalidBundle .noDataName)

/-- `BundleData.__post_init__`: the construction-time checks, in the code's order. -/
def postInit (b : BundleObj) : Except PyError Unit := do
  b.generalChecks
  b.discoveryChecks
  b.jobChecks
  b.namedDataChecks

/-! ### The checks, one group at a time -/

section Checks

variable {b : BundleObj} {t n : Int}

theorem postInit_eq_ok : b.postInit = .ok () ↔ b.generalChecks = .ok () ∧
    b.discoveryChecks = .ok () ∧ b.jobChecks = .ok () ∧ b.namedDataChecks = .ok () := by
  simp only [postInit, seq_eq_ok]

theorem generalChecks_eq_ok : b.generalChecks = .ok () ↔
    b.source.truthy ∧ b.destination.truthy ∧ b.success.truthy = !b.error.truthy := by
  unfold generalChecks
  cases b.source.truthy <;> cases b.destination.truthy <;> cases b.success.truthy <;>
    cases b.error.truthy <;> simp

theorem discoveryChecks_int (ht : b.type = .int t) (hn : b.nodeType = .int n) :
    b.discoveryChecks = .ok () ↔ (1 ≤ t ∧ t ≤ 3 → 1 ≤ n ∧ n ≤ 4) := by
  simp only [discoveryChecks, ht, hn, Value.between_int, Value.outside_int, ok_bind,
    BundleType.value, NodeType.value]
  split_ifs <;> simp_all
  omega

theorem jobChecks_int (ht : b.type = .int t) :
    b.jobChecks = .ok () ↔ (t = 13 ∨ t = 14 → b.submitter.any EID.truthy) := by
  simp only [jobChecks, ht, Value.eqInt_int, BundleType.value]
  split_ifs <;> simp_all

theorem namedDataChecks_int (ht : b.type = .int t) :
    b.namedDataChecks = .ok () ↔ (21 ≤ t ∧ t ≤ 23 → b.namedData.truthy) := by
  simp only [namedDataChecks, ht, Value.between_int, ok_bind, BundleType.value]
  split_ifs <;> simp_all

end Checks

/-- The items of `self.__dict__` as `dictify` filters them: each field's name, whether its
value is truthy, and the value as `msgpack` receives it (an identifier as its text). -/
def dictFields (b : BundleObj) : List (String × Bool × Value) :=
  [("type", b.type.truthy, b.type),
   ("source", b.source.truthy, .str b.source.text),
   ("destination", b.destination.truthy, .str b.destination.text),
   ("payload", b.payload.truthy, b.payload),
   ("success", b.success.truthy, b.success),
   ("error", b.error.truthy, b.error),
   ("node_type", b.nodeType.truthy, b.nodeType),
   ("submitter", b.submitter.any EID.truthy, (b.submitter.map (.str ·.text)).getD .nil),
   ("named_data", b.namedData.truthy, b.namedData)]

/-- `BundleData.dictify`: the fields whose values are truthy, in field order, then
`success` set whatever its value. -/
def dictify (b : BundleObj) : List (String × Value) :=
  Value.setItem ((b.dictFields.filter (·.2.1)).map fun f => (f.1, f.2.2)) "success" b.success

/-- The parameters of `BundleData.__init__`, with their defaults. -/
def params : List (String × Option Value) :=
  [("type", none), ("source", none), ("destination", none),
   ("payload", some (.bin [])), ("success", some (.bool true)), ("error", some (.str "")),
   ("node_type", some (.int 0)), ("submitter", some .nil), ("named_data", some .nil)]

/-- `BundleData.from_dict`: the addresses are wrapped in `EID(...)` first, `submitter`
only when present, then `cls(**data)` binds the fields and `__post_init__` checks them. -/
def fromDict (E : EidCtor) : Value → Except PyError BundleObj
  | .map kvs => do
    let source ← E.apply (← Value.dictGet kvs "source")
    let destination ← E.apply (← Value.dictGet kvs "destination")
    let submitter ← if Value.dictHas kvs "submitter" then
        some <$> E.apply (← Value.dictGet kvs "submitter")
      else pure none
    let args ← bindKwargs params kvs
    let b : BundleObj :=
      { type := args "type", source, destination, payload := args "payload",
        success := args "success", error := args "error", nodeType := args "node_type",
        submitter, namedData := args "named_data" }
    b.postInit
    pure b
  | v => .error (.typeError (.notSubscriptable v))

/-- Python `==` on bundles, the dataclass equality: field by field. -/
def pyEq (a b : BundleObj) : Bool :=
  a.type.pyEq b.type && a.source == b.source && a.destination == b.destination &&
    a.payload.pyEq b.payload && a.success.pyEq b.success && a.error.pyEq b.error &&
    a.nodeType.pyEq b.nodeType && a.submitter == b.submitter &&
    a.namedData.pyEq b.namedData

/-! ### `from_dict` after `dictify` -/

theorem lookup_dictify (b : BundleObj) (k : String) : b.dictify.lookup k =
    if k = "success" then some b.success
    else (b.dictFields.find? fun f => f.2.1 && f.1 == k).map (·.2.2) := by
  simp only [dictify, Value.lookup_setItem, Value.lookup_filter_map]

/-- `dictify` writes only keys that name fields of `__init__`. -/
theorem keys_dictify (b : BundleObj) :
    ∀ k ∈ b.dictify.map (·.1), k ∈ params.map (·.1) ∧ k ≠ "self" := by
  intro k hk
  have hparam : k ∈ params.map (·.1) := by
    rcases Value.keys_setItem _ _ _ k hk with rfl | hk
    · decide
    · simp only [List.map_map] at hk
      exact (List.map_subset _ (List.filter_subset' _) hk : k ∈ b.dictFields.map (·.1))
  exact ⟨hparam, by rintro rfl; revert hparam; decide⟩

theorem mem_dictify {b : BundleObj} {p : String × Value} (hp : p ∈ b.dictify) :
    p = ("success", b.success) ∨ ∃ f ∈ b.dictFields, p = (f.1, f.2.2) := by
  refine (Value.mem_setItem hp).imp_right fun hp => ?_
  obtain ⟨f, hf, rfl⟩ := List.mem_map.mp hp
  exact ⟨f, List.mem_of_mem_filter hf, rfl⟩

/-- The bundle `from_dict` rebuilds from `dictify`: each field `dictify` leaves out takes its
default, and a `submitter` it leaves out is `None`. -/
def restore (b : BundleObj) : BundleObj :=
  { b with
    payload := if b.payload.truthy then b.payload else .bin []
    error := if b.error.truthy then b.error else .str ""
    nodeType := if b.nodeType.truthy then b.nodeType else .int 0
    submitter := if b.submitter.any EID.truthy then b.submitter else none
    namedData := if b.namedData.truthy then b.namedData else .nil }

/-- The arguments `cls(**data)` binds from `dictify`'s dict. -/
theorem boundArgs_dictify {b : BundleObj} (ht : b.type.truthy) :
    boundArgs params b.dictify "type" = b.type ∧
    boundArgs params b.dictify "payload" = b.restore.payload ∧
    boundArgs params b.dictify "success" = b.success ∧
    boundArgs params b.dictify "error" = b.restore.error ∧
    boundArgs params b.dictify "node_type" = b.restore.nodeType ∧
    boundArgs params b.dictify "named_data" = b.restore.namedData := by
  refine ⟨?_, ?_, ?_, ?_, ?_, ?_⟩
  · simp [boundArgs, lookup_dictify, dictFields, ht]
  · cases h : b.payload.truthy <;>
      simp [boundArgs, lookup_dictify, dictFields, params, restore, h, List.lookup_cons]
  · simp [boundArgs, lookup_dictify]
  · cases h : b.error.truthy <;>
      simp [boundArgs, lookup_dictify, dictFields, params, restore, h, List.lookup_cons]
  · cases h : b.nodeType.truthy <;>
      simp [boundArgs, lookup_dictify, dictFields, params, restore, h, List.lookup_cons]
  · cases h : b.namedData.truthy <;>
      simp [boundArgs, lookup_dictify, dictFields, params, restore, h, List.lookup_cons]

/-- `from_dict` on the decoded `dictify` of a bundle whose fields without default are
truthy rebuilds `restore b` and runs its checks. -/
theorem fromDict_dictify (E : EidCtor) {b : BundleObj} (ht : b.type.truthy)
    (hs : b.source.truthy) (hd : b.destination.truthy) :
    fromDict E (.map (Value.strDict b.dictify)) = (do b.restore.postInit; pure b.restore) := by
  have hreq : ∀ p ∈ params, p.2 = none → (b.dictify.lookup p.1).isSome := by
    simp only [params, List.forall_mem_cons, List.not_mem_nil, false_implies, implies_true,
      and_true, reduceCtorEq, forall_const]
    simp [lookup_dictify, dictFields, ht, hs, hd]
  have hargs : bindKwargs params (Value.strDict b.dictify) = .ok (boundArgs params b.dictify) :=
    bindKwargs_strDict b.keys_dictify hreq
  have hsrc : Value.dictGet (Value.strDict b.dictify) "source" = .ok (.str b.source.text) := by
    simp [Value.dictGet, lookup_dictify, dictFields, hs]
  have hdst : Value.dictGet (Value.strDict b.dictify) "destination" =
      .ok (.str b.destination.text) := by
    simp [Value.dictGet, lookup_dictify, dictFields, hd]
  simp only [fromDict, hsrc, hdst, ok_bind, EidCtor.apply_text, hargs]
  obtain ⟨h1, h2, h3, h4, h5, h6⟩ := boundArgs_dictify ht
  cases hb : b.submitter with
  | none => simp [Value.dictHas, lookup_dictify, dictFields, hb, restore, h1, h2, h3, h4, h5, h6]
  | some e =>
    cases he : e.truthy <;>
      simp [Value.dictHas, Value.dictGet, lookup_dictify, dictFields, hb, he, restore,
        h1, h2, h3, h4, h5, h6]

end BundleObj

/-! ### Bundles built in the code -/

/-- The annotation `str | list[str]` of `named_data`. -/
inductive NamedData where
  | name (s : String)
  | names (ss : List String)
  deriving DecidableEq, Repr

/-- The object a named-data value is. -/
def NamedData.toValue : NamedData → Value
  | .name s => .str s
  | .names ss => .arr (ss.map .str)

/-- Python truthiness of a named-data value: a non-empty name or list of names. -/
def NamedData.truthy : NamedData → Bool
  | .name s => s != ""
  | .names ss => !ss.isEmpty

@[simp] theorem NamedData.truthy_toValue (nd : NamedData) : nd.toValue.truthy = nd.truthy := by
  cases nd with
  | name s => by_cases h : s = "" <;> simp [toValue, truthy, h]
  | names ss => cases ss <;> rfl

/-- The fields of `BundleData` at their declared types, with the declared defaults.
`nodeType = none` is the default `0`, which is no `NodeType`. -/
structure BundleFields where
  type : BundleType
  source : EID
  destination : EID
  payload : List UInt8 := []
  success : Bool := true
  error : String := ""
  nodeType : Option NodeType := none
  submitter : Option EID := none
  namedData : Option NamedData := none
  deriving DecidableEq, Repr

/-- The object a bundle with these fields is. -/
def BundleFields.toObj (b : BundleFields) : BundleObj where
  type := .int b.type.value
  source := b.source
  destination := b.destination
  payload := .bin b.payload
  success := .bool b.success
  error := .str b.error
  nodeType := .int (b.nodeType.elim 0 NodeType.value)
  submitter := b.submitter
  namedData := b.namedData.elim .nil NamedData.toValue

namespace BundleFields

/-- What `__post_init__` demands of a bundle whose fields have their declared types. -/
structure Valid (b : BundleFields) : Prop where
  source : b.source.truthy
  destination : b.destination.truthy
  success : b.success = true ↔ b.error = ""
  nodeType : b.type.IsDiscovery → b.nodeType.isSome
  submitter : b.type.IsJobQueryOrList → b.submitter.any EID.truthy
  namedData : b.type.IsNamedData → b.namedData.any NamedData.truthy

/-- The spec of `__post_init__` on declared types. -/
theorem postInit_toObj_eq_ok (b : BundleFields) : b.toObj.postInit = .ok () ↔ b.Valid := by
  rw [BundleObj.postInit_eq_ok, BundleObj.generalChecks_eq_ok,
    BundleObj.discoveryChecks_int rfl rfl, BundleObj.jobChecks_int rfl,
    BundleObj.namedDataChecks_int rfl]
  have hsucc : (b.success = !decide (b.error ≠ "")) ↔ (b.success = true ↔ b.error = "") := by
    cases b.success <;> by_cases h : b.error = "" <;> simp [h]
  have hnode : (1 ≤ b.type.value ∧ b.type.value ≤ 3 →
      1 ≤ b.nodeType.elim 0 NodeType.value ∧ b.nodeType.elim 0 NodeType.value ≤ 4) ↔
      (b.type.IsDiscovery → b.nodeType.isSome) := by
    cases b.nodeType with
    | none => simp [BundleType.IsDiscovery, BundleType.value]
    | some v => simp [v.one_le_value, v.value_le_four]
  have hnamed : (b.namedData.elim .nil NamedData.toValue).truthy = b.namedData.any NamedData.truthy := by
    cases b.namedData <;> simp
  simp only [toObj, Value.truthy_bool, Value.truthy_str, hsucc, hnode, hnamed]
  constructor
  · rintro ⟨⟨hs, hd, hsu⟩, hn, hj, hnd⟩
    exact ⟨hs, hd, hsu, hn, hj, hnd⟩
  · rintro ⟨hs, hd, hsu, hn, hj, hnd⟩
    exact ⟨⟨hs, hd, hsu⟩, hn, hj, hnd⟩

end BundleFields

/-- A `BundleData` the code built: its `__post_init__` passed. -/
structure BundleData extends BundleFields where
  valid : toBundleFields.toObj.postInit = .ok ()

instance : DecidableEq BundleData := fun a b =>
  decidable_of_iff (a.toBundleFields = b.toBundleFields) (by
    obtain ⟨a, ha⟩ := a
    obtain ⟨b, hb⟩ := b
    simp)

/-- `BundleData(...)`: the bundle, or the error `__post_init__` raises. -/
def BundleData.new (b : BundleFields) : Except PyError BundleData :=
  match h : b.toObj.postInit with
  | .ok () => .ok ⟨b, h⟩
  | .error e => .error e

namespace BundleData

/-- The object a bundle the code built is. -/
def toObj (b : BundleData) : BundleObj := b.toBundleFields.toObj

theorem valid_fields (b : BundleData) : b.toBundleFields.Valid :=
  (BundleFields.postInit_toObj_eq_ok _).mp b.valid

/-- The constructor builds every bundle whose fields pass the checks. -/
theorem new_of_valid {b : BundleFields} (h : b.Valid) :
    BundleData.new b = .ok ⟨b, (BundleFields.postInit_toObj_eq_ok b).mpr h⟩ := by
  unfold BundleData.new
  split
  · rfl
  · simp_all [(BundleFields.postInit_toObj_eq_ok b).mpr h]

end BundleData

/-! ### Round trip of bundles built in the code -/

theorem BundleType.value_ne_zero (t : BundleType) : t.value ≠ 0 := by cases t <;> decide

namespace BundleFields

/-- Each optional field that `dictify` drops when falsy is truthy when set: a `submitter` is
a truthy identifier and a `named_data` a non-empty name or list of names. -/
structure Restorable (b : BundleFields) : Prop where
  submitter : ∀ e ∈ b.submitter, e.truthy
  namedData : ∀ nd ∈ b.namedData, nd.truthy

/-- `restore` gives back a bundle exactly when its set optional fields are truthy; `payload`,
`error` and `node_type` are falsy only at their defaults. -/
theorem restore_toObj (b : BundleFields) : b.toObj.restore = b.toObj ↔ b.Restorable := by
  have hsub : (if b.submitter.any EID.truthy then b.submitter else none) = b.submitter ↔
      ∀ e ∈ b.submitter, e.truthy := by
    cases b.submitter <;> simp
  have hnd : (if (b.namedData.elim .nil NamedData.toValue).truthy then
      b.namedData.elim .nil NamedData.toValue else .nil) = b.namedData.elim .nil NamedData.toValue ↔
      ∀ nd ∈ b.namedData, nd.truthy := by
    cases b.namedData with
    | none => simp
    | some nd =>
      have hnil : nd.toValue ≠ .nil := by cases nd <;> simp [NamedData.toValue]
      cases h : nd.truthy <;> simp [h, hnil.symm]
  have hpay : (if (Value.bin b.payload).truthy then .bin b.payload else .bin []) =
      Value.bin b.payload := by by_cases h : b.payload = [] <;> simp [h]
  have herr : (if (Value.str b.error).truthy then .str b.error else .str "") =
      Value.str b.error := by by_cases h : b.error = "" <;> simp [h]
  have hnt : (if (Value.int (b.nodeType.elim 0 NodeType.value)).truthy then
      Value.int (b.nodeType.elim 0 NodeType.value) else .int 0) =
      Value.int (b.nodeType.elim 0 NodeType.value) := by
    cases b.nodeType with
    | none => simp
    | some v => have := v.one_le_value; simp; omega
  simp only [BundleObj.restore, toObj, hpay, herr, hnt, BundleObj.mk.injEq, true_and, hsub, hnd]
  exact ⟨fun ⟨h1, h2⟩ => ⟨h1, h2⟩, fun ⟨h1, h2⟩ => ⟨h1, h2⟩⟩

end BundleFields

/-- `BundleData.from_dict` on the decoded `dictify` of a bundle the code built gives the
bundle back when its set optional fields are truthy. -/
theorem BundleData.fromDict_dictify (E : EidCtor) (b : BundleData) (hr : b.Restorable) :
    BundleObj.fromDict E (.map (Value.strDict b.toObj.dictify)) = .ok b.toObj := by
  have hv := b.valid_fields
  rw [toObj, BundleObj.fromDict_dictify E (by simp [BundleFields.toObj, b.type.value_ne_zero]) hv.source
    hv.destination, (BundleFields.restore_toObj _).mpr hr, b.valid]
  rfl

end RecDtn
