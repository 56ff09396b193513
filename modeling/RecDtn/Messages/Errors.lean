import RecDtn.Messages.Decode

/-!
# What `deserialize` raises

`deserialize` raises only the exceptions `PyError.isDecodeError` lists
(`deserialize_raises_decode_errors`): besides the checks' `InvalidMessageError` and
`InvalidBundleError`, a `KeyError` for a key the code subscripts without testing for it, a
`TypeError` for its cause and what `EID(...)` raises, since nothing catches them. An unknown
tag raises `InvalidMessageError` exactly for a dict whose `type` entry is hashable; on the
dict of a `Reply`, `Register` or `Fetch`, the error is the one its `__post_init__` raises.

Each step of decoding gets one `RaisesOnly` lemma, parametric in the predicate, and the
results for `deserialize` are these lemmas at two predicates.
-/

namespace RecDtn

/-! ### The exceptions of each step -/

/-- The keys decoding subscripts without testing for them: `data_dict["type"]`,
`data["bundles"]`, `data["bundle"]`, `data["source"]` and `data["destination"]`. -/
def subscriptedKeys : List String := ["type", "bundles", "bundle", "source", "destination"]

/-- The exceptions decoding a message may raise: `InvalidMessageError` and
`InvalidBundleError` from the checks, `KeyError` for a key it subscripts, a `TypeError`
whose cause holds (`TypeErrorKind.caused`), and what `EID(...)` raises. -/
def PyError.isDecodeError : PyError → Bool
  | .invalidMessage _ | .invalidBundle _ | .eidError _ => true
  | .typeError k => k.caused
  | .keyError k => subscriptedKeys.any fun key => k == .str key
  | .integerOutOfRange _ | .tooLarge _ | .recursionLimitExceeded | .io => false

section Raises

variable {p : PyError → Prop} (hm : ∀ ie, (∀ tag, ie ≠ .unknownType tag) → p (.invalidMessage ie))
  (hb : ∀ e, p (.invalidBundle e)) (ht : ∀ k, k.caused → p (.typeError k))
  (hk : ∀ key ∈ ["bundles", "bundle", "source", "destination"], p (.keyError (.str key)))
  (he : ∀ v, p (.eidError v))

include hb ht in
/-- `__post_init__` of a bundle raises `InvalidBundleError`, or `TypeError` where a field it
compares is not a number. -/
theorem BundleObj.raisesOnly_postInit (b : BundleObj) : RaisesOnly p b.postInit := by
  refine .bind ?_ fun _ => .bind ?_ fun _ => .bind ?_ fun _ => ?_
  all_goals simp only [generalChecks, discoveryChecks, jobChecks, namedDataChecks, pure_bind,
    throw_eq_error, error_bind]
  all_goals repeat' first
    | refine .ite (fun _ => ?_) fun _ => ?_
    | exact .error (hb _)
    | exact .pure _
    | refine .bind (Value.raisesOnly_between ht) fun _ => ?_
    | refine .bind (Value.raisesOnly_outside ht) fun _ => ?_

include hb ht hk he in
/-- `BundleData.from_dict` raises the checks' exceptions, `KeyError` for a missing `source`
or `destination`, `TypeError`, and what `EID(...)` raises. -/
theorem BundleObj.raisesOnly_fromDict (E : EidCtor) (v : Value) :
    RaisesOnly p (BundleObj.fromDict E v) := by
  cases v
  case map kvs =>
    refine .bind (Value.raisesOnly_dictGet fun _ => hk "source" (by decide)) fun _ =>
      .bind (E.raisesOnly_apply (he _)) fun _ => ?_
    refine .bind (Value.raisesOnly_dictGet fun _ => hk "destination" (by decide)) fun _ =>
      .bind (E.raisesOnly_apply (he _)) fun _ => ?_
    refine .ite (fun hh => .bind (Value.raisesOnly_dictGet fun hn => absurd hh hn) fun _ =>
      .bind (.map _ (E.raisesOnly_apply (he _))) fun _ => ?_) fun _ => .bind (.pure _) fun _ => ?_
    all_goals
      refine .bind (raisesOnly_bindKwargs ht _) fun _ => ?_
      dsimp only
      exact .bind (BundleObj.raisesOnly_postInit hb ht _) fun _ => .pure _
  all_goals exact ht _ rfl

include hm

/-- A message's `__post_init__` raises `InvalidMessageError`, never for an unknown tag. -/
theorem MessageObj.raisesOnly_postInit (m : MessageObj) : RaisesOnly p m.postInit := by
  cases m
  all_goals
    simp only [MessageObj.postInit, ReplyObj.postInit, RegisterObj.postInit, FetchObj.postInit,
      FetchReplyObj.postInit, BundleCreateObj.postInit, checkType, pure_bind, throw_eq_error,
      error_bind]
    repeat' first
      | refine .ite (fun _ => ?_) fun _ => ?_
      | exact .error (hm _ fun _ => nofun)
      | exact .pure _
      | refine .bind ?_ fun _ => ?_

include hb ht hk he

/-- Every `from_dict` of `MESSAGE_CONSTRUCTORS` raises the checks' exceptions, `KeyError` for
a key it subscripts, `TypeError`, and what `EID(...)` raises; never an unknown tag. -/
theorem raisesOnly_messageConstructors (E : EidCtor) (t : MessageType)
    (kvs : List (Value × Value)) : RaisesOnly p (messageConstructors E t kvs) := by
  have hpost := MessageObj.raisesOnly_postInit hm
  have hfd := BundleObj.raisesOnly_fromDict hb ht hk he E
  cases t
  · refine .bind (raisesOnly_bindKwargs ht _) fun _ => ?_
    dsimp only
    exact .bind (hpost (.reply _)) fun _ => .pure _
  · refine .bind (raisesOnly_bindKwargs ht _) fun _ => ?_
    dsimp only
    exact .bind (hpost (.register _)) fun _ => .pure _
  · refine .bind (raisesOnly_bindKwargs ht _) fun _ => ?_
    dsimp only
    exact .bind (hpost (.fetch _)) fun _ => .pure _
  · refine .bind (Value.raisesOnly_dictGet fun _ => hk "bundles" (by decide)) fun _ =>
      .bind (Value.raisesOnly_iter ht) fun _ => .bind (.mapM fun v _ => hfd v) fun _ =>
      .bind (raisesOnly_bindKwargs ht _) fun _ => ?_
    dsimp only
    exact .bind (hpost (.fetchReply _)) fun _ => .pure _
  · refine .bind (Value.raisesOnly_dictGet fun _ => hk "bundle" (by decide)) fun _ =>
      .bind (hfd _) fun _ => .bind (raisesOnly_bindKwargs ht _) fun _ => ?_
    dsimp only
    exact .bind (hpost (.create _)) fun _ => .pure _

/-- `deserialize` raises what the constructors raise, `KeyError` for a missing `type`,
`TypeError`, and `InvalidMessageError` for an unknown tag. -/
theorem raisesOnly_deserialize (hu : ∀ tag, p (.invalidMessage (.unknownType tag)))
    (htype : p (.keyError (.str "type"))) (E : EidCtor) (v : Value) :
    RaisesOnly p (deserialize E v) := by
  cases v
  case map kvs =>
    refine .bind (Value.raisesOnly_dictGet fun _ => htype) fun tag => ?_
    dsimp only
    refine .ite (fun _ => .bind (.pure _) fun _ => ?_) fun hh =>
      .bind (.error (ht _ (by simpa [TypeErrorKind.caused] using hh))) fun _ => ?_
    all_goals
      split
      · exact .error (hu _)
      · exact raisesOnly_messageConstructors hm hb ht hk he E _ kvs
  all_goals exact ht _ rfl

end Raises

/-! ### Where an exception of `deserialize` comes from -/

/-- An exception of `deserialize` is raised by the constructor of a known tag, or by the
dispatch: an unknown tag, a missing `type` key, or a `TypeError`. -/
theorem deserialize_eq_error {E : EidCtor} {v : Value} {e : PyError}
    (h : deserialize E v = .error e) :
    (∃ kvs tag t, v = .map kvs ∧ Value.dictLookup kvs "type" = some tag ∧
      MessageType.ofValue? tag = some t ∧ messageConstructors E t kvs = .error e) ∨
    (∃ kvs tag, v = .map kvs ∧ Value.dictLookup kvs "type" = some tag ∧ tag.hashable ∧
      MessageType.ofValue? tag = none ∧ e = .invalidMessage (.unknownType tag)) ∨
    e = .keyError (.str "type") ∨ ∃ k, e = .typeError k := by
  cases v
  case map kvs =>
    cases hl : Value.dictLookup kvs "type" with
    | none => rw [deserialize_of_lookup_none hl] at h; cases h; exact .inr (.inr (.inl rfl))
    | some tag =>
      rw [deserialize_of_lookup _ _ hl] at h
      cases hh : tag.hashable
      · rw [if_neg (by simp [hh])] at h; cases h; exact .inr (.inr (.inr ⟨_, rfl⟩))
      rw [if_pos hh] at h
      cases ho : MessageType.ofValue? tag with
      | none => rw [ho] at h; cases h; exact .inr (.inl ⟨kvs, tag, rfl, hl, hh, ho, rfl⟩)
      | some t => rw [ho] at h; exact .inl ⟨kvs, tag, t, rfl, hl, ho, h⟩
  all_goals cases h; exact .inr (.inr (.inr ⟨_, rfl⟩))

/-! ### The tag check -/

/-- A message whose tag equals its class's passes the tag check of its `__post_init__`, so
what that raises is never the tag check's error. -/
theorem MessageObj.postInit_ne_needsType {m : MessageObj} (h : m.type.eqInt m.cls.value)
    (x : Value) : m.postInit ≠ .error (.invalidMessage (.needsType x)) := by
  have hc : checkType m.cls m.type = .ok () := checkType_eq_ok.mpr h
  cases m <;> simp only [MessageObj.cls, MessageObj.type] at hc <;>
    simp only [MessageObj.postInit, ReplyObj.postInit, RegisterObj.postInit, FetchObj.postInit,
      FetchReplyObj.postInit, BundleCreateObj.postInit, hc, ok_bind] <;>
    first | (split_ifs <;> simp) | simp

section TagCheck

variable {kvs : List (Value × Value)} {tag x : Value} {t : MessageType}
  (hl : Value.dictLookup kvs "type" = some tag) (ht : tag.eqInt t.value)
include hl ht

/-- `cls(**data)` followed by the `__post_init__` of the message it builds, on a dict whose
tag equals the class's, never raises the tag check's error. -/
theorem raisesOnly_bindKwargs_postInit {params : List (String × Option Value)}
    (build : (String → Value) → MessageObj)
    (hbuild : ∀ args, (build args).type = args "type" ∧ (build args).cls = t) :
    RaisesOnly (· ≠ .invalidMessage (.needsType x))
      (bindKwargs params kvs >>= fun args => do (build args).postInit; pure (build args)) :=
  .bind_of_ok (raisesOnly_bindKwargs (fun _ _ => nofun) _) fun args h =>
    .bind (RaisesOnly.iff.mpr fun _ he hx => MessageObj.postInit_ne_needsType
      (by rw [(hbuild args).1, (hbuild args).2, bindKwargs_apply_of_lookup h hl]; exact ht) x
      (hx ▸ he)) fun _ => .pure _

/-- A constructor of `MESSAGE_CONSTRUCTORS` on a dict whose tag equals its class's never
raises the tag check's error. -/
theorem raisesOnly_messageConstructors_of_tag (E : EidCtor) :
    RaisesOnly (· ≠ .invalidMessage (.needsType x)) (messageConstructors E t kvs) := by
  have hfd := BundleObj.raisesOnly_fromDict (p := (· ≠ .invalidMessage (.needsType x)))
    (fun _ => nofun) (fun _ _ => nofun) (fun _ _ => nofun) (fun _ => nofun) E
  cases t
  · exact raisesOnly_bindKwargs_postInit hl ht
      (fun args => .reply ⟨args "type", args "success", args "error"⟩) fun _ => ⟨rfl, rfl⟩
  · exact raisesOnly_bindKwargs_postInit hl ht
      (fun args => .register ⟨args "type", .val (args "endpoint_id")⟩) fun _ => ⟨rfl, rfl⟩
  · exact raisesOnly_bindKwargs_postInit hl ht
      (fun args => .fetch ⟨args "type", .val (args "endpoint_id"), args "node_type"⟩)
      fun _ => ⟨rfl, rfl⟩
  · refine .bind (Value.raisesOnly_dictGet fun _ => nofun) fun _ =>
      .bind (Value.raisesOnly_iter fun _ _ => nofun) fun _ =>
      .bind (.mapM fun v _ => hfd v) fun bundles => ?_
    exact raisesOnly_bindKwargs_postInit hl ht
      (fun args => .fetchReply ⟨args "type", args "success", args "error", bundles⟩)
      fun _ => ⟨rfl, rfl⟩
  · refine .bind (Value.raisesOnly_dictGet fun _ => nofun) fun _ =>
      .bind (hfd _) fun bundle => ?_
    exact raisesOnly_bindKwargs_postInit hl ht
      (fun args => .create ⟨args "type", bundle⟩) fun _ => ⟨rfl, rfl⟩

end TagCheck

/-- `deserialize` never raises the error of a class's tag check, whose text names
`MessageType.REPLY` whatever the class: it picks the class by the tag that class checks. -/
theorem deserialize_ne_needsType (E : EidCtor) (v x : Value) :
    deserialize E v ≠ .error (.invalidMessage (.needsType x)) := fun h => by
  rcases deserialize_eq_error h with ⟨_, _, _, -, hl, ho, h⟩ | ⟨_, _, _, _, _, _, h⟩ | h |
    ⟨_, h⟩
  · exact RaisesOnly.iff.mp (raisesOnly_messageConstructors_of_tag hl
      (MessageType.eqInt_of_ofValue? ho) E) _ h rfl
  all_goals cases h

/-! ### Unknown tags -/

/-- `deserialize` raises `InvalidMessageError` for an unknown tag exactly on a dict whose
`type` entry is hashable and equals no `MessageType`. -/
theorem deserialize_eq_unknownType {E : EidCtor} {v tag : Value} :
    deserialize E v = .error (.invalidMessage (.unknownType tag)) ↔
      ∃ kvs, v = .map kvs ∧ Value.dictLookup kvs "type" = some tag ∧ tag.hashable ∧
        ∀ t : MessageType, tag.eqInt t.value = false := by
  constructor
  · intro h
    rcases deserialize_eq_error h with ⟨kvs, -, t, -, -, -, h⟩ | ⟨kvs, _, rfl, hl, hh, ho, h⟩ |
      h | ⟨_, h⟩
    · have hr := raisesOnly_messageConstructors
        (p := fun e => ∀ tag, e ≠ .invalidMessage (.unknownType tag))
        (fun ie hie tag h => hie tag (PyError.invalidMessage.inj h)) (fun _ _ => nofun)
        (fun _ _ _ => nofun) (fun _ _ _ => nofun) (fun _ _ => nofun) E t kvs
      exact absurd rfl (RaisesOnly.iff.mp hr _ h tag)
    · cases h
      exact ⟨kvs, rfl, hl, hh, MessageType.ofValue?_eq_none.mp ho⟩
    all_goals cases h
  · rintro ⟨kvs, rfl, hl, hh, hno⟩
    rw [deserialize_of_lookup _ _ hl, if_pos hh, MessageType.ofValue?_eq_none.mpr hno]

/-! ### Flat messages -/

/-- A `Reply`, `Register` or `Fetch` as `from_dict` builds it from a dict of the class's
fields: its tag equals the class's, and its endpoint is the decoded value. -/
def MessageObj.DecodedFlat : MessageObj → Prop
  | .reply r => r.type.eqInt MessageType.reply.value
  | .register r => r.type.eqInt MessageType.register.value ∧ ∃ v, r.endpointId = .val v
  | .fetch f => f.type.eqInt MessageType.fetch.value ∧ ∃ v, f.endpointId = .val v
  | .fetchReply _ | .create _ => False

/-- `deserialize` on the dict of a `Reply`, `Register` or `Fetch` with its class's tag builds
it and runs its checks. -/
theorem deserialize_dictify_of_decodedFlat {E : EidCtor} {m : MessageObj} (hm : m.DecodedFlat) :
    deserialize E (.map (Value.strDict m.dictify)) = (do m.postInit; pure m) := by
  rcases m with r | r | f | f | c
  · rw [deserialize_of_lookup (Value.strDict (MessageObj.reply r).dictify) r.type rfl,
      if_pos (Value.hashable_of_eqInt hm),
      MessageType.ofValue?_of_eqInt hm]
    exact ReplyObj.fromDict_dictify r
  · obtain ⟨ht, v, hv⟩ := hm
    rw [deserialize_of_lookup (Value.strDict (MessageObj.register r).dictify) r.type rfl,
      if_pos (Value.hashable_of_eqInt ht), MessageType.ofValue?_of_eqInt ht]
    obtain ⟨type, endpointId⟩ := r
    subst hv
    exact RegisterObj.fromDict_dictify _
  · obtain ⟨ht, v, hv⟩ := hm
    rw [deserialize_of_lookup (Value.strDict (MessageObj.fetch f).dictify) f.type rfl,
      if_pos (Value.hashable_of_eqInt ht), MessageType.ofValue?_of_eqInt ht]
    obtain ⟨type, endpointId, nodeType⟩ := f
    subst hv
    exact FetchObj.fromDict_dictify _
  all_goals exact hm.elim

/-- What `deserialize` raises: only the exceptions `isDecodeError` lists, and never the
`InvalidMessageError` of a class's tag check; `InvalidMessageError` for an unknown tag exactly
on a dict whose hashable `type` entry equals no `MessageType`; and, on the dict of a `Reply`,
`Register` or `Fetch` with its class's tag, the message when its `__post_init__` passes and
that check's `InvalidMessageError` when it does not. -/
theorem deserialize_raises_decode_errors (E : EidCtor) :
    (∀ v e, deserialize E v = .error e → e.isDecodeError) ∧
    (∀ v x, deserialize E v ≠ .error (.invalidMessage (.needsType x))) ∧
    (∀ v tag, deserialize E v = .error (.invalidMessage (.unknownType tag)) ↔
      ∃ kvs, v = .map kvs ∧ Value.dictLookup kvs "type" = some tag ∧ tag.hashable ∧
        ∀ t : MessageType, tag.eqInt t.value = false) ∧
    ∀ m : MessageObj, m.DecodedFlat →
      deserialize E (.map (Value.strDict m.dictify)) = (do m.postInit; pure m) ∧
      ∀ e, m.postInit = .error e → ∃ ie, e = .invalidMessage ie := by
  refine ⟨fun v e h => ?_, deserialize_ne_needsType E, fun _ _ => deserialize_eq_unknownType,
    fun m hm => ⟨deserialize_dictify_of_decodedFlat hm, RaisesOnly.iff.mp ?_⟩⟩
  · exact RaisesOnly.iff.mp (raisesOnly_deserialize (p := fun e => e.isDecodeError = true)
      (fun _ _ => rfl) (fun _ => rfl) (fun _ hk => hk) (by decide) (fun _ => rfl) (fun _ => rfl)
      rfl E v) e h
  · exact MessageObj.raisesOnly_postInit (fun ie _ => ⟨ie, rfl⟩) m

theorem deserialize_raises_decode_errors_missing_field :
    deserialize .verbatim (.map [(.str "type", .int 1)]) =
      .error (.typeError (.missingArguments ["success", "error"])) ∧
    (PyError.typeError (.missingArguments ["success", "error"])).isDecodeError :=
  have h : deserialize .verbatim (.map [(.str "type", .int 1)]) =
      .error (.typeError (.missingArguments ["success", "error"])) := rfl
  ⟨h, (deserialize_raises_decode_errors .verbatim).1 _ _ h⟩

/-- `deserialize` raises `KeyError` for a dict without `type`, and `TypeError` for an
unhashable tag, a missing field, an unexpected field, a key `self`, an object that is not a
dict, and a nested bundle that is not a dict. -/
theorem deserialize_raises_key_and_type_errors :
    deserialize .verbatim (.map []) = .error (.keyError (.str "type")) ∧
    deserialize .verbatim (.map [(.str "type", .arr [])]) =
      .error (.typeError (.unhashable (.arr []))) ∧
    deserialize .verbatim (.map [(.str "type", .int 1)]) =
      .error (.typeError (.missingArguments ["success", "error"])) ∧
    deserialize .verbatim (.map [(.str "type", .int 1), (.str "success", .bool true),
        (.str "error", .str ""), (.str "extra", .nil)]) =
      .error (.typeError (.unexpectedKeyword "extra")) ∧
    deserialize .verbatim (.map [(.str "type", .int 1), (.str "self", .nil)]) =
      .error (.typeError (.multipleValues "self")) ∧
    deserialize .verbatim (.int 1) = .error (.typeError (.notSubscriptable (.int 1))) ∧
    deserialize .verbatim (.map [(.str "type", .int 5), (.str "bundle", .int 1)]) =
      .error (.typeError (.notSubscriptable (.int 1))) :=
  ⟨rfl, rfl, rfl, rfl, rfl, rfl, rfl⟩

end RecDtn
