import RecDtn.Messages.Message

/-!
# `deserialize` after `serialize`

`serialize` hands `dictify`'s dict to `packb`, and `deserialize` dispatches on its `type`
entry to the class's `from_dict`. Every `dictify` of a message writes all its fields, so
each `from_dict` rebinds them; only the nested bundles lose what `BundleData.dictify` drops
(`BundleData.fromDict_dictify`).

The main result, `deserialize_serialize`, is the round trip of every message the code
builds whose nested bundles restore and whose dict fits `msgpack`'s limits. Its strings are
ones UTF-8 can encode: a `str` with a lone surrogate, on which `packb` raises
`UnicodeEncodeError`, is no `Value`.
-/

namespace RecDtn

/-! ### `from_dict` after `dictify`, by class -/

theorem ReplyObj.fromDict_dictify (r : ReplyObj) :
    ReplyObj.fromDict (Value.strDict (MessageObj.reply r).dictify) =
      (do r.postInit; pure (.reply r)) := by
  rw [ReplyObj.fromDict, bindKwargs_strDict (by simp [MessageObj.dictify, messageParams])
    (by simp [MessageObj.dictify, messageParams])]
  rfl

/-- `Register.from_dict` leaves the endpoint as the decoded string. -/
theorem RegisterObj.fromDict_dictify (r : RegisterObj) :
    RegisterObj.fromDict (Value.strDict (MessageObj.register r).dictify) =
      (let r' : RegisterObj := ⟨r.type, .val r.endpointId.toValue⟩
       do r'.postInit; pure (.register r')) := by
  rw [RegisterObj.fromDict, bindKwargs_strDict (by simp [MessageObj.dictify, messageParams])
    (by simp [MessageObj.dictify, messageParams])]
  rfl

/-- `Fetch.from_dict` leaves the endpoint as the decoded string. -/
theorem FetchObj.fromDict_dictify (f : FetchObj) :
    FetchObj.fromDict (Value.strDict (MessageObj.fetch f).dictify) =
      (let f' : FetchObj := ⟨f.type, .val f.endpointId.toValue, f.nodeType⟩
       do f'.postInit; pure (.fetch f')) := by
  rw [FetchObj.fromDict, bindKwargs_strDict (by simp [MessageObj.dictify, messageParams])
    (by simp [MessageObj.dictify, messageParams])]
  rfl

theorem FetchReplyObj.fromDict_dictify (E : EidCtor) (f : FetchReplyObj) :
    FetchReplyObj.fromDict E (Value.strDict (MessageObj.fetchReply f).dictify) =
      (do
        let bundles ← (f.bundles.map fun b => .map (Value.strDict b.dictify)).mapM
          (BundleObj.fromDict E)
        let f' : FetchReplyObj := { f with bundles }
        f'.postInit
        pure (.fetchReply f')) := by
  have hget : Value.dictGet (Value.strDict (MessageObj.fetchReply f).dictify) "bundles" =
      .ok (.arr (f.bundles.map fun b => .map (Value.strDict b.dictify))) := by
    simp [Value.dictGet, MessageObj.dictify, List.lookup_cons]
  rw [FetchReplyObj.fromDict, hget, bindKwargs_strDict
    (by simp [MessageObj.dictify, messageParams]) (by simp [MessageObj.dictify, messageParams])]
  rfl

theorem BundleCreateObj.fromDict_dictify (E : EidCtor) (c : BundleCreateObj) :
    BundleCreateObj.fromDict E (Value.strDict (MessageObj.create c).dictify) =
      (do
        let bundle ← BundleObj.fromDict E (.map (Value.strDict c.bundle.dictify))
        let c' : BundleCreateObj := { c with bundle }
        c'.postInit
        pure (.create c')) := by
  have hget : Value.dictGet (Value.strDict (MessageObj.create c).dictify) "bundle" =
      .ok (.map (Value.strDict c.bundle.dictify)) := by
    simp [Value.dictGet, MessageObj.dictify, List.lookup_cons]
  rw [BundleCreateObj.fromDict, hget, bindKwargs_strDict
    (by simp [MessageObj.dictify, messageParams]) (by simp [MessageObj.dictify, messageParams])]
  rfl

/-- `deserialize` on a dict whose `type` entry is a tag's value: that class's `from_dict`. -/
theorem deserialize_of_type (E : EidCtor) (t : MessageType) {kvs : List (Value × Value)}
    (ht : Value.dictLookup kvs "type" = some (.int t.value)) :
    deserialize E (.map kvs) = messageConstructors E t kvs := by
  simp [deserialize, Value.dictGet, ht, Value.hashable]

/-! ### The round trip -/

theorem BundleFields.depth_dictify (b : BundleFields) :
    ∀ p ∈ b.toObj.dictify, p.2.depth ≤ 1 := by
  have hsub : ((b.submitter.map (Value.str ·.text)).getD .nil).depth ≤ 1 := by
    cases b.submitter <;> exact Nat.zero_le _
  have hnd : (b.namedData.elim .nil NamedData.toValue).depth ≤ 1 := by
    rcases b.namedData with _ | _ | ss
    · exact Nat.zero_le _
    · exact Nat.zero_le _
    · exact Value.depthList_le fun v hv => by
        obtain ⟨s, -, rfl⟩ := List.mem_map.mp hv; exact Nat.zero_le _
  intro p hp
  rcases BundleObj.mem_dictify hp with rfl | ⟨f, hf, rfl⟩
  · exact Nat.zero_le _
  · simp only [BundleObj.dictFields, List.mem_cons, List.mem_nil_iff, or_false] at hf
    rcases hf with rfl | rfl | rfl | rfl | rfl | rfl | rfl | rfl | rfl
    all_goals first | exact Nat.zero_le _ | exact hsub | exact hnd

theorem MessageFields.depth_dictify (m : MessageFields) :
    (Value.map (Value.strDict m.toObj.dictify)).depth ≤ 4 := by
  have hb (b : BundleData) : (Value.map (Value.strDict b.toObj.dictify)).depth ≤ 2 :=
    Value.depthMap_strDict_le b.depth_dictify
  have hbs (bs : List BundleData) :
      (Value.arr ((bs.map BundleData.toObj).map fun b => .map (Value.strDict b.dictify))).depth ≤ 3 :=
    Value.depthList_le fun v hv => by
      obtain ⟨b, hb', rfl⟩ := List.mem_map.mp hv
      obtain ⟨b, -, rfl⟩ := List.mem_map.mp hb'
      exact hb b
  refine Value.depthMap_strDict_le fun p hp => ?_
  cases m <;> simp only [toObj, MessageObj.dictify, List.mem_cons, List.mem_nil_iff, or_false] at hp
  all_goals rcases hp with rfl | rfl | rfl | rfl
  all_goals first | exact Nat.zero_le _ | exact hbs _ | exact (hb _).trans (by decide)

theorem BundleFields.pyEq_toObj (b : BundleFields) : b.toObj.pyEq b.toObj = true := by
  have hnd : (b.namedData.elim Value.nil NamedData.toValue).pyEq
      (b.namedData.elim .nil NamedData.toValue) = true := by
    rcases b.namedData with _ | _ | ss <;> simp [NamedData.toValue]
  simp [BundleObj.pyEq, toObj, hnd]

theorem BundleData.mapM_fromDict_dictify (E : EidCtor) (bs : List BundleData)
    (hr : ∀ b ∈ bs, b.Restorable) :
    ((bs.map BundleData.toObj).map fun b => Value.map (Value.strDict b.dictify)).mapM
      (BundleObj.fromDict E) = .ok (bs.map BundleData.toObj) := by
  induction bs with
  | nil => rfl
  | cons b bs ih =>
    simp only [List.map_cons, List.mapM_cons, BundleData.fromDict_dictify E b (hr b (.head _)),
      ih fun b hb => hr b (.tail _ hb), ok_bind, pure_eq_ok]

theorem BundleData.all_zip_pyEq (bs : List BundleData) :
    ((bs.map BundleData.toObj).zip (bs.map BundleData.toObj)).all (fun p => p.1.pyEq p.2) := by
  induction bs with
  | nil => rfl
  | cons b bs ih => simpa [List.zip_cons_cons, toObj, BundleFields.pyEq_toObj] using ih

theorem deserialize_serialize (E : EidCtor) (m : Message) (hr : m.fields.Restorable)
    (hfit : (Value.map (Value.strDict m.toObj.dictify)).fits) :
    ∃ m', (serialize m.toObj >>= deserialize E) = .ok m' ∧ m'.pyEq m.toObj := by
  have hser : serialize m.toObj = .ok (.map (Value.strDict m.toObj.dictify)) :=
    packb_eq_ok_iff.mpr ⟨rfl, hfit, (m.fields.depth_dictify).trans (by decide)⟩
  rw [hser, ok_bind]
  obtain ⟨fields, valid⟩ := m
  have hv := (MessageFields.postInit_toObj_eq_ok fields).mp valid
  simp only [Message.toObj] at valid ⊢
  cases fields with
  | reply t s e =>
    obtain ⟨rfl, -⟩ := hv
    rw [deserialize_of_type E .reply (by simp [MessageFields.toObj, MessageObj.dictify])]
    simp only [messageConstructors, MessageFields.toObj, ReplyObj.fromDict_dictify] at valid ⊢
    simp only [MessageObj.postInit] at valid
    exact ⟨_, by rw [valid]; rfl, by simp [MessageObj.pyEq]⟩
  | register t e =>
    obtain ⟨rfl, he⟩ := hv
    rw [deserialize_of_type E .register (by simp [MessageFields.toObj, MessageObj.dictify])]
    simp only [messageConstructors, MessageFields.toObj, RegisterObj.fromDict_dictify] at valid ⊢
    have : RegisterObj.postInit ⟨.int MessageType.register.value, .val (.str e.text)⟩ = .ok () := by
      rw [RegisterObj.postInit, seq_eq_ok, checkType_eq_ok, unless_eq_ok]
      exact ⟨by simp, by simpa [Obj.truthy] using EID.text_ne_empty_of_truthy he⟩
    exact ⟨_, by simp only [Obj.toValue, this]; rfl, by simp [MessageObj.pyEq, Obj.pyEq]⟩
  | fetch t e n =>
    obtain ⟨rfl, he⟩ := hv
    rw [deserialize_of_type E .fetch (by simp [MessageFields.toObj, MessageObj.dictify])]
    simp only [messageConstructors, MessageFields.toObj, FetchObj.fromDict_dictify] at valid ⊢
    have : FetchObj.postInit ⟨.int MessageType.fetch.value, .val (.str e.text), .int n.value⟩ =
        .ok () := by
      rw [FetchObj.postInit, seq_eq_ok, checkType_eq_ok, unless_eq_ok]
      exact ⟨by simp, by simpa [Obj.truthy] using EID.text_ne_empty_of_truthy he⟩
    exact ⟨_, by simp only [Obj.toValue, this]; rfl, by simp [MessageObj.pyEq, Obj.pyEq]⟩
  | fetchReply t s e bs =>
    obtain rfl := hv
    rw [deserialize_of_type E .fetchReply (by simp [MessageFields.toObj, MessageObj.dictify])]
    simp only [messageConstructors, MessageFields.toObj, FetchReplyObj.fromDict_dictify] at valid ⊢
    simp only [MessageObj.postInit] at valid
    refine ⟨_, by rw [BundleData.mapM_fromDict_dictify E bs hr]; simp only [ok_bind, valid]; rfl, ?_⟩
    simp [MessageObj.pyEq, BundleData.all_zip_pyEq]
  | create t b =>
    obtain rfl := hv
    rw [deserialize_of_type E .create (by simp [MessageFields.toObj, MessageObj.dictify])]
    simp only [messageConstructors, MessageFields.toObj, BundleCreateObj.fromDict_dictify] at valid ⊢
    simp only [MessageObj.postInit] at valid
    refine ⟨_, by rw [BundleData.fromDict_dictify E b hr]; simp only [ok_bind, valid]; rfl, ?_⟩
    simp [MessageObj.pyEq, BundleData.toObj, BundleFields.pyEq_toObj]

theorem deserialize_serialize_named_put :
    (MessageFields.create .create
        ⟨{ type := .ndataPut, source := ⟨"dtn://client/"⟩, destination := ⟨"dtn://store/"⟩,
           namedData := some (.name "results") }, by decide⟩).Restorable ∧
    (Value.map (Value.strDict (MessageFields.create .create
        ⟨{ type := .ndataPut, source := ⟨"dtn://client/"⟩, destination := ⟨"dtn://store/"⟩,
           namedData := some (.name "results") }, by decide⟩).toObj.dictify)).fits ∧
    ∃ m', (serialize (MessageFields.create .create
        ⟨{ type := .ndataPut, source := ⟨"dtn://client/"⟩, destination := ⟨"dtn://store/"⟩,
           namedData := some (.name "results") }, by decide⟩).toObj >>= deserialize .verbatim) = .ok m' ∧
      m'.pyEq (MessageFields.create .create
        ⟨{ type := .ndataPut, source := ⟨"dtn://client/"⟩, destination := ⟨"dtn://store/"⟩,
           namedData := some (.name "results") }, by decide⟩).toObj :=
  have hr : (MessageFields.create .create
        ⟨{ type := .ndataPut, source := ⟨"dtn://client/"⟩, destination := ⟨"dtn://store/"⟩,
           namedData := some (.name "results") }, by decide⟩).Restorable :=
    ⟨fun _ he => (nomatch he), fun _ hnd => by cases hnd; rfl⟩
  ⟨hr, by decide, deserialize_serialize .verbatim ⟨_, by decide⟩ hr (by decide)⟩

/-- Without its two conditions the round trip fails: a `BundleCreate` whose job bundle sets
`named_data` to the empty name decodes to one whose bundle has no name, and one whose bundle
carries `2 ^ 32` bytes of payload does not serialize. -/
theorem round_trip_fails_on_empty_name_or_huge_payload :
    (∀ E : EidCtor, ∃ m', (serialize (MessageFields.create .create
        ⟨{ type := .jobSubmit, source := ⟨"dtn://client/"⟩, destination := ⟨"dtn://broker/"⟩,
           namedData := some (.name "") }, by decide⟩).toObj >>= deserialize E) = .ok m' ∧
      m'.pyEq (MessageFields.create .create
        ⟨{ type := .jobSubmit, source := ⟨"dtn://client/"⟩, destination := ⟨"dtn://broker/"⟩,
           namedData := some (.name "") }, by decide⟩).toObj = false) ∧
    ∀ w, serialize (MessageFields.create .create
        ⟨{ type := .jobSubmit, source := ⟨"dtn://client/"⟩, destination := ⟨"dtn://broker/"⟩,
           payload := List.replicate (2 ^ 32) 0 },
         (BundleFields.postInit_toObj_eq_ok _).mpr
          ⟨by decide, by decide, by decide, by decide, by decide, by decide⟩⟩).toObj ≠ .ok w := by
  constructor
  · intro E
    rw [show serialize _ = _ from packb_eq_ok_iff.mpr ⟨rfl, by decide, by decide⟩, ok_bind,
      deserialize_of_type E .create (by rfl), messageConstructors, MessageFields.toObj,
      BundleCreateObj.fromDict_dictify, BundleObj.fromDict_dictify E (by rfl) (by rfl) (by rfl)]
    exact ⟨_, rfl, by decide⟩
  · intro w h
    have hfit := (packb_eq_ok_iff.mp h).2.1
    have hne : List.replicate (2 ^ 32) (0 : UInt8) ≠ [] := by
      rw [Ne, List.replicate_eq_nil_iff]; decide
    have hlen : ¬ (List.replicate (2 ^ 32) (0 : UInt8)).length ≤ itemLimit := by
      rw [List.length_replicate]; decide
    generalize List.replicate (2 ^ 32) (0 : UInt8) = bs at hne hlen hfit
    simp [MessageFields.toObj, MessageObj.dictify, BundleData.toObj, BundleObj.dictify,
      BundleObj.dictFields, BundleFields.toObj, Value.fits, Value.fitsMap, Value.strDict,
      Value.setItem, hlen, hne, EID.truthy, EID.none] at hfit

end RecDtn
