import RecDtn.Broker.Run

/-!
# A pass of the bundle loop

What one pass of `_handle_bundles` sends. From a state with the four roles as the keys of
`discovered_nodes` and a truthy `node_id`, a batch of bundles that passed `BundleData`'s
checks is handled without an exception as long as every request declares a node type equal
to a role: each bundle gets the reply it calls for (`reply`), every reply passes
`BundleData`'s checks, and `_send_and_check` is called once, with the replies in the order
of the batch, exactly when there is one.

One bundle at a time this is the broker's side of the discovery handshake
(`handleBundle_discovery`): an announcement is recorded and not answered, a request is
recorded under its role and acknowledged, an acknowledgement is ignored. Over whole runs,
every endpoint `discovered_nodes` holds is truthy (`discovered_nodes_truthy`).

The checks of a request's `node_type` are the comparisons `node_type < BROKER or
node_type > CLIENT`, which a number between the two that is not an integer passes.
`discovered_nodes[2.5]` then raises `KeyError`, the pass ends there, and nothing is sent.
-/

namespace RecDtn

namespace BundleObj

variable {b : BundleObj}

theorem source_truthy_of_postInit (h : b.postInit = .ok ()) : b.source.truthy :=
  (generalChecks_eq_ok.mp (postInit_eq_ok.mp h).1).1

theorem between_of_postInit (h : b.postInit = .ok ()) :
    ∃ c, b.type.between BundleType.brokerAnnounce.value BundleType.brokerAck.value = .ok c := by
  obtain ⟨c, hc, -⟩ := bind_eq_ok.mp (postInit_eq_ok.mp h).2.1
  exact ⟨c, hc⟩

theorem submitter_of_postInit (h : b.postInit = .ok ())
    (hq : b.type.eqInt BundleType.jobQuery.value) : b.submitter.any EID.truthy := by
  have hj := (postInit_eq_ok.mp h).2.2.1
  rwa [jobChecks, hq, Bool.true_or, if_pos rfl, unless_eq_ok] at hj

end BundleObj

namespace Broker

variable {J : Type} (jobsBytes : Finset J → List J → List UInt8) {s : Broker J} {b : BundleObj}

/-- The reply a bundle calls for: the job lists for a job query, an acknowledgement for a
request, nothing for any other bundle. -/
def reply (s : Broker J) (b : BundleObj) : Option BundleFields :=
  if b.type.eqInt BundleType.jobQuery.value then some (s.jobListFields jobsBytes b)
  else if b.type.eqInt BundleType.brokerRequest.value then some (s.ackFields b)
  else none

@[simp] theorem reply_record (b' : BundleObj) : (s.record b').reply jobsBytes = s.reply jobsBytes := by
  funext b
  simp only [reply, jobListFields, ackFields, record_nodeId, record_nodeType, record_completedJobs,
    record_queuedJobs]

/-! ### Every reply passes the checks -/

theorem jobListFields_valid (hid : s.nodeId.truthy) (hv : b.postInit = .ok ())
    (hq : b.type.eqInt BundleType.jobQuery.value) : (s.jobListFields jobsBytes b).Valid where
  source := hid
  destination := BundleObj.source_truthy_of_postInit hv
  success := iff_of_true rfl rfl
  nodeType h := absurd h (by decide : ¬ BundleType.jobList.IsDiscovery)
  submitter _ := BundleObj.submitter_of_postInit hv hq
  namedData h := absurd h (by decide : ¬ BundleType.jobList.IsNamedData)

theorem ackFields_valid (hid : s.nodeId.truthy) (hv : b.postInit = .ok ()) :
    (s.ackFields b).Valid where
  source := hid
  destination := BundleObj.source_truthy_of_postInit hv
  success := iff_of_true rfl rfl
  nodeType _ := rfl
  submitter h := absurd h (by decide : ¬ BundleType.brokerAck.IsJobQueryOrList)
  namedData h := absurd h (by decide : ¬ BundleType.brokerAck.IsNamedData)

/-! ### One bundle, one batch, one pass -/

/-- A request whose node type equals a role, so that `discovered_nodes[b.node_type]` is
defined. -/
def DeclaresRole (b : BundleObj) : Prop :=
  b.type.eqInt BundleType.brokerRequest.value → ∃ t : NodeType, b.nodeType.eqInt t.value

theorem handleBundle_snd_eq_ok (hk : s.Keyed) (hid : s.nodeId.truthy) (hv : b.postInit = .ok ())
    (hreq : DeclaresRole b) :
    ∃ r : Option BundleData, (s.handleBundle jobsBytes b).2 = .ok r ∧
      r.map (·.toBundleFields) = s.reply jobsBytes b := by
  rw [handleBundle_snd]
  by_cases hq : b.type.eqInt BundleType.jobQuery.value
  · rw [if_pos hq, handleJobQuery, BundleData.new_of_valid (jobListFields_valid jobsBytes hid hv hq)]
    exact ⟨_, rfl, by simp only [reply, if_pos hq]; rfl⟩
  obtain ⟨c, hc⟩ := BundleObj.between_of_postInit hv
  rw [if_neg hq, hc]
  cases c with
  | false =>
    have h2 : b.type.eqInt BundleType.brokerRequest.value = false := by
      by_contra h2
      rw [Value.between_of_eqInt (Bool.not_eq_false _ ▸ h2)] at hc
      cases hc
    exact ⟨none, rfl, by simp only [reply, hq, h2]; rfl⟩
  | true =>
    rw [handleDiscovery_snd]
    by_cases ha : b.type.eqInt BundleType.brokerAnnounce.value
    · have h2 : b.type.eqInt BundleType.brokerRequest.value = false := by
        rw [Value.eqInt_of_eqInt ha]; rfl
      refine ⟨none, ?_, by simp only [reply, hq, h2]; rfl⟩
      rw [if_pos ha, findKey_of_eqInt hk (Value.eqInt_int _ _ ▸ decide_eq_true rfl)]
      split_ifs <;> rfl
    · rw [if_neg ha]
      by_cases h2 : b.type.eqInt BundleType.brokerRequest.value
      · obtain ⟨t, ht⟩ := hreq h2
        rw [if_pos h2, findKey_of_eqInt hk ht, BundleData.new_of_valid (ackFields_valid hid hv)]
        exact ⟨_, rfl, by simp only [reply, hq, h2]; rfl⟩
      · exact ⟨none, by rw [if_neg h2], by simp only [reply, hq, h2]; rfl⟩

theorem handleBundle_eq_reply (hk : s.Keyed) (hid : s.nodeId.truthy) (hv : b.postInit = .ok ())
    (hreq : DeclaresRole b) :
    ∃ r : Option BundleData, s.handleBundle jobsBytes b = (s.record b, .ok r) ∧
      r.map (·.toBundleFields) = s.reply jobsBytes b := by
  obtain ⟨r, hr, hrm⟩ := handleBundle_snd_eq_ok jobsBytes hk hid hv hreq
  exact ⟨r, by rw [← hr, ← handleBundle_fst], hrm⟩

/-- The batch loop over bundles that passed the checks raises nothing, leaves the state the
bundles record, and collects the replies they call for, in order. -/
theorem handleBatch_eq_ok (hk : s.Keyed) (hid : s.nodeId.truthy) (bs : List BundleObj)
    (hv : ∀ b ∈ bs, b.postInit = .ok ()) (hreq : ∀ b ∈ bs, DeclaresRole b) :
    ∃ rs : List BundleData, s.handleBatch jobsBytes bs = (bs.foldl record s, .ok rs) ∧
      rs.map (·.toBundleFields) = bs.filterMap (s.reply jobsBytes) := by
  induction bs generalizing s with
  | nil => exact ⟨[], rfl, rfl⟩
  | cons b bs ih =>
    obtain ⟨r, hb, hrm⟩ := handleBundle_eq_reply jobsBytes hk hid (hv b (.head _)) (hreq b (.head _))
    obtain ⟨rs, hrs, hrsm⟩ := ih (hk.record : (s.record b).Keyed) (by rwa [record_nodeId])
      (fun b' h => hv b' (.tail _ h)) (fun b' h => hreq b' (.tail _ h))
    refine ⟨r.toList ++ rs, by simp only [handleBatch, hb, hrs, List.foldl_cons], ?_⟩
    rw [reply_record] at hrsm
    rw [List.map_append, hrsm, List.filterMap_cons, ← hrm]
    cases r <;> rfl

/-- One pass of `_handle_bundles` over a batch of bundles that passed the checks, from a state
with the four roles as keys and a truthy node id, where every request declares a role. -/
theorem handleBundles_eq_ok_of_keyed (hk : s.Keyed) (hid : s.nodeId.truthy) (bs : List BundleObj)
    (hv : ∀ b ∈ bs, b.postInit = .ok ()) (hreq : ∀ b ∈ bs, DeclaresRole b) :
    ∃ rs : List BundleData,
      s.handleBundles jobsBytes (.ok bs) = (bs.foldl record s, .ok (if rs.isEmpty then none else some rs)) ∧
      rs.map (·.toBundleFields) = bs.filterMap (s.reply jobsBytes) := by
  obtain ⟨rs, hrs, hm⟩ := handleBatch_eq_ok jobsBytes hk hid bs hv hreq
  refine ⟨rs, ?_, hm⟩
  cases bs with
  | nil => cases hrs; rfl
  | cons b bs => simp only [handleBundles, hrs, List.isEmpty_cons]; rfl

/-- One pass of `_handle_bundles` over a batch of bundles that passed the checks, from a
reachable state with a truthy node id, where every request declares a role: nothing is raised;
the state is the one the batch records; and `_send_and_check` gets the replies the bundles call
for, in order, exactly when there is one. -/
theorem handleBundles_eq_ok (hs : Reachable jobsBytes s) (hid : s.nodeId.truthy)
    (bs : List BundleObj) (hv : ∀ b ∈ bs, b.postInit = .ok ()) (hreq : ∀ b ∈ bs, DeclaresRole b) :
    ∃ rs : List BundleData,
      s.handleBundles jobsBytes (.ok bs) = (bs.foldl record s, .ok (if rs.isEmpty then none else some rs)) ∧
      rs.map (·.toBundleFields) = bs.filterMap (s.reply jobsBytes) :=
  handleBundles_eq_ok_of_keyed jobsBytes (Reachable.invariant jobsBytes hs).keyed hid bs hv hreq

theorem handleBundles_eq_ok_of_request :
    let s : Broker Unit := init ⟨"dtn://broker/"⟩
    let q : BundleObj := BundleFields.toObj
      { type := .jobQuery, source := ⟨"dtn://client/"⟩, destination := ⟨"dtn://broker/"⟩,
        submitter := some ⟨"dtn://client/"⟩ }
    let b : BundleObj := BundleFields.toObj
      { type := .brokerRequest, source := ⟨"dtn://exec/"⟩, destination := ⟨"dtn://broker/"⟩,
        nodeType := some .executor }
    Reachable (fun _ _ => []) s ∧ s.nodeId.truthy ∧ (∀ b' ∈ [q, b], b'.postInit = .ok ()) ∧
      (∀ b' ∈ [q, b], DeclaresRole b') ∧
      ∃ rs : List BundleData,
        s.handleBundles (fun _ _ => []) (.ok [q, b]) =
          ([q, b].foldl record s, .ok (if rs.isEmpty then none else some rs)) ∧
        rs.map (·.toBundleFields) = [q, b].filterMap (s.reply (fun _ _ => [])) := by
  intro s q b
  have hid : s.nodeId.truthy := rfl
  have hv : ∀ b' ∈ [q, b], b'.postInit = .ok () := by decide
  have hreq : ∀ b' ∈ [q, b], DeclaresRole b' := by
    simp only [List.mem_cons, List.mem_nil_iff, or_false, forall_eq_or_imp, forall_eq]
    exact ⟨fun h => absurd h (by decide), fun _ => ⟨.executor, rfl⟩⟩
  exact ⟨.init _, hid, hv, hreq, handleBundles_eq_ok _ (.init _) hid [q, b] hv hreq⟩

/-! ### The broker's side of the handshake -/

/-- A bundle that calls for no reply is handled without one. -/
theorem handleBundle_eq_of_reply_none (hk : s.Keyed) (hid : s.nodeId.truthy)
    (hv : b.postInit = .ok ()) (hq : b.type.eqInt BundleType.jobQuery.value = false)
    (h2 : b.type.eqInt BundleType.brokerRequest.value = false) :
    s.handleBundle jobsBytes b = (s.record b, .ok none) := by
  obtain ⟨r, hb, hr⟩ := handleBundle_eq_reply jobsBytes hk hid hv fun h => absurd h (by simp [h2])
  simp only [reply, hq, h2, Bool.false_eq_true, if_false, Option.map_eq_none'] at hr
  rw [hb, hr]

/-- The broker's side of the discovery handshake, for a bundle that passed the checks, from a
reachable state with a truthy node id. An announcement gets no reply, and its source is
recorded under `BROKER` unless it is the broker's own. A request declaring the role `t` gets
one acknowledgement from the broker to the requester, carrying the broker role, and its source
is recorded under `t` and nowhere else. An acknowledgement is ignored. -/
theorem handleBundle_discovery (hs : Reachable jobsBytes s) (hid : s.nodeId.truthy)
    (hv : b.postInit = .ok ()) :
    (b.type.eqInt BundleType.brokerAnnounce.value →
      s.handleBundle jobsBytes b = (s.record b, .ok none) ∧
      ∀ t, (s.record b).nodes t =
        if t = .broker ∧ b.source ≠ s.nodeId then insert b.source (s.nodes t) else s.nodes t) ∧
    (∀ t : NodeType, b.type.eqInt BundleType.brokerRequest.value → b.nodeType.eqInt t.value →
      ∃ ack : BundleData, s.handleBundle jobsBytes b = (s.record b, .ok (some ack)) ∧
        ack.toBundleFields =
          { type := .brokerAck, source := s.nodeId, destination := b.source,
            nodeType := some .broker } ∧
        ∀ t', (s.record b).nodes t' = if t' = t then insert b.source (s.nodes t') else s.nodes t') ∧
    (b.type.eqInt BundleType.brokerAck.value → s.handleBundle jobsBytes b = (s, .ok none)) := by
  have hk := (Reachable.invariant jobsBytes hs).keyed
  refine ⟨fun ha => ?announce, fun t h2 ht => ?request, fun hc => ?ack⟩
  case announce =>
    have h2 : b.type.eqInt BundleType.brokerRequest.value = false := by
      rw [Value.eqInt_of_eqInt ha]; rfl
    refine ⟨handleBundle_eq_of_reply_none jobsBytes hk hid hv
      (by rw [Value.eqInt_of_eqInt ha]; rfl) h2, fun t => ?_⟩
    rw [nodes_record hk]
    simp only [Records, ha, h2, true_and, Bool.false_eq_true, false_and, or_false, and_comm]
  case request =>
    obtain ⟨r, hb, hr⟩ := handleBundle_eq_reply jobsBytes hk hid hv fun _ => ⟨t, ht⟩
    have hq : b.type.eqInt BundleType.jobQuery.value = false := by
      rw [Value.eqInt_of_eqInt h2]; rfl
    simp only [reply, hq, h2, Bool.false_eq_true, if_false, if_true, Option.map_eq_some'] at hr
    obtain ⟨ack, rfl, hack⟩ := hr
    refine ⟨ack, hb, by rw [hack, ackFields, (Reachable.invariant jobsBytes hs).nodeType],
      fun t' => ?_⟩
    have ha : b.type.eqInt BundleType.brokerAnnounce.value = false := by
      rw [Value.eqInt_of_eqInt h2]; rfl
    have hrole : b.nodeType.eqInt t'.value = decide (t' = t) := by
      rw [Value.eqInt_of_eqInt ht, decide_eq_decide, NodeType.value_inj, eq_comm]
    rw [nodes_record hk]
    simp only [Records, ha, h2, hrole, Bool.false_eq_true, false_and, false_or, true_and,
      decide_eq_true_eq]
  case ack =>
    have ha : b.type.eqInt BundleType.brokerAnnounce.value = false := by
      rw [Value.eqInt_of_eqInt hc]; rfl
    have h2 : b.type.eqInt BundleType.brokerRequest.value = false := by
      rw [Value.eqInt_of_eqInt hc]; rfl
    rw [handleBundle_eq_of_reply_none jobsBytes hk hid hv (by rw [Value.eqInt_of_eqInt hc]; rfl) h2,
      record_eq_self ha h2]

/-- A broker receiving `BROKER_REQUEST{source=X, node_type=DATASTORE}` replies with one
`BROKER_ACK{source=B1, destination=X, node_type=BROKER}` and records `X` among its datastores. -/
theorem handleBundle_discovery_of_datastore_request :
    let s : Broker Unit := init ⟨"dtn://broker/"⟩
    let b : BundleObj := BundleFields.toObj
      { type := .brokerRequest, source := ⟨"dtn://store/"⟩, destination := ⟨"dtn://broker/"⟩,
        nodeType := some .datastore }
    Reachable (fun _ _ => []) s ∧ s.nodeId.truthy ∧ b.postInit = .ok () ∧
      ∃ ack : BundleData, s.handleBundle (fun _ _ => []) b = (s.record b, .ok (some ack)) ∧
        ack.toBundleFields =
          { type := .brokerAck, source := ⟨"dtn://broker/"⟩, destination := ⟨"dtn://store/"⟩,
            nodeType := some .broker } ∧
        ⟨"dtn://store/"⟩ ∈ (s.record b).nodes .datastore := by
  intro s b
  have hid : s.nodeId.truthy := rfl
  have hv : b.postInit = .ok () := by decide
  obtain ⟨ack, hb, hack, hn⟩ := (handleBundle_discovery _ (.init _) hid hv).2.1 .datastore rfl rfl
  exact ⟨.init _, hid, hv, ack, hb, hack, by rw [hn, if_pos rfl]; exact Finset.mem_insert_self _ _⟩

/-- A request declaring node type `2.5` passes `BundleData`'s checks, since `2.5` lies between
`BROKER` and `CLIENT`; `discovered_nodes[2.5]` raises `KeyError`, which ends the pass of a
fresh broker with nothing sent. -/
theorem handleBundles_fractional_node_type_raises :
    let b : BundleObj :=
      { type := .int BundleType.brokerRequest.value, source := ⟨"dtn://exec/"⟩,
        destination := ⟨"dtn://broker/"⟩, payload := .bin [], success := .bool true,
        error := .str "", nodeType := .float (.finite 5 (-1)), submitter := none,
        namedData := .nil }
    b.postInit = .ok () ∧
      ((init ⟨"dtn://broker/"⟩ : Broker Unit).handleBundles (fun _ _ => []) (.ok [b])).2 =
        .error (.keyError (.float (.finite 5 (-1)))) := by
  decide

/-! ### Over whole runs -/

/-- No falsy endpoint, such as `dtn:none`, is ever recorded in `discovered_nodes`: every
endpoint a reachable state holds is the source of a retrieved bundle that passed the
checks. -/
theorem discovered_nodes_truthy (hs : Reachable jobsBytes s) :
    ∀ t, ∀ e ∈ s.nodes t, e.truthy := by
  induction hs with
  | init nodeId =>
    intro t e he
    cases t <;> exact absurd he (Finset.not_mem_empty e)
  | cycle hs hv ih =>
    obtain ⟨pre, hpre, h⟩ := handleBundles_fst jobsBytes _ _
    intro t e he
    rw [h, mem_nodes_foldl_record (Reachable.invariant jobsBytes hs).keyed] at he
    rcases he with he | ⟨b, hb, -, rfl⟩
    · exact ih t e he
    · obtain ⟨bs, hbs, hb'⟩ := hpre b hb
      exact BundleObj.source_truthy_of_postInit (hv bs hbs b hb')

end Broker

end RecDtn
