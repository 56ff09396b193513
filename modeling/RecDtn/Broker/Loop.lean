import RecDtn.Broker.Cycle

/-!
# The bundle loop over whole runs

`_handle_bundles` repeats its pass for the life of the broker; `handleBundlesLoop` runs it
over the batches the calls of `_get_new_bundles` returned, in order.

What the broker sends needs no precondition (`handleBundlesLoop_sends_replies`): a pass that
raises sends nothing, and a pass that does not hands `_send_and_check` exactly the replies its
bundles call for, in order, and only when there is one. Whatever the bundles, checked or not,
the broker writes to nobody but the sender of a query or a request.

`discovered_nodes` only grows (`handleBundlesLoop_discovered_nodes`), and every endpoint it
gains is the source of a retrieved bundle that records it under that role.

A bundle whose handling raises ends its pass (`handleBundles_of_handleBundle_error`): the
replies built before it are dropped, and the bundles after it are neither recorded nor
answered, so the order of the batch then matters. When no pass raises, what the broker records
depends only on which bundles arrived, not on how the transport batches, orders or repeats
them (`handleBundles_order_independent` for one pass,
`handleBundlesLoop_delivery_independent` for a run), and what a pass sends never reads the
endpoints discovered (`handleBundles_snd_congr`).

The reachable states are exactly those that keep what `__init__` set up and hold only truthy
endpoints (`reachable_iff`). The converse runs one pass per recorded endpoint, a request from
it declaring its role; and the reachable states are the states the loop reaches from
`__init__` over retrievals of checked bundles (`reachable_iff_handleBundlesLoop`).
-/

namespace RecDtn

theorem BundleData.toBundleFields_of_new {f : BundleFields} {d : BundleData}
    (h : BundleData.new f = .ok d) : d.toBundleFields = f := by
  unfold BundleData.new at h
  split at h
  · cases h; rfl
  · cases h

namespace Broker

variable {J : Type} (jobsBytes : Finset J → List J → List UInt8) {s : Broker J} {b : BundleObj}

/-! ### What a pass sends -/

/-- Whatever `_handle_bundle` returns without raising is the reply the bundle calls for. -/
theorem handleBundle_snd_reply {r : Option BundleData}
    (h : (s.handleBundle jobsBytes b).2 = .ok r) :
    r.map (·.toBundleFields) = s.reply jobsBytes b := by
  rw [handleBundle_snd] at h
  by_cases hq : b.type.eqInt BundleType.jobQuery.value
  · rw [if_pos hq] at h
    obtain ⟨d, hd, rfl⟩ := map_eq_ok.mp h
    rw [reply, if_pos hq, Option.map_some', BundleData.toBundleFields_of_new hd]
  rw [if_neg hq] at h
  rw [reply, if_neg hq]
  cases hc : b.type.between BundleType.brokerAnnounce.value BundleType.brokerAck.value with
  | error e => rw [hc] at h; cases h
  | ok c =>
    rw [hc] at h
    cases c with
    | false =>
      cases h
      have h2 : b.type.eqInt BundleType.brokerRequest.value = false := by
        by_contra h2
        rw [Value.between_of_eqInt (Bool.not_eq_false _ ▸ h2)] at hc
        cases hc
      rw [if_neg (by simp [h2])]; rfl
    | true =>
      rw [handleDiscovery_snd] at h
      split_ifs at h with ha hne h2
      · obtain ⟨_, -, rfl⟩ := map_eq_ok.mp h
        rw [if_neg (by rw [Value.eqInt_of_eqInt ha]; decide)]; rfl
      · cases h
        rw [if_neg (by rw [Value.eqInt_of_eqInt ha]; decide)]; rfl
      · obtain ⟨_, -, h⟩ := bind_eq_ok.mp h
        obtain ⟨d, hd, rfl⟩ := map_eq_ok.mp h
        rw [if_pos h2, Option.map_some', BundleData.toBundleFields_of_new hd]
      · cases h
        rw [if_neg h2]; rfl

/-- `_handle_bundle` leaves the state the bundle records, whatever it returns. -/
theorem handleBundle_eq_record {x : Except PyError (Option BundleData)}
    (h : (s.handleBundle jobsBytes b).2 = x) : s.handleBundle jobsBytes b = (s.record b, x) :=
  Prod.ext (handleBundle_fst jobsBytes s b) h

/-- The outcome of the batch loop, one bundle at a time: the first bundle's reply, then the
rest's from the state the first leaves. -/
theorem handleBatch_snd_cons (s : Broker J) (b : BundleObj) (bs : List BundleObj) :
    (s.handleBatch jobsBytes (b :: bs)).2 =
      (s.handleBundle jobsBytes b).2.bind fun r =>
        ((s.record b).handleBatch jobsBytes bs).2.map (r.toList ++ ·) := by
  rcases hb : (s.handleBundle jobsBytes b).2 with e | r
  · simp only [handleBatch, handleBundle_eq_record jobsBytes hb]; rfl
  · rcases hbs : (s.record b).handleBatch jobsBytes bs with ⟨s'', e | rs⟩ <;>
      simp only [handleBatch, handleBundle_eq_record jobsBytes hb, hbs] <;> rfl

/-- The batch loop raises nothing exactly when its first bundle and then the rest raise
nothing; it collects the first bundle's reply before the others. -/
theorem handleBatch_cons_snd_eq_ok {bs : List BundleObj} {rs : List BundleData}
    (h : (s.handleBatch jobsBytes (b :: bs)).2 = .ok rs) :
    ∃ r rs', (s.handleBundle jobsBytes b).2 = .ok r ∧
      ((s.record b).handleBatch jobsBytes bs).2 = .ok rs' ∧ rs = r.toList ++ rs' := by
  rw [handleBatch_snd_cons] at h
  obtain ⟨r, hr, h⟩ := bind_eq_ok.mp h
  obtain ⟨rs', hrs, rfl⟩ := map_eq_ok.mp h
  exact ⟨r, rs', hr, hrs, rfl⟩

/-- The batch loop, when it raises nothing, collects the replies its bundles call for. -/
theorem handleBatch_snd_reply (bs : List BundleObj) {rs : List BundleData}
    (h : (s.handleBatch jobsBytes bs).2 = .ok rs) :
    rs.map (·.toBundleFields) = bs.filterMap (s.reply jobsBytes) := by
  induction bs generalizing s rs with
  | nil => cases h; rfl
  | cons b bs ih =>
    obtain ⟨r, rs', hr, hrs, rfl⟩ := handleBatch_cons_snd_eq_ok jobsBytes h
    have hrsm := ih hrs
    rw [reply_record] at hrsm
    rw [List.map_append, hrsm, List.filterMap_cons, ← handleBundle_snd_reply jobsBytes hr]
    cases r <;> rfl

/-- A pass that raises nothing sends the replies its bundles call for, and only if there is
one. -/
theorem handleBundles_snd_reply (fetched : Except PyError (List BundleObj))
    {sent : Option (List BundleData)} (h : (s.handleBundles jobsBytes fetched).2 = .ok sent) :
    ∃ bs, fetched = .ok bs ∧
      (sent.getD []).map (·.toBundleFields) = bs.filterMap (s.reply jobsBytes) ∧
      sent ≠ some [] := by
  rcases fetched with e | bs
  · cases h
  refine ⟨bs, rfl, ?_⟩
  by_cases he : bs.isEmpty
  · simp only [handleBundles, he, if_true, Except.ok.injEq] at h
    subst h
    simp [List.isEmpty_iff.mp he]
  simp only [handleBundles, he, Bool.false_eq_true, if_false] at h
  obtain ⟨rs, hrs, rfl⟩ := map_eq_ok.mp h
  have hm := handleBatch_snd_reply jobsBytes bs hrs
  split_ifs with hr
  · simpa [List.isEmpty_iff.mp hr] using hm.symm
  · exact ⟨hm, by simpa using hr⟩

/-! ### A bundle that raises ends its pass -/

theorem handleBatch_of_error {pre : List BundleObj} (post : List BundleObj) {rs : List BundleData}
    {e : PyError}
    (hpre : (s.handleBatch jobsBytes pre).2 = .ok rs)
    (hb : ((pre.foldl record s).handleBundle jobsBytes b).2 = .error e) :
    s.handleBatch jobsBytes (pre ++ b :: post) = ((pre ++ [b]).foldl record s, .error e) := by
  induction pre generalizing s rs with
  | nil =>
    rw [List.foldl_nil] at hb
    simp only [List.nil_append, handleBatch, handleBundle_eq_record jobsBytes hb, List.foldl_cons,
      List.foldl_nil]
  | cons p pre ih =>
    obtain ⟨r, rs', hr, hrs, -⟩ := handleBatch_cons_snd_eq_ok jobsBytes hpre
    simp only [List.cons_append, handleBatch, handleBundle_eq_record jobsBytes hr, List.append_eq,
      ih hrs hb, List.foldl_cons]

/-- A bundle whose handling raises ends its pass, whatever precedes and follows it in the
batch: the bundles before it and itself are recorded, the replies built for the bundles
before it are dropped, the bundles after it are neither recorded nor answered, and the pass
sends nothing. The `except` of `_handle_bundles` wraps the whole loop over the batch, not each
bundle. -/
theorem handleBundles_of_handleBundle_error {pre post : List BundleObj} {rs : List BundleData}
    {e : PyError} (hpre : (s.handleBatch jobsBytes pre).2 = .ok rs)
    (hb : ((pre.foldl record s).handleBundle jobsBytes b).2 = .error e) :
    s.handleBundles jobsBytes (.ok (pre ++ b :: post)) =
      ((pre ++ [b]).foldl record s, .error e) := by
  have h := handleBatch_of_error jobsBytes post hpre hb
  have hne : (pre ++ b :: post).isEmpty = false := by cases pre <;> rfl
  simp only [handleBundles, hne, Bool.false_eq_true, if_false, h]
  rfl

theorem handleBundles_of_handleBundle_error_fractional :
    let s : Broker Unit := init ⟨"dtn://broker/"⟩
    let an : BundleObj := BundleFields.toObj
      { type := .brokerAnnounce, source := ⟨"dtn://other/"⟩, destination := ⟨"dtn://broker/"⟩,
        nodeType := some .broker }
    let b : BundleObj :=
      { type := .int BundleType.brokerRequest.value, source := ⟨"dtn://exec/"⟩,
        destination := ⟨"dtn://broker/"⟩, payload := .bin [], success := .bool true,
        error := .str "", nodeType := .float (.finite 5 (-1)), submitter := none,
        namedData := .nil }
    let rq : BundleObj := BundleFields.toObj
      { type := .brokerRequest, source := ⟨"dtn://store/"⟩, destination := ⟨"dtn://broker/"⟩,
        nodeType := some .datastore }
    (s.handleBatch (fun _ _ => []) [an]).2 = .ok [] ∧
      (([an].foldl record s).handleBundle (fun _ _ => []) b).2 =
        .error (.keyError (.float (.finite 5 (-1)))) ∧
      s.handleBundles (fun _ _ => []) (.ok ([an] ++ b :: [rq])) =
        (([an] ++ [b]).foldl record s, .error (.keyError (.float (.finite 5 (-1))))) := by
  intro s an b rq
  have hpre : (s.handleBatch (fun _ _ => []) [an]).2 = .ok [] := by decide
  have hb : (([an].foldl record s).handleBundle (fun _ _ => []) b).2 =
      .error (.keyError (.float (.finite 5 (-1)))) := by decide
  exact ⟨hpre, hb, handleBundles_of_handleBundle_error _ hpre hb⟩

theorem reply_foldl_record (bs : List BundleObj) :
    (bs.foldl record s).reply jobsBytes = s.reply jobsBytes := by
  induction bs generalizing s with
  | nil => rfl
  | cons b bs ih => rw [List.foldl_cons, ih, reply_record]

theorem reply_handleBundles (fetched : Except PyError (List BundleObj)) :
    (s.handleBundles jobsBytes fetched).1.reply jobsBytes = s.reply jobsBytes := by
  obtain ⟨pre, -, h⟩ := handleBundles_fst jobsBytes s fetched
  rw [h, reply_foldl_record]

/-- What the bundle loop sends, over any run from any state and whatever it retrieves: a pass
whose retrieval raised, or that raised itself, sends nothing; every other pass calls
`_send_and_check` exactly when its bundles call for a reply, with those replies in the order
of the batch, a job list to each querier and an acknowledgement to each requester, as the
starting state gives them. -/
theorem handleBundlesLoop_sends_replies (s : Broker J)
    (passes : List (Except PyError (List BundleObj))) :
    List.Forall₂ (fun fetched outcome => ∀ sent, outcome = .ok sent → ∃ bs, fetched = .ok bs ∧
        (sent.getD []).map (·.toBundleFields) = bs.filterMap (s.reply jobsBytes) ∧
        sent ≠ some [])
      passes (s.handleBundlesLoop jobsBytes passes).2 := by
  induction passes generalizing s with
  | nil => exact .nil
  | cons fetched rest ih =>
    have hrest := ih (s.handleBundles jobsBytes fetched).1
    rw [reply_handleBundles] at hrest
    exact .cons (fun _ h => handleBundles_snd_reply jobsBytes fetched h) hrest

/-! ### What a run records -/

theorem nodeId_handleBundles (fetched : Except PyError (List BundleObj)) :
    (s.handleBundles jobsBytes fetched).1.nodeId = s.nodeId := by
  obtain ⟨pre, -, h⟩ := handleBundles_fst jobsBytes s fetched
  rw [h, foldl_record_nodeId]

theorem Keyed.handleBundles (hk : s.Keyed) (fetched : Except PyError (List BundleObj)) :
    (s.handleBundles jobsBytes fetched).1.Keyed := by
  obtain ⟨pre, -, h⟩ := handleBundles_fst jobsBytes s fetched
  rw [h]
  exact hk.foldl_record pre

/-- One pass keeps every role's set and adds only sources of retrieved bundles that record
them there. -/
theorem nodes_handleBundles (hk : s.Keyed) (fetched : Except PyError (List BundleObj))
    (t : NodeType) :
    s.nodes t ⊆ (s.handleBundles jobsBytes fetched).1.nodes t ∧
      ∀ e ∈ (s.handleBundles jobsBytes fetched).1.nodes t, e ∈ s.nodes t ∨
        ∃ bs, fetched = .ok bs ∧ ∃ b ∈ bs, s.Records b t ∧ b.source = e := by
  obtain ⟨pre, hpre, h⟩ := handleBundles_fst jobsBytes s fetched
  rw [h]
  refine ⟨fun e he => (mem_nodes_foldl_record hk pre t e).mpr (.inl he), fun e he => ?_⟩
  rcases (mem_nodes_foldl_record hk pre t e).mp he with he | ⟨b, hb, hr, rfl⟩
  · exact .inl he
  · obtain ⟨bs, rfl, hbs⟩ := hpre b hb
    exact .inr ⟨bs, rfl, b, hbs, hr, rfl⟩

/-- Over any run of the bundle loop from a state with the four roles as keys, as every
reachable state has: no role's set loses an endpoint, and every endpoint a set gains is the
source of a bundle some pass retrieved that records it under that role: a request declaring
it, or, for `BROKER`, an announcement from another node. -/
theorem handleBundlesLoop_discovered_nodes (hk : s.Keyed)
    (passes : List (Except PyError (List BundleObj))) (t : NodeType) :
    s.nodes t ⊆ (s.handleBundlesLoop jobsBytes passes).1.nodes t ∧
      ∀ e ∈ (s.handleBundlesLoop jobsBytes passes).1.nodes t, e ∈ s.nodes t ∨
        ∃ bs, .ok bs ∈ passes ∧ ∃ b ∈ bs, s.Records b t ∧ b.source = e := by
  induction passes generalizing s with
  | nil => exact ⟨subset_rfl, fun e he => .inl he⟩
  | cons fetched rest ih =>
    obtain ⟨hsub, hmem⟩ := nodes_handleBundles jobsBytes hk fetched t
    obtain ⟨hsub', hmem'⟩ := ih (hk.handleBundles jobsBytes fetched)
    have hrec : ∀ b', (s.handleBundles jobsBytes fetched).1.Records b' t ↔ s.Records b' t := by
      simp only [Records, nodeId_handleBundles, implies_true]
    refine ⟨hsub.trans hsub', fun e he => ?_⟩
    rcases hmem' e he with he | ⟨bs, hbs, b, hb, hr, rfl⟩
    · rcases hmem e he with he | ⟨bs, rfl, b, hb, hr, rfl⟩
      · exact .inl he
      · exact .inr ⟨bs, .head _, b, hb, hr, rfl⟩
    · exact .inr ⟨bs, .tail _ hbs, b, hb, (hrec b).mp hr, rfl⟩

theorem handleBundlesLoop_discovered_nodes_from_init :
    let s : Broker Unit := init ⟨"dtn://broker/"⟩
    let b : BundleObj := BundleFields.toObj
      { type := .brokerRequest, source := ⟨"dtn://exec/"⟩, destination := ⟨"dtn://broker/"⟩,
        nodeType := some .executor }
    let passes : List (Except PyError (List BundleObj)) := [.ok [b], .error .io]
    s.Keyed ∧
      s.nodes .executor ⊆ (s.handleBundlesLoop (fun _ _ => []) passes).1.nodes .executor ∧
      ∀ e ∈ (s.handleBundlesLoop (fun _ _ => []) passes).1.nodes .executor,
        e ∈ s.nodes .executor ∨
          ∃ bs, .ok bs ∈ passes ∧ ∃ b' ∈ bs, s.Records b' .executor ∧ b'.source = e := by
  intro s b passes
  have hk : s.Keyed := rfl
  exact ⟨hk, handleBundlesLoop_discovered_nodes _ hk passes .executor⟩

/-! ### What a pass reads of the state -/

/-- A pass that raises nothing leaves the state its whole batch records. -/
theorem handleBundles_fst_of_declared (hk : s.Keyed) (hid : s.nodeId.truthy) (bs : List BundleObj)
    (hv : ∀ b ∈ bs, b.postInit = .ok ()) (hreq : ∀ b ∈ bs, DeclaresRole b) :
    (s.handleBundles jobsBytes (.ok bs)).1 = bs.foldl record s := by
  obtain ⟨rs, h, -⟩ := handleBundles_eq_ok_of_keyed jobsBytes hk hid bs hv hreq
  rw [h]

theorem handleBundlesLoop_fst_of_declared (hk : s.Keyed) (hid : s.nodeId.truthy)
    (passes : List (List BundleObj)) (hv : ∀ bs ∈ passes, ∀ b ∈ bs, b.postInit = .ok ())
    (hreq : ∀ bs ∈ passes, ∀ b ∈ bs, DeclaresRole b) :
    (s.handleBundlesLoop jobsBytes (passes.map .ok)).1 =
      (passes.flatMap id).foldl Broker.record s := by
  induction passes generalizing s with
  | nil => rfl
  | cons bs rest ih =>
    have h1 := handleBundles_fst_of_declared jobsBytes hk hid bs (hv bs (.head _))
      (hreq bs (.head _))
    simp only [List.map_cons, handleBundlesLoop, h1, List.flatMap_cons, id, List.foldl_append]
    exact ih (hk.foldl_record bs) (by rwa [foldl_record_nodeId])
      (fun bs' h => hv bs' (.tail _ h)) fun bs' h => hreq bs' (.tail _ h)

/-- The transport may batch, order and repeat deliveries as it likes: from a reachable state
with a truthy node id, two runs of the bundle loop over retrievals of checked bundles, every
request declaring a role, reach the same state when the same bundles were retrieved. -/
theorem handleBundlesLoop_delivery_independent (hs : Reachable jobsBytes s)
    (hid : s.nodeId.truthy) (passes passes' : List (List BundleObj))
    (hv : ∀ bs ∈ passes ++ passes', ∀ b ∈ bs, b.postInit = .ok ())
    (hreq : ∀ bs ∈ passes ++ passes', ∀ b ∈ bs, DeclaresRole b)
    (hset : ∀ b, (∃ bs ∈ passes, b ∈ bs) ↔ ∃ bs ∈ passes', b ∈ bs) :
    (s.handleBundlesLoop jobsBytes (passes.map .ok)).1 =
      (s.handleBundlesLoop jobsBytes (passes'.map .ok)).1 := by
  have hk := (Reachable.invariant jobsBytes hs).keyed
  rw [handleBundlesLoop_fst_of_declared jobsBytes hk hid passes
      (fun bs h => hv bs (List.mem_append_left _ h))
      (fun bs h => hreq bs (List.mem_append_left _ h)),
    handleBundlesLoop_fst_of_declared jobsBytes hk hid passes'
      (fun bs h => hv bs (List.mem_append_right _ h))
      (fun bs h => hreq bs (List.mem_append_right _ h))]
  exact foldl_record_congr hk fun b => by simp only [List.mem_flatMap, id, hset]

theorem handleBundlesLoop_delivery_independent_rebatched :
    let s : Broker Unit := init ⟨"dtn://broker/"⟩
    let rq : BundleObj := BundleFields.toObj
      { type := .brokerRequest, source := ⟨"dtn://exec/"⟩, destination := ⟨"dtn://broker/"⟩,
        nodeType := some .executor }
    let an : BundleObj := BundleFields.toObj
      { type := .brokerAnnounce, source := ⟨"dtn://other/"⟩, destination := ⟨"dtn://broker/"⟩,
        nodeType := some .broker }
    Reachable (fun _ _ => []) s ∧ s.nodeId.truthy ∧
      (∀ bs ∈ [[rq, an]] ++ [[an], [rq, rq]], ∀ b ∈ bs, b.postInit = .ok ()) ∧
      (∀ bs ∈ [[rq, an]] ++ [[an], [rq, rq]], ∀ b ∈ bs, DeclaresRole b) ∧
      (∀ b, (∃ bs ∈ [[rq, an]], b ∈ bs) ↔ ∃ bs ∈ [[an], [rq, rq]], b ∈ bs) ∧
      (s.handleBundlesLoop (fun _ _ => []) ([[rq, an]].map .ok)).1 =
        (s.handleBundlesLoop (fun _ _ => []) ([[an], [rq, rq]].map .ok)).1 := by
  intro s rq an
  have hid : s.nodeId.truthy := rfl
  have hall : ∀ P : BundleObj → Prop, P rq → P an →
      ∀ bs ∈ [[rq, an]] ++ [[an], [rq, rq]], ∀ b ∈ bs, P b := by
    intro P hrq han bs hbs b hb
    simp only [List.cons_append, List.nil_append, List.mem_cons, List.mem_nil_iff, or_false] at hbs
    rcases hbs with rfl | rfl | rfl <;>
      simp only [List.mem_cons, List.mem_nil_iff, or_false] at hb <;>
      rcases hb with rfl | rfl <;> assumption
  have hv := hall (·.postInit = .ok ()) (by decide) (by decide)
  have hreq := hall DeclaresRole (fun _ => ⟨.executor, rfl⟩) fun h => absurd h (by decide)
  have hset : ∀ b, (∃ bs ∈ [[rq, an]], b ∈ bs) ↔ ∃ bs ∈ [[an], [rq, rq]], b ∈ bs := by
    intro b
    simp only [List.mem_cons, List.mem_nil_iff, or_false, exists_eq_or_imp, exists_eq_left,
      exists_false]
    tauto
  exact ⟨.init _, hid, hv, hreq, hset,
    handleBundlesLoop_delivery_independent _ (.init _) hid _ _ hv hreq hset⟩

/-! ### The reachable states -/

/-- A pass over one retrieved bundle leaves the state the bundle records, whether the pass
raises or not. -/
theorem handleBundles_singleton (s : Broker J) (b : BundleObj) :
    (s.handleBundles jobsBytes (.ok [b])).1 = s.record b := by
  rcases hb : (s.handleBundle jobsBytes b).2 with e | r <;>
    simp [handleBundles, handleBatch, handleBundle_eq_record jobsBytes hb]

theorem Reachable.record (hs : Reachable jobsBytes s) (hv : b.postInit = .ok ()) :
    Reachable jobsBytes (s.record b) := by
  rw [← handleBundles_singleton jobsBytes]
  exact .cycle hs fun bs h b' hb' => by
    cases h
    rw [List.mem_singleton.mp hb']
    exact hv

theorem Reachable.foldl_record (hs : Reachable jobsBytes s) (bs : List BundleObj)
    (hv : ∀ b ∈ bs, b.postInit = .ok ()) : Reachable jobsBytes (bs.foldl Broker.record s) := by
  induction bs generalizing s with
  | nil => exact hs
  | cons b bs ih =>
    exact ih (Reachable.record jobsBytes hs (hv b (.head _))) fun b' h => hv b' (.tail _ h)

/-- Two states that keep what `__init__` set up are equal when they have the same node id and
the same sets under every role. -/
theorem eq_of_invariant {s s' : Broker J} (hi : s.Invariant) (hi' : s'.Invariant)
    (hid : s.nodeId = s'.nodeId) (hn : ∀ t, s.nodes t = s'.nodes t) : s = s' := by
  have hds : s.discoveredNodes = s'.discoveredNodes := by
    rw [discoveredNodes_eq hi.keyed, discoveredNodes_eq hi'.keyed, funext hn]
  obtain ⟨-, h1, h2, h3⟩ := hi
  obtain ⟨-, h1', h2', h3'⟩ := hi'
  cases s
  cases s'
  simp_all

/-- A request from `e` to itself declaring the role `t`: one pass over it records `e` under
`t`. -/
def requestFrom (e : EID) (t : NodeType) : BundleObj :=
  BundleFields.toObj { type := .brokerRequest, source := e, destination := e, nodeType := some t }

theorem requestFrom_postInit {e : EID} (he : e.truthy) (t : NodeType) :
    (requestFrom e t).postInit = .ok () :=
  (BundleFields.postInit_toObj_eq_ok _).mpr
    { source := he
      destination := he
      success := iff_of_true rfl rfl
      nodeType := fun _ => rfl
      submitter := fun h => absurd h (by decide : ¬ BundleType.brokerRequest.IsJobQueryOrList)
      namedData := fun h => absurd h (by decide : ¬ BundleType.brokerRequest.IsNamedData) }

theorem records_requestFrom (e : EID) (t t' : NodeType) :
    s.Records (requestFrom e t) t' ↔ t = t' := by
  simp [Records, requestFrom, BundleFields.toObj, BundleType.value, NodeType.value_inj]

/-- The reachable states of the broker are exactly the states that keep what `__init__` set
up (the four roles as keys of `discovered_nodes`, the broker role, no jobs) and record only
truthy endpoints. Every such state is reached from `__init__` with its node id, by one pass
for each recorded endpoint over a request from it declaring its role. -/
theorem reachable_iff : Reachable jobsBytes s ↔ s.Invariant ∧ ∀ t, ∀ e ∈ s.nodes t, e.truthy := by
  refine ⟨fun hs => ⟨Reachable.invariant jobsBytes hs, discovered_nodes_truthy jobsBytes hs⟩,
    fun ⟨hi, ht⟩ => ?_⟩
  let reqs := discoveryRoles.flatMap fun t => (s.nodes t).toList.map (requestFrom · t)
  have hmem : ∀ b ∈ reqs, ∃ t, ∃ e ∈ s.nodes t, b = requestFrom e t := by
    intro b hb
    obtain ⟨t, -, hb⟩ := List.mem_flatMap.mp hb
    obtain ⟨e, he, rfl⟩ := List.mem_map.mp hb
    exact ⟨t, e, Finset.mem_toList.mp he, rfl⟩
  have hreach : Reachable jobsBytes (reqs.foldl record (init s.nodeId)) :=
    Reachable.foldl_record jobsBytes (.init _) reqs fun b hb => by
      obtain ⟨t, e, he, rfl⟩ := hmem b hb
      exact requestFrom_postInit (ht t e he) t
  have hinit : (init s.nodeId : Broker J).Invariant := ⟨rfl, rfl, rfl, rfl⟩
  suffices hnodes : ∀ t, s.nodes t = (reqs.foldl record (init s.nodeId)).nodes t by
    rwa [eq_of_invariant hi (hinit.foldl_record reqs)
      (foldl_record_nodeId (s := init s.nodeId) reqs).symm hnodes]
  intro t
  ext e
  rw [mem_nodes_foldl_record hinit.keyed]
  constructor
  · intro he
    refine .inr ⟨requestFrom e t, ?_, (records_requestFrom e t t).mpr rfl, rfl⟩
    exact List.mem_flatMap.mpr ⟨t, by cases t <;> decide,
      List.mem_map.mpr ⟨e, Finset.mem_toList.mpr he, rfl⟩⟩
  · rintro (he | ⟨b, hb, hr, rfl⟩)
    · cases t <;> exact absurd he (Finset.not_mem_empty e)
    · obtain ⟨t', e', he', rfl⟩ := hmem b hb
      obtain rfl := (records_requestFrom e' t' t).mp hr
      exact he'

/-! ### The loop from `__init__` -/

theorem handleBundlesLoop_append (s : Broker J) (passes : List (Except PyError (List BundleObj)))
    (fetched : Except PyError (List BundleObj)) :
    (s.handleBundlesLoop jobsBytes (passes ++ [fetched])).1 =
      ((s.handleBundlesLoop jobsBytes passes).1.handleBundles jobsBytes fetched).1 := by
  induction passes generalizing s with
  | nil => rfl
  | cons f rest ih => exact ih _

theorem Reachable.handleBundlesLoop (hs : Reachable jobsBytes s)
    (passes : List (Except PyError (List BundleObj)))
    (hv : ∀ bs, .ok bs ∈ passes → ∀ b ∈ bs, b.postInit = .ok ()) :
    Reachable jobsBytes (s.handleBundlesLoop jobsBytes passes).1 := by
  induction passes generalizing s with
  | nil => exact hs
  | cons f rest ih =>
    exact ih (.cycle hs fun bs h => hv bs (h ▸ .head _)) fun bs h => hv bs (.tail _ h)

/-- The reachable states are the states the bundle loop reaches from `__init__` over
retrievals whose bundles passed the checks. -/
theorem reachable_iff_handleBundlesLoop : Reachable jobsBytes s ↔
    ∃ nodeId passes, (∀ bs, .ok bs ∈ passes → ∀ b ∈ bs, b.postInit = .ok ()) ∧
      s = ((init nodeId : Broker J).handleBundlesLoop jobsBytes passes).1 := by
  constructor
  · intro hs
    induction hs with
    | init nodeId => exact ⟨nodeId, [], nofun, rfl⟩
    | @cycle s fetched _ hv ih =>
      obtain ⟨nodeId, passes, hps, rfl⟩ := ih
      refine ⟨nodeId, passes ++ [fetched], fun bs h => ?_, (handleBundlesLoop_append _ _ _ _).symm⟩
      rcases List.mem_append.mp h with h | h
      · exact hps bs h
      · exact hv bs (List.mem_singleton.mp h).symm
  · rintro ⟨nodeId, passes, hv, rfl⟩
    exact Reachable.handleBundlesLoop jobsBytes (.init nodeId) passes hv

end Broker

end RecDtn
