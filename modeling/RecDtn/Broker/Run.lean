import RecDtn.Broker.State

/-!
# Runs of the broker

What `_handle_bundle` does to the state, said once (`handleBundle_fst`): it adds the source
of an announcement from another broker under `BROKER`, and the source of a request under its
declared role (`Broker.record`). From that, over any sequence of bundles handled one after
another: the keys of `discovered_nodes` stay the four roles, a source is in a role's set
exactly when a handled bundle recorded it there (`mem_nodes_foldl_record`), and the state
reached depends only on the set of bundles handled.
-/

namespace RecDtn

namespace Broker

variable {J : Type} {s s' : Broker J} {b : BundleObj}

/-! ### One bundle -/

/-- `discovered_nodes[key].add(e)` on the state, which is left as it was if the lookup raises. -/
def addAt (s : Broker J) (key : Value) (e : EID) : Broker J :=
  match addNode s.discoveredNodes key e with
  | .ok ds => { s with discoveredNodes := ds }
  | .error _ => s

/-- The state `_handle_bundle` leaves after `b`: an announcement from another broker adds its
source under `BROKER`, a request adds its source under its declared role. -/
def record (s : Broker J) (b : BundleObj) : Broker J :=
  if b.type.eqInt BundleType.brokerAnnounce.value then
    if b.source ≠ s.nodeId then s.addAt (.int NodeType.broker.value) b.source else s
  else if b.type.eqInt BundleType.brokerRequest.value then s.addAt b.nodeType b.source
  else s

theorem record_eq_self (h₁ : b.type.eqInt BundleType.brokerAnnounce.value = false)
    (h₂ : b.type.eqInt BundleType.brokerRequest.value = false) : s.record b = s := by
  simp [record, h₁, h₂]

theorem handleDiscovery_fst (s : Broker J) (b : BundleObj) :
    (s.handleDiscovery b).1 = s.record b := by
  unfold handleDiscovery record addAt
  split_ifs <;> first | rfl | (cases addNode s.discoveredNodes _ b.source <;> rfl)

/-- What one call of `_handle_bundle` does to the state. -/
theorem handleBundle_fst (jobsBytes : Finset J → List J → List UInt8) (s : Broker J) (b : BundleObj) :
    (s.handleBundle jobsBytes b).1 = s.record b := by
  unfold handleBundle
  by_cases hq : b.type.eqInt BundleType.jobQuery.value
  · rw [if_pos hq, record_eq_self (by rw [Value.eqInt_of_eqInt hq]; decide)
      (by rw [Value.eqInt_of_eqInt hq]; decide)]
  · rw [if_neg hq]
    have hdisc : b.type.eqInt BundleType.brokerAnnounce.value ∨
        b.type.eqInt BundleType.brokerRequest.value →
        b.type.between BundleType.brokerAnnounce.value BundleType.brokerAck.value = .ok true := by
      rintro (h | h) <;> rw [Value.between_of_eqInt h] <;> rfl
    have hnone : b.type.between BundleType.brokerAnnounce.value BundleType.brokerAck.value ≠
        .ok true → s = s.record b := fun hne => by
      have := mt hdisc hne
      simp only [not_or, Bool.not_eq_true] at this
      exact (record_eq_self this.1 this.2).symm
    split
    · exact handleDiscovery_fst s b
    all_goals exact hnone (by simp_all)

/-- `_handle_bundle` records the source of `b` under the role `t`: `b` is an announcement
from another broker and `t` is `BROKER`, or `b` is a request declaring `t`. -/
def Records (s : Broker J) (b : BundleObj) (t : NodeType) : Prop :=
  (b.type.eqInt BundleType.brokerAnnounce.value ∧ b.source ≠ s.nodeId ∧ t = .broker) ∨
    (b.type.eqInt BundleType.brokerRequest.value ∧ b.nodeType.eqInt t.value)

instance (s : Broker J) (b : BundleObj) (t : NodeType) : Decidable (s.Records b t) :=
  inferInstanceAs (Decidable (_ ∨ _))

/-- The keys of `discovered_nodes` are the four roles, in the order `__init__` wrote them. -/
def Keyed (s : Broker J) : Prop := s.discoveredNodes.map (·.1) = discoveryRoles

theorem lookup_map_update (ds : List (NodeType × Finset EID)) (t₀ t : NodeType)
    (g : Finset EID → Finset EID) :
    (ds.map fun p => if p.1 = t₀ then (p.1, g p.2) else p).lookup t =
      (ds.lookup t).map (if t = t₀ then g else id) := by
  induction ds with
  | nil => rfl
  | cons p ds ih =>
    obtain ⟨t₁, x⟩ := p
    have hhead : (if t₁ = t₀ then (t₁, g x) else (t₁, x)) = (t₁, if t₁ = t₀ then g x else x) := by
      split_ifs <;> rfl
    simp only [List.map_cons, hhead, List.lookup_cons]
    by_cases h : t = t₁
    · subst h; by_cases h₀ : t = t₀ <;> simp [h₀]
    · simp [beq_false_of_ne h, ih]

theorem lookup_of_keyed (hk : s.Keyed) (t : NodeType) :
    s.discoveredNodes.lookup t = some (s.nodes t) := by
  have hmem : t ∈ s.discoveredNodes.map (·.1) := by rw [hk]; cases t <;> decide
  obtain ⟨p, hp, rfl⟩ := List.mem_map.mp hmem
  obtain ⟨x, hx⟩ := Option.isSome_iff_exists.mp
    (List.lookup_isSome_iff.mpr ⟨p, hp, beq_self_eq_true _⟩)
  simp [nodes, hx]

theorem findKey_of_eqInt (hk : s.Keyed) {key : Value} {t : NodeType} (h : key.eqInt t.value) :
    findKey s.discoveredNodes key = .ok t := by
  have hP : (fun t' : NodeType => key.eqInt t'.value) = fun t' => decide (t.value = t'.value) :=
    funext (Value.eqInt_of_eqInt h ·.value)
  have hk' : s.discoveredNodes.map (·.1) = discoveryRoles := hk
  simp only [findKey, Value.hashable_of_eqInt h, Bool.not_true, Bool.false_eq_true, if_false, hk',
    hP]
  cases t <;> rfl

theorem findKey_of_not_eqInt (hk : s.Keyed) (key : Value) (h : ∀ t : NodeType, ¬ key.eqInt t.value) :
    ∃ e, findKey s.discoveredNodes key = .error e := by
  unfold findKey
  split
  · exact ⟨_, rfl⟩
  · have hk' : s.discoveredNodes.map (·.1) = discoveryRoles := hk
    rw [hk', List.find?_eq_none.mpr fun t _ => h t]
    exact ⟨_, rfl⟩

theorem nodes_addAt (hk : s.Keyed) (key : Value) (e : EID) (t : NodeType) :
    (s.addAt key e).nodes t = if key.eqInt t.value then insert e (s.nodes t) else s.nodes t := by
  by_cases hex : ∃ t₀ : NodeType, key.eqInt t₀.value
  · obtain ⟨t₀, h₀⟩ := hex
    have ht : key.eqInt t.value = decide (t₀ = t) := by
      rw [Value.eqInt_of_eqInt h₀, decide_eq_decide, NodeType.value_inj]
    have hnodes : (s.addAt key e).nodes t =
        ((s.discoveredNodes.lookup t).map (if t = t₀ then insert e else id)).getD ∅ := by
      simp only [addAt, addNode, findKey_of_eqInt hk h₀, Except.map, nodes, lookup_map_update]
    rw [hnodes, lookup_of_keyed hk, ht]
    by_cases h : t₀ = t
    · subst h; simp
    · simp [h, Ne.symm h]
  · push_neg at hex
    obtain ⟨err, herr⟩ := findKey_of_not_eqInt hk key (fun t ht => by simp_all)
    simp [addAt, addNode, herr, Except.map, hex t]

theorem addAt_eq (s : Broker J) (key : Value) (e : EID) :
    ∃ ds, s.addAt key e = { s with discoveredNodes := ds } ∧ ds.map (·.1) = s.discoveredNodes.map (·.1) := by
  unfold addAt addNode
  cases findKey s.discoveredNodes key with
  | error => exact ⟨_, rfl, rfl⟩
  | ok t =>
    refine ⟨_, rfl, ?_⟩
    simp only [List.map_map]
    exact List.map_congr_left fun p _ => by by_cases h : p.1 = t <;> simp [h]

/-- `_handle_bundle` changes only `discovered_nodes`, and keeps its keys. -/
theorem record_eq (s : Broker J) (b : BundleObj) :
    ∃ ds, s.record b = { s with discoveredNodes := ds } ∧
      ds.map (·.1) = s.discoveredNodes.map (·.1) := by
  unfold record
  split_ifs
  all_goals first | exact addAt_eq _ _ _ | exact ⟨_, rfl, rfl⟩

@[simp] theorem record_nodeId : (s.record b).nodeId = s.nodeId := by
  obtain ⟨ds, h, -⟩ := record_eq s b; rw [h]

@[simp] theorem record_nodeType : (s.record b).nodeType = s.nodeType := by
  obtain ⟨ds, h, -⟩ := record_eq s b; rw [h]

@[simp] theorem record_completedJobs : (s.record b).completedJobs = s.completedJobs := by
  obtain ⟨ds, h, -⟩ := record_eq s b; rw [h]

@[simp] theorem record_queuedJobs : (s.record b).queuedJobs = s.queuedJobs := by
  obtain ⟨ds, h, -⟩ := record_eq s b; rw [h]

theorem keys_record : (s.record b).discoveredNodes.map (·.1) = s.discoveredNodes.map (·.1) := by
  obtain ⟨ds, h, hk⟩ := record_eq s b; rw [h, hk]

theorem Keyed.record (hk : s.Keyed) : (s.record b).Keyed := keys_record.trans hk

theorem records_record {b' : BundleObj} {t : NodeType} :
    (s.record b').Records b t ↔ s.Records b t := by
  simp [Records]

/-- What one bundle does to a role's set. -/
theorem nodes_record (hk : s.Keyed) (t : NodeType) :
    (s.record b).nodes t = if s.Records b t then insert b.source (s.nodes t) else s.nodes t := by
  have h12 : b.type.eqInt BundleType.brokerAnnounce.value →
      b.type.eqInt BundleType.brokerRequest.value = false := fun h => by
    rw [Value.eqInt_of_eqInt h]; decide
  unfold record Records
  split_ifs <;> simp_all [nodes_addAt, NodeType.value_inj]
  exact fun h => absurd h.symm ‹_›

/-! ### Sequences of bundles -/

theorem Keyed.foldl_record (hk : s.Keyed) (bs : List BundleObj) :
    (bs.foldl Broker.record s).Keyed := by
  induction bs generalizing s with
  | nil => exact hk
  | cons b bs ih => exact ih hk.record

@[simp] theorem foldl_record_nodeId (bs : List BundleObj) : (bs.foldl record s).nodeId = s.nodeId := by
  induction bs generalizing s with
  | nil => rfl
  | cons b bs ih => simp [ih]

/-- A source is in a role's set after a sequence exactly when it was before or a bundle of
the sequence recorded it there. -/
theorem mem_nodes_foldl_record (hk : s.Keyed) (bs : List BundleObj) (t : NodeType) (e : EID) :
    e ∈ (bs.foldl record s).nodes t ↔ e ∈ s.nodes t ∨ ∃ b ∈ bs, s.Records b t ∧ b.source = e := by
  induction bs generalizing s with
  | nil => simp
  | cons b bs ih =>
    rw [List.foldl_cons, ih hk.record, nodes_record hk]
    simp only [records_record, List.mem_cons, exists_eq_or_imp]
    split_ifs with h
    · rw [Finset.mem_insert, or_assoc, or_left_comm]
      simp only [h, true_and, @eq_comm _ b.source e]
    · simp only [h, false_and, false_or]

variable (jobsBytes : Finset J → List J → List UInt8)

/-- Handling a sequence one bundle after another records each bundle in turn. -/
theorem handleEach_fst (s : Broker J) (bs : List BundleObj) :
    (s.handleEach jobsBytes bs).1 = bs.foldl record s := by
  induction bs generalizing s with
  | nil => rfl
  | cons b bs ih => simp only [handleEach, ih, handleBundle_fst, List.foldl_cons]

/-- From a freshly constructed broker, over any sequence of bundles: `discovered_nodes`
keeps exactly the four roles as keys, and a source is in a role's set exactly when a
handled request from it declared that role, or the role is `BROKER` and a handled
announcement came from it and it is not the broker itself. -/
theorem discovered_nodes_of_handleEach (nodeId : EID) (bs : List BundleObj) :
    (((init nodeId : Broker J).handleEach jobsBytes bs).1.discoveredNodes.map (·.1) =
      discoveryRoles) ∧
    ∀ t e, e ∈ ((init nodeId : Broker J).handleEach jobsBytes bs).1.nodes t ↔
      ∃ b ∈ bs, b.source = e ∧
        ((b.type.eqInt BundleType.brokerRequest.value ∧ b.nodeType.eqInt t.value) ∨
          (t = .broker ∧ b.type.eqInt BundleType.brokerAnnounce.value ∧ e ≠ nodeId)) := by
  have hk : (init nodeId : Broker J).Keyed := rfl
  rw [handleEach_fst]
  refine ⟨hk.foldl_record bs, fun t e => ?_⟩
  rw [mem_nodes_foldl_record hk]
  have hinit : (init nodeId : Broker J).nodes t = ∅ := by cases t <;> rfl
  simp only [hinit, Finset.not_mem_empty, false_or, Records]
  constructor
  · rintro ⟨b, hb, hr, rfl⟩
    exact ⟨b, hb, rfl, hr.symm.imp_right fun ⟨ha, hne, ht⟩ => ⟨ht, ha, hne⟩⟩
  · rintro ⟨b, hb, rfl, hr⟩
    exact ⟨b, hb, hr.symm.imp_left fun ⟨ht, ha, hne⟩ => ⟨ha, hne, ht⟩, rfl⟩

/-- An announcement is recorded under `BROKER` whatever role it declares: a fresh broker that
handles a valid announcement declaring `EXECUTOR` lists its source as a broker. -/
theorem announcement_recorded_as_broker :
    BundleObj.postInit (BundleFields.toObj
      { type := .brokerAnnounce, source := ⟨"dtn://exec/"⟩, destination := ⟨"dtn://broker/"⟩,
        nodeType := some .executor }) = .ok () ∧
    ((init ⟨"dtn://broker/"⟩ : Broker Unit).handleEach (fun _ _ => [])
      [BundleFields.toObj
        { type := .brokerAnnounce, source := ⟨"dtn://exec/"⟩, destination := ⟨"dtn://broker/"⟩,
          nodeType := some .executor }]).1.nodes .broker = {⟨"dtn://exec/"⟩} := by
  decide

/-! ### Replies -/

theorem handleDiscovery_snd (s : Broker J) (b : BundleObj) :
    (s.handleDiscovery b).2 =
      if b.type.eqInt BundleType.brokerAnnounce.value then
        if b.source ≠ s.nodeId then
          (findKey s.discoveredNodes (.int NodeType.broker.value)).map fun _ => none
        else .ok none
      else if b.type.eqInt BundleType.brokerRequest.value then
        (findKey s.discoveredNodes b.nodeType).bind fun _ => (BundleData.new (s.ackFields b)).map some
      else .ok none := by
  unfold handleDiscovery addNode
  split_ifs <;> first | rfl | (cases findKey s.discoveredNodes _ <;> rfl)

theorem handleBundle_snd (s : Broker J) (b : BundleObj) :
    (s.handleBundle jobsBytes b).2 =
      if b.type.eqInt BundleType.jobQuery.value then (s.handleJobQuery jobsBytes b).map some
      else
        match b.type.between BundleType.brokerAnnounce.value BundleType.brokerAck.value with
        | .ok true => (s.handleDiscovery b).2
        | .ok false => .ok none
        | .error e => .error e := by
  unfold handleBundle
  split_ifs
  · rfl
  · cases b.type.between BundleType.brokerAnnounce.value BundleType.brokerAck.value with
    | ok c => cases c <;> rfl
    | error e => rfl

theorem foldl_record_eq (s : Broker J) (bs : List BundleObj) :
    ∃ ds, bs.foldl record s = { s with discoveredNodes := ds } := by
  induction bs generalizing s with
  | nil => exact ⟨_, rfl⟩
  | cons b bs ih =>
    obtain ⟨ds, h⟩ := ih (s.record b)
    obtain ⟨ds', h', -⟩ := record_eq s b
    exact ⟨ds, by rw [List.foldl_cons, h, h']⟩

/-- The batch loop leaves the state its handled bundles left. -/
theorem handleBatch_fst (s : Broker J) (bs : List BundleObj) :
    ∃ pre, pre <+: bs ∧ (s.handleBatch jobsBytes bs).1 = pre.foldl record s := by
  induction bs generalizing s with
  | nil => exact ⟨[], List.prefix_refl _, rfl⟩
  | cons b bs ih =>
    have h₁ := handleBundle_fst jobsBytes s b
    obtain ⟨pre, hpre, h₂⟩ := ih (s.record b)
    rcases hb : s.handleBundle jobsBytes b with ⟨s', _ | r⟩
    · rw [hb] at h₁
      exact ⟨[b], List.cons_prefix_cons.mpr ⟨rfl, List.nil_prefix⟩, by simp [handleBatch, hb, h₁]⟩
    · rw [hb] at h₁
      subst h₁
      refine ⟨b :: pre, List.cons_prefix_cons.mpr ⟨rfl, hpre⟩, ?_⟩
      simp only [handleBatch, hb, List.foldl_cons]
      split <;> simp_all

/-- A pass of `_handle_bundles` leaves the state its handled bundles left, each of them a
retrieved bundle. -/
theorem handleBundles_fst (s : Broker J) (fetched : Except PyError (List BundleObj)) :
    ∃ pre : List BundleObj, (∀ b ∈ pre, ∃ bs, fetched = .ok bs ∧ b ∈ bs) ∧
      (s.handleBundles jobsBytes fetched).1 = pre.foldl record s := by
  rcases fetched with e | bs
  · exact ⟨[], nofun, rfl⟩
  · obtain ⟨pre, hpre, h⟩ := handleBatch_fst jobsBytes s bs
    by_cases hb : bs.isEmpty
    · exact ⟨[], nofun, by simp [handleBundles, hb]⟩
    · exact ⟨pre, fun b h => ⟨bs, rfl, hpre.subset h⟩, by simp [handleBundles, hb, h]⟩

/-- The states a broker reaches: `__init__`, then passes of the `_handle_bundles` loop over
what `_get_new_bundles` returned, each retrieved bundle having passed `BundleData`'s checks. -/
inductive Reachable : Broker J → Prop
  | init (nodeId : EID) : Reachable (init nodeId)
  | cycle {s : Broker J} {fetched : Except PyError (List BundleObj)} : Reachable s →
      (∀ bs, fetched = .ok bs → ∀ b ∈ bs, b.postInit = .ok ()) →
      Reachable (s.handleBundles jobsBytes fetched).1

/-- What every reachable state keeps from `__init__`: the four roles as the keys of
`discovered_nodes`, the broker role, and no jobs. -/
structure Invariant (s : Broker J) : Prop where
  keyed : s.Keyed
  nodeType : s.nodeType = .broker
  completedJobs : s.completedJobs = ∅
  queuedJobs : s.queuedJobs = []

theorem Invariant.foldl_record (hi : s.Invariant) (bs : List BundleObj) :
    (bs.foldl Broker.record s).Invariant := by
  obtain ⟨ds, h⟩ := foldl_record_eq s bs
  have hk := hi.keyed.foldl_record bs
  rw [h] at hk ⊢
  exact ⟨hk, hi.nodeType, hi.completedJobs, hi.queuedJobs⟩

theorem Reachable.invariant (hs : Reachable jobsBytes s) : s.Invariant := by
  induction hs with
  | init nodeId => exact ⟨rfl, rfl, rfl, rfl⟩
  | cycle _ _ hi =>
    obtain ⟨pre, -, h⟩ := handleBundles_fst jobsBytes _ _
    rw [h]
    exact hi.foldl_record pre

/-! ### The order of bundles -/

/-- With the four roles as keys, `discovered_nodes` is determined by the roles' sets. -/
theorem discoveredNodes_eq (hk : s.Keyed) :
    s.discoveredNodes = discoveryRoles.map fun t => (t, s.nodes t) := by
  obtain ⟨nodeId, nodeType, cj, qj, ds⟩ := s
  have hk' : ds.map (·.1) = discoveryRoles := hk
  rcases ds with _ | ⟨⟨t₁, x₁⟩, _ | ⟨⟨t₂, x₂⟩, _ | ⟨⟨t₃, x₃⟩, _ | ⟨⟨t₄, x₄⟩, _ | ⟨p, ds⟩⟩⟩⟩⟩ <;>
    simp [discoveryRoles] at hk'
  obtain ⟨rfl, rfl, rfl, rfl⟩ := hk'
  rfl

/-- Handling bundles one after another gives a state that depends only on which bundles were
handled. -/
theorem foldl_record_congr (hk : s.Keyed) {bs bs' : List BundleObj}
    (hset : ∀ b, b ∈ bs ↔ b ∈ bs') : bs.foldl Broker.record s = bs'.foldl Broker.record s := by
  have hnodes : ∀ t, (bs.foldl record s).nodes t = (bs'.foldl record s).nodes t := fun t => by
    ext e
    simp only [mem_nodes_foldl_record hk, hset]
  have hds : (bs.foldl record s).discoveredNodes = (bs'.foldl record s).discoveredNodes := by
    rw [discoveredNodes_eq (hk.foldl_record bs), discoveredNodes_eq (hk.foldl_record bs'),
      funext hnodes]
  obtain ⟨ds, h⟩ := foldl_record_eq s bs
  obtain ⟨ds', h'⟩ := foldl_record_eq s bs'
  rw [h, h'] at hds ⊢
  simp only at hds
  rw [hds]

end Broker

end RecDtn
