import RecDtn.Messages.Bundle
import Mathlib.Data.Finset.Insert

/-!
# The broker

`rec.dtn.broker.Broker`: the state `__init__` sets up, and what one call of
`_handle_bundle` does to it and returns. A call takes the bundle as the program holds it
(a `BundleObj`, as `BundleData.from_dict` decoded it), may change the state, and returns a
reply bundle, none, or an exception; a change made before the exception is kept.

The broker's three tasks are cooperatively scheduled. The announcer and the job scheduler
do not touch the state, so the state changes only through `_handle_bundle`, one bundle at a
time. `_handle_discovery` takes the writer lock a second time for a request while holding it;
the lock of `rec.dtn.node` is reentrant for the task that holds it (as `aiorwlock`'s is), so
the nested acquisition neither blocks nor raises.
-/

namespace RecDtn

/-- The keys `Broker.__init__` gives `discovered_nodes`, in order. -/
def discoveryRoles : List NodeType := [.broker, .client, .executor, .datastore]

/-- A broker's state. The elements of `completed_jobs` and `queued_jobs` are `JobInfo`s of
`rec.dtn.job`, which is not among the sources, so their type is a parameter. The queue is
listed from its front, and `discovered_nodes` is a dict in insertion order. -/
structure Broker (J : Type) where
  nodeId : EID
  nodeType : NodeType
  completedJobs : Finset J
  queuedJobs : List J
  discoveredNodes : List (NodeType × Finset EID)

namespace Broker

variable {J : Type}

/-- `Broker.__init__`: the node is a broker, with no jobs and no discovered nodes. -/
def init (nodeId : EID) : Broker J where
  nodeId := nodeId
  nodeType := .broker
  completedJobs := ∅
  queuedJobs := []
  discoveredNodes := discoveryRoles.map (·, ∅)

/-- `self.discovered_nodes[t]` for a role `t`, empty if there is no such key. -/
def nodes (s : Broker J) (t : NodeType) : Finset EID :=
  (s.discoveredNodes.lookup t).getD ∅

end Broker

/-- The key `discovered_nodes[key]` finds for a decoded `key`: the role `key` equals.
An unhashable key raises `TypeError`, a key equal to no role `KeyError`. -/
def findKey (ds : List (NodeType × Finset EID)) (key : Value) : Except PyError NodeType :=
  if !key.hashable then .error (.typeError (.unhashable key))
  else
    match (ds.map (·.1)).find? fun t => key.eqInt t.value with
    | some t => .ok t
    | none => .error (.keyError key)

/-- `discovered_nodes[key].add(e)`: the set under the key `key` finds gains `e`. -/
def addNode (ds : List (NodeType × Finset EID)) (key : Value) (e : EID) :
    Except PyError (List (NodeType × Finset EID)) :=
  (findKey ds key).map fun t => ds.map fun p => if p.1 = t then (p.1, insert e p.2) else p

namespace Broker

variable {J : Type}

/-- The acknowledgement `_handle_discovery` builds for a request `b`. -/
def ackFields (s : Broker J) (b : BundleObj) : BundleFields where
  type := .brokerAck
  source := s.nodeId
  destination := b.source
  nodeType := some s.nodeType

/-- `_handle_discovery`: an announcement from another broker is recorded under `BROKER`; a
request is recorded under its declared role and acknowledged; any other type is ignored. -/
def handleDiscovery (s : Broker J) (b : BundleObj) :
    Broker J × Except PyError (Option BundleData) :=
  if b.type.eqInt BundleType.brokerAnnounce.value then
    if b.source ≠ s.nodeId then
      match addNode s.discoveredNodes (.int NodeType.broker.value) b.source with
      | .ok ds => ({ s with discoveredNodes := ds }, .ok none)
      | .error e => (s, .error e)
    else (s, .ok none)
  else if b.type.eqInt BundleType.brokerRequest.value then
    match addNode s.discoveredNodes b.nodeType b.source with
    | .ok ds => ({ s with discoveredNodes := ds }, (BundleData.new (s.ackFields b)).map some)
    | .error e => (s, .error e)
  else (s, .ok none)

section Handlers

variable (jobsBytes : Finset J → List J → List UInt8)

/-- The job list `_handle_job_query` builds for a query `b`. Its payload is `msgpack.packb`
of the job lists `dictify_job_infos` writes; `rec.dtn.job` is not among the sources, so
`jobsBytes` stands for it. -/
def jobListFields (s : Broker J) (b : BundleObj) : BundleFields where
  type := .jobList
  source := s.nodeId
  destination := b.source
  submitter := b.submitter
  payload := jobsBytes s.completedJobs s.queuedJobs

/-- `_handle_job_query`: the job lists, to the querier, for its submitter. -/
def handleJobQuery (s : Broker J) (b : BundleObj) : Except PyError BundleData :=
  BundleData.new (s.jobListFields jobsBytes b)

/-- `_handle_bundle`: a job query is answered, a discovery bundle handled, anything else
ignored. -/
def handleBundle (s : Broker J) (b : BundleObj) : Broker J × Except PyError (Option BundleData) :=
  if b.type.eqInt BundleType.jobQuery.value then (s, (s.handleJobQuery jobsBytes b).map some)
  else
    match b.type.between BundleType.brokerAnnounce.value BundleType.brokerAck.value with
    | .ok true => s.handleDiscovery b
    | .ok false => (s, .ok none)
    | .error e => (s, .error e)

/-- `_handle_bundle` called on each bundle in turn, whatever the earlier calls raised: the
state after the last call, and each call's outcome. No caller in the source does this: the pass
of `_handle_bundles` (`handleBatch`) stops at the first exception, so the state it leaves is
the one this gives on the prefix of the batch handled up to that exception. -/
def handleEach (s : Broker J) : List BundleObj → Broker J × List (Except PyError (Option BundleData))
  | [] => (s, [])
  | b :: bs =>
    let r := s.handleBundle jobsBytes b
    let rs := r.1.handleEach bs
    (rs.1, r.2 :: rs.2)

/-- The `for bundle in bundles` loop of `_handle_bundles`: each bundle handled in order and
its reply collected; an exception ends the loop, with the state the handled bundles left. -/
def handleBatch (s : Broker J) : List BundleObj → Broker J × Except PyError (List BundleData)
  | [] => (s, .ok [])
  | b :: bs =>
    match s.handleBundle jobsBytes b with
    | (s', .error e) => (s', .error e)
    | (s', .ok r) =>
      match s'.handleBatch bs with
      | (s'', .ok rs) => (s'', .ok (r.toList ++ rs))
      | (s'', .error e) => (s'', .error e)

/-- One pass of the `_handle_bundles` loop, given what `_get_new_bundles` returned: the
state it leaves, and the batch it hands to `_send_and_check` if it calls it. An exception of
the pass is caught and logged; the pass then sends nothing. -/
def handleBundles (s : Broker J) (fetched : Except PyError (List BundleObj)) :
    Broker J × Except PyError (Option (List BundleData)) :=
  match fetched with
  | .error e => (s, .error e)
  | .ok bs =>
    if bs.isEmpty then (s, .ok none)
    else
      let r := s.handleBatch jobsBytes bs
      (r.1, r.2.map fun rs => if rs.isEmpty then none else some rs)

/-- The `while True` loop of `_handle_bundles`, over what its calls of `_get_new_bundles`
returned, in order: the state after the last pass, and each pass's outcome, the batch it
hands to `_send_and_check` or the exception it caught and logged. -/
def handleBundlesLoop (s : Broker J) :
    List (Except PyError (List BundleObj)) →
      Broker J × List (Except PyError (Option (List BundleData)))
  | [] => (s, [])
  | fetched :: rest =>
    let r := s.handleBundles jobsBytes fetched
    let rs := r.1.handleBundlesLoop rest
    (rs.1, r.2 :: rs.2)

end Handlers

/-- The bundle `_announce_yourself` sends every interval. `BROADCAST_ADDRESS` is a constant
of `rec.dtn.eid`, which is not among the sources, so it is a parameter. -/
def announcement (broadcast : EID) (s : Broker J) : Except PyError BundleData :=
  BundleData.new
    { type := .brokerAnnounce, nodeType := some .broker, source := s.nodeId,
      destination := broadcast }

end Broker

end RecDtn
