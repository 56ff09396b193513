import RecDtn.Python.Ops

/-!
# Endpoint identifiers and tags

The vocabulary of `rec.dtn.messages`: endpoint identifiers, and the integer enumerations
`NodeType`, `MessageType` and `BundleType`. An `IntEnum` member is an `int`, so every
comparison the code makes against one is a comparison with its value.
-/

namespace RecDtn

/-! ### Endpoint identifiers -/

/-- Modelled from the spec: an endpoint identifier of `rec.dtn.eid` (the module is not
among the sources). `msgpack.packb` writes one as a string, so the class is a `str`
subclass; an identifier is its normalized text, such as `dtn://node/service`, and equality
is equality of texts. -/
structure EID where
  text : String
  deriving DecidableEq, Repr

namespace EID

/-- Modelled from the spec: the null endpoint `dtn:none`. -/
def none : EID := ⟨"dtn:none"⟩

/-- Modelled from the spec: Python truthiness of an endpoint. The empty text and the null
endpoint are falsy (`Register` reports a falsy endpoint as "EndpointID must not be
dtn:none"); every other identifier is truthy. -/
def truthy (e : EID) : Bool := e.text != "" && e != none

theorem text_ne_empty_of_truthy {e : EID} (h : e.truthy) : e.text ≠ "" := by
  simp only [truthy, Bool.and_eq_true, bne_iff_ne] at h
  exact h.1

end EID

/-- `EID(value)`, as `BundleData.from_dict` applies it to a decoded address. The
constructor is in `rec.dtn.eid`, which is not among the sources, so it is a parameter:
`ofValue v` is the identifier `EID(v)` returns, `none` where it raises. Its one law is
the spec's "equality by normalized textual value": the text of an identifier reads back
as that identifier. -/
structure EidCtor where
  ofValue : Value → Option EID
  ofValue_text : ∀ e : EID, ofValue (.str e.text) = some e

namespace EidCtor

/-- `EID(v)` raising `PyError.eidError v` where it fails. -/
def apply (E : EidCtor) (v : Value) : Except PyError EID :=
  match E.ofValue v with
  | some e => .ok e
  | none => .error (.eidError v)

@[simp] theorem apply_text (E : EidCtor) (e : EID) : E.apply (.str e.text) = .ok e := by
  simp [apply, E.ofValue_text]

theorem raisesOnly_apply (E : EidCtor) {p : PyError → Prop} {v : Value} (h : p (.eidError v)) :
    RaisesOnly p (E.apply v) := by
  unfold apply
  split
  · trivial
  · exact h

/-- A constructor that takes every string as it is and rejects every other value; any
constructor with the law serves the results, this one lets them be evaluated. -/
def verbatim : EidCtor where
  ofValue
    | .str s => some ⟨s⟩
    | _ => Option.none
  ofValue_text _ := rfl

end EidCtor

/-! ### Tags -/

/-- `NodeType`, the role a node plays. -/
inductive NodeType where
  | broker | executor | datastore | client
  deriving DecidableEq, Repr

/-- The integer value of a `NodeType` member. -/
def NodeType.value : NodeType → Int
  | .broker => 1
  | .executor => 2
  | .datastore => 3
  | .client => 4

/-- `MessageType`, the tag of a message to or from the transport daemon. -/
inductive MessageType where
  | reply | register | fetch | fetchReply | create
  deriving DecidableEq, Repr

/-- The integer value of a `MessageType` member. -/
def MessageType.value : MessageType → Int
  | .reply => 1
  | .register => 2
  | .fetch => 3
  | .fetchReply => 4
  | .create => 5

/-- `BundleType`, grouped into broker discovery (1-10), jobs (11-20) and named data
(21-30). -/
inductive BundleType where
  | brokerAnnounce | brokerRequest | brokerAck
  | jobSubmit | jobResult | jobQuery | jobList
  | ndataPut | ndataGet | ndataDel
  deriving DecidableEq, Repr

/-- The integer value of a `BundleType` member. -/
def BundleType.value : BundleType → Int
  | .brokerAnnounce => 1
  | .brokerRequest => 2
  | .brokerAck => 3
  | .jobSubmit => 11
  | .jobResult => 12
  | .jobQuery => 13
  | .jobList => 14
  | .ndataPut => 21
  | .ndataGet => 22
  | .ndataDel => 23

theorem NodeType.one_le_value (t : NodeType) : 1 ≤ t.value := by cases t <;> decide

theorem NodeType.value_le_four (t : NodeType) : t.value ≤ 4 := by cases t <;> decide

theorem NodeType.value_inj {t t' : NodeType} : t.value = t'.value ↔ t = t' := by
  cases t <;> cases t' <;> decide

namespace BundleType

/-- `BROKER_ANNOUNCE <= type <= BROKER_ACK`: a broker-discovery bundle. -/
def IsDiscovery (t : BundleType) : Prop :=
  brokerAnnounce.value ≤ t.value ∧ t.value ≤ brokerAck.value

/-- `type == JOB_QUERY or type == JOB_LIST`. -/
def IsJobQueryOrList (t : BundleType) : Prop :=
  t.value = jobQuery.value ∨ t.value = jobList.value

/-- `NDATA_PUT <= type <= NDATA_DEL`: a named-data bundle. -/
def IsNamedData (t : BundleType) : Prop :=
  ndataPut.value ≤ t.value ∧ t.value ≤ ndataDel.value

instance (t : BundleType) : Decidable t.IsDiscovery := inferInstanceAs (Decidable (_ ∧ _))

instance (t : BundleType) : Decidable t.IsJobQueryOrList := inferInstanceAs (Decidable (_ ∨ _))

instance (t : BundleType) : Decidable t.IsNamedData := inferInstanceAs (Decidable (_ ∧ _))

end BundleType

namespace MessageType

theorem value_inj {t t' : MessageType} : t.value = t'.value ↔ t = t' := by
  cases t <;> cases t' <;> decide

/-- Every `MessageType` member, in declaration order. -/
def all : List MessageType := [.reply, .register, .fetch, .fetchReply, .create]

/-- The key of `MESSAGE_CONSTRUCTORS` a hashable tag finds: the member it equals, so
`True` finds `REPLY` as `1` does. -/
def ofValue? (tag : Value) : Option MessageType :=
  all.find? fun t => tag.eqInt t.value

@[simp] theorem ofValue?_value (t : MessageType) : ofValue? (.int t.value) = some t := by
  cases t <;> rfl

theorem mem_all (t : MessageType) : t ∈ all := by cases t <;> decide

/-- A tag finds no constructor exactly when it equals no member. -/
theorem ofValue?_eq_none {tag : Value} :
    ofValue? tag = none ↔ ∀ t : MessageType, tag.eqInt t.value = false := by
  simp only [ofValue?, List.find?_eq_none, Bool.not_eq_true]
  exact ⟨fun h t => h t (mem_all t), fun h t _ => h t⟩

/-- A tag equal to a member's value finds that member. -/
theorem ofValue?_of_eqInt {tag : Value} {t : MessageType} (h : tag.eqInt t.value) :
    ofValue? tag = some t := by
  cases t <;> simp [ofValue?, all, List.find?, Value.eqInt_of_eqInt h, value]

/-- The member a tag finds is one it equals. -/
theorem eqInt_of_ofValue? {tag : Value} {t : MessageType} (h : ofValue? tag = some t) :
    tag.eqInt t.value := by
  rw [ofValue?] at h
  have h := List.find?_some h
  exact h

end MessageType

end RecDtn
