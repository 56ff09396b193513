import RecDtn.Python.Value

/-!
# Exceptions and operations

The exceptions raised on the protocol's paths, and the Python operations the protocol
code applies to decoded values: subscripting a dict by a `str` key, iterating, ordering
against an integer, and binding `cls(**data)` to a dataclass `__init__`. Each operation
returns an `Except PyError`, the exception Python raises where it raises one, and every
`TypeError` it raises is raised for its cause (`TypeErrorKind.caused`).
-/

namespace RecDtn

/-- The `TypeError`s of the protocol's paths. -/
inductive TypeErrorKind where
  /-- `v["key"]` on an object that is not a dict. -/
  | notSubscriptable (v : Value)
  /-- `v in d` for a dict `d` and a list or dict `v`: "unhashable type". -/
  | unhashable (v : Value)
  /-- `for x in v` over an object that is not iterable. -/
  | notIterable (v : Value)
  /-- `n <= v`, `v < n` or `v > n` for an integer `n` and a `v` that is not a number. -/
  | notOrderable (v : Value)
  /-- `cls(**data)` with a key that is not a `str`: "keywords must be strings". -/
  | keywordsMustBeStrings
  /-- `cls(**data)` naming an argument bound already: "got multiple values for argument". -/
  | multipleValues (k : String)
  /-- `cls(**data)` naming no field: "got an unexpected keyword argument". -/
  | unexpectedKeyword (k : String)
  /-- `cls(**data)` lacking fields without default: "missing required positional arguments". -/
  | missingArguments (ks : List String)
  deriving DecidableEq, Repr

/-- The condition under which Python raises each `TypeError`, read off its data: the object
subscripted is not a dict, the object hashed is a list or a dict, the object iterated over is
`None`, a `bool`, a number or a `Timestamp`, the object ordered against an integer is
not a number, and of `cls(**data)`: the keyword bound twice is `self` (nothing else is
bound before the keywords), a keyword naming no field is not `self`, and some field is
missing. -/
def TypeErrorKind.caused : TypeErrorKind → Bool
  | .notSubscriptable (.map _) => false
  | .notSubscriptable _ => true
  | .unhashable v => !v.hashable
  | .notIterable .nil | .notIterable (.bool _) | .notIterable (.int _)
  | .notIterable (.float _) | .notIterable (.timestamp _ _) => true
  | .notIterable _ => false
  | .notOrderable v => v.toFloat?.isNone
  | .keywordsMustBeStrings => true
  | .multipleValues k => k == "self"
  | .unexpectedKeyword k => k != "self"
  | .missingArguments ks => !ks.isEmpty

/-- The texts of `InvalidMessageError`. -/
inductive InvalidMessage where
  /-- `f"Message needs MessageType {MessageType.REPLY}, but has {self.type}"`; every
  variant's check names `REPLY`. -/
  | needsType (has : Value)
  /-- "If operation was unsuccessful, there should be an error". -/
  | unsuccessfulWithoutError
  /-- "If operation was successful, there should be no error". -/
  | successfulWithError
  /-- "EndpointID must not be dtn:none". -/
  | endpointNone
  /-- `f"Message type {data_dict["type"]} unknown"`. -/
  | unknownType (tag : Value)
  deriving DecidableEq, Repr

/-- The texts of `InvalidBundleError`. -/
inductive InvalidBundle where
  /-- "Bundles must be sent by someone". -/
  | noSender
  /-- "Bundles must be addressed to someone". -/
  | noAddressee
  /-- "If operation was unsuccessful, there should be an error". -/
  | unsuccessfulWithoutError
  /-- "If operation was successful, there should be no error". -/
  | successfulWithError
  /-- `f"Invalid node type: {self.node_type}"`. -/
  | invalidNodeType (nodeType : Value)
  /-- "Job query/list bundles must have a submitter set". -/
  | noSubmitter
  /-- "Named data bundles need to have a data name set". -/
  | noDataName
  deriving DecidableEq, Repr

/-- An exception raised on the protocol's paths. -/
inductive PyError where
  | invalidMessage (e : InvalidMessage)
  | invalidBundle (e : InvalidBundle)
  | keyError (key : Value)
  | typeError (e : TypeErrorKind)
  /-- `EID(v)` raised: what it raises is the `rec.dtn.eid` module's own. -/
  | eidError (v : Value)
  /-- `msgpack.packb` raised `OverflowError`: "Integer value out of range". -/
  | integerOutOfRange (i : Int)
  /-- `msgpack.packb` raised `ValueError` for a string, byte string or container
  holding more than `2 ^ 32 - 1` bytes or items. -/
  | tooLarge (v : Value)
  /-- `msgpack.packb` raised `ValueError`: "recursion limit exceeded". -/
  | recursionLimitExceeded
  /-- A failure of the socket to the transport daemon. -/
  | io
  deriving DecidableEq, Repr

/-- Outcomes can be compared, so that a run on a fixed input is checked by `decide`. -/
instance decEqExcept {ε α : Type} [DecidableEq ε] [DecidableEq α] : DecidableEq (Except ε α)
  | .ok a, .ok b =>
    if h : a = b then isTrue (h ▸ rfl) else isFalse fun h' => h (Except.ok.inj h')
  | .error e, .error e' =>
    if h : e = e' then isTrue (h ▸ rfl) else isFalse fun h' => h (Except.error.inj h')
  | .ok _, .error _ => isFalse nofun
  | .error _, .ok _ => isFalse nofun

/-! ### The exception monad -/

section ExceptMonad

variable {ε α β : Type} (a : α) (e : ε) (f : α → Except ε β)

@[simp] theorem ok_bind : (Except.ok a >>= f) = f a := rfl

@[simp] theorem error_bind : (Except.error e >>= f) = .error e := rfl

@[simp] theorem pure_eq_ok : (pure a : Except ε α) = .ok a := rfl

@[simp] theorem throw_eq_error : (throw e : Except ε α) = .error e := rfl

/-- A bind succeeds when its first step does and the rest succeeds on that step's result. -/
theorem bind_eq_ok {x : Except ε α} {g : α → Except ε β} {b : β} :
    (x >>= g) = .ok b ↔ ∃ a, x = .ok a ∧ g a = .ok b := by
  cases x <;> simp

/-- A `map` succeeds when its argument does. -/
theorem map_eq_ok {g : α → β} {x : Except ε α} {b : β} :
    x.map g = .ok b ↔ ∃ a, x = .ok a ∧ g a = b := by
  cases x <;> simp [Except.map]

variable {x y : Except ε Unit} {c : Bool}

/-- Two statements in a row succeed when each does. -/
theorem seq_eq_ok : (x >>= fun _ => y) = .ok () ↔ x = .ok () ∧ y = .ok () := by
  cases x <;> simp

theorem unless_eq_ok : (unless c do throw e : Except ε Unit) = .ok () ↔ c = true := by
  cases c <;> simp

end ExceptMonad

/-! ### Which exceptions a computation raises -/

/-- Every exception `x` raises satisfies `p`. -/
def RaisesOnly {ε α : Type} (p : ε → Prop) : Except ε α → Prop
  | .ok _ => True
  | .error e => p e

namespace RaisesOnly

variable {ε α β : Type} {p : ε → Prop} {x : Except ε α}

theorem iff : RaisesOnly p x ↔ ∀ e, x = .error e → p e := by
  cases x <;> simp [RaisesOnly]

theorem pure (a : α) : RaisesOnly p (Pure.pure a : Except ε α) := trivial

theorem error {e : ε} (h : p e) : RaisesOnly p (.error e : Except ε α) := h

theorem bind {f : α → Except ε β} (hx : RaisesOnly p x) (hf : ∀ a, RaisesOnly p (f a)) :
    RaisesOnly p (x >>= f) := by
  cases x
  · exact hx
  · exact hf _

/-- `bind`, where the rest is only considered after the result the first step returns. -/
theorem bind_of_ok {f : α → Except ε β} (hx : RaisesOnly p x)
    (hf : ∀ a, x = .ok a → RaisesOnly p (f a)) : RaisesOnly p (x >>= f) := by
  cases x
  · exact hx
  · exact hf _ rfl

theorem map (g : α → β) (hx : RaisesOnly p x) : RaisesOnly p (g <$> x) := by
  cases x <;> exact hx

theorem ite {c : Prop} [Decidable c] {y : Except ε α} (hx : c → RaisesOnly p x)
    (hy : ¬ c → RaisesOnly p y) : RaisesOnly p (if c then x else y) := by
  split
  · exact hx ‹_›
  · exact hy ‹_›

theorem mapM {l : List α} {f : α → Except ε β} (h : ∀ a ∈ l, RaisesOnly p (f a)) :
    RaisesOnly p (l.mapM f) := by
  induction l with
  | nil => trivial
  | cons a l ih =>
    rw [List.mapM_cons]
    exact .bind (h a (.head _)) fun _ =>
      .bind (ih fun a' ha' => h a' (.tail _ ha')) fun _ => trivial

end RaisesOnly

namespace Value

variable {p : PyError → Prop}

/-! ### Subscripts and iteration -/

/-- The value a dict holds under a `str` key: only a `str` equals a `str`. -/
def dictLookup (kvs : List (Value × Value)) (key : String) : Option Value :=
  (kvs.find? (·.1 == .str key)).map (·.2)

/-- Python `d[key]` for a dict `d` and a `str` key: `KeyError` when no key equals it. -/
def dictGet (kvs : List (Value × Value)) (key : String) : Except PyError Value :=
  match dictLookup kvs key with
  | some w => .ok w
  | none => .error (.keyError (.str key))

/-- Python `key in d` for a dict `d` and a `str` key. -/
def dictHas (kvs : List (Value × Value)) (key : String) : Bool :=
  (dictLookup kvs key).isSome

theorem raisesOnly_dictGet {kvs : List (Value × Value)} {key : String}
    (h : ¬ dictHas kvs key → p (.keyError (.str key))) : RaisesOnly p (dictGet kvs key) := by
  unfold dictGet
  split
  · trivial
  · exact h (by simp [dictHas, *])

/-- A dict the code builds, its keys `str`s, as `msgpack` receives it. -/
def strDict (kws : List (String × Value)) : List (Value × Value) :=
  kws.map fun p => (.str p.1, p.2)

/-- Python `d[key] = v` on a dict with `str` keys: the entry is replaced in place when the
key is present, and appended otherwise. -/
def setItem : List (String × Value) → String → Value → List (String × Value)
  | [], key, v => [(key, v)]
  | p :: kws, key, v => if p.1 = key then (key, v) :: kws else p :: setItem kws key v

@[simp] theorem dictLookup_strDict (kws : List (String × Value)) (key : String) :
    dictLookup (strDict kws) key = kws.lookup key := by
  induction kws with
  | nil => rfl
  | cons p kws ih =>
    obtain ⟨a, w⟩ := p
    by_cases h : key = a
    · simp [dictLookup, strDict, List.lookup_cons, h]
    · have hv : (str a == str key) = false := beq_false_of_ne (by simpa using Ne.symm h)
      simp only [dictLookup, strDict] at ih
      simp only [dictLookup, strDict, List.map_cons, List.find?_cons, List.lookup_cons, hv,
        beq_false_of_ne h, ih]

theorem lookup_setItem (kws : List (String × Value)) (key k : String) (v : Value) :
    (setItem kws key v).lookup k = if k = key then some v else kws.lookup k := by
  induction kws with
  | nil => by_cases h : k = key <;> simp [setItem, List.lookup_cons, h, beq_false_of_ne]
  | cons p kws ih =>
    obtain ⟨a, w⟩ := p
    by_cases hp : a = key
    · subst hp
      by_cases h : k = a <;> simp [setItem, List.lookup_cons, h, beq_false_of_ne]
    · by_cases h : k = a
      · subst h
        simp [setItem, List.lookup_cons, hp]
      · simp [setItem, List.lookup_cons, hp, h, ih, beq_false_of_ne]

/-- A filtering dict comprehension keeps, for each key, the first of its kept entries. -/
theorem lookup_filter_map (fields : List (String × Bool × Value)) (k : String) :
    ((fields.filter (·.2.1)).map fun f => (f.1, f.2.2)).lookup k =
      (fields.find? fun f => f.2.1 && f.1 == k).map (·.2.2) := by
  induction fields with
  | nil => rfl
  | cons f fields ih =>
    obtain ⟨n, t, v⟩ := f
    cases t
    · simpa using ih
    · by_cases h : k = n
      · subst h; simp [List.lookup_cons]
      · simp [List.lookup_cons, beq_false_of_ne h, beq_false_of_ne (Ne.symm h), ih]

theorem keys_setItem (kws : List (String × Value)) (key : String) (v : Value) :
    ∀ k ∈ (setItem kws key v).map (·.1), k = key ∨ k ∈ kws.map (·.1) := by
  induction kws with
  | nil => simp [setItem]
  | cons q kws ih =>
    unfold setItem
    split_ifs
    · simp only [List.map_cons, List.mem_cons]
      rintro k (rfl | hk)
      · exact .inl rfl
      · exact .inr (.inr hk)
    · simp only [List.map_cons, List.mem_cons]
      rintro k (rfl | hk)
      · exact .inr (.inl rfl)
      · exact (ih k hk).imp_right .inr

theorem mem_setItem {kws : List (String × Value)} {key : String} {v : Value}
    {p : String × Value} (h : p ∈ setItem kws key v) : p = (key, v) ∨ p ∈ kws := by
  induction kws with
  | nil => simpa [setItem] using h
  | cons q kws ih =>
    unfold setItem at h
    split_ifs at h
    · rcases List.mem_cons.mp h with rfl | h
      · exact .inl rfl
      · exact .inr (.tail _ h)
    · rcases List.mem_cons.mp h with rfl | h
      · exact .inr (.head _)
      · exact (ih h).imp_right (.tail _)

/-- Python `v[key]` for a `str` key: every decoded object but a dict rejects a `str`
subscript with `TypeError`. -/
def getItem (v : Value) (key : String) : Except PyError Value :=
  match v with
  | .map kvs => dictGet kvs key
  | _ => .error (.typeError (.notSubscriptable v))

/-- The items `for x in v` visits: a list's elements, a dict's keys, a string's
characters, a byte string's integers and an `ExtType`'s two fields. -/
def iter (v : Value) : Except PyError (List Value) :=
  match v with
  | .arr vs => .ok vs
  | .map kvs => .ok (kvs.map (·.1))
  | .str s => .ok (s.toList.map fun c => .str c.toString)
  | .bin bs => .ok (bs.map fun b => .int b.toNat)
  | .ext code data => .ok [.int code, .bin data]
  | _ => .error (.typeError (.notIterable v))

theorem raisesOnly_iter {v : Value} (h : ∀ k, k.caused → p (.typeError k)) :
    RaisesOnly p v.iter := by
  cases v <;> first | trivial | exact h _ rfl

/-! ### Ordering against an integer -/

/-- The ordering of `v` against `n` when `v` is a number, `TypeError` otherwise. -/
def orderInt (v : Value) (n : Int) : Except PyError (Option Ordering) :=
  match v.cmpInt n with
  | some o => .ok o
  | none => .error (.typeError (.notOrderable v))

/-- Python `n <= v`. -/
def intLe (n : Int) (v : Value) : Except PyError Bool :=
  (v.orderInt n).map fun o => o == some .gt || o == some .eq

/-- Python `v <= n`. -/
def leInt (v : Value) (n : Int) : Except PyError Bool :=
  (v.orderInt n).map fun o => o == some .lt || o == some .eq

/-- Python `v < n`. -/
def ltInt (v : Value) (n : Int) : Except PyError Bool :=
  (v.orderInt n).map (· == some .lt)

/-- Python `v > n`. -/
def gtInt (v : Value) (n : Int) : Except PyError Bool :=
  (v.orderInt n).map (· == some .gt)

theorem orderInt_of_eqInt {v : Value} {n : Int} (h : v.eqInt n) (m : Int) :
    v.orderInt m = (int n).orderInt m := by
  unfold orderInt; rw [cmpInt_of_eqInt h, cmpInt_int]

@[simp] theorem orderInt_int (i n : Int) : (int i).orderInt n = .ok (some (intCmp i n)) := by
  simp [orderInt]

@[simp] theorem intLe_int (n i : Int) : intLe n (int i) = .ok (decide (n ≤ i)) := by
  simp [intLe, Except.map, intCmp_beq, le_iff_lt_or_eq, eq_comm]

@[simp] theorem leInt_int (i n : Int) : (int i).leInt n = .ok (decide (i ≤ n)) := by
  simp [leInt, Except.map, intCmp_beq, le_iff_lt_or_eq]

@[simp] theorem ltInt_int (i n : Int) : (int i).ltInt n = .ok (decide (i < n)) := by
  simp [ltInt, Except.map, intCmp_beq]

@[simp] theorem gtInt_int (i n : Int) : (int i).gtInt n = .ok (decide (n < i)) := by
  simp [gtInt, Except.map, intCmp_beq]

theorem raisesOnly_orderInt {v : Value} {n : Int} (h : ∀ k, k.caused → p (.typeError k)) :
    RaisesOnly p (v.orderInt n) := by
  unfold orderInt
  split
  · trivial
  next hc => exact h _ (by simpa [TypeErrorKind.caused, cmpInt] using hc)

end Value

/-! ### Keyword arguments -/

/-- The keyword arguments of `cls(**data)`: CPython rejects a key that is not a `str`
before it binds anything. -/
def kwargs : List (Value × Value) → Except PyError (List (String × Value))
  | [] => .ok []
  | (.str k, v) :: kvs => (kwargs kvs).map ((k, v) :: ·)
  | _ :: _ => .error (.typeError .keywordsMustBeStrings)

/-- The first keyword a dataclass `__init__` with fields `fields` rejects: `self` is bound
already, and every other keyword must name a field. -/
def firstBadKeyword (fields : List String) : List String → Option TypeErrorKind
  | [] => none
  | k :: ks =>
    if k = "self" then some (.multipleValues k)
    else if k ∈ fields then firstBadKeyword fields ks
    else some (.unexpectedKeyword k)

/-- The fields without default that no keyword names, in field order. -/
def missingArgs (params : List (String × Option Value)) (keys : List String) : List String :=
  (params.filter fun p => p.2.isNone && !keys.contains p.1).map (·.1)

/-- The arguments a call binds: each field's keyword argument, or its default. -/
def boundArgs (params : List (String × Option Value)) (kws : List (String × Value))
    (field : String) : Value :=
  match kws.lookup field with
  | some v => v
  | none => ((params.lookup field).join).getD .nil

/-- `cls(**data)` for a dataclass whose `__init__` takes `params`, each field with its
default if it has one. The result gives every field its value; `__post_init__` runs
after this. -/
def bindKwargs (params : List (String × Option Value)) (data : List (Value × Value)) :
    Except PyError (String → Value) := do
  let kws ← kwargs data
  match firstBadKeyword (params.map (·.1)) (kws.map (·.1)) with
  | some e => .error (.typeError e)
  | none =>
    match missingArgs params (kws.map (·.1)) with
    | [] => pure (boundArgs params kws)
    | ms => .error (.typeError (.missingArguments ms))

section Binding

variable {params : List (String × Option Value)} {kws : List (String × Value)}

theorem raisesOnly_kwargs {p : PyError → Prop} (h : ∀ k, k.caused → p (.typeError k))
    (data : List (Value × Value)) : RaisesOnly p (kwargs data) := by
  induction data with
  | nil => trivial
  | cons kv data ih =>
    rcases kv with ⟨k, v⟩
    cases k <;> first | exact h _ rfl | exact .map _ ih

/-- The keyword `__init__` rejects first is rejected for its cause. -/
theorem caused_of_firstBadKeyword {fields ks : List String} {e : TypeErrorKind}
    (h : firstBadKeyword fields ks = some e) : e.caused := by
  induction ks with
  | nil => cases h
  | cons k ks ih =>
    simp only [firstBadKeyword] at h
    split_ifs at h with hself hfield
    · cases h; simp [TypeErrorKind.caused, hself]
    · exact ih h
    · cases h; simp [TypeErrorKind.caused, hself]

/-- `cls(**data)` raises nothing but `TypeError`, each for its cause. -/
theorem raisesOnly_bindKwargs {p : PyError → Prop} (h : ∀ k, k.caused → p (.typeError k))
    (data : List (Value × Value)) : RaisesOnly p (bindKwargs params data) := by
  refine .bind (raisesOnly_kwargs h data) fun kws => ?_
  split
  next e he => exact h e (caused_of_firstBadKeyword he)
  next =>
    split
    · trivial
    next _ hms => exact h _ (by simpa [TypeErrorKind.caused] using hms)

@[simp] theorem kwargs_strDict (kws : List (String × Value)) :
    kwargs (Value.strDict kws) = .ok kws := by
  induction kws with
  | nil => rfl
  | cons p kws ih =>
    show (kwargs (Value.strDict kws)).map (p :: ·) = _
    rw [ih]
    rfl

/-- `cls(**data)` gets past its first step only when every key of `data` is a `str`. -/
theorem eq_strDict_of_kwargs {data : List (Value × Value)} (h : kwargs data = .ok kws) :
    data = Value.strDict kws := by
  induction data generalizing kws with
  | nil => cases h; rfl
  | cons kv data ih =>
    obtain ⟨k, v⟩ := kv
    cases k
    case str k =>
      obtain ⟨kws', hk, rfl⟩ := map_eq_ok.mp h
      rw [ih hk]; rfl
    all_goals cases h

/-- What `cls(**data)` binds to a field the dict holds is the dict's entry. -/
theorem bindKwargs_apply_of_lookup {data : List (Value × Value)} {args : String → Value}
    {key : String} {v : Value} (h : bindKwargs params data = .ok args)
    (hl : Value.dictLookup data key = some v) : args key = v := by
  obtain ⟨kws, hk, h⟩ := bind_eq_ok.mp h
  rw [eq_strDict_of_kwargs hk, Value.dictLookup_strDict] at hl
  split at h
  · cases h
  · split at h
    · cases h; simp [boundArgs, hl]
    · cases h

theorem firstBadKeyword_eq_none {fields ks : List String}
    (h : ∀ k ∈ ks, k ∈ fields ∧ k ≠ "self") : firstBadKeyword fields ks = none := by
  induction ks with
  | nil => rfl
  | cons k ks ih =>
    obtain ⟨hk, hself⟩ := h k (.head _)
    simp only [firstBadKeyword, hself, hk, if_false, if_true]
    exact ih fun k' hk' => h k' (.tail _ hk')

theorem missingArgs_eq_nil {keys : List String}
    (h : ∀ p ∈ params, p.2 = none → p.1 ∈ keys) : missingArgs params keys = [] := by
  simp only [missingArgs, List.map_eq_nil_iff, List.filter_eq_nil_iff]
  intro p hp
  cases hn : p.2 with
  | none => simpa [hn] using h p hp hn
  | some _ => simp

/-- `cls(**data)` on a dict the code built: when every key names a field and every field
without default is named, the call binds each field to its entry or its default. -/
theorem bindKwargs_strDict (hfield : ∀ k ∈ kws.map (·.1), k ∈ params.map (·.1) ∧ k ≠ "self")
    (hreq : ∀ p ∈ params, p.2 = none → (kws.lookup p.1).isSome) :
    bindKwargs params (Value.strDict kws) = .ok (boundArgs params kws) := by
  have hmiss : missingArgs params (kws.map (·.1)) = [] := missingArgs_eq_nil fun p hp hn => by
    obtain ⟨q, hq, hpq⟩ := List.lookup_isSome_iff.mp (hreq p hp hn)
    exact List.mem_map.mpr ⟨q, hq, (beq_iff_eq.mp hpq).symm⟩
  simp only [bindKwargs, kwargs_strDict, ok_bind, firstBadKeyword_eq_none hfield, hmiss]
  rfl

end Binding

end RecDtn
