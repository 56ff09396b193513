import RecDtn.Python.Ops

/-!
# `msgpack.packb`

A byte string is represented by the object it encodes, so `packb` is the identity on every
object it accepts; what is left to model is when it raises. It rejects an integer outside
64 bits, a string, byte string, extension or container longer than `2 ^ 32 - 1` bytes or
items, and nesting deeper than its `nest_limit` of 511. Its fourth error,
`UnicodeEncodeError` for a `str` with a lone surrogate, cannot arise here: such a string
is not a `Value` (see `Value.str`).

`Value.fits` and `Value.depth` state the first two and the third, and `pack_eq_ok_iff`
says that they are exactly what `packb` checks.
-/

namespace RecDtn

/-- The largest length `msgpack` encodes, `2 ^ 32 - 1` bytes or items. -/
def itemLimit : Nat := 2 ^ 32 - 1

namespace Value

mutual
/-- The checks `msgpack.packb` makes while it encodes `v` with `nest_limit`: integers fit
64 bits, lengths fit `itemLimit`, and nesting stays within the limit. -/
def pack (limit : Int) : Value → Except PyError Unit
  | .int i =>
    if limit < 0 then throw .recursionLimitExceeded
    else if -2 ^ 63 ≤ i ∧ i ≤ 2 ^ 64 - 1 then pure () else throw (.integerOutOfRange i)
  | v@(.str s) =>
    if limit < 0 then throw .recursionLimitExceeded
    else if s.utf8ByteSize ≤ itemLimit then pure () else throw (.tooLarge v)
  | v@(.bin bs) =>
    if limit < 0 then throw .recursionLimitExceeded
    else if bs.length ≤ itemLimit then pure () else throw (.tooLarge v)
  | v@(.ext _ data) =>
    if limit < 0 then throw .recursionLimitExceeded
    else if data.length ≤ itemLimit then pure () else throw (.tooLarge v)
  | v@(.arr vs) =>
    if limit < 0 then throw .recursionLimitExceeded
    else if vs.length ≤ itemLimit then packList (limit - 1) vs else throw (.tooLarge v)
  | v@(.map kvs) =>
    if limit < 0 then throw .recursionLimitExceeded
    else if kvs.length ≤ itemLimit then packMap (limit - 1) kvs else throw (.tooLarge v)
  | _ => if limit < 0 then throw .recursionLimitExceeded else pure ()

/-- `pack` on the items of a list. -/
def packList (limit : Int) : List Value → Except PyError Unit
  | [] => pure ()
  | v :: vs => do pack limit v; packList limit vs

/-- `pack` on the keys and values of a dict. -/
def packMap (limit : Int) : List (Value × Value) → Except PyError Unit
  | [] => pure ()
  | (k, v) :: kvs => do pack limit k; pack limit v; packMap limit kvs
end

mutual
/-- Every integer of `v` fits 64 bits, and every string, byte string, extension and
container in it holds at most `itemLimit` bytes or items. -/
def fits : Value → Bool
  | .int i => decide (-2 ^ 63 ≤ i ∧ i ≤ 2 ^ 64 - 1)
  | .str s => decide (s.utf8ByteSize ≤ itemLimit)
  | .bin bs => decide (bs.length ≤ itemLimit)
  | .ext _ data => decide (data.length ≤ itemLimit)
  | .arr vs => decide (vs.length ≤ itemLimit) && fitsList vs
  | .map kvs => decide (kvs.length ≤ itemLimit) && fitsMap kvs
  | _ => true

/-- `fits` on the items of a list. -/
def fitsList : List Value → Bool
  | [] => true
  | v :: vs => fits v && fitsList vs

/-- `fits` on the keys and values of a dict. -/
def fitsMap : List (Value × Value) → Bool
  | [] => true
  | (k, v) :: kvs => fits k && fits v && fitsMap kvs
end

mutual
/-- How deeply containers nest in `v`: a scalar and an empty container have depth `0`. -/
def depth : Value → Nat
  | .arr vs => depthList vs
  | .map kvs => depthMap kvs
  | _ => 0

/-- One more than the deepest item of a list. -/
def depthList : List Value → Nat
  | [] => 0
  | v :: vs => max (depth v + 1) (depthList vs)

/-- One more than the deepest key or value of a dict. -/
def depthMap : List (Value × Value) → Nat
  | [] => 0
  | (k, v) :: kvs => max (max (depth k + 1) (depth v + 1)) (depthMap kvs)
end

theorem depthList_le_iff (vs : List Value) {n : Int} (hn : 0 ≤ n) :
    (depthList vs : Int) ≤ n ↔ ∀ v ∈ vs, (v.depth : Int) ≤ n - 1 := by
  induction vs with
  | nil => simp [depthList, hn]
  | cons v vs ih =>
    simp only [depthList, List.mem_cons, forall_eq_or_imp, ← ih]
    omega

theorem depthMap_le_iff (kvs : List (Value × Value)) {n : Int} (hn : 0 ≤ n) :
    (depthMap kvs : Int) ≤ n ↔
      ∀ p ∈ kvs, (p.1.depth : Int) ≤ n - 1 ∧ (p.2.depth : Int) ≤ n - 1 := by
  induction kvs with
  | nil => simp [depthMap, hn]
  | cons p kvs ih =>
    simp only [depthMap, List.mem_cons, forall_eq_or_imp, ← ih]
    omega

theorem depthList_le {vs : List Value} {n : Nat} (h : ∀ v ∈ vs, v.depth ≤ n) :
    depthList vs ≤ n + 1 := by
  induction vs with
  | nil => simp [depthList]
  | cons v vs ih =>
    simp only [List.forall_mem_cons] at h
    have := ih h.2
    simp only [depthList]
    omega

theorem depthMap_strDict_le {kws : List (String × Value)} {n : Nat}
    (h : ∀ p ∈ kws, p.2.depth ≤ n) : depthMap (strDict kws) ≤ n + 1 := by
  induction kws with
  | nil => simp [strDict, depthMap]
  | cons p kws ih =>
    simp only [List.forall_mem_cons] at h
    have := ih h.2
    simp only [strDict, List.map_cons, depthMap] at this ⊢
    have h0 : (str p.1).depth = 0 := rfl
    omega

mutual
/-- `packb` accepts exactly the objects that fit and nest within its limit. -/
theorem pack_eq_ok_iff (limit : Int) (v : Value) :
    v.pack limit = .ok () ↔ v.fits ∧ (v.depth : Int) ≤ limit := by
  cases v with
  | arr vs =>
    simp only [pack, fits, depth, Bool.and_eq_true, decide_eq_true_eq]
    split_ifs with h₁ h₂
    · simp only [throw_eq_error, reduceCtorEq, false_iff]; omega
    · simp [packList_eq_ok_iff, depthList_le_iff vs (not_lt.mp h₁), h₂]
    · simp [h₂]
  | map kvs =>
    simp only [pack, fits, depth, Bool.and_eq_true, decide_eq_true_eq]
    split_ifs with h₁ h₂
    · simp only [throw_eq_error, reduceCtorEq, false_iff]; omega
    · simp [packMap_eq_ok_iff, depthMap_le_iff kvs (not_lt.mp h₁), h₂]
    · simp [h₂]
  | _ => simp only [pack, fits, depth]; split_ifs <;> simp_all

theorem packList_eq_ok_iff (limit : Int) (vs : List Value) :
    packList limit vs = .ok () ↔ fitsList vs ∧ ∀ v ∈ vs, (v.depth : Int) ≤ limit := by
  cases vs with
  | nil => simp [packList, fitsList]
  | cons v vs =>
    simp only [packList, fitsList, seq_eq_ok, pack_eq_ok_iff, packList_eq_ok_iff,
      Bool.and_eq_true, List.mem_cons, forall_eq_or_imp]
    tauto

theorem packMap_eq_ok_iff (limit : Int) (kvs : List (Value × Value)) :
    packMap limit kvs = .ok () ↔
      fitsMap kvs ∧ ∀ p ∈ kvs, (p.1.depth : Int) ≤ limit ∧ (p.2.depth : Int) ≤ limit := by
  cases kvs with
  | nil => simp [packMap, fitsMap]
  | cons kv kvs =>
    obtain ⟨k, v⟩ := kv
    simp only [packMap, fitsMap, seq_eq_ok, pack_eq_ok_iff, packMap_eq_ok_iff,
      Bool.and_eq_true, List.mem_cons, forall_eq_or_imp]
    tauto
end

end Value

/-- `msgpack.packb` with its default `nest_limit` of 511; the byte string is represented by
the object it encodes. -/
def packb (v : Value) : Except PyError Value := do
  v.pack 511
  pure v

/-- `packb` returns the object it is given, and does so exactly when the object fits and
nests within `nest_limit`. -/
theorem packb_eq_ok_iff {v w : Value} : packb v = .ok w ↔ w = v ∧ v.fits ∧ v.depth ≤ 511 := by
  have h : (v.depth : Int) ≤ 511 ↔ v.depth ≤ 511 := by omega
  rw [packb, ← h, ← Value.pack_eq_ok_iff]
  cases v.pack 511 <;> simp [eq_comm]

end RecDtn
