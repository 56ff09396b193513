import Mathlib.Data.List.Basic
import Mathlib.Data.Int.Order.Basic
import Mathlib.Data.String.Basic
import Mathlib.Algebra.Group.Int

/-!
# Decoded values

`rec.dtn.messages` hands Python objects to `msgpack.packb` and reads back what
`msgpack.unpackb` returns. This file models those objects: `nil`, booleans, integers,
floats, strings, byte strings, extension objects, timestamps, lists and dicts.

A byte string on the wire is represented by the object it encodes: `unpackb` is the
inverse of `packb` on every object `packb` accepts, and every decodable byte string is
the encoding of one decoded object.

On top of the syntax we give the parts of Python's semantics the protocol code relies on:
truthiness (`if not x`), equality (`==`, which identifies `True`, `1` and `1.0`), and the
ordering of numbers (`<`, `<=`).
-/

namespace RecDtn

/-- A Python `float` decoded from msgpack: the binary fraction `m * 2 ^ e`, an infinity
(`neg` for `-inf`), or NaN. -/
inductive PyFloat where
  | finite (m e : Int)
  | inf (neg : Bool)
  | nan
  deriving DecidableEq, Repr

/-- An object as `msgpack.unpackb` returns it. `ext` is an `ExtType(code, data)` named
tuple and `timestamp` the `Timestamp` that extension type `-1` decodes to; a dict keeps
its entries in insertion order. -/
inductive Value where
  | nil
  | bool (b : Bool)
  | int (i : Int)
  | float (f : PyFloat)
  /-- A `str` that UTF-8 can encode. A Lean `String` holds Unicode scalar values only,
  so a Python `str` with a lone surrogate has no `Value`: `packb` raises
  `UnicodeEncodeError` on it and `unpackb` never returns one. -/
  | str (s : String)
  | bin (bs : List UInt8)
  | ext (code : Int) (data : List UInt8)
  | timestamp (sec : Int) (nsec : Nat)
  | arr (vs : List Value)
  | map (kvs : List (Value × Value))
  deriving Repr

namespace Value

/-! ### Decidable equality -/

mutual
/-- Structural equality test of decoded values. -/
def beq : Value → Value → Bool
  | .nil, .nil => true
  | .bool a, .bool b => a == b
  | .int a, .int b => a == b
  | .float a, .float b => a == b
  | .str a, .str b => a == b
  | .bin a, .bin b => a == b
  | .ext c d, .ext c' d' => c == c' && d == d'
  | .timestamp s n, .timestamp s' n' => s == s' && n == n'
  | .arr vs, .arr ws => beqList vs ws
  | .map kvs, .map lws => beqMap kvs lws
  | _, _ => false

/-- `beq` on lists, elementwise. -/
def beqList : List Value → List Value → Bool
  | [], [] => true
  | v :: vs, w :: ws => beq v w && beqList vs ws
  | _, _ => false

/-- `beq` on dict entries, elementwise. -/
def beqMap : List (Value × Value) → List (Value × Value) → Bool
  | [], [] => true
  | (k, v) :: kvs, (k', w) :: lws => beq k k' && beq v w && beqMap kvs lws
  | _, _ => false
end

mutual
theorem eq_of_beq {a b : Value} (h : beq a b = true) : a = b := by
  cases a <;> cases b <;> try exact absurd h Bool.false_ne_true
  case nil.nil => rfl
  case bool.bool a b => rw [beq_iff_eq.mp (h : (a == b) = true)]
  case int.int a b => rw [beq_iff_eq.mp (h : (a == b) = true)]
  case float.float a b => rw [beq_iff_eq.mp (h : (a == b) = true)]
  case str.str a b => rw [beq_iff_eq.mp (h : (a == b) = true)]
  case bin.bin a b => rw [beq_iff_eq.mp (h : (a == b) = true)]
  case ext.ext c d c' d' =>
    obtain ⟨h₁, h₂⟩ := Bool.and_eq_true_iff.mp (h : (c == c' && d == d') = true)
    rw [beq_iff_eq.mp h₁, beq_iff_eq.mp h₂]
  case timestamp.timestamp s n s' n' =>
    obtain ⟨h₁, h₂⟩ := Bool.and_eq_true_iff.mp (h : (s == s' && n == n') = true)
    rw [beq_iff_eq.mp h₁, beq_iff_eq.mp h₂]
  case arr.arr vs ws => rw [eq_of_beqList h]
  case map.map kvs lws => rw [eq_of_beqMap h]

theorem eq_of_beqList {a b : List Value} (h : beqList a b = true) : a = b := by
  cases a <;> cases b <;> try exact absurd h Bool.false_ne_true
  case nil.nil => rfl
  case cons.cons v vs w ws =>
    obtain ⟨h₁, h₂⟩ := Bool.and_eq_true_iff.mp (h : (beq v w && beqList vs ws) = true)
    rw [eq_of_beq h₁, eq_of_beqList h₂]

theorem eq_of_beqMap {a b : List (Value × Value)} (h : beqMap a b = true) : a = b := by
  cases a <;> cases b <;> try exact absurd h Bool.false_ne_true
  case nil.nil => rfl
  case cons.cons kv kvs lw lws =>
    obtain ⟨k, v⟩ := kv
    obtain ⟨l, w⟩ := lw
    obtain ⟨h₁₂, h₃⟩ := Bool.and_eq_true_iff.mp (h : (beq k l && beq v w && beqMap kvs lws) = true)
    obtain ⟨h₁, h₂⟩ := Bool.and_eq_true_iff.mp h₁₂
    rw [eq_of_beq h₁, eq_of_beq h₂, eq_of_beqMap h₃]
end

mutual
theorem beq_self (a : Value) : beq a a = true := by
  cases a
  case arr vs => exact beqList_self vs
  case map kvs => exact beqMap_self kvs
  all_goals first
    | rfl
    | exact beq_self_eq_true _
    | exact Bool.and_eq_true_iff.mpr ⟨beq_self_eq_true _, beq_self_eq_true _⟩

theorem beqList_self (vs : List Value) : beqList vs vs = true := by
  cases vs with
  | nil => rfl
  | cons v vs => exact Bool.and_eq_true_iff.mpr ⟨beq_self v, beqList_self vs⟩

theorem beqMap_self (kvs : List (Value × Value)) : beqMap kvs kvs = true := by
  cases kvs with
  | nil => rfl
  | cons kv kvs =>
    obtain ⟨k, v⟩ := kv
    exact Bool.and_eq_true_iff.mpr ⟨Bool.and_eq_true_iff.mpr ⟨beq_self k, beq_self v⟩,
      beqMap_self kvs⟩
end

instance : DecidableEq Value := fun a b =>
  decidable_of_iff (beq a b = true) ⟨eq_of_beq, fun h => h ▸ beq_self a⟩

/-! ### Truthiness -/

/-- Python truthiness, `bool(v)`: `None`, `False`, zero and empty containers are falsy. -/
def truthy : Value → Bool
  | .nil => false
  | .bool b => b
  | .int i => i != 0
  | .float (.finite m _) => m != 0
  | .float _ => true
  | .str s => !s.isEmpty
  | .bin bs => !bs.isEmpty
  | .ext _ _ => true
  | .timestamp _ _ => true
  | .arr vs => !vs.isEmpty
  | .map kvs => !kvs.isEmpty

@[simp] theorem truthy_bool (b : Bool) : (bool b).truthy = b := rfl

@[simp] theorem truthy_int (i : Int) : (int i).truthy = decide (i ≠ 0) := by
  by_cases h : i = 0 <;> simp [truthy, h]

@[simp] theorem truthy_str (s : String) : (str s).truthy = decide (s ≠ "") := by
  by_cases h : s = ""
  · subst h; rfl
  · have : ¬ s.isEmpty := fun e => h ((String.isEmpty_iff s).mp e)
    simp [truthy, h, this]

@[simp] theorem truthy_bin (bs : List UInt8) : (bin bs).truthy = decide (bs ≠ []) := by
  cases bs <;> simp [truthy]

@[simp] theorem truthy_nil : nil.truthy = false := rfl

/-- Only lists and dicts are unhashable, so only they cannot be looked up in a dict. -/
def hashable : Value → Bool
  | .arr _ | .map _ => false
  | _ => true

end Value

/-! ### Numbers -/

/-- How Python orders two integers. -/
def intCmp (a b : Int) : Ordering :=
  if a < b then .lt else if a = b then .eq else .gt

theorem intCmp_cases (a b : Int) :
    (intCmp a b = .lt ∧ a < b) ∨ (intCmp a b = .eq ∧ a = b) ∨ (intCmp a b = .gt ∧ b < a) := by
  unfold intCmp
  split_ifs with h₁ h₂
  · exact .inl ⟨rfl, h₁⟩
  · exact .inr (.inl ⟨rfl, h₂⟩)
  · exact .inr (.inr ⟨rfl, by omega⟩)

/-- Each `Ordering` test of `intCmp a b` decides the comparison it stands for. -/
theorem intCmp_beq (a b : Int) :
    (intCmp a b == .lt) = decide (a < b) ∧ (intCmp a b == .eq) = decide (a = b) ∧
      (intCmp a b == .gt) = decide (b < a) := by
  rcases intCmp_cases a b with ⟨h, h'⟩ | ⟨h, h'⟩ | ⟨h, h'⟩ <;> rw [h] <;> refine ⟨?_, ?_, ?_⟩ <;>
    first | (rw [decide_eq_true (by omega)]; rfl) | (rw [decide_eq_false (by omega)]; rfl)

theorem intCmp_eq_eq_iff {a b : Int} : intCmp a b = .eq ↔ a = b := by
  rcases intCmp_cases a b with ⟨h, h'⟩ | ⟨h, h'⟩ | ⟨h, h'⟩ <;> rw [h] <;> simp <;> omega

theorem intCmp_mul_pos {a b p : Int} (hp : 0 < p) : intCmp (a * p) (b * p) = intCmp a b := by
  rcases intCmp_cases a b with ⟨h, h'⟩ | ⟨h, h'⟩ | ⟨h, h'⟩ <;> rw [h] <;> unfold intCmp
  · rw [if_pos (Int.mul_lt_mul_of_pos_right h' hp)]
  · subst h'; simp
  · have : b * p < a * p := Int.mul_lt_mul_of_pos_right h' hp
    rw [if_neg (by omega), if_neg (by omega)]

namespace PyFloat

/-- Exact comparison of two floats, as Python compares them; `none` when one is NaN. -/
def cmp : PyFloat → PyFloat → Option Ordering
  | .nan, _ | _, .nan => none
  | .inf a, .inf b => some (if a = b then .eq else if a then .lt else .gt)
  | .inf a, .finite _ _ => some (if a then .lt else .gt)
  | .finite _ _, .inf b => some (if b then .gt else .lt)
  | .finite m e, .finite m' e' =>
    let k := min e e'
    some (intCmp (m * 2 ^ (e - k).toNat) (m' * 2 ^ (e' - k).toNat))

/-- The float an integer converts to exactly. -/
def ofInt (n : Int) : PyFloat := .finite n 0

@[simp] theorem cmp_ofInt (a b : Int) : (ofInt a).cmp (ofInt b) = some (intCmp a b) := by
  simp [cmp, ofInt]

/-- A float equal to the integer `n` compares with every integer as `n` does. -/
theorem cmp_ofInt_of_eq {f : PyFloat} {n : Int} (h : f.cmp (ofInt n) = some .eq) (m : Int) :
    f.cmp (ofInt m) = some (intCmp n m) := by
  cases f with
  | nan => cases h
  | inf neg => cases neg <;> cases h
  | finite a e =>
    simp only [cmp, ofInt, Option.some.injEq] at h ⊢
    have hp : (0 : Int) < 2 ^ (0 - min e 0).toNat := by
      exact_mod_cast Nat.pos_pow_of_pos _ (by decide : (0 : Nat) < 2)
    rw [intCmp_eq_eq_iff.mp h, intCmp_mul_pos hp]

end PyFloat

namespace Value

/-- The number a `bool`, `int` or `float` stands for (`True` is `1`); `none` for every
other object. -/
def toFloat? : Value → Option PyFloat
  | .bool b => some (.ofInt (if b then 1 else 0))
  | .int i => some (.ofInt i)
  | .float f => some f
  | _ => none

/-- How a value orders against the integer `n`: `none` when it is not a number (Python
raises `TypeError`), `some none` for NaN, which is neither below, equal nor above. -/
def cmpInt (v : Value) (n : Int) : Option (Option Ordering) :=
  v.toFloat?.map (·.cmp (.ofInt n))

/-- Python `v == n` for an integer `n`. -/
def eqInt (v : Value) (n : Int) : Bool :=
  v.cmpInt n == some (some .eq)

@[simp] theorem cmpInt_int (i n : Int) : (int i).cmpInt n = some (some (intCmp i n)) := by
  simp [cmpInt, toFloat?]

@[simp] theorem eqInt_int (i n : Int) : (int i).eqInt n = decide (i = n) := by
  simp [eqInt, intCmp_beq]

/-- A value equal to the integer `n` orders against every integer as `n` does. -/
theorem cmpInt_of_eqInt {v : Value} {n : Int} (h : v.eqInt n) (m : Int) :
    v.cmpInt m = (int n).cmpInt m := by
  unfold eqInt at h
  unfold cmpInt at h ⊢
  cases hv : v.toFloat? with
  | none => simp [hv] at h
  | some f =>
    have hc : f.cmp (.ofInt n) = some .eq := by
      revert h
      simp only [hv, Option.map_some']
      cases f.cmp (.ofInt n) with
      | none => decide
      | some o => cases o <;> decide
    simp [toFloat?, PyFloat.cmp_ofInt_of_eq hc]

/-- Only numbers equal an integer, and numbers are hashable. -/
theorem hashable_of_eqInt {v : Value} {n : Int} (h : v.eqInt n) : v.hashable := by
  cases v <;> first | rfl | cases h

theorem eqInt_of_eqInt {v : Value} {n : Int} (h : v.eqInt n) (m : Int) :
    v.eqInt m = decide (n = m) := by
  rw [← eqInt_int]; unfold eqInt; rw [cmpInt_of_eqInt h]

/-! ### Equality -/

mutual
/-- Python `==` on decoded values: numbers compare by value across `bool`, `int` and
`float`, lists elementwise, dicts as sets of entries; values of different kinds differ. -/
def pyEq : Value → Value → Bool
  | .nil, .nil => true
  | .str s, .str t => s == t
  | .bin a, .bin b => a == b
  | .ext c d, .ext c' d' => c == c' && d == d'
  | .timestamp s n, .timestamp s' n' => s == s' && n == n'
  | .arr vs, .arr ws => pyEqList vs ws
  | .map kvs, .map lws => kvs.length == lws.length && pyEqMap kvs lws
  | v, w =>
    match v.toFloat?, w.toFloat? with
    | some f, some g => f.cmp g == some .eq
    | _, _ => false

/-- `pyEq` on lists, elementwise. -/
def pyEqList : List Value → List Value → Bool
  | [], [] => true
  | v :: vs, w :: ws => pyEq v w && pyEqList vs ws
  | _, _ => false

/-- Every entry of the first dict has an equal key with an equal value in the second. -/
def pyEqMap : List (Value × Value) → List (Value × Value) → Bool
  | [], _ => true
  | (k, v) :: kvs, lws => lws.any (fun p => pyEq k p.1 && pyEq v p.2) && pyEqMap kvs lws
end

@[simp] theorem pyEq_nil : nil.pyEq nil = true := rfl

@[simp] theorem pyEq_bool (a b : Bool) : (bool a).pyEq (bool b) = (a == b) := by
  cases a <;> cases b <;> rfl

@[simp] theorem pyEq_int (i j : Int) : (int i).pyEq (int j) = decide (i = j) := by
  show ((PyFloat.ofInt i).cmp (.ofInt j) == some .eq) = _
  simp [intCmp_beq]

@[simp] theorem pyEq_str (s t : String) : (str s).pyEq (str t) = (s == t) := rfl

@[simp] theorem pyEq_bin (a b : List UInt8) : (bin a).pyEq (bin b) = (a == b) := rfl

@[simp] theorem pyEq_arr (vs ws : List Value) : (arr vs).pyEq (arr ws) = pyEqList vs ws := rfl

@[simp] theorem pyEqList_map_str (ss : List String) :
    pyEqList (ss.map str) (ss.map str) = true := by
  induction ss with
  | nil => rfl
  | cons s ss ih => exact Bool.and_eq_true_iff.mpr ⟨beq_self_eq_true s, ih⟩

end Value

end RecDtn
