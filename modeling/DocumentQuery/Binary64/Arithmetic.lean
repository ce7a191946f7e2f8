import DocumentQuery.Binary64.Rounding

/-!
Sums, products and quotients of binary64 numbers.

Each operation on finite numbers computes the exact result and rounds it once. An operation
without a meaningful result, such as infinity minus infinity, gives `nan`.
-/

namespace DocumentQuery.Binary64

/-- The sum. Two zeros of the same sign keep it; any other exact zero is positive. -/
def add : Binary64 → Binary64 → Binary64
  | .nan, _ => .nan
  | _, .nan => .nan
  | .infinite s, .infinite t => if s = t then .infinite s else .nan
  | .infinite s, .finite .. => .infinite s
  | .finite .., .infinite t => .infinite t
  | .finite s m e _, .finite t n f _ =>
    let unit := min e f
    let sum := signed s (m * 2 ^ (e - unit).toNat) + signed t (n * 2 ^ (f - unit).toNat)
    if sum = 0 then zero (s && t) else ofDyadic (sum < 0) sum.natAbs unit

/-- The difference. -/
def sub (x y : Binary64) : Binary64 :=
  add x y.neg

/-- The product. -/
def mul : Binary64 → Binary64 → Binary64
  | .nan, _ => .nan
  | _, .nan => .nan
  | .infinite s, .infinite t => .infinite (s != t)
  | .infinite s, .finite t n _ _ => if n = 0 then .nan else .infinite (s != t)
  | .finite s m _ _, .infinite t => if m = 0 then .nan else .infinite (s != t)
  | .finite s m e _, .finite t n f _ => ofDyadic (s != t) (m * n) (e + f)

/-- The quotient. -/
def div : Binary64 → Binary64 → Binary64
  | .nan, _ => .nan
  | _, .nan => .nan
  | .infinite _, .infinite _ => .nan
  | .infinite s, .finite t _ _ _ => .infinite (s != t)
  | .finite s _ _ _, .infinite t => zero (s != t)
  | .finite s m e _, .finite t n f _ =>
    if n = 0 then if m = 0 then .nan else .infinite (s != t)
    else ofRatio (s != t) (m * 2 ^ (e - f).toNat) (n * 2 ^ (f - e).toNat)

@[simp] theorem nan_sub (x : Binary64) : sub .nan x = .nan := by
  cases x <;> rfl

@[simp] theorem mul_nan (x : Binary64) : mul x .nan = .nan := by
  cases x <;> rfl

@[simp] theorem nan_mul (x : Binary64) : mul .nan x = .nan := by
  cases x <;> rfl

end DocumentQuery.Binary64
