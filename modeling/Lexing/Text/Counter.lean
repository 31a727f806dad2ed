/-!
# Counts that stop at a limit

Lines and columns are counted in 32 bits. A count that has reached the limit stays there, so a sum
of counts is the count of the sum, in whatever order and grouping the parts are added.
-/

namespace Lexing.Text

def Counter.limit : Nat := 4294967295

/-- A number that does not pass `Counter.limit`. -/
structure Counter where
  toNat : Nat
  toNat_le : toNat ≤ Counter.limit
deriving DecidableEq

namespace Counter

/-- `n`, or the limit if `n` is past it. -/
def ofNat (n : Nat) : Counter := ⟨min n limit, Nat.min_le_right n limit⟩

instance (n : Nat) : OfNat Counter n := ⟨ofNat n⟩

instance : Inhabited Counter := ⟨0⟩

instance : Add Counter := ⟨fun a b => ofNat (a.toNat + b.toNat)⟩

instance : ToString Counter := ⟨fun a => toString a.toNat⟩

@[ext] theorem ext {a b : Counter} (h : a.toNat = b.toNat) : a = b := by
  cases a; cases b; simpa using h

@[simp] theorem toNat_ofNat (n : Nat) : (ofNat n).toNat = min n limit := rfl

theorem toNat_add (a b : Counter) : (a + b).toNat = min (a.toNat + b.toNat) limit := rfl

@[simp] theorem ofNat_toNat (a : Counter) : ofNat a.toNat = a :=
  ext (Nat.min_eq_left a.toNat_le)

theorem ofNat_add_ofNat (m n : Nat) : ofNat m + ofNat n = ofNat (m + n) := by
  apply ext
  simp only [toNat_add, toNat_ofNat]
  omega

@[simp] theorem zero_add (a : Counter) : 0 + a = a := by
  apply ext
  have := a.toNat_le
  change min (min 0 limit + a.toNat) limit = a.toNat
  omega

@[simp] theorem add_zero (a : Counter) : a + 0 = a := by
  apply ext
  have := a.toNat_le
  change min (a.toNat + min 0 limit) limit = a.toNat
  omega

theorem add_assoc (a b c : Counter) : a + b + c = a + (b + c) := by
  apply ext
  simp only [toNat_add]
  omega

end Counter

end Lexing.Text
