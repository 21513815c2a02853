/-
  The front of a list, where a negative number counts from the end.
-/
namespace SpanQuest

variable {α : Type}

/-- The first `n` items, or all but the last `-n` if `n` is negative. -/
def front (n : Int) (xs : List α) : List α :=
  if 0 ≤ n then xs.take n.toNat else xs.take (xs.length - (-n).toNat)

/-- A limit that is not negative bounds the front. -/
theorem front_of_nonneg {n : Int} (h : 0 ≤ n) (xs : List α) : front n xs = xs.take n.toNat := by
  simp [front, h]

end SpanQuest
