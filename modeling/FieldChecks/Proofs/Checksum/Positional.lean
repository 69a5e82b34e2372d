import Mathlib.Algebra.BigOperators.Group.List.Basic
import Mathlib.Algebra.GroupWithZero.Nat

/-!
# Positional sums — what one entry does to the sum

A checksum adds up what its entries are worth at their positions. When
one entry is replaced, or two change places, the rest of the sum stays:
the two sums differ by what these entries are worth
(`positionalSum_replace`, `positionalSum_swap`). Whether an error is found
is then a question about these entries alone, and about the number that the
sum is a multiple of.
-/

namespace FieldChecks

variable {α : Type} {worth : Nat → α → Nat}

/-- The sum of what entries are worth at their positions, where the first one has position `n`. -/
def positionalSum (worth : Nat → α → Nat) (n : Nat) (xs : List α) : Nat :=
  (xs.mapIdx fun i x => worth (n + i) x).sum

@[simp] theorem positionalSum_nil (n : Nat) : positionalSum worth n [] = 0 := rfl

@[simp] theorem positionalSum_cons (n : Nat) (x : α) (xs : List α) :
    positionalSum worth n (x :: xs) = worth n x + positionalSum worth (n + 1) xs := by
  simp [positionalSum, List.mapIdx_cons, Nat.add_assoc, Nat.add_comm 1]

theorem positionalSum_append (n : Nat) (xs ys : List α) :
    positionalSum worth n (xs ++ ys) =
      positionalSum worth n xs + positionalSum worth (n + xs.length) ys := by
  simp [positionalSum, List.mapIdx_append, Nat.add_assoc, Nat.add_comm xs.length]

theorem positionalSum_le {bound : Nat} {xs : List α}
    (h : ∀ i, ∀ x ∈ xs, worth i x ≤ bound) (n : Nat) :
    positionalSum worth n xs ≤ bound * xs.length := by
  induction xs generalizing n with
  | nil => simp
  | cons x xs ih =>
    have hx : worth n x ≤ bound := h n x (by simp)
    have hxs := ih (fun i y hy => h i y (by simp [hy])) (n + 1)
    rw [positionalSum_cons, List.length_cons, Nat.mul_succ]
    omega

/-- Sums over entries that are worth the same are the same. -/
theorem positionalSum_congr {other : Nat → α → Nat} {xs : List α}
    (h : ∀ i, ∀ x ∈ xs, worth i x = other i x) (n : Nat) :
    positionalSum worth n xs = positionalSum other n xs := by
  induction xs generalizing n with
  | nil => rfl
  | cons x xs ih =>
    rw [positionalSum_cons, positionalSum_cons, h n x (by simp),
      ih (fun i y hy => h i y (by simp [hy]))]

/-- **When an entry is replaced**, the sum changes by what the two are worth at its position. -/
theorem positionalSum_replace (worth : Nat → α → Nat) (n : Nat) (front back : List α) (a b : α) :
    positionalSum worth n (front ++ a :: back) + worth (n + front.length) b =
      positionalSum worth n (front ++ b :: back) + worth (n + front.length) a := by
  simp only [positionalSum_append, positionalSum_cons]
  omega

/-- **When two entries change places**, the sum changes by what they are worth at their old and
new positions. -/
theorem positionalSum_swap (worth : Nat → α → Nat) (n : Nat) (front middle back : List α)
    (a b : α) :
    positionalSum worth n (front ++ a :: (middle ++ b :: back)) +
        (worth (n + front.length) b + worth (n + front.length + 1 + middle.length) a) =
      positionalSum worth n (front ++ b :: (middle ++ a :: back)) +
        (worth (n + front.length) a + worth (n + front.length + 1 + middle.length) b) := by
  simp only [positionalSum_append, positionalSum_cons]
  omega

end FieldChecks
