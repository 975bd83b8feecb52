/-!
# Bisection on the natural numbers

Where a counting function grows past a bound, found by halving. The calendar uses it to
find the day at which a count of working days is reached, and the year a day falls in.

## Main definitions

* `bisect f bound bits base`: the last of the `1 <<< bits` positions from `base` on at which
  `f` has not passed `bound`

## Main results

* `bisect_lt`: the position found lies in the searched stretch
* `apply_bisect_le`: `f` has not passed `bound` there
* `lt_apply_bisect_succ`: `f` has passed `bound` one position later
-/

namespace Workplan

/-- The last of the `1 <<< bits` positions from `base` on at which the non-decreasing `f` is
still at most `bound`, provided that it is so at `base`. -/
def bisect (f : Nat → Nat) (bound : Nat) : Nat → Nat → Nat
  | 0, base => base
  | bits + 1, base =>
    if f (base + 1 <<< bits) ≤ bound then bisect f bound bits (base + 1 <<< bits)
    else bisect f bound bits base

variable {f : Nat → Nat} {bound : Nat}

theorem bisect_lt (bits base : Nat) : bisect f bound bits base < base + 1 <<< bits := by
  induction bits generalizing base with
  | zero => simp [bisect]
  | succ bits ih =>
    rw [bisect, Nat.shiftLeft_succ]
    split
    · have := ih (base + 1 <<< bits)
      omega
    · have := ih base
      omega

theorem apply_bisect_le {bits base : Nat} (h : f base ≤ bound) :
    f (bisect f bound bits base) ≤ bound := by
  induction bits generalizing base with
  | zero => simpa [bisect] using h
  | succ bits ih =>
    rw [bisect]
    split
    · next h' => exact ih h'
    · exact ih h

/-- Unless the search ends at the last position of its stretch, the bound is passed right
behind the position found. If the lower half of a stretch is used up, what comes next is the
position that was tried before the search went down. -/
theorem lt_apply_bisect_succ {bits base : Nat}
    (h : bisect f bound bits base + 1 < base + 1 <<< bits) :
    bound < f (bisect f bound bits base + 1) := by
  induction bits generalizing base with
  | zero => simp [bisect] at h
  | succ bits ih =>
    rw [bisect] at h ⊢
    split at h
    · next h' =>
      rw [if_pos h']
      exact ih (by rw [Nat.shiftLeft_succ] at h; omega)
    · next h' =>
      rw [if_neg h']
      by_cases he : bisect f bound bits base + 1 < base + 1 <<< bits
      · exact ih he
      · have hlt := @bisect_lt f bound bits base
        have heq : bisect f bound bits base + 1 = base + 1 <<< bits := by omega
        rw [heq]
        omega

end Workplan
