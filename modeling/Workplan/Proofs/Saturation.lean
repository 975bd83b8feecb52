import Workplan.Proofs.Span

/-!
# Walks past the ends of the range

A walk that leaves the range of days stops on its first or last day, and its length is then no
longer told by ranks. What lies between the two ends of a walk can only become less by this,
never more, and so the bounds that relations derive hold wherever walks stop.

## Main results

* `offset_offset`: walks to later days add up
* `le_finishFrom_startFor`, `startFor_le`: a start leads to its finish, and no later start is
  needed
* `holds_spanFrom_iff`: a relation holds exactly if its successor keeps its earliest start
-/

namespace Workplan

namespace Calendar

variable {c : Calendar} {d start : Day} {days : Nat}

/-! ## Ranks at the end of a walk -/

/-- A walk to a numbered day ends no further than its number. -/
theorem rank_dayAt_le (k : Nat) : c.rank (c.dayAt k) ≤ k := by
  rcases dayAt_cases (c := c) k with ⟨-, hrank⟩ | ⟨hlast, hcount⟩
  · exact hrank.le
  · rw [hlast]
    exact (workingBefore_mono (Nat.le_of_lt Day.last.index_lt)).trans hcount

/-- A walk back takes away no more than its length. -/
theorem rank_le_rank_offset_neg (k : Nat) : c.rank d ≤ c.rank (c.offset d (-(k : Int))) + k := by
  rcases Nat.lt_or_ge (c.rank d) k with hlt | hge
  · omega
  · have hnumber : (c.rank d : Int) + -(k : Int) = (c.rank d - k : Nat) := by omega
    rw [offset, hnumber]
    rcases dayAt_cases (c := c) (c.rank d - k) with ⟨-, hrank⟩ | ⟨hlast, -⟩
    · omega
    · rw [hlast]
      exact (rank_mono d.le_last).trans (Nat.le_add_right _ _)

/-- **Walks to later days add up**, also where they stop at the last day of the range. -/
theorem offset_offset {j k : Int} (hj : 0 ≤ j) (hk : 0 ≤ k) :
    c.offset (c.offset d j) k = c.offset d (j + k) := by
  obtain ⟨m, hm⟩ := Int.eq_ofNat_of_zero_le (show 0 ≤ c.rank d + j by omega)
  have hfirst : c.offset d j = c.dayAt m := by rw [offset, hm]
  have hsum : c.offset d (j + k) = c.dayAt (m + k) := by rw [offset, ← hm, Int.add_assoc]
  rw [hsum, hfirst, offset]
  rcases dayAt_cases (c := c) m with ⟨-, hrank⟩ | ⟨hlast, -⟩
  · rw [hrank]
  · -- the first walk stops at the last day already, and neither side can lie behind it
    have hleft : c.dayAt m ≤ c.dayAt (c.rank (c.dayAt m) + k) := le_dayAt (by omega)
    have hright : c.dayAt m ≤ c.dayAt (m + k) := dayAt_mono (by omega)
    rw [hlast] at hleft hright ⊢
    rw [le_antisymm (Day.le_last _) hleft, le_antisymm (Day.le_last _) hright]

/-! ## From one end of a span to the other -/

/-- The way back to a start and on to the finish does not fall short. -/
theorem le_finishFrom_startFor (d : Day) (days : Nat) :
    d ≤ c.finishFrom (c.startFor d days) days := by
  rcases Nat.eq_zero_or_pos days with rfl | hpos
  · exact le_rfl
  · rw [finishFrom_eq_offset (Nat.ne_of_gt hpos)]
    rcases Nat.lt_or_ge 1 days with hmany | hone
    · rw [startFor_eq_offset hmany]
      exact le_dayAt (Int.ofNat_le.mpr (rank_le_rank_offset_neg (days - 1)))
    · rw [startFor_of_le_one hone]
      exact le_offset (Int.natCast_nonneg _)

/-- A working day that leads to a finish is no earlier than the start for that finish. If a single
day leads there, the finish is on the same day, as it is worked. -/
theorem startFor_le (hstart : c.isWorking start) (h : d ≤ c.finishFrom start days) :
    c.startFor d days ≤ start := by
  rcases Nat.eq_zero_or_pos days with rfl | hpos
  · exact h
  · rw [finishFrom_eq_offset (Nat.ne_of_gt hpos)] at h
    rcases Nat.lt_or_ge 1 days with hmany | hone
    · rw [startFor_eq_offset hmany]
      have hrank : c.rank d ≤ c.rank start + (days - 1) :=
        (rank_mono h).trans (rank_dayAt_le (c.rank start + (days - 1)))
      exact dayAt_le hstart (by omega)
    · obtain rfl : days = 1 := by omega
      rwa [offset, Nat.sub_self, Int.ofNat_zero, Int.add_zero, dayAt_rank hstart] at h

end Calendar

namespace Relation

variable {r : Relation} {c : Calendar} {a : Span} {start : Day} {days : Nat}

/-! ## Relations -/

/-- A successor that keeps its earliest start keeps the relation. -/
theorem holds_of_earliestStart_le (h : r.earliestStart c a days ≤ start) :
    r.Holds c a (c.spanFrom start days) := by
  unfold earliestStart at h
  unfold Holds
  cases ht : r.target with
  | start =>
    rw [ht] at h
    exact h
  | finish =>
    rw [ht] at h
    exact (Calendar.le_finishFrom_startFor _ days).trans (Calendar.finishFrom_mono h)

/-- **A relation holds exactly if the successor keeps its earliest start**, wherever the walks
of the two stop. -/
theorem holds_spanFrom_iff (hstart : c.isWorking start) :
    r.Holds c a (c.spanFrom start days) ↔ r.earliestStart c a days ≤ start := by
  refine ⟨fun h => ?_, holds_of_earliestStart_le⟩
  unfold Holds at h
  unfold earliestStart
  cases ht : r.target with
  | start =>
    rw [ht] at h
    exact h
  | finish =>
    rw [ht] at h
    exact Calendar.startFor_le hstart h

/-- A relation that holds of some spans holds of an earlier predecessor as well. -/
theorem Holds.of_le {a' b : Span} (h : r.Holds c a b) (hstart : a'.start ≤ a.start)
    (hfinish : a'.finish ≤ a.finish) : r.Holds c a' b := by
  refine (Calendar.offset_mono ?_).trans h
  cases r.source with
  | start => exact hstart
  | finish => exact hfinish

end Relation

end Workplan
