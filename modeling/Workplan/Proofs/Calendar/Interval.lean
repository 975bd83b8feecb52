import Mathlib.Data.List.Nodup
import Workplan.Proofs.Calendar.Rank

/-!
# The working days of an interval

The days of an interval are listed one by one, each of them once. Of a closed interval the last day
of the range is left out, worked or not.

## Main results

* `Day.mem_upTo`, `Day.nodup_upTo`: the days of a half-open stretch
* `Calendar.mem_daysIn`, `Calendar.nodup_daysIn`: the working days from a start to a finish
-/

namespace Workplan

namespace Day

variable {d start : Day} {i stop : Nat}

theorem ofIndex?_eq_some_iff : ofIndex? i = some d ↔ d.index = i := by
  unfold ofIndex?
  constructor
  · intro h
    split at h
    · cases h
      rfl
    · cases h
  · rintro rfl
    rw [dif_pos d.index_lt]

theorem mem_upTo : d ∈ start.upTo stop ↔ start.index ≤ d.index ∧ d.index < stop := by
  simp only [upTo, List.mem_filterMap, ofIndex?_eq_some_iff, List.mem_range'_1]
  constructor
  · rintro ⟨i, ⟨hle, hlt⟩, rfl⟩
    omega
  · intro h
    exact ⟨d.index, by omega, rfl⟩

theorem nodup_upTo : (start.upTo stop).Nodup := by
  refine (List.nodup_range').filterMap fun i j d hi hj => ?_
  rw [← ofIndex?_eq_some_iff.mp hi, ← ofIndex?_eq_some_iff.mp hj]

end Day

namespace Calendar

variable {c : Calendar} {d start finish : Day}

/-- The working days from a start to a finish, of which the last day of the range is none. -/
theorem mem_daysIn :
    d ∈ c.daysIn start finish ↔ c.isWorking d ∧ start ≤ d ∧ d ≤ finish ∧ d < Day.last := by
  rw [daysIn, List.mem_filter, Day.mem_upTo]
  simp only [Day.le_def, Day.lt_def]
  constructor
  · rintro ⟨⟨hstart, hstop⟩, hworking⟩
    exact ⟨hworking, hstart, by omega, by omega⟩
  · rintro ⟨hworking, hstart, hfinish, hlast⟩
    exact ⟨⟨hstart, by omega⟩, hworking⟩

theorem nodup_daysIn : (c.daysIn start finish).Nodup := Day.nodup_upTo.filter _

end Calendar

end Workplan
