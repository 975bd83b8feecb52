import Mathlib.Order.Bounds.Basic
import Workplan.Proofs.Calendar.Rank

/-!
# The nearest working days

The count at a position is the number of the first working day from there on, and the number right
below it is that of the last working day in front of it. A day is behind its own position and in
front of the next one, so the nearest working day to either side, with or without the day itself, is
found from one of these two positions. Where there is none, the end of the range on that side stands
in for it. Of two working days the later one is the next after the earlier one exactly if the
earlier one is the last before it, so that a step to the next working day and a step back undo each
other.

## Main definitions

* `Calendar.IsFirstIn`, `IsLastIn`: the first and the last working day among some days, or the end
  of the range that stands in for it

## Main results

* `isFirstIn_dayAt`, `isLastIn_dayAt`: the working days nearest to a position
* `isLeast_iff_isGreatest`: being the next working day and being the previous one
* `nearest_working_days`: what the four searches for a working day find, and their round trips
-/

namespace Workplan

namespace Calendar

variable {c : Calendar} {d e w : Day} {days : Set Day}

/-- The first working day among some days, or the last day of the range if there is none. -/
def IsFirstIn (c : Calendar) (days : Set Day) (a : Day) : Prop :=
  IsLeast {e | c.isWorking e ∧ e ∈ days} a ∨ (∀ e, c.isWorking e → e ∉ days) ∧ a = Day.last

/-- The last working day among some days, or the first day of the range if there is none. -/
def IsLastIn (c : Calendar) (days : Set Day) (a : Day) : Prop :=
  IsGreatest {e | c.isWorking e ∧ e ∈ days} a ∨ (∀ e, c.isWorking e → e ∉ days) ∧ a = Day.first

theorem IsFirstIn.isLeast {a : Day} (h : c.IsFirstIn days a) (hw : c.isWorking w)
    (hmem : w ∈ days) : IsLeast {e | c.isWorking e ∧ e ∈ days} a :=
  h.resolve_right fun hnone => hnone.1 w hw hmem

theorem IsLastIn.isGreatest {a : Day} (h : c.IsLastIn days a) (hw : c.isWorking w)
    (hmem : w ∈ days) : IsGreatest {e | c.isWorking e ∧ e ∈ days} a :=
  h.resolve_right fun hnone => hnone.1 w hw hmem

/-! ## On both sides of a position -/

/-- **The count at a position is the number of the first working day from there on.** A working day
in front of the position is counted there already, and so it has a lesser number. -/
theorem isFirstIn_dayAt (i : ℕ) :
    c.IsFirstIn {e | i ≤ e.index} (c.dayAt (c.workingBefore i)) := by
  rcases dayAt_cases (c := c) (c.workingBefore i) with ⟨hworking, hrank⟩ | ⟨hlast, hle⟩
  · refine Or.inl ⟨⟨hworking, ?_⟩, ?_⟩
    · by_contra hfront
      exact (rank_lt_of_index_lt hworking (Nat.not_le.mp hfront)).ne hrank
    · rintro e ⟨he, hie⟩
      exact (le_iff_rank_le he).mpr (hrank.trans_le (workingBefore_mono hie))
  · refine Or.inr ⟨fun e he hie => ?_, hlast⟩
    exact (hle.trans (workingBefore_mono hie)).not_gt (rank_lt_workingBefore he)

/-- **The number right below the count at a position is that of the last working day in front of
it.** -/
theorem isLastIn_dayAt {i : ℕ} (hi : i ≤ dayCount) :
    c.IsLastIn {e | e.index < i} (c.dayAt (c.workingBefore i - 1)) := by
  rcases dayAt_sub_one_cases (c := c) hi with ⟨hzero, hfirst⟩ | ⟨hworking, hfront, hrank⟩
  · refine Or.inr ⟨fun e he hei => ?_, hfirst⟩
    exact (Nat.zero_le _).not_gt (hzero ▸ rank_lt_of_index_lt he hei)
  · refine Or.inl ⟨⟨hworking, hfront⟩, ?_⟩
    rintro e ⟨he, hei⟩
    have hcount := rank_lt_of_index_lt he hei
    exact (le_iff_rank_le hworking).mpr (by omega)

/-! ## Next to a day -/

theorem isFirstIn_onOrAfter (d : Day) : c.IsFirstIn (Set.Ici d) (c.onOrAfter d) :=
  isFirstIn_dayAt d.index

theorem isFirstIn_after (d : Day) : c.IsFirstIn (Set.Ioi d) (c.after d) :=
  isFirstIn_dayAt (d.index + 1)

theorem isLastIn_onOrBefore (d : Day) : c.IsLastIn (Set.Iic d) (c.onOrBefore d) := by
  have hdays : Set.Iic d = {e | e.index < d.index + 1} :=
    Set.ext fun e => Nat.lt_succ_iff.symm
  rw [hdays]
  exact isLastIn_dayAt d.index_lt

theorem isLastIn_before (d : Day) : c.IsLastIn (Set.Iio d) (c.before d) :=
  isLastIn_dayAt (Nat.le_of_lt d.index_lt)

/-! ## Forth and back -/

/-- **A working day is the next one after another exactly if the other is the last one before it**:
either says that no working day is between them. -/
theorem isLeast_iff_isGreatest (hd : c.isWorking d) (he : c.isWorking e) :
    IsLeast {x | c.isWorking x ∧ x ∈ Set.Ioi d} e ↔
      IsGreatest {x | c.isWorking x ∧ x ∈ Set.Iio e} d := by
  constructor
  · rintro ⟨⟨-, hlt⟩, hleast⟩
    refine ⟨⟨hd, hlt⟩, ?_⟩
    rintro x ⟨hx, hxe⟩
    by_contra hdx
    exact (hleast ⟨hx, not_le.mp hdx⟩).not_gt hxe
  · rintro ⟨⟨-, hlt⟩, hgreatest⟩
    refine ⟨⟨he, hlt⟩, ?_⟩
    rintro x ⟨hx, hdx⟩
    by_contra hxe
    exact (hgreatest ⟨hx, not_le.mp hxe⟩).not_gt hdx

theorem before_after (hw : c.isWorking w) (he : c.isWorking e) (h : w < e) :
    c.before (c.after w) = w := by
  have hleast := (isFirstIn_after w).isLeast he h
  have hgreatest := (isLeast_iff_isGreatest hw hleast.1.1).mp hleast
  exact ((isLastIn_before (c.after w)).isGreatest hw hleast.1.2).unique hgreatest

theorem after_before (hw : c.isWorking w) (he : c.isWorking e) (h : e < w) :
    c.after (c.before w) = w := by
  have hgreatest := (isLastIn_before w).isGreatest he h
  have hleast := (isLeast_iff_isGreatest hgreatest.1.1 hw).mpr hgreatest
  exact ((isFirstIn_after (c.before w)).isLeast hw hgreatest.1.2).unique hleast

/-- **The four searches find the nearest working day**: the first one on or after a day, the first
one after it, the last one on or before it and the last one before it, or the end of the range if
there is none on that side. From a working day, a step to the next one or to the previous one is
undone by the step back, provided that there is a working day to step to. -/
theorem nearest_working_days (c : Calendar) :
    (∀ d, c.IsFirstIn (Set.Ici d) (c.onOrAfter d)) ∧
    (∀ d, c.IsFirstIn (Set.Ioi d) (c.after d)) ∧
    (∀ d, c.IsLastIn (Set.Iic d) (c.onOrBefore d)) ∧
    (∀ d, c.IsLastIn (Set.Iio d) (c.before d)) ∧
    (∀ w, c.isWorking w → (∃ e, c.isWorking e ∧ w < e) → c.before (c.after w) = w) ∧
    ∀ w, c.isWorking w → (∃ e, c.isWorking e ∧ e < w) → c.after (c.before w) = w := by
  refine ⟨isFirstIn_onOrAfter, isFirstIn_after, isLastIn_onOrBefore, isLastIn_before, ?_, ?_⟩
  · rintro w hw ⟨e, he, hlt⟩
    exact before_after hw he hlt
  · rintro w hw ⟨e, he, hlt⟩
    exact after_before hw he hlt

end Calendar

namespace Sample

/-- Monday to Friday, with Monday, 20 May 2024 off. -/
def withWhitMonday : Calendar :=
  { Calendar.standard with
    holidays := [⟨96485155, by decide⟩]
    holidays_ascending := List.pairwise_singleton _ _ }

/-- Friday, 17 May 2024. -/
def beforeWhitsun : Day := ⟨96485152, by decide⟩

/-- Tuesday, 21 May 2024. -/
def afterWhitsun : Day := ⟨96485156, by decide⟩

/-- The long weekend is stepped over in both directions. -/
theorem nearest_working_days_sample :
    (withWhitMonday.isWorking beforeWhitsun ∧ withWhitMonday.isWorking afterWhitsun ∧
        beforeWhitsun < afterWhitsun) ∧
      withWhitMonday.before (withWhitMonday.after beforeWhitsun) = beforeWhitsun ∧
      withWhitMonday.after (withWhitMonday.before afterWhitsun) = afterWhitsun := by
  obtain ⟨-, -, -, -, hforth, hback⟩ := Calendar.nearest_working_days withWhitMonday
  have hfriday : withWhitMonday.isWorking beforeWhitsun := by decide
  have htuesday : withWhitMonday.isWorking afterWhitsun := by decide
  have hlt : beforeWhitsun < afterWhitsun := by decide
  refine ⟨⟨hfriday, htuesday, hlt⟩, ?_, ?_⟩
  · exact hforth beforeWhitsun hfriday ⟨afterWhitsun, htuesday, hlt⟩
  · exact hback afterWhitsun htuesday ⟨beforeWhitsun, hfriday, hlt⟩

end Sample

end Workplan
