import Workplan.Proofs.Calendar.Rank
import Workplan.Schedule
import Workplan.Span

/-!
# Reading schedules

A schedule made from entries with distinct keys holds exactly these entries, and everything
that is read off a schedule is read off its entries by their keys.

## Main definitions

* `Schedule.early?`, `Schedule.late?`, `Schedule.slack?`: the dates and the slack under a key
* `Schedule.isScheduled`, `Schedule.isCritical`, `Schedule.EndsProject`: whether there are
  dates under a key, whether they are critical, and whether they end the project

## Main results

* `get?_ofEntries`: the entries of a schedule with distinct keys
* `finish?_eq_some_iff`: the finish of a schedule
* `criticalPath_ne_nil`: a critical entry is on the critical path
-/

namespace Workplan

namespace Timing

variable (t : Timing)

/-- The early dates, if there are both. -/
def early? : Option Span := do return ⟨← t.earliestStart, ← t.earliestFinish⟩

/-- The late dates, if there are both. -/
def late? : Option Span := do return ⟨← t.latestStart, ← t.latestFinish⟩

theorem isSome_early? : t.early?.isSome = t.isScheduled := by
  unfold early? isScheduled
  cases t.earliestStart <;> cases t.earliestFinish <;> rfl

end Timing

namespace Schedule

section Reading

variable (s : Schedule) (key : String)

/-- The early dates under a key. -/
def early? : Option Span := (s.get? key).bind Timing.early?

/-- The late dates under a key. -/
def late? : Option Span := (s.get? key).bind Timing.late?

/-- The slack under a key. -/
def slack? : Option Int := (s.get? key).bind (·.slack)

/-- Are there dates under a key? -/
def isScheduled : Bool := (s.get? key).any (·.isScheduled)

/-- Is the entry under a key critical? -/
def isCritical : Bool := (s.get? key).any (·.isCritical)

/-- Do the early dates under a key finish on the last day of the schedule? -/
def EndsProject : Prop := ∃ early, s.early? key = some early ∧ s.finish? = some early.finish

theorem isScheduled_iff : s.isScheduled key ↔ ∃ span, s.early? key = some span := by
  unfold isScheduled early?
  rw [← Option.isSome_iff_exists]
  cases s.get? key with
  | none => rfl
  | some t => rw [Option.any_some, Option.bind_some, Timing.isSome_early?]

variable {s key} in
theorem exists_earliestStart (h : s.isScheduled key) :
    ∃ start, (s.get? key).bind (·.earliestStart) = some start := by
  obtain ⟨t, ht, hscheduled⟩ := (Option.any_eq_true _ _).mp h
  rw [ht]
  exact Option.isSome_iff_exists.mp (Bool.and_eq_true _ _ |>.mp hscheduled).1

end Reading

variable {entries : List (String × Timing)} {s : Schedule} {key : String} {t : Timing}

/-! ## Schedules of entries -/

/-- Entries that are put in replace what was there under their keys. With distinct keys none of them
is replaced by a later one, so that all of them are there in the end. -/
theorem getElem?_foldl_insert (h : (entries.map (·.1)).Nodup)
    (timings : Std.TreeMap String Timing) :
    (entries.foldl (fun timings entry => timings.insert entry.1 entry.2) timings)[key]? = some t ↔
      (key, t) ∈ entries ∨ key ∉ entries.map (·.1) ∧ timings[key]? = some t := by
  induction entries generalizing timings with
  | nil => simp
  | cons entry rest ih =>
    obtain ⟨k, u⟩ := entry
    rw [List.map_cons, List.nodup_cons] at h
    rw [List.foldl_cons, ih h.2, Std.TreeMap.getElem?_insert]
    by_cases hk : k = key
    · subst hk
      have hrest : (k, t) ∉ rest := fun hmem => h.1 (List.mem_map.mpr ⟨_, hmem, rfl⟩)
      rw [if_pos Std.ReflOrd.compare_self]
      simp [hrest, h.1, eq_comm]
    · have hcompare : compare k key ≠ .eq := fun heq => hk (Std.LawfulEqOrd.eq_of_compare heq)
      rw [if_neg hcompare]
      simp [Ne.symm hk]

/-- **A schedule of entries with distinct keys holds exactly these entries.** -/
theorem get?_ofEntries (h : (entries.map (·.1)).Nodup) :
    (ofEntries entries).get? key = some t ↔ (key, t) ∈ entries := by
  refine (getElem?_foldl_insert h ∅).trans ?_
  simp

/-! ## The finish and the critical path -/

theorem mem_entries : (key, t) ∈ s.entries ↔ s.get? key = some t :=
  Std.TreeMap.mem_toList_iff_getElem?_eq_some

/-- Schedules that agree under each key, as far as two views tell, list their entries alike. -/
theorem map_entries_eq {α : Type} {s' : Schedule} {view view' : Timing → α}
    (h : ∀ key, (s.get? key).map view = (s'.get? key).map view') :
    s.entries.map (fun entry => (entry.1, view entry.2)) =
      s'.entries.map fun entry => (entry.1, view' entry.2) := by
  have hequiv : (s.timings.map fun _ t => view t).Equiv (s'.timings.map fun _ t => view' t) :=
    Std.TreeMap.Equiv.of_forall_constGet?_eq fun key => by
      change (s.timings.map fun _ t => view t)[key]? = (s'.timings.map fun _ t => view' t)[key]?
      rw [Std.TreeMap.getElem?_map, Std.TreeMap.getElem?_map]
      exact h key
  have hlist := hequiv.toList_eq
  rw [Std.TreeMap.toList_map, Std.TreeMap.toList_map] at hlist
  exact hlist

/-- **The finish of a schedule is the last of its earliest finishes.** -/
theorem finish?_eq_some_iff {finish : Day} :
    s.finish? = some finish ↔
      (∃ key t, s.get? key = some t ∧ t.earliestFinish = some finish) ∧
        ∀ key t d, s.get? key = some t → t.earliestFinish = some d → d ≤ finish := by
  rw [finish?, List.max?_eq_some_iff]
  simp only [List.mem_filterMap, Prod.exists, mem_entries]
  refine and_congr_right fun _ => ⟨?_, ?_⟩
  · intro h key t d ht hd
    exact h d ⟨key, t, ht, hd⟩
  · rintro h d ⟨key, t, ht, hd⟩
    exact h key t d ht hd

/-- A critical entry is on the critical path. -/
theorem criticalPath_ne_nil (h : s.isCritical key) : s.criticalPath ≠ [] := by
  obtain ⟨t, ht, hcritical⟩ := (Option.any_eq_true _ _).mp h
  have hmem : t ∈ (s.entries.map (·.2)).filter (·.isCritical) :=
    List.mem_filter.mpr ⟨List.mem_map.mpr ⟨_, mem_entries.mpr ht, rfl⟩, hcritical⟩
  intro hnil
  rw [criticalPath, criticalIds, List.map_eq_nil_iff] at hnil
  exact List.ne_nil_of_mem (mem_ranked.mpr hmem) hnil

end Schedule

end Workplan
