import Mathlib.Data.List.Induction
import Workplan.Overload
import Workplan.Proofs.Calendar.Interval
import Workplan.Proofs.Schedule

/-!
# What is booked in a slot

The ledger is filled assignment by assignment and day by day, but each of its slots can be told
on its own: it holds what the assignments that take part of the resource on that day add up to,
task by task. An assignment books no day twice and no other resource, so that a slot is touched
by each of its assignments once, and by no other.

## Main definitions

* `Assignment.Takes`: an assignment that takes part of a resource on a day
* `contributions`: the assignments that do, in their order
* `contributors`, `shareOf`, `totalOf`: their tasks, the share of a task, and the sum of all shares
* `bookingsOf`: the shares as they are booked

## Main results

* `takes_iff`: an assignment is booked on the days on which it takes part
* `bookingsOf_append`: one more assignment adds its percentage to the share of its task
* `getElem?_ofAssignments`: what the ledger holds in a slot
-/

namespace Workplan

/-! ## Contributions -/

variable {c : Calendar} {schedule : Schedule} {a : Assignment} {slot : Slot}
  {l assignments : List Assignment} {task : String}

/-- **Does an assignment take part of a resource on a day?** It does if it has a percentage that
counts, and the day is a working day on which its task is done. -/
def Assignment.Takes (a : Assignment) (c : Calendar) (schedule : Schedule) (slot : Slot) : Prop :=
  a.resource = slot.resource ∧ ¬ a.percent ≤ 0.0 ∧ c.isWorking slot.day ∧ slot.day < Day.last ∧
    ∃ early ∈ schedule.early? a.task, early.start ≤ slot.day ∧ slot.day ≤ early.finish

instance (a : Assignment) (c : Calendar) (schedule : Schedule) (slot : Slot) :
    Decidable (a.Takes c schedule slot) :=
  inferInstanceAs (Decidable (_ ∧ _ ∧ _ ∧ _ ∧ _))

/-- The assignments that take part of a resource on a day, in their order. -/
def contributions (c : Calendar) (schedule : Schedule) (assignments : List Assignment)
    (slot : Slot) : List Assignment :=
  assignments.filter (·.Takes c schedule slot)

theorem mem_contributions :
    a ∈ contributions c schedule assignments slot ↔ a ∈ assignments ∧ a.Takes c schedule slot := by
  simp [contributions]

/-- The tasks of some assignments in the order in which they come first. -/
def contributors (l : List Assignment) : List String := (l.map (·.task)).eraseDups

/-- The share of a task: the percentages of its assignments, added up from left to right. -/
def shareOf (l : List Assignment) (task : String) : Float :=
  match l.filter (·.task = task) with
  | [] => 0.0
  | a :: rest => rest.foldl (fun sum b => sum + b.percent) a.percent

/-- The shares of all tasks, added up in the order of the tasks. -/
def totalOf (l : List Assignment) : Float :=
  (contributors l).foldl (fun sum task => sum + shareOf l task) 0.0

/-- The shares as they are booked. -/
def bookingsOf (l : List Assignment) : Bookings :=
  (contributors l).map fun task => (task, shareOf l task)

theorem total_bookingsOf (l : List Assignment) : (bookingsOf l).total = totalOf l := by
  rw [Bookings.total, bookingsOf, List.foldl_map]
  rfl

/-! ### One more assignment -/

theorem contributions_append_of_takes (h : a.Takes c schedule slot) :
    contributions c schedule (assignments ++ [a]) slot =
      contributions c schedule assignments slot ++ [a] := by
  rw [contributions, List.filter_append, List.filter_cons_of_pos (by simpa using h),
    List.filter_nil, contributions]

theorem contributions_append_of_not_takes (h : ¬ a.Takes c schedule slot) :
    contributions c schedule (assignments ++ [a]) slot =
      contributions c schedule assignments slot := by
  rw [contributions, List.filter_append, List.filter_cons_of_neg (by simpa using h),
    List.filter_nil, List.append_nil, contributions]

theorem mem_contributors : task ∈ contributors l ↔ ∃ a ∈ l, a.task = task := by
  simp [contributors]

theorem contributors_append_of_mem (h : a.task ∈ contributors l) :
    contributors (l ++ [a]) = contributors l := by
  rw [contributors, List.mem_eraseDups] at h
  rw [contributors, List.map_append, List.eraseDups_append, List.map_singleton, List.removeAll,
    List.filter_cons_of_neg (by simpa using h), List.filter_nil, List.eraseDups_nil,
    List.append_nil, contributors]

theorem contributors_append_of_not_mem (h : a.task ∉ contributors l) :
    contributors (l ++ [a]) = contributors l ++ [a.task] := by
  rw [contributors, List.mem_eraseDups] at h
  rw [contributors, List.map_append, List.eraseDups_append, List.map_singleton, List.removeAll,
    List.filter_cons_of_pos (by simpa using h), List.filter_nil, contributors]
  rfl

theorem nodup_contributors (l : List Assignment) : (contributors l).Nodup := by
  induction l using List.reverseRecOn with
  | nil => exact .nil
  | append_singleton l a ih =>
    by_cases h : a.task ∈ contributors l
    · rw [contributors_append_of_mem h]
      exact ih
    · rw [contributors_append_of_not_mem h]
      exact List.nodup_append.mpr ⟨ih, List.nodup_singleton _, by
        rintro x hx y hy rfl
        exact h (List.mem_singleton.mp hy ▸ hx)⟩

theorem shareOf_append_of_ne (h : a.task ≠ task) : shareOf (l ++ [a]) task = shareOf l task := by
  rw [shareOf, List.filter_append, List.filter_cons_of_neg (by simpa using h), List.filter_nil,
    List.append_nil, shareOf]

theorem shareOf_append_of_mem (h : a.task ∈ contributors l) :
    shareOf (l ++ [a]) a.task = shareOf l a.task + a.percent := by
  obtain ⟨b, hb, htask⟩ := mem_contributors.mp h
  rw [shareOf, List.filter_append, List.filter_cons_of_pos (by simp), List.filter_nil, shareOf]
  cases hfilter : l.filter (·.task = a.task) with
  | nil =>
    have := List.filter_eq_nil_iff.mp hfilter b hb
    simp [htask] at this
  | cons first rest =>
    exact List.foldl_concat (fun sum b => sum + b.percent) first.percent a rest

theorem shareOf_append_of_not_mem (h : a.task ∉ contributors l) :
    shareOf (l ++ [a]) a.task = a.percent := by
  have hfilter : l.filter (·.task = a.task) = [] := by
    refine List.filter_eq_nil_iff.mpr fun b hb htask => h ?_
    exact mem_contributors.mpr ⟨b, hb, by simpa using htask⟩
  rw [shareOf, List.filter_append, List.filter_cons_of_pos (by simp), List.filter_nil, hfilter]
  rfl

/-! ## Bookings -/

section Add

variable {tasks : List String} {f g : String → Float} {percent : Float}

/-- A percentage for a task that is booked goes to its share. The task is booked once, so that those
behind it in the list keep what they have. -/
theorem Bookings.add_map_of_mem (hnodup : tasks.Nodup) (h : task ∈ tasks)
    (htask : g task = f task + percent) (hother : ∀ t ∈ tasks, t ≠ task → g t = f t) :
    Bookings.add task percent (tasks.map fun t => (t, f t)) = tasks.map fun t => (t, g t) := by
  induction tasks with
  | nil => cases h
  | cons t rest ih =>
    obtain ⟨hnot, hrest⟩ := List.nodup_cons.mp hnodup
    rw [List.map_cons, List.map_cons, add]
    split
    · next heq =>
      subst heq
      have hrest : rest.map (fun u => (u, f u)) = rest.map fun u => (u, g u) :=
        List.map_congr_left fun u hu => by
          rw [hother u (List.mem_cons_of_mem _ hu) fun heq => hnot (heq ▸ hu)]
      rw [htask, hrest]
    · next hne =>
      have hmem : task ∈ rest := (List.mem_cons.mp h).resolve_left (Ne.symm hne)
      rw [hother t List.mem_cons_self hne,
        ih hrest hmem fun u hu => hother u (List.mem_cons_of_mem _ hu)]

/-- A percentage for a task that is not booked is booked last. -/
theorem Bookings.add_map_of_not_mem (h : task ∉ tasks) (htask : g task = percent)
    (hother : ∀ t ∈ tasks, g t = f t) :
    Bookings.add task percent (tasks.map fun t => (t, f t)) =
      (tasks ++ [task]).map fun t => (t, g t) := by
  induction tasks with
  | nil => simp [add, htask]
  | cons t rest ih =>
    obtain ⟨hne, hrest⟩ := List.ne_and_not_mem_of_not_mem_cons h
    rw [List.map_cons, add, if_neg (Ne.symm hne), List.cons_append, List.map_cons,
      hother t List.mem_cons_self, ih hrest fun u hu => hother u (List.mem_cons_of_mem _ hu)]

end Add

/-- **One more assignment adds its percentage to the share of its task.** -/
theorem bookingsOf_append (l : List Assignment) (a : Assignment) :
    bookingsOf (l ++ [a]) = Bookings.add a.task a.percent (bookingsOf l) := by
  rw [bookingsOf, bookingsOf]
  by_cases h : a.task ∈ contributors l
  · rw [contributors_append_of_mem h]
    refine (Bookings.add_map_of_mem (nodup_contributors l) h (shareOf_append_of_mem h) ?_).symm
    exact fun t _ hne => shareOf_append_of_ne (Ne.symm hne)
  · rw [contributors_append_of_not_mem h]
    refine (Bookings.add_map_of_not_mem h (shareOf_append_of_not_mem h) fun t ht => ?_).symm
    exact shareOf_append_of_ne fun heq => h (heq ▸ ht)

/-! ## The ledger -/

namespace Slot

instance : Std.TransOrd Slot :=
  inferInstanceAs (Std.TransCmp (compareLex (compareOn fun slot : Slot => slot.day.index)
    (compareOn Slot.resource)))

instance : Std.LawfulEqOrd Slot where
  eq_of_compare {a b} h := by
    obtain ⟨hday, hresource⟩ := (compareLex_eq_eq (a := a) (b := b)).mp h
    obtain ⟨day, resource⟩ := a
    obtain ⟨day', resource'⟩ := b
    obtain rfl : day = day' := Day.ext (Std.LawfulEqOrd.eq_of_compare hday)
    obtain rfl : resource = resource' := Std.LawfulEqOrd.eq_of_compare hresource
    rfl

end Slot

/-- The days on which an assignment is booked are read off the early dates of its task. -/
theorem bookingDays_eq : bookingDays c schedule a =
    if a.percent ≤ 0.0 then []
    else
      match schedule.early? a.task with
      | some early => c.daysIn early.start early.finish
      | none => [] := by
  unfold bookingDays Schedule.early?
  cases schedule.get? a.task with
  | none => rfl
  | some t =>
    obtain ⟨id, name, start, finish⟩ := t
    cases start <;> cases finish <;> rfl

/-- **An assignment is booked on the days on which it takes part.** -/
theorem takes_iff :
    a.Takes c schedule slot ↔ a.resource = slot.resource ∧ slot.day ∈ bookingDays c schedule a := by
  rw [bookingDays_eq, Assignment.Takes]
  refine and_congr_right fun _ => ?_
  split
  · next h => simp [h]
  · next h =>
    cases schedule.early? a.task with
    | none => simp
    | some early =>
      simp only [h, not_false_eq_true, true_and, Option.mem_some_iff, exists_eq_left',
        Calendar.mem_daysIn]
      tauto

theorem nodup_bookingDays : (bookingDays c schedule a).Nodup := by
  rw [bookingDays_eq]
  split
  · exact .nil
  · split
    · exact Calendar.nodup_daysIn
    · exact .nil

namespace Ledger

theorem getElem?_book (ledger : Ledger) (a : Assignment) (day : Day) (slot : Slot) :
    (ledger.book a day)[slot]? = if slot = ⟨day, a.resource⟩ then
      some (Bookings.add a.task a.percent (ledger[slot]?.getD [])) else ledger[slot]? := by
  rw [book, Std.TreeMap.getElem?_alter]
  simp only [Std.LawfulEqCmp.compare_eq_iff_eq]
  split
  · next h => rw [if_pos h.symm, h]
  · next h => rw [if_neg (Ne.symm h)]

/-- An assignment that is booked on distinct days touches a slot once, if its resource and its day
are among what is booked, and otherwise not at all. -/
theorem getElem?_foldl_book {days : List Day} (hnodup : days.Nodup) (ledger : Ledger)
    (a : Assignment) (slot : Slot) :
    (days.foldl (·.book a) ledger)[slot]? =
      if a.resource = slot.resource ∧ slot.day ∈ days then
        some (Bookings.add a.task a.percent (ledger[slot]?.getD [])) else ledger[slot]? := by
  induction days generalizing ledger with
  | nil => simp
  | cons day rest ih =>
    obtain ⟨hnot, hrest⟩ := List.nodup_cons.mp hnodup
    rw [List.foldl_cons, ih hrest, getElem?_book]
    obtain ⟨d, r⟩ := slot
    by_cases hr : a.resource = r
    · by_cases hd : d = day
      · subst hd
        simp [hr, hnot]
      · simp [hr, hd]
    · simp [hr, Ne.symm hr]

/-- **What the ledger holds in a slot** is what is booked by the assignments that take part in it;
a slot that none takes part in is not there. The ledger grows assignment by assignment. One that
takes part in the slot is booked behind those before it, or starts the slot if it is the first; the
others leave the slot as it is. -/
theorem getElem?_ofAssignments (c : Calendar) (schedule : Schedule) (assignments : List Assignment)
    (slot : Slot) :
    (ofAssignments c schedule assignments)[slot]? =
      if contributions c schedule assignments slot = [] then none
      else some (bookingsOf (contributions c schedule assignments slot)) := by
  induction assignments using List.reverseRecOn with
  | nil => simp [ofAssignments, contributions]
  | append_singleton assignments a ih =>
    have hstep : ofAssignments c schedule (assignments ++ [a]) =
        (bookingDays c schedule a).foldl (·.book a) (ofAssignments c schedule assignments) := by
      rw [ofAssignments, List.foldl_append, List.foldl_cons, List.foldl_nil, ofAssignments]
    rw [hstep, getElem?_foldl_book nodup_bookingDays, ih]
    by_cases htakes : a.Takes c schedule slot
    · have hcons : contributions c schedule assignments slot ++ [a] ≠ [] := by simp
      rw [if_pos (takes_iff.mp htakes), contributions_append_of_takes htakes, if_neg hcons,
        bookingsOf_append]
      split
      · next hnil =>
        rw [hnil]
        rfl
      · rfl
    · rw [if_neg (mt takes_iff.mpr htakes), contributions_append_of_not_takes htakes]

end Ledger

end Workplan
