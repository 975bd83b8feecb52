import Mathlib.Data.String.Basic
import Workplan.Proofs.Overload.PerDay
import Workplan.Proofs.Percent
import Workplan.Proofs.Ranking

/-!
# The order of results

Overloads are collected from the slots of a ledger, and a critical path from the entries of a
schedule. Both are ranked before they are returned. The ranking of overloads and of shares leaves
no ties, as it goes by the resource and the day in the end, or by the task; so it brings them into
a strict order. Entries that tie on a critical path have the same id. Thus no result shows the order
in which slots or entries came.

Percentages take part in the ranking, so they have to be numbers. Percentages that are booked are,
as long as those of the assignments are, and so are their sums.

## Main definitions

* `Share.IsBefore`, `Overload.IsBefore`: the strict orders of shares and of overloads
* `Timing.IsNotAfter`: the order of critical entries
* `InOrder`: overloads in their order, with their shares in theirs
* `IsCriticalOrder`: the ids of critical entries in their order

## Main results

* `isAmount_totalOf`: the total of a slot is a number
* `inOrder_overloadsAmong`: overloads are put in order
* `overloadsAmong_eq_of_perm`: and in the same order, however the slots came
* `isCriticalOrder_criticalIds`, `criticalIds_eq_of_perm`: the same of a critical path
* `results_independent_of_order`: no result shows the order of slots or entries
-/

namespace Workplan

/-! ## Orders -/

/-- Is a share strictly before another? Larger ones are, then those whose task is first by name,
whatever the case, and then by id. -/
def Share.IsBefore (a b : Share) : Prop :=
  b.percent < a.percent ∨ b.percent == a.percent ∧
    (lowercase a.taskName < lowercase b.taskName ∨
      lowercase a.taskName = lowercase b.taskName ∧ a.taskId < b.taskId)

/-- Is an overload strictly before another? Earlier ones are, then those whose resource is first by
name, whatever the case, then larger ones, and then those whose resource is first by id. -/
def Overload.IsBefore (a b : Overload) : Prop :=
  a.day < b.day ∨ a.day = b.day ∧
    (lowercase a.resourceName < lowercase b.resourceName ∨
      lowercase a.resourceName = lowercase b.resourceName ∧
        (b.total < a.total ∨ b.total == a.total ∧ a.resourceId < b.resourceId))

/-- Is an entry named no later than another? Those that start earlier are, without a start first,
and then those that come no later by id. -/
def Timing.IsNotAfter (t u : Timing) : Prop :=
  t.earliestStart < u.earliestStart ∨ t.earliestStart = u.earliestStart ∧ t.taskId ≤ u.taskId

/-- **Overloads in their order**, one for a resource on a day, with their shares in theirs, one for
a task. -/
structure InOrder (found : List Overload) : Prop where
  isBefore : found.Pairwise Overload.IsBefore
  nodup : (found.map fun o => (o.day, o.resourceId)).Nodup
  shares_isBefore : ∀ o ∈ found, o.shares.Pairwise Share.IsBefore
  nodup_shares : ∀ o ∈ found, (o.shares.map (·.taskId)).Nodup

/-- **The ids of the critical entries in their order.** -/
def IsCriticalOrder (timings : List Timing) (ids : List String) : Prop :=
  ∃ critical : List Timing, critical.Perm (timings.filter (·.isCritical)) ∧
    critical.Pairwise Timing.IsNotAfter ∧ critical.map (·.taskId) = ids

/-! ## Shares -/

namespace Share

/-- The comparison of shares, with percentages compared by their keys. -/
def keyCompare (a b : Share) : Ordering :=
  ((compare (percentKey b.percent) (percentKey a.percent)).then
    (compare (lowercase a.taskName) (lowercase b.taskName))).then (compare a.taskId b.taskId)

instance : Std.TransCmp keyCompare :=
  inferInstanceAs (Std.TransCmp (compareLex (compareLex
    (fun a b => compareOn (fun share : Share => percentKey share.percent) b a)
    (compareOn fun share : Share => lowercase share.taskName)) (compareOn Share.taskId)))

theorem taskId_eq_of_keyCompare (a b : Share) (h : keyCompare a b = .eq) : a.taskId = b.taskId :=
  compare_eq_iff_eq.mp (Ordering.then_eq_eq.mp h).2

section Number

variable {a b : Share} (ha : ¬ a.percent.isNaN) (hb : ¬ b.percent.isNaN)

include ha hb

theorem precedes_eq_keyCompare : a.precedes b = (a.keyCompare b).isLT := by
  rw [precedes, comparePercent_eq_compare hb ha, keyCompare]

theorem precedes_iff_isBefore : a.precedes b ↔ a.IsBefore b := by
  rw [precedes_eq_keyCompare ha hb, IsBefore, lt_iff_percentKey_lt hb ha,
    beq_iff_percentKey_eq hb ha, keyCompare]
  simp only [Ordering.then_assoc, Ordering.isLT_iff_eq_lt, Ordering.then_eq_lt, compare_lt_iff_lt,
    compare_eq_iff_eq]

end Number

/-- **Shares of different tasks are put in order.** -/
theorem pairwise_isBefore_ranked {shares : List Share}
    (hnumber : ∀ share ∈ shares, ¬ share.percent.isNaN) (hnodup : (shares.map (·.taskId)).Nodup) :
    (ranked precedes shares).Pairwise IsBefore := by
  refine (pairwise_precedes_ranked (fun a ha b hb => precedes_eq_keyCompare (hnumber a ha)
    (hnumber b hb)) taskId_eq_of_keyCompare hnodup).imp_of_mem fun ha hb hab => ?_
  exact (precedes_iff_isBefore (hnumber _ (mem_ranked.mp ha)) (hnumber _ (mem_ranked.mp hb))).mp hab

end Share

/-! ## Overloads -/

namespace Overload

/-- The resource and the day of an overload. -/
abbrev place (o : Overload) : Day × String := (o.day, o.resourceId)

/-- The comparison of overloads, with percentages compared by their keys. -/
def keyCompare (a b : Overload) : Ordering :=
  (((compare a.day b.day).then
    (compare (lowercase a.resourceName) (lowercase b.resourceName))).then
      (compare (percentKey b.total) (percentKey a.total))).then (compare a.resourceId b.resourceId)

instance : Std.TransCmp keyCompare :=
  inferInstanceAs (Std.TransCmp (compareLex (compareLex (compareLex (compareOn Overload.day)
    (compareOn fun o : Overload => lowercase o.resourceName))
    (fun a b => compareOn (fun o : Overload => percentKey o.total) b a))
    (compareOn Overload.resourceId)))

theorem place_eq_of_keyCompare (a b : Overload) (h : keyCompare a b = .eq) : a.place = b.place := by
  obtain ⟨h, hresource⟩ := Ordering.then_eq_eq.mp h
  have hday := (Ordering.then_eq_eq.mp (Ordering.then_eq_eq.mp h).1).1
  rw [place, place, compare_eq_iff_eq.mp hday, compare_eq_iff_eq.mp hresource]

section Number

variable {a b : Overload} (ha : ¬ a.total.isNaN) (hb : ¬ b.total.isNaN)

include ha hb

theorem precedes_eq_keyCompare : a.precedes b = (a.keyCompare b).isLT := by
  rw [precedes, comparePercent_eq_compare hb ha, keyCompare]

theorem precedes_iff_isBefore : a.precedes b ↔ a.IsBefore b := by
  rw [precedes_eq_keyCompare ha hb, IsBefore, lt_iff_percentKey_lt hb ha,
    beq_iff_percentKey_eq hb ha, keyCompare]
  simp only [Ordering.then_assoc, Ordering.isLT_iff_eq_lt, Ordering.then_eq_lt, compare_lt_iff_lt,
    compare_eq_iff_eq]

end Number

section Places

variable {entries entries' : List Overload} (hnumber : ∀ o ∈ entries, ¬ o.total.isNaN)
  (hnodup : (entries.map place).Nodup)

include hnumber hnodup

/-- **Overloads in different places are put in order.** -/
theorem pairwise_isBefore_ranked : (ranked precedes entries).Pairwise IsBefore := by
  refine (pairwise_precedes_ranked (fun a ha b hb => precedes_eq_keyCompare (hnumber a ha)
    (hnumber b hb)) place_eq_of_keyCompare hnodup).imp_of_mem fun ha hb hab => ?_
  exact (precedes_iff_isBefore (hnumber _ (mem_ranked.mp ha)) (hnumber _ (mem_ranked.mp hb))).mp hab

/-- **And in the same order, however they came.** -/
theorem ranked_eq_of_perm (hperm : entries.Perm entries') :
    ranked precedes entries = ranked precedes entries' :=
  ranked_eq_of_perm_of_nodup (fun a ha b hb => precedes_eq_keyCompare (hnumber a ha) (hnumber b hb))
    place_eq_of_keyCompare hnodup hperm

end Places

end Overload

/-! ## Booked percentages -/

variable {c : Calendar} {schedule : Schedule} {resources : List Resource}
  {assignments l : List Assignment} {threshold : Float} {slot : Slot} {o : Overload}

section Amounts

variable (hamounts : ∀ a ∈ l, IsAmount a.percent)

include hamounts

theorem isAmount_shareOf (task : String) : IsAmount (shareOf l task) := by
  unfold shareOf
  split
  · exact isAmount_zero
  · next first rest hfilter =>
    have hmem : ∀ a ∈ first :: rest, IsAmount a.percent := by
      rw [← hfilter]
      exact fun a ha => hamounts a (List.mem_of_mem_filter ha)
    obtain ⟨hfirst, hrest⟩ := List.forall_mem_cons.mp hmem
    exact isAmount_foldl hfirst hrest

/-- **The total of a slot is a number.** -/
theorem isAmount_totalOf : IsAmount (totalOf l) :=
  isAmount_foldl isAmount_zero fun task _ => isAmount_shareOf hamounts task

variable (h : overload? schedule resources threshold slot (bookingsOf l) = some o)

include h

theorem isAmount_total_of_overload? : IsAmount o.total := by
  unfold overload? at h
  split at h
  · cases h
  · cases h
    rw [total_bookingsOf]
    exact isAmount_totalOf hamounts

/-- **The shares of an overload are put in order.** -/
theorem pairwise_shares_of_overload? : o.shares.Pairwise Share.IsBefore := by
  have hnodup := nodup_shares_of_overload? h
  unfold overload? at h
  split at h
  · cases h
  · cases h
    rw [((ranked_perm _ _).map _).nodup_iff] at hnodup
    refine Share.pairwise_isBefore_ranked (fun share hshare => ?_) hnodup
    obtain ⟨booking, hbooking, rfl⟩ := List.mem_map.mp hshare
    obtain ⟨task, -, rfl⟩ := List.mem_map.mp hbooking
    exact (isAmount_shareOf hamounts task).not_isNaN

end Amounts

/-- Assignments that take part of a resource have percentages that count. -/
theorem isAmount_of_mem_contributions (hpercent : ∀ a ∈ assignments, ¬ a.percent.isNaN) :
    ∀ a ∈ contributions c schedule assignments slot, IsAmount a.percent := by
  intro a ha
  obtain ⟨hmem, -, hpos, -⟩ := mem_contributions.mp ha
  exact isAmount_of_not_le_zero (hpercent a hmem) hpos

/-! ## Slots in any order -/

/-- The overloads among booked slots as they come. -/
def overloadsAt (schedule : Schedule) (resources : List Resource) (threshold : Float)
    (slots : List (Slot × Bookings)) : List Overload :=
  slots.filterMap fun (slot, bookings) => overload? schedule resources threshold slot bookings

section Slots

variable {slots : List (Slot × Bookings)}
  (hslots : slots.Perm (Ledger.ofAssignments c schedule assignments).toList)

include hslots

/-- Overloads come from what is booked in their slots. -/
theorem exists_slot_of_mem_overloadsAt (ho : o ∈ overloadsAt schedule resources threshold slots) :
    ∃ slot, overload? schedule resources threshold slot
      (bookingsOf (contributions c schedule assignments slot)) = some o := by
  obtain ⟨⟨slot, bookings⟩, hentry, ho⟩ := List.mem_filterMap.mp ho
  have hget := Std.TreeMap.mem_toList_iff_getElem?_eq_some.mp (hslots.mem_iff.mp hentry)
  rw [Ledger.getElem?_ofAssignments] at hget
  split at hget
  · cases hget
  · cases hget
    exact ⟨slot, ho⟩

/-- No two overloads are in the same place, as no two entries of a ledger are in the same slot. -/
theorem nodup_place_overloadsAt :
    ((overloadsAt schedule resources threshold slots).map Overload.place).Nodup := by
  have hdistinct : slots.Pairwise fun a b => a.1 ≠ b.1 := by
    refine (hslots.pairwise_iff fun hne => hne.symm).mpr ?_
    have hledger := Std.TreeMap.distinct_keys_toList (t := Ledger.ofAssignments c schedule
      assignments)
    simpa only [Std.LawfulEqCmp.compare_eq_iff_eq] using hledger
  refine List.pairwise_map.mpr (List.Pairwise.filterMap _ ?_ hdistinct)
  intro a b hne o ho o' ho' hplace
  obtain ⟨hresource, hday⟩ := slot_of_overload? ho
  obtain ⟨hresource', hday'⟩ := slot_of_overload? ho'
  obtain ⟨hdays, hresources⟩ := Prod.mk.inj hplace
  exact hne (congrArg₂ Slot.mk (hday.symm.trans (hdays.trans hday'))
    (hresource.symm.trans (hresources.trans hresource')))

variable (hpercent : ∀ a ∈ assignments, ¬ a.percent.isNaN)

include hpercent

theorem not_isNaN_of_mem_overloadsAt :
    ∀ o ∈ overloadsAt schedule resources threshold slots, ¬ o.total.isNaN := by
  intro o ho
  obtain ⟨slot, ho⟩ := exists_slot_of_mem_overloadsAt hslots ho
  exact (isAmount_total_of_overload? (isAmount_of_mem_contributions hpercent) ho).not_isNaN

/-- **Overloads are put in order.** -/
theorem inOrder_overloadsAmong :
    InOrder (overloadsAmong schedule resources threshold slots) := by
  change InOrder (ranked Overload.precedes (overloadsAt schedule resources threshold slots))
  have hnodup : ((overloadsAt schedule resources threshold slots).map Overload.place).Nodup :=
    nodup_place_overloadsAt hslots
  refine ⟨Overload.pairwise_isBefore_ranked (not_isNaN_of_mem_overloadsAt hslots hpercent) hnodup,
    ((ranked_perm _ _).map _).nodup_iff.mpr hnodup, fun o ho => ?_, fun o ho => ?_⟩
  · obtain ⟨slot, ho⟩ := exists_slot_of_mem_overloadsAt hslots (mem_ranked.mp ho)
    exact pairwise_shares_of_overload? (isAmount_of_mem_contributions hpercent) ho
  · obtain ⟨slot, ho⟩ := exists_slot_of_mem_overloadsAt hslots (mem_ranked.mp ho)
    exact nodup_shares_of_overload? ho

/-- **And in the same order, however the slots came.** -/
theorem overloadsAmong_eq_of_perm :
    overloadsAmong schedule resources threshold slots = overloadsAmong schedule resources threshold
      (Ledger.ofAssignments c schedule assignments).toList :=
  Overload.ranked_eq_of_perm (not_isNaN_of_mem_overloadsAt hslots hpercent)
    (nodup_place_overloadsAt hslots) (hslots.filterMap _)

end Slots

/-! ## Critical paths -/

/-- What a critical path goes by: the earliest start of an entry and its id. -/
abbrev Timing.turn (t : Timing) : Option Day × String := (t.earliestStart, t.taskId)

/-- The comparison of what a critical path goes by. -/
def turnCompare (a b : Option Day × String) : Ordering :=
  (compare a.1 b.1).then (compare a.2 b.2)

instance : Std.TransCmp turnCompare :=
  inferInstanceAs (Std.TransCmp (compareLex (compareOn Prod.fst) (compareOn Prod.snd)))

theorem eq_of_turnCompare {a b : Option Day × String} (h : turnCompare a b = .eq) : a = b := by
  obtain ⟨hstart, hid⟩ := Ordering.then_eq_eq.mp h
  exact Prod.ext (Std.LawfulEqOrd.eq_of_compare hstart) (compare_eq_iff_eq.mp hid)

theorem compare_start_eq_lt_iff {a b : Option Day} : compare a b = .lt ↔ a < b := by
  cases a with
  | none =>
    cases b with
    | none => exact iff_of_false nofun nofun
    | some e => exact iff_of_true rfl trivial
  | some d =>
    cases b with
    | none => exact iff_of_false nofun nofun
    | some e => exact compare_lt_iff_lt (a := d) (b := e)

theorem Timing.not_precedes_iff {t u : Timing} : ¬ u.precedes t ↔ t.IsNotAfter u := by
  change ¬ (turnCompare u.turn t.turn).isLT ↔ _
  rw [not_isLT_iff, turnCompare, Ordering.isLE_then_iff_or, compare_start_eq_lt_iff,
    Std.LawfulEqCmp.compare_eq_iff_eq, Ordering.isLE_iff_ne_gt, ← ne_eq, compare_le_iff_le,
    IsNotAfter]

theorem Timing.isRanking_precedes : IsRanking Timing.precedes :=
  have h : IsRanking fun t u : Timing => (compareLex (compareOn Timing.earliestStart)
    (compareOn Timing.taskId) t u).isLT := isRanking_isLT
  h

variable {timings timings' : List Timing}

/-- **A critical path is put in order.** -/
theorem isCriticalOrder_criticalIds (timings : List Timing) :
    IsCriticalOrder timings (criticalIds timings) :=
  ⟨_, ranked_perm _ _, (inOrder_ranked Timing.isRanking_precedes _).imp Timing.not_precedes_iff.mp,
    rfl⟩

/-- A critical path is told by the turns of its entries. -/
theorem criticalIds_eq_map_turn (timings : List Timing) : criticalIds timings =
    (ranked (fun a b => (turnCompare a b).isLT)
      ((timings.filter (·.isCritical)).map Timing.turn)).map Prod.snd := by
  have hturn : ∀ t u : Timing, (turnCompare t.turn u.turn).isLT = t.precedes u := fun _ _ => rfl
  rw [ranked_map hturn, List.map_map]
  rfl

/-- **And in the same order, however its entries came**: those that tie have the same id. -/
theorem criticalIds_eq_of_perm (h : timings.Perm timings') :
    criticalIds timings = criticalIds timings' := by
  rw [criticalIds_eq_map_turn, criticalIds_eq_map_turn]
  refine congrArg (List.map Prod.snd) (ranked_eq_of_perm isRanking_isLT ((h.filter _).map _) ?_)
  intro a b _ _ hab hba
  exact eq_of_turnCompare
    (Std.OrientedCmp.isLE_antisymm (not_isLT_iff.mp hba) (not_isLT_iff.mp hab))

/-! ## Results -/

/-- **No result shows the order in which the entries of a map came.** The overloads of a schedule
are in order, and the same for the slots of the ledger in any order; the critical path of a schedule
with any keys is in order, and the same for its entries in any order. -/
theorem results_independent_of_order (hpercent : ∀ a ∈ assignments, ¬ a.percent.isNaN)
    {found : List Overload}
    (hfound : overloads c schedule resources assignments threshold = .ok found) (s : Schedule) :
    InOrder found ∧
    (∀ slots, slots.Perm (Ledger.ofAssignments c schedule assignments).toList →
      overloadsAmong schedule resources threshold slots = found) ∧
    IsCriticalOrder (s.entries.map (·.2)) s.criticalPath ∧
    ∀ timings, timings.Perm (s.entries.map (·.2)) → criticalIds timings = s.criticalPath := by
  obtain ⟨-, -, rfl⟩ := overloads_eq_ok_iff.mp hfound
  exact ⟨inOrder_overloadsAmong (.refl _) hpercent,
    fun slots hslots => overloadsAmong_eq_of_perm hslots hpercent,
    isCriticalOrder_criticalIds _, fun timings htimings => criticalIds_eq_of_perm htimings⟩

namespace Sample

/-- A schedule with keys of its own, two of them for the same task. -/
def keyed : Schedule := .ofEntries [
  ("first", { taskId := "insert", earliestStart := some tuesday, isCritical := true }),
  ("second", { taskId := "cover", earliestStart := some monday, isCritical := true }),
  ("third", { taskId := "cover", earliestStart := some monday, isCritical := true })]

theorem results_independent_of_order_sample :
    ∃ found, overloads .standard printed machines bookings 100.0 = .ok found ∧
      InOrder found ∧
      (∀ slots, slots.Perm (Ledger.ofAssignments .standard printed bookings).toList →
        overloadsAmong printed machines 100.0 slots = found) ∧
      IsCriticalOrder (keyed.entries.map (·.2)) keyed.criticalPath ∧
      ∀ timings, timings.Perm (keyed.entries.map (·.2)) →
        criticalIds timings = keyed.criticalPath := by
  have hpercent : ∀ a ∈ bookings, ¬ a.percent.isNaN := by decide
  have hthreshold : checkThreshold 100.0 = .ok () := by
    rw [checkThreshold_eq_ok_iff]
    decide
  have hassignments : checkAssignments printed machines bookings = .ok () := by
    rw [checkAssignments_eq_ok_iff]
    decide
  have hfound := overloads_eq_ok_iff (c := .standard).mpr ⟨hthreshold, hassignments, rfl⟩
  exact ⟨_, hfound, results_independent_of_order hpercent hfound keyed⟩

end Sample

end Workplan
