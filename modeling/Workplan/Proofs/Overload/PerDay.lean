import Workplan.Proofs.Overload.Booking
import Workplan.Proofs.Overload.Check
import Workplan.Proofs.Plan.Walk

/-!
# Overloads day by day

An overload can be told from the assignments that take part of one resource on one day, without
a ledger and without the other slots: there is one exactly if there are such assignments and
their shares pass the threshold, and it lists these shares. Slots are kept apart by the ledger,
and the ranking of overloads and shares neither loses nor repeats any.

## Main definitions

* `overloadsIn`: the overloads of a slot
* `IsOverload`: assignments whose shares pass the threshold
* `Overload.Tells`: what the overload of a slot says

## Main results

* `overloadsIn_overloadsAmong`: the overload of a slot depends on what is booked in it alone
* `exists_last_record`: the name of a resource is that of its last record
* `tells_of_overload?`: what is said of a slot is read off its assignments
* `overloads_per_day`: the overloads of a schedule, slot by slot
-/

namespace Workplan

variable {c : Calendar} {schedule : Schedule} {resources : List Resource}
  {assignments l : List Assignment} {threshold : Float} {slot : Slot} {o : Overload}

/-! ## Slots apart -/

/-- A slot is in the ledger once at most: the entries in front of its own and behind it are those of
other slots, since the keys of a ledger are distinct. -/
theorem Ledger.filter_toList (ledger : Ledger) (slot : Slot) :
    ledger.toList.filter (·.1 = slot) = (ledger[slot]?.map (slot, ·)).toList := by
  have hget : ∀ entry ∈ ledger.toList, ledger[entry.1]? = some entry.2 :=
    fun _ hentry => Std.TreeMap.mem_toList_iff_getElem?_eq_some.mp hentry
  cases hslot : ledger[slot]? with
  | none =>
    refine List.filter_eq_nil_iff.mpr fun entry hentry heq => ?_
    have hsome := hget entry hentry
    rw [of_decide_eq_true heq, hslot] at hsome
    cases hsome
  | some bookings =>
    obtain ⟨front, back, hlist⟩ :=
      List.append_of_mem (Std.TreeMap.mem_toList_iff_getElem?_eq_some.mpr hslot)
    have hdistinct := Std.TreeMap.distinct_keys_toList (t := ledger)
    simp only [Std.LawfulEqCmp.compare_eq_iff_eq] at hdistinct
    rw [hlist, List.pairwise_append, List.pairwise_cons] at hdistinct
    obtain ⟨-, ⟨hback, -⟩, hfront⟩ := hdistinct
    rw [hlist, List.filter_append, List.filter_cons_of_pos (by simp),
      List.filter_eq_nil_iff.mpr fun entry hentry heq =>
        hfront entry hentry _ List.mem_cons_self (of_decide_eq_true heq),
      List.filter_eq_nil_iff.mpr fun entry hentry heq =>
        hback entry hentry (of_decide_eq_true heq).symm]
    rfl

theorem slot_of_overload? {bookings : Bookings}
    (h : overload? schedule resources threshold slot bookings = some o) :
    o.resourceId = slot.resource ∧ o.day = slot.day := by
  unfold overload? at h
  split at h
  · cases h
  · cases h
    exact ⟨rfl, rfl⟩

/-- The overloads of a slot. -/
def overloadsIn (slot : Slot) (found : List Overload) : List Overload :=
  found.filter fun o => o.resourceId = slot.resource ∧ o.day = slot.day

/-- Of the entries of a ledger, only that of a slot has overloads in it. -/
theorem filter_overload? (entry : Slot × Bookings) (slot : Slot) :
    (overload? schedule resources threshold entry.1 entry.2).filter
        (fun o => o.resourceId = slot.resource ∧ o.day = slot.day) =
      if entry.1 = slot then overload? schedule resources threshold entry.1 entry.2 else none := by
  obtain ⟨⟨day, resource⟩, bookings⟩ := entry
  obtain ⟨day', resource'⟩ := slot
  cases ho : overload? schedule resources threshold ⟨day, resource⟩ bookings with
  | none => simp
  | some o =>
    obtain ⟨hresource, hday⟩ := slot_of_overload? ho
    simp only at hresource hday
    simp [Option.filter, hresource, hday, and_comm]

/-- A list of one entry at most has only one order. -/
theorem eq_toList_of_perm {α : Type} {l : List α} {o : Option α} (h : l.Perm o.toList) :
    l = o.toList := by
  cases o with
  | none => exact List.perm_nil.mp h
  | some a => exact List.perm_singleton.mp h

/-- **The overload of a slot depends on what is booked in it alone.** Ranking the overloads changes
their order, but not which of them there are, and a slot has no other than that of its entry. -/
theorem overloadsIn_overloadsAmong (ledger : Ledger) (slot : Slot) :
    overloadsIn slot (overloadsAmong schedule resources threshold ledger.toList) =
      (ledger[slot]?.bind (overload? schedule resources threshold slot)).toList := by
  apply eq_toList_of_perm
  refine ((ranked_perm _ _).filter _).trans (.of_eq ?_)
  have hslot : (ledger.toList.filterMap fun entry =>
        if entry.1 = slot then overload? schedule resources threshold entry.1 entry.2 else none) =
      (ledger.toList.filter (·.1 = slot)).filterMap fun entry =>
        overload? schedule resources threshold entry.1 entry.2 := by
    rw [List.filterMap_filter]
    simp only [decide_eq_true_eq]
  rw [List.filter_filterMap, funext fun entry => filter_overload? entry slot, hslot,
    Ledger.filter_toList]
  cases ledger[slot]? with
  | none => rfl
  | some bookings =>
    rw [Option.map_some, Option.toList_some, List.filterMap_cons, Option.bind_some]
    cases overload? schedule resources threshold slot bookings <;> rfl

/-! ## What an overload says -/

/-- The name of a resource is that of its last record. -/
theorem exists_last_record {id : String} (h : ∃ resource ∈ resources, resource.id = id) :
    ∃ front record back, resources = front ++ record :: back ∧ record.id = id ∧
      (∀ resource ∈ back, resource.id ≠ id) ∧ resourceName resources id = record.name := by
  cases hfind : resources.reverse.find? (·.id = id) with
  | none =>
    obtain ⟨resource, hresource, hid⟩ := h
    have := List.find?_eq_none.mp hfind resource (List.mem_reverse.mpr hresource)
    simp [hid] at this
  | some record =>
    obtain ⟨hid, back, front, hreverse, hback⟩ := List.find?_eq_some_iff_append.mp hfind
    refine ⟨front.reverse, record, back.reverse, ?_, by simpa using hid, ?_, ?_⟩
    · rw [← List.reverse_reverse resources, hreverse]
      simp
    · intro resource hresource
      simpa using hback resource (List.mem_reverse.mp hresource)
    · rw [resourceName, hfind]

/-- Do the shares of some assignments pass a threshold? -/
def IsOverload (l : List Assignment) (threshold : Float) : Prop :=
  l ≠ [] ∧ ¬ totalOf l ≤ threshold + Overload.tolerance

/-- **What the overload of a slot says**: the sum of the shares and the share of each task, with
the names that the schedule and the last record of the resource give. -/
structure Overload.Tells (o : Overload) (schedule : Schedule) (resources : List Resource)
    (slot : Slot) (l : List Assignment) : Prop where
  total_eq : o.total = totalOf l
  nodup : (o.shares.map (·.taskId)).Nodup
  mem_shares_iff : ∀ share, share ∈ o.shares ↔ (∃ a ∈ l, a.task = share.taskId) ∧
    share.percent = shareOf l share.taskId ∧
      ∃ t, schedule.get? share.taskId = some t ∧ share.taskName = t.taskName
  last_record : ∃ front record back, resources = front ++ record :: back ∧
    record.id = slot.resource ∧ (∀ resource ∈ back, resource.id ≠ slot.resource) ∧
      o.resourceName = record.name

theorem exists_overload? (schedule : Schedule) (resources : List Resource) (slot : Slot)
    (h : ¬ totalOf l ≤ threshold + Overload.tolerance) :
    ∃ o, overload? schedule resources threshold slot (bookingsOf l) = some o := by
  rw [overload?, total_bookingsOf, if_neg h]
  exact ⟨_, rfl⟩

/-- The overload of a slot lists no task twice. -/
theorem nodup_shares_of_overload?
    (h : overload? schedule resources threshold slot (bookingsOf l) = some o) :
    (o.shares.map (·.taskId)).Nodup := by
  unfold overload? at h
  split at h
  · cases h
  · cases h
    rw [((ranked_perm _ _).map _).nodup_iff, bookingsOf, List.map_map, List.map_map]
    simpa [Function.comp_def] using nodup_contributors l

/-- The shares of an overload are those of the tasks that take part of its slot. -/
theorem exists_of_mem_shares
    (h : overload? schedule resources threshold slot (bookingsOf l) = some o) {share : Share}
    (hshare : share ∈ o.shares) : ∃ a ∈ l, a.task = share.taskId := by
  unfold overload? at h
  split at h
  · cases h
  · cases h
    rw [mem_ranked, bookingsOf, List.map_map, List.mem_map] at hshare
    obtain ⟨task, htask, rfl⟩ := hshare
    exact mem_contributors.mp htask

/-- **What is said of a slot is read off its assignments.** -/
theorem tells_of_overload? (hkeys : ∀ a ∈ l, (schedule.get? a.task).isSome)
    (hrecord : ∃ resource ∈ resources, resource.id = slot.resource)
    (h : overload? schedule resources threshold slot (bookingsOf l) = some o) :
    o.Tells schedule resources slot l := by
  have hnodup := nodup_shares_of_overload? h
  unfold overload? at h
  split at h
  · cases h
  · cases h
    refine ⟨total_bookingsOf l, hnodup, fun share => ?_, exists_last_record hrecord⟩
    rw [mem_ranked, bookingsOf, List.map_map, List.mem_map]
    constructor
    · rintro ⟨task, htask, rfl⟩
      obtain ⟨a, ha, rfl⟩ := mem_contributors.mp htask
      obtain ⟨t, ht⟩ := Option.isSome_iff_exists.mp (hkeys a ha)
      exact ⟨⟨a, ha, rfl⟩, rfl, t, ht, by simp [ht]⟩
    · rintro ⟨htask, hpercent, t, ht, hname⟩
      obtain ⟨id, name, percent⟩ := share
      simp only at hpercent ht hname
      refine ⟨id, mem_contributors.mpr htask, ?_⟩
      simp [ht, hname, hpercent]

/-! ## Overloads of a schedule -/

/-- **The overloads of a schedule, slot by slot**: each resource has one overload on each day on
which the shares of the assignments that take part of it pass the threshold, and no other. -/
theorem overloads_per_day (hfinite : threshold.isFinite) (hpositive : ¬ threshold ≤ 0.0)
    (hassignments : ∀ a ∈ assignments, (schedule.get? a.task).isSome ∧
      ∃ resource ∈ resources, resource.id = a.resource) :
    ∃ found, overloads c schedule resources assignments threshold = .ok found ∧
      ∀ slot, (IsOverload (contributions c schedule assignments slot) threshold →
          ∃ o, overloadsIn slot found = [o] ∧
            o.Tells schedule resources slot (contributions c schedule assignments slot)) ∧
        (¬ IsOverload (contributions c schedule assignments slot) threshold →
          overloadsIn slot found = []) := by
  refine ⟨_, overloads_eq_ok_iff.mpr ⟨checkThreshold_eq_ok_iff.mpr ⟨hfinite, hpositive⟩,
    checkAssignments_eq_ok_iff.mpr hassignments, rfl⟩, fun slot => ?_⟩
  rw [overloadsIn_overloadsAmong, Ledger.getElem?_ofAssignments]
  by_cases hnil : contributions c schedule assignments slot = []
  · rw [if_pos hnil]
    exact ⟨fun h => absurd hnil h.1, fun _ => rfl⟩
  · rw [if_neg hnil, Option.bind_some]
    constructor
    · rintro ⟨-, htotal⟩
      obtain ⟨o, ho⟩ := exists_overload? schedule resources slot htotal
      refine ⟨o, by rw [ho, Option.toList_some], tells_of_overload? ?_ ?_ ho⟩
      · exact fun a ha => (hassignments a (mem_contributions.mp ha).1).1
      · obtain ⟨a, ha⟩ := List.exists_mem_of_ne_nil _ hnil
        obtain ⟨hmem, htakes⟩ := mem_contributions.mp ha
        rw [← htakes.1]
        exact (hassignments a hmem).2
    · intro h
      have htotal : (bookingsOf (contributions c schedule assignments slot)).total ≤
          threshold + Overload.tolerance := by
        rw [total_bookingsOf]
        by_contra htotal
        exact h ⟨hnil, htotal⟩
      rw [overload?, if_pos htotal, Option.toList_none]

namespace Sample

def tuesday : Day := ⟨96485142, by decide⟩

/-- A cover is printed on Monday and Tuesday, and an insert beside it on Tuesday. -/
def printed : Schedule := .ofEntries [
  ("cover", { taskId := "cover", taskName := "Cover", earliestStart := some monday,
              earliestFinish := some tuesday }),
  ("insert", { taskId := "insert", taskName := "Insert", earliestStart := some tuesday,
               earliestFinish := some tuesday })]

/-- The press has two records, the later of which gives its name. -/
def machines : List Resource :=
  [{ id := "press", name := "First press" }, { id := "desk" }, { id := "press", name := "Press" }]

/-- The cover takes the press twice, with the insert in between. -/
def bookings : List Assignment :=
  [{ task := "cover", resource := "press", percent := 60.0 },
    { task := "insert", resource := "press", percent := 30.0 },
    { task := "cover", resource := "desk" },
    { task := "cover", resource := "press", percent := 20.0 }]

theorem isOverload_tuesday :
    IsOverload (contributions .standard printed bookings ⟨tuesday, "press"⟩) 100.0 :=
  ⟨by decide, by decide⟩

theorem not_isOverload_monday :
    ¬ IsOverload (contributions .standard printed bookings ⟨monday, "press"⟩) 100.0 :=
  fun h => h.2 (by decide)

theorem overloads_per_day_sample :
    ∃ found, overloads .standard printed machines bookings 100.0 = .ok found ∧
      (∃ o, overloadsIn ⟨tuesday, "press"⟩ found = [o] ∧
        o.Tells printed machines ⟨tuesday, "press"⟩
          (contributions .standard printed bookings ⟨tuesday, "press"⟩)) ∧
      overloadsIn ⟨monday, "press"⟩ found = [] := by
  have hfinite : (100.0 : Float).isFinite := by decide
  have hassignments : ∀ a ∈ bookings, (printed.get? a.task).isSome ∧
      ∃ resource ∈ machines, resource.id = a.resource := by decide
  obtain ⟨found, hfound, hslots⟩ :=
    overloads_per_day (c := .standard) hfinite (by decide) hassignments
  exact ⟨found, hfound, (hslots _).1 isOverload_tuesday, (hslots _).2 not_isOverload_monday⟩

end Sample

end Workplan
