import Workplan.Proofs.Network.Acyclic

/-!
# Reordered projects

Two projects of the same tasks and dependencies, given in any order, meet the same demands: all of
these are about which ids and dependencies there are. Where they have networks, tasks with the same
id are counterparts, and every link has a counterpart between counterparts. Positions, names and
priorities may differ, and with them the whole order of the two networks.

## Main definitions

* `Task.plain`: a task apart from its name and its priority
* `IsReordered`: projects of the same plain tasks and the same dependencies

## Main results

* `nodup_iff`, `isResolved_iff`, `isAcyclic_iff`: such projects meet the same demands
* `exists_plain_eq`, `plain_eq_of_id_eq`: tasks have counterparts, and these have the same ids
* `exists_incoming`, `exists_outgoing`: links have counterparts between counterparts
-/

namespace Workplan

variable {n m : Nat} {tasks : Vector Task n} {tasks' : Vector Task m}
  {dependencies dependencies' : List Dependency}

/-- A task without its name and its priority. -/
def Task.plain (t : Task) : Task := { t with name := "", priority := defaultPriority }

theorem Task.id_eq_of_plain_eq {t u : Task} (h : t.plain = u.plain) : t.id = u.id :=
  (congrArg Task.id h :)

/-- **Projects of the same tasks and dependencies**, up to names and priorities, order, and
repeated dependencies. -/
structure IsReordered (tasks : Vector Task n) (dependencies : List Dependency)
    (tasks' : Vector Task m) (dependencies' : List Dependency) : Prop where
  tasks : (tasks.toList.map Task.plain).Perm (tasks'.toList.map Task.plain)
  dependencies : ∀ d, d ∈ dependencies ↔ d ∈ dependencies'

namespace IsReordered

variable (h : IsReordered tasks dependencies tasks' dependencies')

include h

theorem symm : IsReordered tasks' dependencies' tasks dependencies :=
  ⟨h.tasks.symm, fun d => (h.dependencies d).symm⟩

theorem length_eq : n = m := by
  simpa using h.tasks.length_eq

theorem ids_perm : (tasks.toList.map (·.id)).Perm (tasks'.toList.map (·.id)) := by
  have hperm := h.tasks.map Task.id
  rw [List.map_map, List.map_map] at hperm
  exact hperm

/-- Each task has a counterpart. -/
theorem exists_plain_eq (i : Fin n) : ∃ j, (tasks.get i).plain = (tasks'.get j).plain := by
  have hmem : (tasks.get i).plain ∈ tasks.toList.map Task.plain :=
    List.mem_map_of_mem (Vector.mem_toList_iff.mpr (Vector.getElem_mem i.isLt))
  obtain ⟨t, ht, heq⟩ := List.mem_map.mp (h.tasks.mem_iff.mp hmem)
  obtain ⟨j, hj, rfl⟩ := Vector.mem_iff_getElem.mp (Vector.mem_toList_iff.mp ht)
  exact ⟨⟨j, hj⟩, heq.symm⟩

/-! ## Demands -/

theorem nodup_iff : (tasks.toList.map (·.id)).Nodup ↔ (tasks'.toList.map (·.id)).Nodup :=
  h.ids_perm.nodup_iff

theorem isResolved (hresolved : IsResolved tasks dependencies) :
    IsResolved tasks' dependencies' := by
  intro d hd
  obtain ⟨i, j, hi, hj⟩ := hresolved d ((h.dependencies d).mpr hd)
  obtain ⟨i', hi'⟩ := h.exists_plain_eq i
  obtain ⟨j', hj'⟩ := h.exists_plain_eq j
  exact ⟨i', j', (Task.id_eq_of_plain_eq hi').symm.trans hi,
    (Task.id_eq_of_plain_eq hj').symm.trans hj⟩

theorem isResolved_iff : IsResolved tasks dependencies ↔ IsResolved tasks' dependencies' :=
  ⟨h.isResolved, h.symm.isResolved⟩

theorem isAcyclic_iff : IsAcyclic dependencies ↔ IsAcyclic dependencies' := by
  simp only [IsAcyclic, h.dependencies]

/-! ## Links -/

section Links

variable {net : Network n} {net' : Network m} {i : Fin n} {j : Fin m}
  (hnet : Network.ofProject tasks dependencies = .ok net)
  (hnet' : Network.ofProject tasks' dependencies' = .ok net')

include hnet'

omit h in
/-- A task has only one counterpart, as ids are distinct. -/
theorem eq_of_id_eq {k : Fin m} (hj : (tasks.get i).plain = (tasks'.get j).plain)
    (hk : (tasks.get i).id = (tasks'.get k).id) : k = j :=
  Network.id_injective hnet' (hk.symm.trans (Task.id_eq_of_plain_eq hj))

theorem plain_eq_of_id_eq (hid : (tasks.get i).id = (tasks'.get j).id) :
    (tasks.get i).plain = (tasks'.get j).plain := by
  obtain ⟨k, hk⟩ := h.exists_plain_eq i
  rw [hk, eq_of_id_eq hnet' hk hid]

include hnet

/-- Each link has a counterpart. -/
theorem exists_link {link : Link n} (hlink : link ∈ net.links) :
    ∃ link' ∈ net'.links, (tasks.get link.predecessor).id = (tasks'.get link'.predecessor).id ∧
      (tasks.get link.successor).id = (tasks'.get link'.successor).id ∧
      link.relation = link'.relation := by
  obtain ⟨d, hd, ⟨hp, hs⟩, hrelation⟩ := (Network.mem_links_iff hnet).mp hlink
  obtain ⟨link', hlink', ⟨hp', hs'⟩, hrelation'⟩ :=
    Network.exists_mem_links hnet' ((h.dependencies d).mp hd)
  exact ⟨link', hlink', hp.trans hp'.symm, hs.trans hs'.symm, hrelation.symm.trans hrelation'⟩

theorem exists_incoming (hij : (tasks.get i).plain = (tasks'.get j).plain) :
    ∀ link ∈ net.incoming i, ∃ link' ∈ net'.incoming j,
      (tasks.get link.predecessor).plain = (tasks'.get link'.predecessor).plain ∧
        link.relation = link'.relation := by
  intro link hlink
  obtain ⟨hmem, rfl⟩ := mem_linksInto.mp hlink
  obtain ⟨link', hlink', hp, hs, hrelation⟩ := h.exists_link hnet hnet' hmem
  exact ⟨link', mem_linksInto.mpr ⟨hlink', eq_of_id_eq hnet' hij hs⟩,
    h.plain_eq_of_id_eq hnet' hp, hrelation⟩

theorem exists_outgoing (hij : (tasks.get i).plain = (tasks'.get j).plain) :
    ∀ link ∈ net.outgoing i, ∃ link' ∈ net'.outgoing j,
      (tasks.get link.successor).plain = (tasks'.get link'.successor).plain ∧
        link.relation = link'.relation := by
  intro link hlink
  obtain ⟨hmem, rfl⟩ := mem_linksOutOf.mp hlink
  obtain ⟨link', hlink', hp, hs, hrelation⟩ := h.exists_link hnet hnet' hmem
  exact ⟨link', mem_linksOutOf.mpr ⟨hlink', eq_of_id_eq hnet' hij hp⟩,
    h.plain_eq_of_id_eq hnet' hs, hrelation⟩

end Links

end IsReordered

end Workplan
