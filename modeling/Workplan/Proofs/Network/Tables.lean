import Workplan.Proofs.Network.Resolution

/-!
# The tables of a network

A network is read through tables: from ids to positions and back, and from each task to the ones
before it and behind it. A schedule is found by the one adjacency table on the way along the
network and by the other one on the way back, so the two have to tell the same. They do, because
both are entered link by link, and the links go one by one with the dependencies of the project.

## Main definitions

* `Network.Represents`: the tables of a network tell exactly what its project says

## Main results

* `forall₂_links`: the links of a network go one by one with the dependencies
* `predecessors_adjacency`, `successors_adjacency`: the entries of a task, in the order of the
  dependencies and with their repetitions
* `Adjacency.count_ofLinks`: each of the two tables is the transpose of the other one
* `represents_of_ofProject`: the network of a project represents it
-/

namespace Workplan

variable {n : ℕ} {tasks : Vector Task n} {dependencies : List Dependency} {net : Network n}

/-- Of lists that go together entry by entry, parts that are chosen alike have equal images. -/
theorem map_filter_eq_of_forall₂ {α β γ : Type} {R : α → β → Prop} {l : List α} {l' : List β}
    {p : α → Bool} {q : β → Bool} {f : α → γ} {g : β → γ} (hl : List.Forall₂ R l l')
    (hpq : ∀ a b, R a b → (p a ↔ q b)) (hfg : ∀ a b, R a b → f a = g b) :
    (l.filter p).map f = (l'.filter q).map g := by
  rw [← List.forall₂_eq_eq_eq]
  exact List.rel_map (fun a b => hfg a b) (List.rel_filter (fun a b => hpq a b) hl)

/-- **Each of the two tables is the transpose of the other one**, with multiplicities: entries of
both come from one link. -/
theorem Adjacency.count_ofLinks (links : List (Link n)) (p s : Fin n) (r : Relation) :
    ((ofLinks links).predecessors.get s).count (p, r) =
      ((ofLinks links).successors.get p).count (s, r) := by
  rw [predecessors_ofLinks, successors_ofLinks, List.count, List.count, List.countP_map,
    List.countP_map, linksInto, linksOutOf, List.countP_filter, List.countP_filter]
  refine List.countP_congr fun link _ => ?_
  simp only [Link.back, Link.ahead, Function.comp_apply, beq_iff_eq, Prod.mk.injEq,
    Bool.and_eq_true, decide_eq_true_eq]
  tauto

namespace Network

/-- **The tables of a network tell exactly what its project says.** -/
structure Represents (net : Network n) (tasks : Vector Task n) (dependencies : List Dependency) :
    Prop where
  /-- The tasks are numbered in the order given. -/
  idAt?_eq : ∀ k, net.idAt? k = (tasks.toList.map (·.id))[k]?
  /-- The numbers are those below the number of tasks. -/
  isSome_idAt?_iff : ∀ k, (net.idAt? k).isSome ↔ k < n
  /-- The ids that have a number are those of the tasks. -/
  isSome_position?_iff : ∀ id, (net.position? id).isSome ↔ id ∈ tasks.toList.map (·.id)
  /-- The two ways between numbers and ids are inverse to each other. -/
  position?_eq_some_iff : ∀ id i, net.position? id = some i ↔ net.idAt? i = some id
  predecessors_eq : ∀ s, (net.adjacency.predecessors.get s).map (fun e => (some e.1, e.2)) =
    (dependencies.filter (·.successor = (tasks.get s).id)).map fun d =>
      (net.position? d.predecessor, d.relation)
  successors_eq : ∀ p, (net.adjacency.successors.get p).map (fun e => (some e.1, e.2)) =
    (dependencies.filter (·.predecessor = (tasks.get p).id)).map fun d =>
      (net.position? d.successor, d.relation)
  /-- Each of the two tables is the transpose of the other one. -/
  count_eq : ∀ p s r, (net.adjacency.predecessors.get s).count (p, r) =
    (net.adjacency.successors.get p).count (s, r)
  /-- Every entry is the number of a task. -/
  isSome_idAt?_of_mem : ∀ i, ∀ e ∈ net.adjacency.predecessors.get i ++
    net.adjacency.successors.get i, (net.idAt? e.1).isSome
  hasSuccessors_iff : ∀ p, net.adjacency.hasSuccessors p ↔
    ∃ d ∈ dependencies, d.predecessor = (tasks.get p).id
  /-- The entries of a task are its links, so that a schedule may be found by either of them. -/
  entries_eq : ∀ i, net.adjacency.predecessors.get i = (net.incoming i).map Link.back ∧
    net.adjacency.successors.get i = (net.outgoing i).map Link.ahead

variable (h : ofProject tasks dependencies = .ok net)

include h

theorem idAt?_eq (k : ℕ) : net.idAt? k = (tasks.toList.map (·.id))[k]? :=
  (numbers h).idAt?_eq k

theorem idAt?_val (i : Fin n) : net.idAt? i = some (tasks.get i).id := by
  rw [idAt?_eq h]
  simp [Vector.get]

/-- **The links of a network go one by one with the dependencies of its project.** -/
theorem forall₂_links :
    List.Forall₂ (fun d (link : Link n) => d.Joins tasks link.predecessor link.successor ∧
      d.relation = link.relation) dependencies net.links :=
  (mapM_eq_ok_iff.mp (ofProject_eq_ok h).2.1).imp fun _ _ => (resolve_eq_ok_iff h).mp

/-- The ids that have a number are those of the tasks. -/
theorem isSome_position?_iff (id : String) :
    (net.position? id).isSome ↔ id ∈ tasks.toList.map (·.id) := by
  rw [Option.isSome_iff_exists, List.mem_map]
  simp only [position?_eq_some_iff h]
  constructor
  · rintro ⟨i, rfl⟩
    exact ⟨tasks.get i, by simp [Vector.get], rfl⟩
  · rintro ⟨task, htask, rfl⟩
    obtain ⟨k, hk, rfl⟩ := Vector.mem_iff_getElem.mp (Vector.mem_toList_iff.mp htask)
    exact ⟨⟨k, hk⟩, rfl⟩

/-- The links with a task at one of their ends tell of the other end what the dependencies do that
have its id there. As ids do not repeat, the id at an end tells which task is there. -/
theorem map_filter_links {here there : Link n → Fin n} {hereId thereId : Dependency → String}
    (hends : ∀ (d : Dependency) (link : Link n), d.Joins tasks link.predecessor link.successor →
      (tasks.get (here link)).id = hereId d ∧ (tasks.get (there link)).id = thereId d)
    (i : Fin n) :
    (net.links.filter (here · = i)).map (fun link => (some (there link), link.relation)) =
      (dependencies.filter (hereId · = (tasks.get i).id)).map fun d =>
        (net.position? (thereId d), d.relation) := by
  refine (map_filter_eq_of_forall₂ (forall₂_links h) ?_ ?_).symm
  · rintro d link ⟨hjoins, -⟩
    simp only [decide_eq_true_eq, ← (hends d link hjoins).1]
    exact (id_injective h).eq_iff
  · rintro d link ⟨hjoins, hrelation⟩
    rw [(position?_eq_some_iff h).mpr (hends d link hjoins).2, hrelation]

/-- **The entries of a task in the one table** come from the dependencies that name it as the
successor. -/
theorem predecessors_adjacency (s : Fin n) :
    (net.adjacency.predecessors.get s).map (fun e => (some e.1, e.2)) =
      (dependencies.filter (·.successor = (tasks.get s).id)).map fun d =>
        (net.position? d.predecessor, d.relation) := by
  rw [net.adjacency_eq, Adjacency.predecessors_ofLinks, List.map_map]
  exact map_filter_links h (fun _ _ hjoins => ⟨hjoins.2, hjoins.1⟩) s

/-- **The entries of a task in the other table** come from the dependencies that name it as the
predecessor. -/
theorem successors_adjacency (p : Fin n) :
    (net.adjacency.successors.get p).map (fun e => (some e.1, e.2)) =
      (dependencies.filter (·.predecessor = (tasks.get p).id)).map fun d =>
        (net.position? d.successor, d.relation) := by
  rw [net.adjacency_eq, Adjacency.successors_ofLinks, List.map_map]
  exact map_filter_links h (fun _ _ hjoins => ⟨hjoins.1, hjoins.2⟩) p

/-- A task has successors exactly if a dependency names it as the predecessor. -/
theorem hasSuccessors_adjacency_iff (p : Fin n) :
    net.adjacency.hasSuccessors p ↔ ∃ d ∈ dependencies, d.predecessor = (tasks.get p).id := by
  rw [hasSuccessors_eq, Bool.not_eq_true', ← Bool.not_eq_true, List.isEmpty_iff,
    outgoing_eq_nil_iff h]
  push Not
  rfl

/-- **The network of a project represents it.** -/
theorem represents_of_ofProject : net.Represents tasks dependencies where
  idAt?_eq := idAt?_eq h
  isSome_idAt?_iff k := by
    rw [idAt?_eq h]
    simp
  isSome_position?_iff := isSome_position?_iff h
  position?_eq_some_iff id i := by
    rw [idAt?_val h, Network.position?_eq_some_iff h, Option.some_inj]
  predecessors_eq := predecessors_adjacency h
  successors_eq := successors_adjacency h
  count_eq p s r := by
    rw [net.adjacency_eq]
    exact Adjacency.count_ofLinks net.links p s r
  isSome_idAt?_of_mem i e _ := by
    rw [idAt?_val h, Option.isSome_some]
  hasSuccessors_iff := hasSuccessors_adjacency_iff h
  entries_eq i := ⟨net.predecessors_eq i, net.successors_eq i⟩

end Network

namespace Sample

/-- Glue waits for the cut in three ways, two of which are the same. -/
def bench : Vector Task 3 := #v[{ id := "glue" }, { id := "cut" }, { id := "paint" }]

def benchDependencies : List Dependency :=
  [⟨"cut", "glue", {}⟩, ⟨"glue", "paint", { source := .start }⟩,
    ⟨"cut", "glue", { target := .finish, lag := -2 }⟩, ⟨"cut", "glue", {}⟩]

theorem represents_bench :
    ∃ net, Network.ofProject bench benchDependencies = .ok net ∧
      net.Represents bench benchDependencies := by
  obtain ⟨net, hnet⟩ : ∃ net, Network.ofProject bench benchDependencies = .ok net :=
    ⟨_, by rfl⟩
  exact ⟨net, hnet, Network.represents_of_ofProject hnet⟩

example : (Network.ofProject bench benchDependencies).toOption.map
    (fun net => (net.adjacency.predecessors.get 0, net.adjacency.successors.get 1)) =
      some ([(1, {}), (1, { target := .finish, lag := -2 }), (1, {})],
        [(0, {}), (0, { target := .finish, lag := -2 }), (0, {})]) := by
  decide

end Sample

end Workplan
