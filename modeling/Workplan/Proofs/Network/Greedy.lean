import Mathlib.Data.String.Basic
import Workplan.Proofs.Network.Refusal
import Workplan.Proofs.Ranking

/-!
# The order of a network is the greedy one

At every place of the order stands the least of the tasks that could stand there, which are those
without a place whose predecessors all have one. A task is ready exactly if it could go next, as its
counter of open links has come down to zero, and of the ready tasks the first is the least, as each
one is put in order when it gets ready. A counter is exact while the links of a released task are
closed one after another, so it is positive before each of these, and gets to zero only once.

## Main definitions

* `Task.IsBefore`: which of two tasks goes first when both could
* `IsNext`: the least of the tasks that could go next
* `IsGreedyOrder`: an order along the links with the next task at every place
* `Release.Passes`: what a release comes past, with the tasks that got ready so far
* `Release.CountsRight`: no counter goes below zero, and no task gets ready twice

## Main results

* `IsGreedyOrder.unique`: there is only one greedy order
* `Release.Passes.isOnCourse`: what holds wherever a release comes past
* `ofProject_greedy`: without a cycle, the order of the network is the greedy one
-/

namespace Workplan

variable {n : Nat}

/-! ## Which task goes first -/

/-- Does a task go before another when both could go next? The lower priority number does, then the
lesser name, and then the lesser id. -/
def Task.IsBefore (a b : Task) : Prop :=
  a.priority < b.priority ∨ a.priority = b.priority ∧
    (a.name < b.name ∨ a.name = b.name ∧ a.id < b.id)

namespace Task

/-- The comparison by which tasks go before each other. -/
def releaseCompare (a b : Task) : Ordering :=
  ((compare a.priority b.priority).then (compare a.name b.name)).then (compare a.id b.id)

instance : Std.TransCmp releaseCompare :=
  inferInstanceAs (Std.TransCmp (compareLex (compareLex (compareOn Task.priority)
    (compareOn Task.name)) (compareOn Task.id)))

variable {a b c : Task}

theorem releaseCompare_eq_lt_iff : releaseCompare a b = .lt ↔ a.IsBefore b := by
  simp only [releaseCompare, IsBefore, Ordering.then_assoc, Ordering.then_eq_lt, compare_lt_iff_lt,
    compare_eq_iff_eq]

theorem goesBefore_iff_isBefore : a.goesBefore b ↔ a.IsBefore b := by
  rw [← releaseCompare_eq_lt_iff, ← Ordering.isLT_iff_eq_lt]
  rfl

theorem IsBefore.trans (hab : a.IsBefore b) (hbc : b.IsBefore c) : a.IsBefore c := by
  rw [← releaseCompare_eq_lt_iff] at hab hbc ⊢
  exact Std.TransCmp.lt_trans hab hbc

theorem IsBefore.asymm (hab : a.IsBefore b) : ¬ b.IsBefore a := by
  rw [← releaseCompare_eq_lt_iff] at hab ⊢
  exact Std.OrientedCmp.not_lt_of_lt hab

/-- Of two tasks with different ids one goes first. -/
theorem isBefore_of_not_isBefore (hid : a.id ≠ b.id) (hab : ¬ a.IsBefore b) : b.IsBefore a := by
  rw [← releaseCompare_eq_lt_iff] at hab ⊢
  cases hba : releaseCompare b a with
  | lt => rfl
  | eq => exact absurd (compare_eq_iff_eq.mp (Ordering.then_eq_eq.mp hba).2).symm hid
  | gt => exact absurd (Std.OrientedCmp.lt_of_gt hba) hab

end Task

/-! ## Greedy orders -/

/-- A task could go next if it has no place yet, and all tasks that precede it have one. -/
def IsAvailable (precedes : Fin n → Fin n → Prop) (placed : List (Fin n)) (i : Fin n) : Prop :=
  i ∉ placed ∧ ∀ p, precedes p i → p ∈ placed

variable (tasks : Vector Task n) (precedes : Fin n → Fin n → Prop)

/-- **The least of the tasks that could go next.** -/
structure IsNext (placed : List (Fin n)) (i : Fin n) : Prop where
  isAvailable : IsAvailable precedes placed i
  isBefore : ∀ j, IsAvailable precedes placed j → j ≠ i → (tasks.get i).IsBefore (tasks.get j)

/-- At every place stands the task that is next behind those in front of it. -/
def IsGreedy (order : List (Fin n)) : Prop :=
  ∀ front i back, order = front ++ i :: back → IsNext tasks precedes front i

/-- **The greedy order**: every task once and behind those that precede it, at every place the
least of those that could stand there. -/
structure IsGreedyOrder (order : List (Fin n)) : Prop where
  nodup : order.Nodup
  mem_order : ∀ i, i ∈ order
  idxOf_lt : ∀ i j, precedes i j → order.idxOf i < order.idxOf j
  isGreedy : IsGreedy tasks precedes order

variable {tasks precedes} {placed order order' : List (Fin n)} {i j : Fin n}

theorem IsNext.unique (h : IsNext tasks precedes placed i) (h' : IsNext tasks precedes placed j) :
    i = j := by
  by_contra hne
  exact (h.isBefore j h'.isAvailable (Ne.symm hne)).asymm (h'.isBefore i h.isAvailable hne)

/-- A greedy order goes on with the next task. A place in it is either the new one at its end or
lies in front of that, where nothing has changed. -/
theorem IsGreedy.concat (h : IsGreedy tasks precedes order) (hi : IsNext tasks precedes order i) :
    IsGreedy tasks precedes (order ++ [i]) := by
  intro front j back hsplit
  rcases List.eq_nil_or_concat back with rfl | ⟨back, k, rfl⟩
  · obtain ⟨rfl, hij⟩ := List.append_inj' hsplit rfl
    cases hij
    exact hi
  · rw [List.concat_eq_append, ← List.cons_append, ← List.append_assoc] at hsplit
    exact h front j back (List.append_inj' hsplit rfl).1

/-- **There is only one greedy order.** Behind what two of them share in front, they go on with the
same task or both come to their end. -/
theorem IsGreedyOrder.unique (h : IsGreedyOrder tasks precedes order)
    (h' : IsGreedyOrder tasks precedes order') : order = order' := by
  suffices ∀ rest front rest', order = front ++ rest → order' = front ++ rest' → rest = rest' from
    this order [] order' rfl rfl
  intro rest
  induction rest with
  | nil =>
    intro front rest' hfront hfront'
    cases rest' with
    | nil => rfl
    | cons j rest' =>
      have hj := (h'.isGreedy front j rest' hfront').isAvailable.1
      exact absurd (h.mem_order j) (by simpa [hfront] using hj)
  | cons i rest ih =>
    intro front rest' hfront hfront'
    have hi := h.isGreedy front i rest hfront
    cases rest' with
    | nil => exact absurd (h'.mem_order i) (by simpa [hfront'] using hi.isAvailable.1)
    | cons j rest' =>
      obtain rfl := hi.unique (h'.isGreedy front j rest' hfront')
      exact congrArg (i :: ·) (ih (front ++ [i]) rest' (by simpa using hfront)
        (by simpa using hfront'))

/-! ## Releases -/

namespace Release

variable (tasks) (links : List (Link n))

/-- **What a release comes past**: the tasks that got ready so far, the links of the task released
last that are still to be closed, and the state. -/
inductive Passes : List (Fin n) → List (Link n) → Release n → Prop
  | initial :
      Passes ((List.finRange n).filter ((initial tasks links).pending.get · = 0)) []
        (initial tasks links)
  | release {entered : List (Fin n)} {state : Release n} {i : Fin n} {rest : List (Fin n)}
      (passes : Passes entered [] state) (ready : state.ready = i :: rest) :
      Passes entered (linksOutOf links i)
        { state with ready := rest, released := i :: state.released }
  | close {entered : List (Fin n)} {state : Release n} {link : Link n} {todo : List (Link n)}
      (passes : Passes entered (link :: todo) state) :
      Passes
        (if state.pending.get link.successor - 1 = 0 then link.successor :: entered else entered)
        todo (close tasks state link)

/-- **The counters of a release.** It comes past its state behind every step; before a link is
closed its counter is positive; and what got ready is ready or released, without a repeat. -/
structure CountsRight : Prop where
  passes_after : ∀ k, ∃ entered, Passes tasks links entered [] (after tasks links k)
  pending_pos : ∀ {entered link todo state}, Passes tasks links entered (link :: todo) state →
    0 < state.pending.get link.successor
  perm : ∀ {entered todo state}, Passes tasks links entered todo state →
    entered.Perm (state.ready ++ state.released)
  nodup : ∀ {entered todo state}, Passes tasks links entered todo state → entered.Nodup

/-- What holds wherever a release comes past. -/
structure IsOnCourse (entered : List (Fin n)) (todo : List (Link n)) (state : Release n) :
    Prop where
  isConsistent : IsConsistent links todo state
  perm : entered.Perm (state.ready ++ state.released)
  sorted : state.ready.Pairwise fun i j => (tasks.get i).IsBefore (tasks.get j)
  isGreedy : IsGreedy tasks (Linked links) state.order

variable {tasks links} {entered ready rest : List (Fin n)} {link : Link n} {todo : List (Link n)}
  {state : Release n}

/-- Between two steps, the ready tasks are those that could go next. The counter of a task is zero
if it is ready or released, and only the latter has a place in the order. -/
theorem isAvailable_order_iff (h : IsConsistent links [] state) :
    IsAvailable (Linked links) state.order i ↔ i ∈ state.ready := by
  have hdisjoint : i ∈ state.ready → i ∉ state.released := fun hready hreleased =>
    List.disjoint_of_nodup_append h.nodup hready hreleased
  have hzero : state.pending.get i = 0 ↔ ∀ p, Linked links p i → p ∈ state.released := by
    rw [h.pending_eq, List.countP_nil, Nat.add_zero, openCount_eq_zero_iff]
    constructor
    · rintro hall _ ⟨link, hlink, rfl, hs⟩
      exact hall link hlink hs
    · intro hall link hlink hs
      exact hall _ ⟨link, hlink, rfl, hs⟩
  simp only [IsAvailable, order, List.mem_reverse, ← hzero, h.pending_eq_zero_iff]
  tauto

/-- **The first ready task is next.** -/
theorem IsOnCourse.isNext (h : IsOnCourse tasks links entered [] state)
    (hready : state.ready = i :: rest) : IsNext tasks (Linked links) state.order i where
  isAvailable := by
    rw [isAvailable_order_iff h.isConsistent, hready]
    exact List.mem_cons_self
  isBefore j hj hne := by
    rw [isAvailable_order_iff h.isConsistent, hready, List.mem_cons] at hj
    have hsorted := h.sorted
    rw [hready, List.pairwise_cons] at hsorted
    exact hsorted.1 j (hj.resolve_left hne)

/-- The first ready task is placed: it goes from the ready ones to the released ones. -/
theorem IsOnCourse.release (h : IsOnCourse tasks links entered [] state)
    (hready : state.ready = i :: rest) :
    IsOnCourse tasks links entered (linksOutOf links i)
      { state with ready := rest, released := i :: state.released } where
  isConsistent := isConsistent_release h.isConsistent hready
  perm := by
    have hperm := h.perm
    rw [hready, List.cons_append] at hperm
    exact hperm.trans List.perm_middle.symm
  sorted := by
    have hsorted := h.sorted
    rw [hready] at hsorted
    exact hsorted.of_cons
  isGreedy := by
    rw [order, List.reverse_cons]
    exact h.isGreedy.concat (h.isNext hready)

/-- The links of a task are closed one after another. -/
theorem Passes.foldl_close (h : Passes tasks links entered todo state) :
    ∃ entered', Passes tasks links entered' [] (todo.foldl (Release.close tasks) state) := by
  induction todo generalizing entered state with
  | nil => exact ⟨entered, h⟩
  | cons link todo ih => exact ih h.close

/-- A release comes past its state behind every step. -/
theorem passes_after (k : Nat) :
    ∃ entered, Passes tasks links entered [] (after tasks links k) := by
  induction k with
  | zero => exact ⟨_, .initial⟩
  | succ k ih =>
    obtain ⟨entered, hpasses⟩ := ih
    rw [after, step]
    split
    · exact ⟨entered, hpasses⟩
    · next i rest hready => exact (hpasses.release hready).foldl_close

section Distinct

variable (hid : Function.Injective fun i => (tasks.get i).id)

include hid

/-- A task that gets ready is put in order. -/
theorem pairwise_enqueue (hi : i ∉ ready)
    (h : ready.Pairwise fun i j => (tasks.get i).IsBefore (tasks.get j)) :
    (enqueue tasks i ready).Pairwise fun i j => (tasks.get i).IsBefore (tasks.get j) := by
  refine pairwise_insertWhere (fun _ _ _ _ => Task.IsBefore.trans)
    (fun j _ => Task.goesBefore_iff_isBefore.mp) (fun j hj hij => ?_) h
  rw [Task.goesBefore_iff_isBefore] at hij
  refine Task.isBefore_of_not_isBefore (fun heq => ?_) hij
  exact hi (hid heq ▸ hj)

theorem pairwise_foldr_enqueue {l : List (Fin n)} (hl : l.Nodup) :
    (l.foldr (enqueue tasks) []).Pairwise fun i j => (tasks.get i).IsBefore (tasks.get j) := by
  induction l with
  | nil => exact .nil
  | cons i l ih =>
    obtain ⟨hi, hl⟩ := List.nodup_cons.mp hl
    refine pairwise_enqueue hid ?_ (ih hl)
    rwa [(foldr_enqueue_perm l).mem_iff]

theorem isOnCourse_initial :
    IsOnCourse tasks links ((List.finRange n).filter ((initial tasks links).pending.get · = 0)) []
      (initial tasks links) where
  isConsistent := isConsistent_initial
  perm := by
    rw [released_initial, List.append_nil]
    exact ready_initial_perm.symm
  sorted := pairwise_foldr_enqueue hid ((List.nodup_finRange n).filter _)
  isGreedy := by
    rintro (_ | _) i back hnil <;> cases hnil

/-- A task gets ready when the last link into it is closed. -/
theorem IsOnCourse.close (h : IsOnCourse tasks links entered (link :: todo) state) :
    IsOnCourse tasks links
      (if state.pending.get link.successor - 1 = 0 then link.successor :: entered else entered)
      todo (close tasks state link) := by
  have hclosed : IsConsistent links todo (Release.close tasks state link) :=
    isConsistent_close h.isConsistent
  by_cases hzero : state.pending.get link.successor - 1 = 0
  · rw [if_pos hzero]
    have hready : (Release.close tasks state link).ready =
        enqueue tasks link.successor state.ready := if_pos hzero
    -- a successor that waits for a link is not among the ready tasks, so it gets in once
    refine ⟨hclosed, ?_, ?_, h.isGreedy⟩
    · rw [hready]
      exact (h.perm.cons _).trans ((enqueue_perm _ _).append_right _).symm
    · rw [hready]
      exact pairwise_enqueue hid h.isConsistent.not_mem.1 h.sorted
  · rw [if_neg hzero]
    have hready : (Release.close tasks state link).ready = state.ready := if_neg hzero
    refine ⟨hclosed, ?_, ?_, h.isGreedy⟩
    · rw [hready]
      exact h.perm
    · rw [hready]
      exact h.sorted

/-- **What holds wherever a release comes past.** -/
theorem Passes.isOnCourse (h : Passes tasks links entered todo state) :
    IsOnCourse tasks links entered todo state := by
  induction h with
  | initial => exact isOnCourse_initial hid
  | release _ ready ih => exact ih.release ready
  | close _ ih => exact ih.close hid

theorem countsRight : CountsRight tasks links where
  passes_after := passes_after
  pending_pos h := (h.isOnCourse hid).isConsistent.pending_pos
  perm h := (h.isOnCourse hid).perm
  nodup h := (h.isOnCourse hid).perm.nodup_iff.mpr (h.isOnCourse hid).isConsistent.nodup

end Distinct

end Release

/-! ## Networks -/

namespace Network

variable {dependencies : List Dependency} {net : Network n}

/-- The links of a network join the tasks that the dependencies do. -/
theorem linked_eq_joined (h : ofProject tasks dependencies = .ok net) :
    Linked net.links = Joined tasks dependencies := by
  funext i j
  have hjoined := exists_link_iff_joined h (i := j) (P := (· = i))
  simpa [Linked, and_comm] using hjoined

/-- **The order of a network is greedy.** -/
theorem isGreedyOrder_of_ofProject (h : ofProject tasks dependencies = .ok net) :
    IsGreedyOrder tasks (Joined tasks dependencies) net.order := by
  obtain ⟨hnodup, hmem, hlt⟩ := isOrdered_of_ofProject h
  rw [← linked_eq_joined h]
  refine ⟨hnodup, hmem, ?_, ?_⟩
  · rintro _ _ ⟨link, hlink, rfl, rfl⟩
    exact hlt link hlink
  · have hpassed : ∃ entered, Release.Passes tasks net.links entered []
        (Release.after tasks net.links n) := Release.passes_after n
    obtain ⟨entered, hpasses⟩ := hpassed
    rw [(ofProject_eq_ok h).2.2.2.2.1]
    exact (hpasses.isOnCourse (id_injective h)).isGreedy

/-- **Without a cycle, the order of the network is the greedy one**, and the release that finds it
counts the open links right. -/
theorem ofProject_greedy (hnodup : (tasks.toList.map (·.id)).Nodup)
    (hresolved : IsResolved tasks dependencies) (hacyclic : ¬ HasCycle dependencies) :
    ∃ net, ofProject tasks dependencies = .ok net ∧
      (∀ order, IsGreedyOrder tasks (Joined tasks dependencies) order ↔ order = net.order) ∧
      dependencies.mapM (resolve tasks) = .ok net.links ∧
      net.order = (Release.after tasks net.links n).order ∧
      Release.CountsRight tasks net.links := by
  obtain ⟨net, hnet⟩ := exists_network_of_not_hasCycle hnodup hresolved hacyclic
  have hgreedy := isGreedyOrder_of_ofProject hnet
  obtain ⟨-, hlinks, -, -, horder, -⟩ := ofProject_eq_ok hnet
  refine ⟨net, hnet, fun order => ⟨fun h => h.unique hgreedy, fun h => h ▸ hgreedy⟩, hlinks,
    horder, Release.countsRight (id_injective hnet)⟩

end Network

namespace Sample

/-- Both walls wait for the drawing, one of them three times. They have one name, so the id tells
which goes first, and the site goes before all others for its priority number. -/
def building : Vector Task 5 :=
  #v[{ id := "roof", name := "Roof" }, { id := "wall-b", name := "Wall" },
    { id := "wall-a", name := "Wall" }, { id := "drawing", name := "Drawing" },
    { id := "site", name := "Site", priority := 10 }]

def buildingDependencies : List Dependency :=
  [⟨"drawing", "wall-a", {}⟩, ⟨"drawing", "wall-a", { target := .finish }⟩,
    ⟨"drawing", "wall-a", {}⟩, ⟨"drawing", "wall-b", {}⟩, ⟨"wall-a", "roof", {}⟩,
    ⟨"wall-b", "roof", {}⟩]

theorem ofProject_greedy_sample :
    (building.toList.map (·.id)).Nodup ∧ IsResolved building buildingDependencies ∧
    ¬ HasCycle buildingDependencies ∧
    ∃ net, Network.ofProject building buildingDependencies = .ok net ∧
      (∀ order, IsGreedyOrder building (Joined building buildingDependencies) order ↔
        order = net.order) ∧
      buildingDependencies.mapM (Network.resolve building) = .ok net.links ∧
      net.order = (Release.after building net.links 5).order ∧
      Release.CountsRight building net.links := by
  have hnodup : (building.toList.map (·.id)).Nodup := by decide
  have hresolved : IsResolved building buildingDependencies := by
    unfold IsResolved
    decide
  have hacyclic : ¬ HasCycle buildingDependencies := by
    refine not_hasCycle_of_isAcyclic
      ⟨fun id => if id = "drawing" then 0 else if id = "roof" then 2 else 1, ?_⟩
    decide
  exact ⟨hnodup, hresolved, hacyclic, Network.ofProject_greedy hnodup hresolved hacyclic⟩

example : (Network.ofProject building buildingDependencies).toOption.map (·.order) =
    some [4, 3, 2, 1, 0] := by
  decide

end Sample

end Workplan
