import Workplan.Proofs.Network.Order
import Workplan.Proofs.Span

/-!
# Numbers along a network

Without a calendar, the critical path method numbers the tasks of a network: a link keeps the
start of its successor a fixed number of working days behind that of its predecessor. On the way
along the network a task gets the greatest number that a predecessor demands, and on the way back
the least one that a successor allows. Such numbers are determined by the network, whatever
they were read off.

## Main definitions

* `Network.startLag`: the working days that a link demands from start to start
* `Network.IsEarlyNumbering`, `Network.IsLateNumbering`: the numbers of early and of late starts
* `Network.IsLastNumber`: the number of the last finish

## Main results

* `IsEarlyNumbering.unique`, `IsLastNumber.unique`, `IsLateNumbering.unique`: each of them is
  determined by the network
-/

namespace Workplan

namespace Network

variable {n : Nat}

section Definitions

variable (net : Network n) (planned : Fin n → Prop)

/-- The working days from the start of a task to its finish. -/
def finishLead (i : Fin n) : Int := Endpoint.finish.lead (net.tasks.get i).days

/-- The working days that a link demands from the start of its predecessor to that of its
successor. -/
def startLag (link : Link n) : Int :=
  link.relation.source.lead (net.tasks.get link.predecessor).days + link.relation.lag -
    link.relation.target.lead (net.tasks.get link.successor).days

/-- **The numbers of early starts**: a task without a planned predecessor has number 0, any other
one the greatest number that a link from a planned predecessor demands. -/
structure IsEarlyNumbering (number : Fin n → Int) : Prop where
  le : ∀ link ∈ net.links, planned link.predecessor → planned link.successor →
    number link.predecessor + net.startLag link ≤ number link.successor
  attained : ∀ i, planned i →
    (number i = 0 ∧ ∀ link ∈ net.links, link.successor = i → ¬ planned link.predecessor) ∨
    ∃ link ∈ net.links, link.successor = i ∧ planned link.predecessor ∧
      number link.predecessor + net.startLag link = number link.successor

/-- The number of the last finish, given those of the starts. -/
structure IsLastNumber (number : Fin n → Int) (last : Int) : Prop where
  le : ∀ i, planned i → number i + net.finishLead i ≤ last
  attained : ∃ i, planned i ∧ number i + net.finishLead i = last

/-- **The numbers of late starts**: the greatest with which a task finishes by the last number and
each link to a planned successor gets what it demands. -/
structure IsLateNumbering (last : Int) (number : Fin n → Int) : Prop where
  le_last : ∀ i, planned i → number i + net.finishLead i ≤ last
  le : ∀ link ∈ net.links, planned link.predecessor → planned link.successor →
    number link.predecessor + net.startLag link ≤ number link.successor
  attained : ∀ i, planned i → number i + net.finishLead i = last ∨
    ∃ link ∈ net.links, link.predecessor = i ∧ planned link.successor ∧
      number link.predecessor + net.startLag link = number link.successor

end Definitions

variable {net : Network n} {planned : Fin n → Prop} {number number' : Fin n → Int}
  {last last' : Int}

/-! ## Early starts -/

/-- Early numbers are no greater than any others that keep the links from the same starts on. Along
the order, the link that determines the early number of a task is one that the others keep. -/
theorem IsEarlyNumbering.number_le (hn : net.IsEarlyNumbering planned number)
    (hn' : net.IsEarlyNumbering planned number') (h : net.IsOrdered) (i : Fin n)
    (hi : planned i) : number i ≤ number' i := by
  induction i using h.induction_along with
  | step i ih =>
    rcases hn.attained i hi with ⟨hzero, hfirst⟩ | ⟨link, hlink, rfl, hp, heq⟩
    · rcases hn'.attained i hi with ⟨hzero', -⟩ | ⟨link, hlink, hs, hp, -⟩
      · rw [hzero, hzero']
      · exact absurd hp (hfirst link hlink hs)
    · have hpred := ih link hlink rfl hp
      have hkept := hn'.le link hlink hp hi
      omega

/-- **The numbers of early starts are determined by the network.** -/
theorem IsEarlyNumbering.unique (hn : net.IsEarlyNumbering planned number)
    (hn' : net.IsEarlyNumbering planned number') (h : net.IsOrdered) (i : Fin n)
    (hi : planned i) : number i = number' i :=
  le_antisymm (hn.number_le hn' h i hi) (hn'.number_le hn h i hi)

/-! ## The last finish -/

/-- **The number of the last finish is determined by those of the starts.** -/
theorem IsLastNumber.unique (hl : net.IsLastNumber planned number last)
    (hl' : net.IsLastNumber planned number' last') (heq : ∀ i, planned i → number i = number' i) :
    last = last' := by
  obtain ⟨i, hi, hlast⟩ := hl.attained
  obtain ⟨j, hj, hlast'⟩ := hl'.attained
  have hle := hl'.le i hi
  have hle' := hl.le j hj
  rw [heq i hi] at hlast
  rw [heq j hj] at hle'
  omega

/-! ## Late starts -/

/-- Late numbers are no less than any others that keep the links and the last number, for the same
reason against the order. -/
theorem IsLateNumbering.le_number (hn : net.IsLateNumbering planned last number)
    (hn' : net.IsLateNumbering planned last number') (h : net.IsOrdered) (i : Fin n)
    (hi : planned i) : number' i ≤ number i := by
  induction i using h.induction_against with
  | step i ih =>
    rcases hn.attained i hi with hlast | ⟨link, hlink, rfl, hs, heq⟩
    · have hkept := hn'.le_last i hi
      omega
    · have hsucc := ih link hlink rfl hs
      have hkept := hn'.le link hlink hi hs
      omega

/-- **The numbers of late starts are determined by the network and the last number.** -/
theorem IsLateNumbering.unique (hn : net.IsLateNumbering planned last number)
    (hn' : net.IsLateNumbering planned last number') (h : net.IsOrdered) (i : Fin n)
    (hi : planned i) : number i = number' i :=
  le_antisymm (hn'.le_number hn h i hi) (hn.le_number hn' h i hi)

end Network

end Workplan
