import Mathlib.Order.Lattice

/-!
Fair service by a virtual clock. Clients have counters of what they were served,
and the active client with the least counter is served next. The clock follows
the least counter of the active clients, and a client that becomes active starts
at the clock: so nobody saves up service while it is away, and the counters of
active clients stay within one service of each other.
-/
namespace Freshell.Library.VirtualClock
universe u

section
variable {Client : Type u} {active present known : Client → Prop} {served : Client → Nat} {clock later slack : Nat}

structure Synchronous (active known : Client → Prop) (served : Client → Nat) (clock slack : Nat) : Prop where
  ahead : ∀ client, active client → clock ≤ served client
  near : ∀ client, known client → served client ≤ clock + slack

/-- The clock catches up with the active clients: it passes none of them, and it
    reaches one. Without any it stands still. -/
structure CatchesUp (active : Client → Prop) (served : Client → Nat) (clock later : Nat) : Prop where
  forward : clock ≤ later
  behind : ∀ client, active client → later ≤ max clock (served client)
  reached : ∀ client, active client → ∃ other, active other ∧ served other ≤ later
  still : (∀ client, ¬active client) → later = clock

theorem CatchesUp.le {bound : Nat} (catches : CatchesUp active served clock later) (below : ∀ client, served client ≤ bound)
    (start : clock ≤ bound) : later ≤ bound := by
  by_cases idle : ∀ client, ¬active client
  · have := catches.still idle
    omega
  · obtain ⟨client,isActive⟩ := Classical.not_forall_not.mp idle
    have := catches.behind client isActive
    have := below client
    omega

theorem Synchronous.apart (sync : Synchronous active known served clock slack) {first second : Client}
    (isActive : active first) (isKnown : known second) : served second ≤ served first + slack := by
  have := sync.ahead first isActive
  have := sync.near second isKnown
  omega

theorem Synchronous.refresh (sync : Synchronous active known served clock slack)
    (catches : CatchesUp active served clock later) : Synchronous active known served later slack where
  ahead client isActive := by
    have := sync.ahead client isActive
    have := catches.behind client isActive
    omega
  near client isKnown := by
    have := sync.near client isKnown
    have := catches.forward
    omega

theorem Synchronous.change {served' : Client → Nat} {known' : Client → Prop}
    (sync : Synchronous active known served clock slack)
    (ahead : ∀ client, present client → active client ∧ served' client = served client ∨ clock ≤ served' client)
    (near : ∀ client, known' client → known client ∧ served' client = served client ∨ served' client ≤ clock + slack) :
    Synchronous present known' served' clock slack where
  ahead client isPresent := by
    obtain ⟨isActive,same⟩ | lifted := ahead client isPresent
    · have := sync.ahead client isActive
      omega
    · exact lifted
  near client isKnown := by
    obtain ⟨was,same⟩ | close := near client isKnown
    · have := sync.near client was
      omega
    · exact close

/-- The least active client is served, and the clock catches up with those that stay active. If there are any, the
    slack still holds; otherwise the service is added to it. -/
theorem Synchronous.charge {served' : Client → Nat} {known' : Client → Prop} {chosen : Client} (amount : Nat)
    (sync : Synchronous active known served clock slack) (isKnown : known chosen)
    (least : ∀ client, active client → served chosen ≤ served client) (stays : ∀ client, present client → active client)
    (seen : ∀ client, present client → known' client) (knows : ∀ client, known' client → known client)
    (own : known' chosen → served' chosen = served chosen + amount)
    (others : ∀ client, known' client → client ≠ chosen → served' client = served client)
    (catches : CatchesUp present served' clock later) (idle : Nat)
    (covers : (∃ client, present client) ∧ amount ≤ slack ∨ amount ≤ idle) :
    Synchronous present known' served' later (slack + idle) := by
  have grows : ∀ client, known' client → served client ≤ served' client := by
    intro client listed
    by_cases same : client = chosen
    · subst same
      rw [own listed]
      omega
    · rw [others client listed same]
  constructor
  · intro client isPresent
    have := sync.ahead client (stays client isPresent)
    have := catches.behind client isPresent
    have := grows client (seen client isPresent)
    omega
  · intro client listed
    have forward := catches.forward
    by_cases same : client = chosen
    · subst same
      rw [own listed]
      obtain ⟨⟨other,isPresent⟩,small⟩ | idles := covers
      · obtain ⟨first,firstPresent,reached⟩ := catches.reached other isPresent
        have := least first (stays first firstPresent)
        have := grows first (seen first firstPresent)
        omega
      · have := sync.near client isKnown
        omega
    · rw [others client listed same]
      have := sync.near client (knows client listed)
      omega

end
end Freshell.Library.VirtualClock
