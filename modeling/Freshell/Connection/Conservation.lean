import Freshell.Connection.DeliveryIndex
import Freshell.Library.Runs
import Mathlib.Tactic.IntervalCases

/-!
What becomes of every admitted frame over a run of the delivery queue: it is
queued, delivered or discarded, or a gap of its terminal, stream and generation
covers it. Where the frames of a terminal arrive in sequence, a gap covers
nothing but evicted frames.
-/
namespace Freshell.Connection
open Freshell.Library.Tables Freshell.Library.Runs

inductive Op (T : Type) where
  | push (priority : Priority) (entry : Entry T)
  | pop
  | updatePriorities (priority : String → Priority)
  | discardTerminal (terminalId : String)
  | setReservedBytes (bytes : Nat)
  | takeEvictions

inductive Reply (T : Type) where
  | pushed (result : Except CapacityError Unit)
  | popped (delivery : Option (Delivery T))
  | evicted (evictions : List EvictedOutput)
  | done

/-- One call, `none` where it panics. -/
def DeliveryQueue.call {T : Type} (queue : DeliveryQueue T) : Op T → Option (Reply T × DeliveryQueue T)
  | .push priority entry => (queue.push priority entry).map fun answer => (.pushed answer.1,answer.2)
  | .pop => queue.pop.map fun answer => (.popped answer.1,answer.2)
  | .updatePriorities priority => some (.done,queue.updatePriorities priority)
  | .discardTerminal terminalId => (queue.discardTerminal terminalId).map fun after => (.done,after)
  | .setReservedBytes bytes => some (.done,queue.setReservedBytes bytes)
  | .takeEvictions => some (.evicted queue.takeEvictions.1,queue.takeEvictions.2)

/-- Where an admitted frame is. A lost one was evicted and its gap is queued; a
    told one was evicted and its gap was delivered. -/
inductive Fate where
  | queued | delivered | discarded | lost | told
deriving DecidableEq, Repr

structure Admission where
  terminalId : String
  range : Option Range
  fate : Fate
deriving DecidableEq, Repr

def Range.SameSource (first second : Range) : Prop :=
  first.streamId = second.streamId ∧ first.attachRequestId = second.attachRequestId

instance (first second : Range) : Decidable (first.SameSource second) := inferInstanceAs (Decidable (_ ∧ _))

def Range.Covers (gap range : Range) : Prop :=
  gap.SameSource range ∧ gap.fromSeq ≤ range.fromSeq ∧ range.toSeq ≤ gap.toSeq

instance (gap range : Range) : Decidable (gap.Covers range) := inferInstanceAs (Decidable (_ ∧ _ ∧ _))

/-- How a frame that a call takes from the queue leaves it. -/
def Op.leaves {T : Type} : Op T → Fate
  | .push _ _ => .lost
  | .discardTerminal _ => .discarded
  | _ => .delivered

/-- The frame's fate after a call: a queued frame leaves as the call takes it; a
    lost one is told by a delivered gap that covers it, and discarded with the
    gaps of its terminal. -/
def Admission.settle {T : Type} (admission : Admission) (op : Op T) (reply : Reply T) (stays : Bool) : Admission :=
  match admission.fate with
  | .queued => if stays then admission else { admission with fate := op.leaves }
  | .lost =>
    match op,reply with
    | _,.popped (some (.gap terminalId gap)) =>
      if admission.terminalId = terminalId ∧ ∃ range ∈ admission.range, gap.Covers range then
        { admission with fate := .told }
      else admission
    | .discardTerminal terminalId,_ =>
      if admission.terminalId = terminalId then { admission with fate := .discarded } else admission
    | _,_ => admission
  | _ => admission

structure Ledger (T : Type) where
  queue : DeliveryQueue T
  admitted : Nat → Option Admission
  told : List (String × Range)

namespace Ledger
variable {T : Type}

def new (byteLimit metadataLimit : Nat) : Ledger T := ⟨.new byteLimit metadataLimit,fun _ => none,[]⟩

/-- The admissions with the pushed frame, where the queue took it. -/
def register (ledger : Ledger T) (op : Op T) (after : DeliveryQueue T) : Nat → Option Admission :=
  match op with
  | .push _ entry =>
    if after.nextId = ledger.queue.nextId then ledger.admitted
    else Function.update ledger.admitted ledger.queue.nextId (some ⟨entry.terminalId,entry.range,.queued⟩)
  | _ => ledger.admitted

def tell (ledger : Ledger T) : Reply T → List (String × Range)
  | .popped (some (.gap terminalId gap)) => ledger.told ++ [(terminalId,gap)]
  | _ => ledger.told

end Ledger

/-- Every admission with its fate after the call. -/
def settleAll {T : Type} (admitted : Nat → Option Admission) (op : Op T) (reply : Reply T) (after : DeliveryQueue T)
    (id : Nat) : Option Admission :=
  (admitted id).map fun admission => admission.settle op reply (after.entries.lookup id).isSome

namespace Ledger
variable {T : Type}

/-- One call; a panic leaves the ledger as it is. -/
def step (ledger : Ledger T) (op : Op T) : Ledger T :=
  match ledger.queue.call op with
  | none => ledger
  | some (reply,after) => ⟨after,settleAll (ledger.register op after) op reply after,ledger.tell reply⟩

end Ledger

theorem settle_same {T : Type} (admission : Admission) (op : Op T) (reply : Reply T) (stays : Bool) :
    (admission.settle op reply stays).terminalId = admission.terminalId ∧
      (admission.settle op reply stays).range = admission.range := by
  unfold Admission.settle
  repeat' split
  all_goals exact ⟨rfl,rfl⟩

/-! ### Gaps -/

theorem Range.Covers.refl (range : Range) : range.Covers range := ⟨⟨rfl,rfl⟩,Int.le_refl _,Int.le_refl _⟩

theorem Range.SameSource.symm {first second : Range} (same : first.SameSource second) : second.SameSource first :=
  ⟨same.1.symm,same.2.symm⟩

theorem Range.SameSource.trans {first second third : Range} (same : first.SameSource second)
    (next : second.SameSource third) : first.SameSource third := ⟨same.1.trans next.1,same.2.trans next.2⟩

theorem continues_iff {range last : Range} (continues : range.continues last = true) :
    last.SameSource range ∧ range.fromSeq ≤ last.toSeq + 1 := by
  unfold Range.continues at continues
  simp only [Bool.and_eq_true,beq_iff_eq,decide_eq_true_eq] at continues
  exact ⟨continues.1,le_trans continues.2 (min_le_left _ _)⟩

theorem merge_covers {gap range last : Range} (same : last.SameSource range)
    (covers : last.Covers gap ∨ range.Covers gap) : (last.merge range).Covers gap := by
  rcases covers with ⟨source,low,high⟩ | ⟨source,low,high⟩
  · exact ⟨source,le_trans (min_le_left _ _) low,le_trans high (le_max_left _ _)⟩
  · exact ⟨same.trans source,le_trans (min_le_right _ _) low,le_trans high (le_max_right _ _)⟩

theorem mem_merge {last range : Range} {seq : Int} (continues : range.fromSeq ≤ last.toSeq + 1)
    (ordered : last.fromSeq ≤ range.toSeq + 1) (low : (last.merge range).fromSeq ≤ seq)
    (high : seq ≤ (last.merge range).toSeq) :
    (last.fromSeq ≤ seq ∧ seq ≤ last.toSeq) ∨ (range.fromSeq ≤ seq ∧ seq ≤ range.toSeq) := by
  simp only [Range.merge] at low high
  omega

theorem recordGap_covers (gaps : List Range) (range : Range) :
    (∃ gap ∈ recordGap gaps range, gap.Covers range) ∧
      ∀ older ∈ gaps, ∃ gap ∈ recordGap gaps range, ∀ inner, older.Covers inner → gap.Covers inner := by
  rcases recordGap_cases gaps range with grown | ⟨rest,last,rfl,continues,merged⟩
  · rw [grown]
    refine ⟨⟨range,by simp,.refl range⟩,?_⟩
    intro older member
    exact ⟨older,List.mem_append_left _ member,fun _ covers => covers⟩
  · rw [merged]
    have same := (continues_iff continues).1
    have tail : last.merge range ∈ rest ++ [last.merge range] := by simp
    refine ⟨⟨_,tail,merge_covers same (.inr (.refl range))⟩,?_⟩
    intro older member
    rcases List.mem_append.mp member with front | back
    · exact ⟨older,List.mem_append_left _ front,fun _ covers => covers⟩
    · obtain rfl := List.mem_singleton.mp back
      exact ⟨_,tail,fun _ covers => merge_covers same (.inl covers)⟩

/-! ### The accounts -/

section
variable {T : Type} {queue after : DeliveryQueue T} {admitted settled : Nat → Option Admission}
  {told : List (String × Range)}

/-- Every admitted frame is accounted for by its fate: the queued ones are the
    entries, and a gap covers each evicted one. -/
structure Accounts (queue : DeliveryQueue T) (admitted : Nat → Option Admission) (told : List (String × Range)) : Prop where
  known : ∀ id, (admitted id).isSome ↔ id < queue.nextId
  queued : ∀ id terminalId range, admitted id = some ⟨terminalId,range,.queued⟩ ↔
    ∃ entry, queue.entries.lookup id = some entry ∧ entry.terminalId = terminalId ∧ entry.range = range
  lost : ∀ id terminalId range, admitted id = some ⟨terminalId,range,.lost⟩ →
    ∃ inner ∈ range, ∃ gap ∈ gapsOf queue.lanes terminalId, gap.Covers inner
  told : ∀ id terminalId range, admitted id = some ⟨terminalId,range,.told⟩ →
    ∃ inner ∈ range, ∃ gap, (terminalId,gap) ∈ told ∧ gap.Covers inner

/-- No queued range of a terminal lies wholly before an older one of its source. -/
structure Ordered (queue : DeliveryQueue T) : Prop where
  frames : ∀ {id later entry entry' range range'}, queue.entries.lookup id = some entry →
    queue.entries.lookup later = some entry' → id < later → entry.terminalId = entry'.terminalId →
    entry.range = some range → entry'.range = some range' → range.SameSource range' → range.fromSeq ≤ range'.toSeq + 1
  gaps : ∀ {id entry range gap}, queue.entries.lookup id = some entry → entry.range = some range →
    gap ∈ gapsOf queue.lanes entry.terminalId → gap.SameSource range → gap.fromSeq ≤ range.toSeq + 1

/-- Every number of the gap is in the range of a frame that the gap covers, of
    one of these fates. -/
def Spanned (admitted : Nat → Option Admission) (fates : List Fate) (terminalId : String) (gap : Range) : Prop :=
  ∀ seq, gap.fromSeq ≤ seq → seq ≤ gap.toSeq → ∃ id range fate, fate ∈ fates ∧
    admitted id = some ⟨terminalId,some range,fate⟩ ∧ gap.Covers range ∧ range.fromSeq ≤ seq ∧ seq ≤ range.toSeq

/-- A gap covers only numbers of evicted frames. -/
structure Exact (queue : DeliveryQueue T) (admitted : Nat → Option Admission) (told : List (String × Range)) : Prop where
  pending : ∀ terminalId, ∀ gap ∈ gapsOf queue.lanes terminalId, Spanned admitted [.lost,.told] terminalId gap
  told : ∀ terminalId gap, (terminalId,gap) ∈ told → Spanned admitted [.told] terminalId gap

variable {terminalId : String}

theorem Spanned.mono {fates : List Fate} {gap : Range} (spanned : Spanned admitted fates terminalId gap)
    (kept : ∀ id range fate, fate ∈ fates → admitted id = some ⟨terminalId,some range,fate⟩ → gap.Covers range →
      settled id = some ⟨terminalId,some range,fate⟩) : Spanned settled fates terminalId gap := by
  intro seq low high
  obtain ⟨id,range,fate,evicted,held,covers,inside⟩ := spanned seq low high
  exact ⟨id,range,fate,evicted,kept id range fate evicted held covers,covers,inside⟩

def withLost (admitted : Nat → Option Admission) (id : Nat) (entry : Entry T) : Nat → Option Admission :=
  Function.update admitted id (some ⟨entry.terminalId,entry.range,.lost⟩)

variable {id : Nat} {entry : Entry T}

theorem accounts_evict {range : Range} (accounts : Accounts queue admitted told)
    (found : queue.entries.lookup id = some entry) (ranged : entry.range = some range)
    (evicts : queue.Evicts id entry range after) : Accounts after (withLost admitted id entry) told := by
  have wasQueued := (accounts.queued id entry.terminalId entry.range).mpr ⟨entry,found,rfl,rfl⟩
  have kept {other : Nat} (apart : other ≠ id) : withLost admitted id entry other = admitted other :=
    Function.update_of_ne apart ..
  have moved : withLost admitted id entry id = some ⟨entry.terminalId,entry.range,.lost⟩ := Function.update_self ..
  constructor
  · intro other
    rw [evicts.nextId,← accounts.known]
    by_cases same : other = id
    · rw [same,moved,wasQueued]
      rfl
    · rw [kept same]
  · intro other terminalId held
    rw [evicts.entries,lookup_erase]
    by_cases same : other = id
    · rw [same,moved]
      simp
    · rw [kept same,if_neg same]
      exact accounts.queued other terminalId held
  · intro other terminalId held lost
    rw [evicts.gaps]
    by_cases same : other = id
    · rw [same,moved] at lost
      obtain ⟨rfl,rfl⟩ : entry.terminalId = terminalId ∧ entry.range = held := by simpa using lost
      rw [if_pos rfl]
      exact ⟨range,ranged,(recordGap_covers _ range).1⟩
    · rw [kept same] at lost
      obtain ⟨inner,member,gap,listed,covers⟩ := accounts.lost other terminalId held lost
      refine ⟨inner,member,?_⟩
      split
      · obtain ⟨wider,still,widens⟩ := (recordGap_covers _ range).2 gap listed
        exact ⟨wider,still,widens inner covers⟩
      · exact ⟨gap,listed,covers⟩
  · intro other terminalId held after
    by_cases same : other = id
    · rw [same,moved] at after
      simp at after
    · rw [kept same] at after
      exact accounts.told other terminalId held after

theorem ordered_evict {range : Range} (ordered : Ordered queue) (indexed : queue.Indexed)
    (found : queue.entries.lookup id = some entry) (ranged : entry.range = some range)
    (oldest : ∀ other ∈ queue.evictable, id ≤ other) (evicts : queue.Evicts id entry range after) : Ordered after := by
  have earlier {other : Nat} {held : Entry T} (listed : after.entries.lookup other = some held) :
      other ≠ id ∧ queue.entries.lookup other = some held := by
    rw [evicts.entries,lookup_erase] at listed
    split at listed
    · cases listed
    · next apart => exact ⟨apart,listed⟩
  constructor
  · intro first later entry' entry'' range' range'' listed listed' before
    exact ordered.frames (earlier listed).2 (earlier listed').2 before
  · intro other held inner gap listed output member source
    obtain ⟨apart,stood⟩ := earlier listed
    rw [evicts.gaps] at member
    split at member
    · next home =>
      have later : id < other := by
        have least := oldest other ((indexed.evictable other).mpr ⟨held,stood,by rw [output]; rfl⟩)
        omega
      have after_ (same : range.SameSource inner) : range.fromSeq ≤ inner.toSeq + 1 :=
        ordered.frames found stood later home.symm ranged output same
      rcases recordGap_cases (gapsOf queue.lanes held.terminalId) range with grown | ⟨rest,last,split_,continues,merged⟩
      · rw [grown] at member
        rcases List.mem_append.mp member with front | back
        · exact ordered.gaps stood output front source
        · obtain rfl := List.mem_singleton.mp back
          exact after_ source
      · rw [merged] at member
        rcases List.mem_append.mp member with front | back
        · exact ordered.gaps stood output (by rw [split_]; exact List.mem_append_left _ front) source
        · obtain rfl := List.mem_singleton.mp back
          have same := (continues_iff continues).1
          have bound := after_ (same.symm.trans source)
          exact le_trans (min_le_right _ _) bound
    · exact ordered.gaps stood output member source

theorem exact_evict {range : Range} (exact_ : Exact queue admitted told) (ordered : Ordered queue)
    (accounts : Accounts queue admitted told) (found : queue.entries.lookup id = some entry)
    (ranged : entry.range = some range) (evicts : queue.Evicts id entry range after) :
    Exact after (withLost admitted id entry) told := by
  have wasQueued := (accounts.queued id entry.terminalId entry.range).mpr ⟨entry,found,rfl,rfl⟩
  have moved : withLost admitted id entry id = some ⟨entry.terminalId,some range,.lost⟩ := by
    rw [← ranged]
    exact Function.update_self ..
  have kept (fates : List Fate) (evicted : .queued ∉ fates) (terminalId : String) (gap : Range) (other : Nat)
      (inner : Range) (fate : Fate) (member : fate ∈ fates) (held : admitted other = some ⟨terminalId,some inner,fate⟩)
      (_ : gap.Covers inner) : withLost admitted id entry other = some ⟨terminalId,some inner,fate⟩ := by
    have apart : other ≠ id := by
      rintro rfl
      rw [wasQueued] at held
      obtain ⟨_,_,rfl⟩ : _ ∧ _ ∧ Fate.queued = fate := by simpa using held
      exact evicted member
    exact (Function.update_of_ne apart ..).trans held
  constructor
  · intro terminalId gap member
    rw [evicts.gaps] at member
    have older {gap : Range} (listed : gap ∈ gapsOf queue.lanes terminalId) :
        Spanned (withLost admitted id entry) [.lost,.told] terminalId gap :=
      (exact_.pending terminalId gap listed).mono (kept _ (by simp) terminalId gap)
    split at member
    · next home =>
      subst home
      have own (seq : Int) (low : range.fromSeq ≤ seq) (high : seq ≤ range.toSeq) (covers : gap.Covers range) :
          ∃ id' inner fate, fate ∈ [Fate.lost,.told] ∧ withLost admitted id entry id' = some ⟨entry.terminalId,some inner,fate⟩ ∧
            gap.Covers inner ∧ inner.fromSeq ≤ seq ∧ seq ≤ inner.toSeq :=
        ⟨id,range,.lost,by simp,moved,covers,low,high⟩
      rcases recordGap_cases (gapsOf queue.lanes entry.terminalId) range with grown | ⟨rest,last,split_,continues,merged⟩
      · rw [grown] at member
        rcases List.mem_append.mp member with front | back
        · exact older front
        · obtain rfl := List.mem_singleton.mp back
          exact fun seq low high => own seq low high (.refl gap)
      · rw [merged] at member
        have listed : last ∈ gapsOf queue.lanes entry.terminalId := by
          rw [split_]
          simp
        rcases List.mem_append.mp member with front | back
        · exact older (by rw [split_]; exact List.mem_append_left _ front)
        · obtain rfl := List.mem_singleton.mp back
          obtain ⟨same,next⟩ := continues_iff continues
          intro seq low high
          rcases mem_merge next (ordered.gaps found ranged listed same) low high with ⟨low,high⟩ | ⟨low,high⟩
          · obtain ⟨other,inner,fate,evicted,held,covers,inside⟩ := older listed seq low high
            exact ⟨other,inner,fate,evicted,held,merge_covers same (.inl covers),inside⟩
          · exact own seq low high (merge_covers same (.inr (.refl range)))
    · exact older member
  · intro terminalId gap listed
    exact (exact_.told terminalId gap listed).mono (kept _ (by simp) terminalId gap)

/-! ### The eviction loop -/

/-- The admissions differ in queued frames that are now lost. -/
def Loses (admitted settled : Nat → Option Admission) : Prop :=
  ∀ id, settled id = admitted id ∨ ∃ terminalId range, admitted id = some ⟨terminalId,range,.queued⟩ ∧
    settled id = some ⟨terminalId,range,.lost⟩

theorem Loses.trans {lost : Nat → Option Admission} (first : Loses admitted settled) (second : Loses settled lost) :
    Loses admitted lost := by
  intro id
  rcases second id with same | ⟨terminalId,range,before,gone⟩
  · rw [same]
    exact first id
  · rcases first id with same | ⟨_,_,_,moved⟩
    · exact .inr ⟨terminalId,range,same ▸ before,gone⟩
    · rw [before] at moved
      cases moved

theorem loses_evict (accounts : Accounts queue admitted told) (found : queue.entries.lookup id = some entry) :
    Loses admitted (withLost admitted id entry) := by
  intro other
  by_cases same : other = id
  · subst same
    exact .inr ⟨entry.terminalId,entry.range,(accounts.queued _ _ _).mpr ⟨entry,found,rfl,rfl⟩,Function.update_self ..⟩
  · exact .inl (Function.update_of_ne same ..)

/-- What the loop leaves: the limit is met where it succeeds, and only controls
    are queued where it gives up. -/
structure Evicted (queue : DeliveryQueue T) (admitted : Nat → Option Admission) (told : List (String × Range))
    (result : Except CapacityError Unit) (after : DeliveryQueue T) (settled : Nat → Option Admission) : Prop where
  indexed : after.Indexed
  accounts : Accounts after settled told
  loses : Loses admitted settled
  within_ : result = .ok () → after.outstandingBytes ≤ after.byteLimit
  exhausted : result ≠ .ok () → after.evictable = ∅
  smaller : after.entries.entries.length + after.gapCount ≤ queue.entries.entries.length + queue.gapCount
  nextId : after.nextId = queue.nextId
  byteLimit : after.byteLimit = queue.byteLimit
  metadataLimit : after.metadataLimit = queue.metadataLimit
  exact_ : Ordered queue → Exact queue admitted told → Ordered after ∧ Exact after settled told

variable {result : Except CapacityError Unit}

theorem evicted_same (indexed : queue.Indexed) (accounts : Accounts queue admitted told)
    (within_ : result = .ok () → queue.outstandingBytes ≤ queue.byteLimit)
    (exhausted : result ≠ .ok () → queue.evictable = ∅) : Evicted queue admitted told result queue admitted :=
  ⟨indexed,accounts,fun _ => .inl rfl,within_,exhausted,Nat.le_refl _,rfl,rfl,rfl,fun ordered exactly => ⟨ordered,exactly⟩⟩

theorem evictFrom_spec (fuel : Nat) (indexed : queue.Indexed) (accounts : Accounts queue admitted told)
    (enough : queue.evictable.card ≤ fuel) :
    ∃ result after settled, queue.evictFrom fuel = some (result,after) ∧
      Evicted queue admitted told result after settled := by
  induction fuel generalizing queue admitted with
  | zero =>
    have empty : queue.evictable = ∅ := Finset.card_eq_zero.mp (by omega)
    refine ⟨_,queue,admitted,rfl,evicted_same indexed accounts ?_ fun _ => empty⟩
    intro succeeded
    split at succeeded
    · cases succeeded
    · next met => exact Nat.not_lt.mp met
  | succ fuel ih =>
    rw [DeliveryQueue.evictFrom]
    split
    · cases oldest : first queue.evictable with
      | none =>
        refine ⟨_,queue,admitted,rfl,evicted_same indexed accounts ?_ fun _ => first_none oldest⟩
        intro succeeded
        cases succeeded
      | some id =>
        obtain ⟨listed,least⟩ := first_some oldest
        obtain ⟨entry,range,next,found,ranged,evicted,evicts,kept⟩ := DeliveryQueue.evict_spec indexed listed
        have fewer : next.evictable.card ≤ fuel := by
          rw [evicts.evictable,Finset.card_erase_of_mem listed]
          omega
        obtain ⟨result,after,settled,ran,held⟩ := ih kept (accounts_evict accounts found ranged evicts) fewer
        refine ⟨result,after,settled,by simp only [evicted,Option.bind_some,ran],held.indexed,held.accounts,
          (loses_evict accounts found).trans held.loses,held.within_,held.exhausted,?_,held.nextId.trans evicts.nextId,
          held.byteLimit.trans evicts.byteLimit,held.metadataLimit.trans evicts.metadataLimit,?_⟩
        · have taken : next.entries.entries.length + 1 = queue.entries.entries.length := by
            rw [evicts.entries,length_eq_total,length_eq_total]
            exact total_erase (fun _ => 1) found
          have smaller := held.smaller
          have gapCount := evicts.gapCount
          omega
        · intro ordered exactly
          exact held.exact_ (ordered_evict ordered indexed found ranged least evicts)
            (exact_evict exactly ordered accounts found ranged evicts)
    · next met =>
      refine ⟨_,queue,admitted,rfl,evicted_same indexed accounts (fun _ => Nat.not_lt.mp met) ?_⟩
      intro failed
      exact absurd rfl failed

/-! ### Admission -/

/-- The pushed frame comes after every older one of its terminal and source that
    is queued, or in a queued gap. -/
def InSequence (queue : DeliveryQueue T) (entry : Entry T) : Prop :=
  ∀ range, entry.range = some range →
    (∀ id held older, queue.entries.lookup id = some held → held.terminalId = entry.terminalId →
      held.range = some older → older.SameSource range → older.fromSeq ≤ range.toSeq + 1) ∧
    ∀ gap ∈ gapsOf queue.lanes entry.terminalId, gap.SameSource range → gap.fromSeq ≤ range.toSeq + 1

def withQueued (admitted : Nat → Option Admission) (id : Nat) (entry : Entry T) : Nat → Option Admission :=
  Function.update admitted id (some ⟨entry.terminalId,entry.range,.queued⟩)

theorem admit_gapsOf (queue : DeliveryQueue T) (priority : Priority) (entry : Entry T) (terminalId : String) :
    gapsOf (queue.admitEntry priority entry).lanes terminalId = gapsOf queue.lanes terminalId := by
  show gapsOf (queue.lanes.insert _ _) terminalId = _
  rw [gapsOf_insert]
  split
  · next same =>
    subst same
    unfold DeliveryQueue.laneFor gapsOf
    cases queue.lanes.lookup entry.terminalId <;> rfl
  · rfl

theorem admit_lookup (queue : DeliveryQueue T) (priority : Priority) (entry : Entry T) (id : Nat) :
    (queue.admitEntry priority entry).entries.lookup id = if id = queue.nextId then some entry else queue.entries.lookup id :=
  lookup_insert ..

theorem accounts_admission (accounts : Accounts queue admitted told) (priority : Priority) (entry : Entry T) :
    Accounts (queue.admitEntry priority entry) (withQueued admitted queue.nextId entry) told := by
  have unknown : admitted queue.nextId = none := by
    have unused := (accounts.known queue.nextId).not.mpr (Nat.lt_irrefl _)
    simpa using unused
  have kept {id : Nat} (apart : id ≠ queue.nextId) : withQueued admitted queue.nextId entry id = admitted id :=
    Function.update_of_ne apart ..
  have arrived : withQueued admitted queue.nextId entry queue.nextId = some ⟨entry.terminalId,entry.range,.queued⟩ :=
    Function.update_self ..
  constructor
  · intro id
    show _ ↔ id < queue.nextId + 1
    by_cases same : id = queue.nextId
    · rw [same,arrived]
      simp
    · rw [kept same,accounts.known]
      omega
  · intro id terminalId range
    rw [admit_lookup]
    by_cases same : id = queue.nextId
    · rw [same,arrived,if_pos rfl]
      simp
    · rw [kept same,if_neg same]
      exact accounts.queued id terminalId range
  · intro id terminalId range lost
    rw [admit_gapsOf]
    by_cases same : id = queue.nextId
    · rw [same,arrived] at lost
      simp at lost
    · rw [kept same] at lost
      exact accounts.lost id terminalId range lost
  · intro id terminalId range gone
    by_cases same : id = queue.nextId
    · rw [same,arrived] at gone
      simp at gone
    · rw [kept same] at gone
      exact accounts.told id terminalId range gone

theorem ordered_admission (ordered : Ordered queue) (indexed : queue.Indexed) (sequence : InSequence queue entry)
    (priority : Priority) : Ordered (queue.admitEntry priority entry) := by
  constructor
  · intro id later held held' range range' listed listed' before home output output' source
    rw [admit_lookup] at listed listed'
    split at listed'
    · next last =>
      obtain rfl := Option.some.inj listed'
      rw [if_neg (by omega)] at listed
      exact (sequence range' output').1 id held range listed home output source
    · rw [if_neg (by have := indexed.fresh listed'; omega)] at listed
      exact ordered.frames listed listed' before home output output' source
  · intro id held range gap listed output member source
    rw [admit_lookup] at listed
    rw [admit_gapsOf] at member
    split at listed
    · obtain rfl := Option.some.inj listed
      exact (sequence range output).2 gap member source
    · exact ordered.gaps listed output member source

theorem exact_admission (exact_ : Exact queue admitted told) (accounts : Accounts queue admitted told) (priority : Priority)
    (entry : Entry T) : Exact (queue.admitEntry priority entry) (withQueued admitted queue.nextId entry) told := by
  have kept (fates : List Fate) (terminalId : String) (gap : Range) (id : Nat) (inner : Range) (fate : Fate)
      (_ : fate ∈ fates) (held : admitted id = some ⟨terminalId,some inner,fate⟩) (_ : gap.Covers inner) :
      withQueued admitted queue.nextId entry id = some ⟨terminalId,some inner,fate⟩ := by
    have below := (accounts.known id).mp (by rw [held]; rfl)
    exact (Function.update_of_ne (by omega) ..).trans held
  constructor
  · intro terminalId gap member
    rw [admit_gapsOf] at member
    exact (exact_.pending terminalId gap member).mono (kept _ terminalId gap)
  · intro terminalId gap member
    exact (exact_.told terminalId gap member).mono (kept _ terminalId gap)

/-! ### One call -/

variable {op : Op T} {reply : Reply T} {stays : Bool} {admission : Admission} {range : Option Range}

theorem settle_queued : admission.settle op reply stays = ⟨terminalId,range,.queued⟩ ↔
      admission = ⟨terminalId,range,.queued⟩ ∧ stays = true := by
  have leaves : op.leaves ≠ .queued := by
    cases op <;> nofun
  obtain ⟨own,held,fate⟩ := admission
  cases fate with
  | queued => cases stays <;> simp [Admission.settle,leaves]
  | lost =>
    unfold Admission.settle
    repeat' split
    all_goals simp_all
  | _ => simp [Admission.settle]

theorem settle_lost (settled : admission.settle op reply stays = ⟨terminalId,range,.lost⟩) :
    admission = ⟨terminalId,range,.lost⟩ ∨ op.leaves = .lost := by
  obtain ⟨own,held⟩ := settle_same admission op reply stays
  rw [settled] at own held
  obtain ⟨home,kept,fate⟩ := admission
  cases fate with
  | queued =>
    cases stays with
    | true => simp [Admission.settle] at settled
    | false => exact .inr (congrArg Admission.fate settled)
  | lost =>
    left
    rw [show terminalId = home from own,show range = kept from held]
  | _ => simp [Admission.settle] at settled

theorem settle_told (settled : admission.settle op reply stays = ⟨terminalId,range,.told⟩) :
    admission = ⟨terminalId,range,.told⟩ ∨
      ∃ gap, reply = .popped (some (.gap terminalId gap)) ∧ ∃ inner ∈ range, gap.Covers inner := by
  have leaves : op.leaves ≠ .told := by
    cases op <;> nofun
  obtain ⟨own,held,fate⟩ := admission
  cases fate with
  | queued => cases stays <;> simp [Admission.settle,leaves] at settled
  | lost =>
    right
    unfold Admission.settle at settled
    dsimp only at settled
    split at settled
    · next home gap =>
      split at settled
      · next covered =>
        obtain ⟨rfl,rfl,_⟩ : own = terminalId ∧ held = range ∧ True := by simpa using settled
        exact ⟨gap,by rw [covered.1],covered.2⟩
      · simp at settled
    · split at settled <;> simp at settled
    · simp at settled
  | _ => simp_all [Admission.settle]

variable {told' : List (String × Range)}

/-- A call that admits nothing keeps the accounts, where each frame that stays
    lost keeps a gap. -/
theorem accounts_settle (accounts : Accounts queue admitted told) (leaves : op.leaves ≠ .lost)
    (nextId : after.nextId = queue.nextId)
    (entries : ∀ id entry, after.entries.lookup id = some entry → queue.entries.lookup id = some entry)
    (gaps : ∀ terminalId inner, ∀ gap ∈ gapsOf queue.lanes terminalId, gap.Covers inner →
      (∃ stays, Admission.settle ⟨terminalId,some inner,.lost⟩ op reply stays = ⟨terminalId,some inner,.lost⟩) →
      ∃ other ∈ gapsOf after.lanes terminalId, other.Covers inner)
    (tells : ∀ terminalId gap, (terminalId,gap) ∈ told ∨ reply = .popped (some (.gap terminalId gap)) → (terminalId,gap) ∈ told') :
    Accounts after (settleAll admitted op reply after) told' := by
  constructor
  · intro id
    rw [settleAll,Option.isSome_map,nextId]
    exact accounts.known id
  · intro id terminalId range
    simp only [settleAll,Option.map_eq_some_iff,settle_queued,← and_assoc]
    rw [exists_and_right]
    simp only [exists_eq_right]
    constructor
    · rintro ⟨held,stays⟩
      obtain ⟨entry,found⟩ := Option.isSome_iff_exists.mp stays
      obtain ⟨other,again,own⟩ := (accounts.queued id terminalId range).mp held
      obtain rfl := Option.some.inj (again.symm.trans (entries id entry found))
      exact ⟨_,⟨found,own.1⟩,own.2⟩
    · rintro ⟨entry,⟨found,own⟩,ranged⟩
      exact ⟨(accounts.queued id terminalId range).mpr ⟨entry,entries id entry found,own,ranged⟩,by rw [found]; rfl⟩
  · intro id terminalId range lost
    obtain ⟨admission,held,settled⟩ := Option.map_eq_some_iff.mp lost
    obtain rfl : admission = _ := (settle_lost settled).resolve_right leaves
    obtain ⟨inner,member,gap,listed,covers⟩ := accounts.lost id terminalId range held
    obtain rfl := Option.mem_def.mp member
    exact ⟨inner,rfl,gaps terminalId inner gap listed covers ⟨_,settled⟩⟩
  · intro id terminalId range gone
    obtain ⟨admission,held,settled⟩ := Option.map_eq_some_iff.mp gone
    rcases settle_told settled with rfl | ⟨gap,popped,inner,member,covers⟩
    · obtain ⟨inner,member,gap,listed,covers⟩ := accounts.told id terminalId range held
      exact ⟨inner,member,gap,tells terminalId gap (.inl listed),covers⟩
    · exact ⟨inner,member,gap,tells terminalId gap (.inr popped),covers⟩

/-- A call that admits nothing keeps the gaps exact, where it discards no lost
    frame of a gap that stays, and tells the frames of a gap that it delivers. -/
theorem exact_settle (exact_ : Exact queue admitted told)
    (gaps : ∀ terminalId, ∀ gap ∈ gapsOf after.lanes terminalId, gap ∈ gapsOf queue.lanes terminalId ∧
      ∀ range stays, (Admission.settle ⟨terminalId,range,.lost⟩ op reply stays).fate ∈ [Fate.lost,.told])
    (tells : ∀ terminalId gap, (terminalId,gap) ∈ told' → (terminalId,gap) ∈ told ∨
      gap ∈ gapsOf queue.lanes terminalId ∧ ∀ range stays, gap.Covers range →
        (Admission.settle ⟨terminalId,some range,.lost⟩ op reply stays).fate = .told) :
    Exact after (settleAll admitted op reply after) told' := by
  have stillTold {id : Nat} {terminalId : String} {range : Option Range} (held : admitted id = some ⟨terminalId,range,.told⟩) :
      settleAll admitted op reply after id = some ⟨terminalId,range,.told⟩ := by
    rw [settleAll,held]
    rfl
  have moved {id : Nat} {terminalId : String} {range : Option Range} (held : admitted id = some ⟨terminalId,range,.lost⟩) :
      settleAll admitted op reply after id = some ⟨terminalId,range,
        (Admission.settle ⟨terminalId,range,.lost⟩ op reply (after.entries.lookup id).isSome).fate⟩ := by
    rw [settleAll,held,Option.map_some]
    have same := settle_same ⟨terminalId,range,.lost⟩ op reply (after.entries.lookup id).isSome
    refine congrArg some ?_
    generalize Admission.settle _ _ _ _ = settled at same
    cases settled
    simp_all
  constructor
  · intro terminalId gap member
    obtain ⟨listed,turns⟩ := gaps terminalId gap member
    intro seq low high
    obtain ⟨id,range,fate,evicted,held,inside⟩ := exact_.pending terminalId gap listed seq low high
    rcases List.mem_pair.mp evicted with rfl | rfl
    · exact ⟨id,range,_,turns (some range) _,moved held,inside⟩
    · exact ⟨id,range,.told,by simp,stillTold held,inside⟩
  · intro terminalId gap member
    rcases tells terminalId gap member with old | ⟨listed,turns⟩
    · exact (exact_.told terminalId gap old).mono fun id range fate evicted held _ => by
        obtain rfl := List.mem_singleton.mp evicted
        exact stillTold held
    · intro seq low high
      obtain ⟨id,range,fate,evicted,held,covers,inside⟩ := exact_.pending terminalId gap listed seq low high
      rcases List.mem_pair.mp evicted with rfl | rfl
      · have now := moved held
        rw [turns range _ covers] at now
        exact ⟨id,range,.told,by simp,now,covers,inside⟩
      · exact ⟨id,range,.told,by simp,stillTold held,covers,inside⟩

theorem ordered_shrink (ordered : Ordered queue)
    (entries : ∀ id entry, after.entries.lookup id = some entry → queue.entries.lookup id = some entry)
    (gaps : ∀ terminalId, ∀ gap ∈ gapsOf after.lanes terminalId, gap ∈ gapsOf queue.lanes terminalId) : Ordered after := by
  constructor
  · intro id later entry entry' range range' found found'
    exact ordered.frames (entries id entry found) (entries later entry' found')
  · intro id entry range gap found ranged member
    exact ordered.gaps (entries id entry found) ranged (gaps entry.terminalId gap member)

theorem settleAll_push {priority : Priority} (accounts : Accounts after settled told) (loses : Loses admitted settled) :
    settleAll admitted (.push priority entry) (.pushed result) after = settled := by
  funext id
  unfold settleAll
  rcases loses id with same | ⟨terminalId,range,before,gone⟩
  · rw [same]
    cases held : admitted id with
    | none => rfl
    | some admission =>
      obtain ⟨terminalId,range,fate⟩ := admission
      cases fate with
      | queued =>
        obtain ⟨entry,found,_⟩ := (accounts.queued id terminalId range).mp (same.trans held)
        simp [found,Admission.settle]
      | _ => rfl
  · have left_ : after.entries.lookup id = none := by
      cases found : after.entries.lookup id with
      | none => rfl
      | some entry =>
        have queued := (accounts.queued id _ _).mpr ⟨entry,found,rfl,rfl⟩
        rw [gone] at queued
        cases queued
    rw [before,gone,left_]
    rfl

end

/-! ### The ledger -/

section
variable {T : Type}

namespace Ledger

structure Sound (ledger : Ledger T) : Prop where
  indexed : ledger.queue.Indexed
  accounts : Accounts ledger.queue ledger.admitted ledger.told
  metadata : ledger.queue.entries.entries.length + ledger.queue.gapCount ≤ ledger.queue.metadataLimit
  small : ledger.queue.metadataLimit ≤ usizeMax

structure Tight (ledger : Ledger T) : Prop where
  ordered : Ordered ledger.queue
  exact_ : Exact ledger.queue ledger.admitted ledger.told

/-- The call pushes no frame that lies wholly before a queued range of its source. -/
def Sequenced (ledger : Ledger T) : Op T → Prop
  | .push _ entry => InSequence ledger.queue entry
  | _ => True

structure Stepped (ledger : Ledger T) (op : Op T) (reply : Reply T) (after : DeliveryQueue T) : Prop where
  called : ledger.queue.call op = some (reply,after)
  sound : (ledger.step op).Sound
  tight : ledger.Sequenced op → ledger.Tight → (ledger.step op).Tight
  byteLimit : after.byteLimit = ledger.queue.byteLimit
  metadataLimit : after.metadataLimit = ledger.queue.metadataLimit

variable {ledger : Ledger T} {after : DeliveryQueue T}

theorem step_of_call {op : Op T} {reply : Reply T} (called : ledger.queue.call op = some (reply,after)) :
    ledger.step op = ⟨after,settleAll (ledger.register op after) op reply after,ledger.tell reply⟩ := by
  rw [step,called]

theorem push_spec (sound : ledger.Sound) (priority : Priority) (entry : Entry T) :
    ∃ result after, ledger.Stepped (.push priority entry) (.pushed result) after ∧
      (result = .ok () → after.outstandingBytes ≤ after.byteLimit) := by
  -- A refused frame changes nothing.
  have refused (error : CapacityError) (pushed : ledger.queue.push priority entry = some (.error error,ledger.queue)) :
      ledger.Stepped (.push priority entry) (.pushed (.error error)) ledger.queue := by
    have called : ledger.queue.call (.push priority entry) = some (.pushed (.error error),ledger.queue) := by
      rw [DeliveryQueue.call,pushed]
      rfl
    have same : ledger.step (.push priority entry) = ledger := by
      rw [step_of_call called,register,if_pos rfl,settleAll_push sound.accounts fun _ => .inl rfl]
      rfl
    exact ⟨called,by rw [same]; exact sound,fun _ tight => by rw [same]; exact tight,rfl,rfl⟩
  by_cases full : ledger.queue.metadataLimit ≤ saturatingAdd usizeMax ledger.queue.entries.entries.length ledger.queue.gapCount
  · exact ⟨_,_,refused _ (by rw [DeliveryQueue.push,if_pos full]),nofun⟩
  by_cases spent : u64Max < ledger.queue.nextId + 1
  · exact ⟨_,_,refused _ (by rw [DeliveryQueue.push,if_neg full,if_pos spent]),nofun⟩
  by_cases large : usizeMax < ledger.queue.bytes + entry.bytes
  · exact ⟨_,_,refused _ (by rw [DeliveryQueue.push,if_neg full,if_neg spent,if_pos large]),nofun⟩
  have indexed := DeliveryQueue.admit_indexed sound.indexed priority entry
  have accounts := accounts_admission sound.accounts priority entry
  obtain ⟨result,after,settled,ran,evicted⟩ := evictFrom_spec _ indexed accounts (Nat.le_refl _)
  have called : ledger.queue.call (.push priority entry) = some (.pushed result,after) := by
    rw [DeliveryQueue.call,DeliveryQueue.push,if_neg full,if_neg spent,if_neg large,DeliveryQueue.evictOverflow,ran]
    rfl
  have grown : after.nextId ≠ ledger.queue.nextId := by
    rw [evicted.nextId]
    exact Nat.succ_ne_self _
  have stepped : ledger.step (.push priority entry) = ⟨after,settled,ledger.told⟩ := by
    rw [step_of_call called,register,if_neg grown]
    exact congrArg (fun fates => (⟨after,fates,ledger.told⟩ : Ledger T)) (settleAll_push evicted.accounts evicted.loses)
  refine ⟨result,after,⟨called,?_,?_,evicted.byteLimit,evicted.metadataLimit⟩,evicted.within_⟩
  · rw [stepped]
    refine ⟨evicted.indexed,evicted.accounts,?_,?_⟩
    · have room := sound.small
      have one : (ledger.queue.admitEntry priority entry).entries.entries.length = ledger.queue.entries.entries.length + 1 := by
        have unused : ledger.queue.entries.lookup ledger.queue.nextId = none := by
          cases held : ledger.queue.entries.lookup ledger.queue.nextId with
          | none => rfl
          | some other => exact absurd (sound.indexed.fresh held) (Nat.lt_irrefl _)
        rw [length_eq_total,length_eq_total,DeliveryQueue.admitEntry,total_insert_fresh _ unused,Nat.add_comm]
      have count : (ledger.queue.admitEntry priority entry).gapCount = ledger.queue.gapCount := rfl
      have smaller := evicted.smaller
      have limit : after.metadataLimit = ledger.queue.metadataLimit := evicted.metadataLimit
      unfold saturatingAdd at full
      simp only at smaller ⊢
      omega
    · exact Nat.le_trans (Nat.le_of_eq evicted.metadataLimit) sound.small
  · intro sequence tight
    rw [stepped]
    have admitted := ordered_admission tight.ordered sound.indexed sequence priority
    obtain ⟨ordered,exactly⟩ := evicted.exact_ admitted (exact_admission tight.exact_ sound.accounts priority entry)
    exact ⟨ordered,exactly⟩

/-- What a call that admits nothing must leave for the ledger to stay sound. -/
structure Settles (ledger : Ledger T) (op : Op T) (reply : Reply T) (after : DeliveryQueue T) : Prop where
  called : ledger.queue.call op = some (reply,after)
  admitsNone : ∀ priority entry, op ≠ .push priority entry
  indexed : after.Indexed
  entries : ∀ id entry, after.entries.lookup id = some entry → ledger.queue.entries.lookup id = some entry
  kept : ∀ terminalId inner, ∀ gap ∈ gapsOf ledger.queue.lanes terminalId, gap.Covers inner →
    (∃ stays, Admission.settle ⟨terminalId,some inner,.lost⟩ op reply stays = ⟨terminalId,some inner,.lost⟩) →
    ∃ other ∈ gapsOf after.lanes terminalId, other.Covers inner
  gaps : ∀ terminalId, ∀ gap ∈ gapsOf after.lanes terminalId, gap ∈ gapsOf ledger.queue.lanes terminalId ∧
    ∀ range stays, (Admission.settle ⟨terminalId,range,.lost⟩ op reply stays).fate ∈ [Fate.lost,.told]
  delivered : ∀ terminalId gap, reply = .popped (some (.gap terminalId gap)) →
    op = .pop ∧ gap ∈ gapsOf ledger.queue.lanes terminalId
  smaller : after.entries.entries.length + after.gapCount ≤
    ledger.queue.entries.entries.length + ledger.queue.gapCount
  nextId : after.nextId = ledger.queue.nextId
  byteLimit : after.byteLimit = ledger.queue.byteLimit
  metadataLimit : after.metadataLimit = ledger.queue.metadataLimit

theorem Settles.stepped {ledger : Ledger T} {op : Op T} {reply : Reply T} {after : DeliveryQueue T}
    (settles : ledger.Settles op reply after) (sound : ledger.Sound) : ledger.Stepped op reply after := by
  have leaves : op.leaves ≠ .lost := by
    cases op with
    | push priority entry => exact absurd rfl (settles.admitsNone priority entry)
    | _ => nofun
  have registered : ledger.register op after = ledger.admitted := by
    cases op with
    | push priority entry => exact absurd rfl (settles.admitsNone priority entry)
    | _ => rfl
  have tell (terminalId : String) (gap : Range) : (terminalId,gap) ∈ ledger.tell reply ↔
      (terminalId,gap) ∈ ledger.told ∨ reply = .popped (some (.gap terminalId gap)) := by
    unfold Ledger.tell
    split
    · next home range => simp [eq_comm]
    · next other =>
      constructor
      · exact .inl
      · rintro (old | popped)
        · exact old
        · exact absurd popped (other terminalId gap)
  have stepped := step_of_call settles.called
  rw [registered] at stepped
  refine ⟨settles.called,?_,?_,settles.byteLimit,settles.metadataLimit⟩
  · rw [stepped]
    refine ⟨settles.indexed,?_,?_,?_⟩
    · refine accounts_settle sound.accounts leaves settles.nextId settles.entries settles.kept ?_
      exact fun terminalId gap => (tell terminalId gap).mpr
    · have before := sound.metadata
      have smaller := settles.smaller
      have limit := settles.metadataLimit
      simp only
      omega
    · exact Nat.le_trans (Nat.le_of_eq settles.metadataLimit) sound.small
  · intro _ tight
    rw [stepped]
    refine ⟨ordered_shrink tight.ordered settles.entries fun terminalId gap member => (settles.gaps terminalId gap member).1,?_⟩
    refine exact_settle tight.exact_ settles.gaps ?_
    intro terminalId gap member
    rcases (tell terminalId gap).mp member with old | popped
    · exact .inl old
    · obtain ⟨rfl,listed⟩ := settles.delivered terminalId gap popped
      refine .inr ⟨listed,?_⟩
      intro range stays covers
      rw [popped]
      simp [Admission.settle,covers]

theorem pop_settles (sound : ledger.Sound) : ∃ delivery after, ledger.Settles .pop (.popped delivery) after := by
  obtain ⟨delivery,after,popped,pops,indexed⟩ := DeliveryQueue.pop_spec sound.indexed
  have called : ledger.queue.call .pop = some (.popped delivery,after) := by
    rw [DeliveryQueue.call,popped]
    rfl
  have evicted (terminalId : String) (range : Option Range) (stays : Bool) :
      (Admission.settle ⟨terminalId,range,.lost⟩ (.pop : Op T) (.popped delivery) stays).fate ∈ [Fate.lost,.told] := by
    unfold Admission.settle
    dsimp only
    repeat' split
    all_goals simp_all
  refine ⟨delivery,after,?_⟩
  cases pops with
  | idle =>
    exact ⟨called,nofun,indexed,fun _ _ found => found,fun _ _ gap listed covers _ => ⟨gap,listed,covers⟩,
      fun terminalId gap member => ⟨member,evicted terminalId⟩,nofun,Nat.le_refl _,rfl,rfl,rfl⟩
  | @gap home range _ first entries gaps smaller nextId byteLimit metadataLimit =>
    obtain ⟨rest,listed⟩ := List.head?_eq_some_iff.mp first
    refine ⟨called,nofun,indexed,fun _ _ found => entries ▸ found,?_,?_,?_,?_,nextId,byteLimit,metadataLimit⟩
    · rintro terminalId inner gap member covers ⟨stays,lost⟩
      rw [gaps]
      split
      · next same =>
        subst same
        rw [listed] at member ⊢
        rcases List.mem_cons.mp member with rfl | later
        · simp [Admission.settle,covers] at lost
        · exact ⟨gap,later,covers⟩
      · exact ⟨gap,member,covers⟩
    · intro terminalId gap member
      refine ⟨?_,evicted terminalId⟩
      rw [gaps] at member
      split at member
      · exact List.mem_of_mem_tail member
      · exact member
    · intro terminalId gap popped
      obtain ⟨rfl,rfl⟩ : home = terminalId ∧ range = gap := by simpa using popped
      exact ⟨rfl,by rw [listed]; exact List.mem_cons_self ..⟩
    · rw [entries]
      exact Nat.add_le_add_left smaller _
  | @frame id entry _ found clear oldest entries gaps same nextId byteLimit metadataLimit =>
    have fewer : after.entries.entries.length + 1 = ledger.queue.entries.entries.length := by
      rw [entries,length_eq_total,length_eq_total]
      exact total_erase (fun _ => 1) found
    refine ⟨called,nofun,indexed,?_,?_,?_,nofun,by omega,nextId,byteLimit,metadataLimit⟩
    · intro other held listed
      rw [entries,lookup_erase] at listed
      split at listed
      · cases listed
      · exact listed
    · intro terminalId inner gap member covers _
      exact ⟨gap,by rw [gaps]; exact member,covers⟩
    · intro terminalId gap member
      exact ⟨by rwa [gaps] at member,evicted terminalId⟩

theorem discard_settles (sound : ledger.Sound) (terminalId : String) :
    ∃ after, ledger.Settles (.discardTerminal terminalId) .done after := by
  obtain ⟨after,discarded,discards,indexed⟩ := DeliveryQueue.discardTerminal_spec sound.indexed terminalId
  refine ⟨after,?_,nofun,indexed,?_,?_,?_,nofun,discards.smaller,discards.nextId,discards.byteLimit,
    discards.metadataLimit⟩
  · rw [DeliveryQueue.call,discarded]
    rfl
  · intro id entry found
    rw [discards.entries] at found
    split at found
    · cases found
    · exact found
  · rintro home inner gap member covers ⟨stays,lost⟩
    have apart : home ≠ terminalId := by
      rintro rfl
      simp [Admission.settle] at lost
    exact ⟨gap,by rw [discards.gaps,if_neg apart]; exact member,covers⟩
  · intro home gap member
    rw [discards.gaps] at member
    split at member
    · cases member
    · next apart =>
      refine ⟨member,?_⟩
      intro range stays
      simp [Admission.settle,apart]

theorem quiet_settles (op : Op T) (reply : Reply T) (called : ledger.queue.call op = some (reply,after))
    (admitsNone : ∀ priority entry, op ≠ .push priority entry) (indexed : after.Indexed)
    (entries : after.entries = ledger.queue.entries)
    (gaps : ∀ terminalId, gapsOf after.lanes terminalId = gapsOf ledger.queue.lanes terminalId)
    (counts : after.gapCount = ledger.queue.gapCount ∧ after.nextId = ledger.queue.nextId ∧
      after.byteLimit = ledger.queue.byteLimit ∧ after.metadataLimit = ledger.queue.metadataLimit)
    (silent : ∀ delivery, reply ≠ .popped delivery) (keeps : ∀ terminalId, op ≠ .discardTerminal terminalId) :
    ledger.Settles op reply after := by
  refine ⟨called,admitsNone,indexed,fun _ _ found => entries ▸ found,?_,?_,?_,?_,counts.2.1,counts.2.2.1,counts.2.2.2⟩
  · intro terminalId inner gap member covers _
    exact ⟨gap,by rw [gaps]; exact member,covers⟩
  · intro terminalId gap member
    refine ⟨by rwa [gaps] at member,?_⟩
    intro range stays
    unfold Admission.settle
    dsimp only
    split
    · exact absurd rfl (silent _)
    · exact absurd rfl (keeps _)
    · simp
  · intro terminalId gap popped
    exact absurd popped (silent _)
  · rw [entries,counts.1]

theorem step_spec (sound : ledger.Sound) (op : Op T) : ∃ reply after, ledger.Stepped op reply after := by
  cases op with
  | push priority entry =>
    obtain ⟨result,after,stepped,_⟩ := push_spec sound priority entry
    exact ⟨_,after,stepped⟩
  | pop =>
    obtain ⟨delivery,after,settles⟩ := pop_settles sound
    exact ⟨_,after,settles.stepped sound⟩
  | discardTerminal terminalId =>
    obtain ⟨after,settles⟩ := discard_settles sound terminalId
    exact ⟨_,after,settles.stepped sound⟩
  | updatePriorities priority =>
    refine ⟨.done,_,(quiet_settles (.updatePriorities priority) .done rfl nofun ?_ rfl ?_ ⟨rfl,rfl,rfl,rfl⟩ nofun
      nofun).stepped sound⟩
    · exact DeliveryQueue.updatePriorities_indexed sound.indexed priority
    · exact fun terminalId => (DeliveryQueue.updatePriorities_lanes ledger.queue priority terminalId).2
  | setReservedBytes bytes =>
    refine ⟨.done,_,(quiet_settles (.setReservedBytes bytes) .done rfl nofun ?_ rfl (fun _ => rfl) ⟨rfl,rfl,rfl,rfl⟩ nofun
      nofun).stepped sound⟩
    exact ⟨⟨sound.indexed.bytes,sound.indexed.evictable,sound.indexed.fresh⟩,sound.indexed.lanes,sound.indexed.gaps⟩
  | takeEvictions =>
    refine ⟨.evicted _,_,(quiet_settles .takeEvictions (.evicted _) rfl nofun ?_ rfl (fun _ => rfl) ⟨rfl,rfl,rfl,rfl⟩ nofun
      nofun).stepped sound⟩
    exact ⟨⟨sound.indexed.bytes,sound.indexed.evictable,sound.indexed.fresh⟩,sound.indexed.lanes,sound.indexed.gaps⟩

/-! ### Runs -/

theorem sound_new (byteLimit metadataLimit : UInt64) : (new byteLimit.toNat metadataLimit.toNat : Ledger T).Sound where
  indexed := DeliveryQueue.indexed_new _ _
  accounts := by
    refine ⟨fun id => ?_,fun id terminalId range => ?_,nofun,nofun⟩
    · simp [new,DeliveryQueue.new]
    · simp [new,DeliveryQueue.new]
  metadata := Nat.zero_le _
  small := by
    have bound := metadataLimit.toNat_lt
    show max metadataLimit.toNat 1 ≤ usizeMax
    unfold usizeMax
    omega

theorem tight_new (byteLimit metadataLimit : Nat) : (new byteLimit metadataLimit : Ledger T).Tight where
  ordered := ⟨nofun,nofun⟩
  exact_ := ⟨nofun,nofun⟩

/-- No call panics; the indexes agree; the limits hold, for the byte total as the
    queue reads it, which saturates; every admitted frame is accounted for; a
    frame that a pop takes is the one it answers; and no control is evicted. -/
structure Conserves (ledger : Ledger T) : Prop where
  answers : ∀ op, (ledger.queue.call op).isSome
  indexed : ledger.queue.Indexed
  metadata : ledger.queue.entries.entries.length + ledger.queue.gapCount ≤ ledger.queue.metadataLimit
  within_ : ∀ priority entry after, ledger.queue.push priority entry = some (.ok (),after) →
    after.outstandingBytes ≤ after.byteLimit ∧
      (after.byteLimit < usizeMax → after.bytes + after.reserved ≤ after.byteLimit)
  accounts : Accounts ledger.queue ledger.admitted ledger.told
  delivers : ∀ id entry, ledger.queue.entries.lookup id = some entry →
    (ledger.step .pop).queue.entries.lookup id = none →
    ∃ after, ledger.queue.pop = some (some (.frame entry.payload entry.bytes),after)
  controls : ∀ id terminalId fate, ledger.admitted id = some ⟨terminalId,none,fate⟩ →
    fate ∈ [Fate.queued,.delivered,.discarded]

theorem Sound.conserves (sound : ledger.Sound) : ledger.Conserves where
  answers op := by
    obtain ⟨reply,after,stepped⟩ := step_spec sound op
    rw [stepped.called]
    rfl
  indexed := sound.indexed
  metadata := sound.metadata
  within_ priority entry after pushed := by
    obtain ⟨result,other,stepped,met⟩ := push_spec sound priority entry
    have called := stepped.called
    rw [DeliveryQueue.call,pushed] at called
    obtain ⟨rfl,rfl⟩ : .ok () = result ∧ after = other := by simpa using called
    have outstanding := met rfl
    refine ⟨outstanding,fun bounded => ?_⟩
    unfold DeliveryQueue.outstandingBytes saturatingAdd at outstanding
    omega
  accounts := sound.accounts
  delivers id entry found gone := by
    obtain ⟨delivery,after,popped,pops,_⟩ := DeliveryQueue.pop_spec sound.indexed
    have called : ledger.queue.call .pop = some (.popped delivery,after) := by
      rw [DeliveryQueue.call,popped]
      rfl
    rw [step_of_call called] at gone
    cases pops with
    | idle =>
      rw [found] at gone
      cases gone
    | gap first entries =>
      rw [entries,found] at gone
      cases gone
    | @frame taken held _ listed clear oldest entries =>
      rw [entries,lookup_erase] at gone
      split at gone
      · next same =>
        subst same
        obtain rfl := Option.some.inj (found.symm.trans listed)
        exact ⟨after,popped⟩
      · rw [found] at gone
        cases gone
  controls id terminalId fate held := by
    cases fate with
    | lost =>
      obtain ⟨inner,member,_⟩ := sound.accounts.lost id terminalId none held
      cases member
    | told =>
      obtain ⟨inner,member,_⟩ := sound.accounts.told id terminalId none held
      cases member
    | _ => simp

end Ledger

theorem Ledger.sound_run (byteLimit metadataLimit : UInt64) (ops : List (Op T)) :
    (run Ledger.step (.new byteLimit.toNat metadataLimit.toNat) ops).Sound := by
  have kept : ∀ (l : Ledger T) op, l.Sound → True → (l.step op).Sound := by
    intro l op sound _
    obtain ⟨_,_,stepped⟩ := Ledger.step_spec sound op
    exact stepped.sound
  exact invariant_run kept (Ledger.sound_new byteLimit metadataLimit) (along_of_forall (fun _ _ => trivial) _ ops)

/-- Over every run the queue conserves what it admits, and where the frames of
    each terminal and source arrive in sequence its gaps cover nothing but
    evicted frames. -/
theorem delivery_conserves (byteLimit metadataLimit : UInt64) (ops : List (Op T)) :
    let start : Ledger T := .new byteLimit.toNat metadataLimit.toNat
    let ledger := run Ledger.step start ops
    ledger.Conserves ∧
      (Along Ledger.step Ledger.Sequenced start ops → Exact ledger.queue ledger.admitted ledger.told) := by
  intro start ledger
  constructor
  · exact (Ledger.sound_run byteLimit metadataLimit ops).conserves
  · intro sequenced
    have kept : ∀ (l : Ledger T) op, l.Sound ∧ l.Tight → l.Sequenced op → (l.step op).Sound ∧ (l.step op).Tight := by
      rintro l op ⟨sound,tight⟩ sequence
      obtain ⟨_,_,stepped⟩ := Ledger.step_spec sound op
      exact ⟨stepped.sound,stepped.tight sequence tight⟩
    exact (invariant_run kept ⟨Ledger.sound_new byteLimit metadataLimit,Ledger.tight_new _ _⟩ sequenced).2.exact_

end

/-- A frame of the terminal `t`, larger than a limit of 1. -/
def outputFrame (fromSeq toSeq : Int) : Entry Unit := ⟨"t",(),10,some ⟨"s",none,fromSeq,toSeq⟩,0⟩

/-- A frame pushed after a later one is merged into its gap with the numbers
    between them, of which none was evicted; and at the largest limit the byte
    total saturates, so that a push succeeds beyond it. -/
theorem outOfSequence_widensGap :
    (¬ ∀ ops : List (Op Unit), let ledger := run Ledger.step (.new 1 100) ops
      Exact ledger.queue ledger.admitted ledger.told) ∧
    ∃ priority entry after, (((DeliveryQueue.new usizeMax 100 : DeliveryQueue Unit).setReservedBytes 1).push priority
      entry = some (.ok (),after)) ∧ after.byteLimit < after.bytes + after.reserved := by
  constructor
  · intro exactly
    let ledger := run Ledger.step (.new 1 100) [.push .visible (outputFrame 10 10),.push .visible (outputFrame 1 1)]
    have gap : (⟨"s",none,1,10⟩ : Range) ∈ gapsOf ledger.queue.lanes "t" := by decide
    obtain ⟨id,range,fate,_,held,_,low,high⟩ := (exactly _).pending "t" _ gap 5 (by decide) (by decide)
    have sound := Ledger.sound_run 1 100 [.push .visible (outputFrame 10 10),.push .visible (outputFrame 1 1)]
    have below : id < 2 := (sound.accounts.known id).mp (by
      show (ledger.admitted id).isSome
      rw [held]
      rfl)
    have first : ledger.admitted 0 = some ⟨"t",some ⟨"s",none,10,10⟩,.lost⟩ := by decide
    have second : ledger.admitted 1 = some ⟨"t",some ⟨"s",none,1,1⟩,.lost⟩ := by decide
    interval_cases id
    · obtain ⟨rfl,rfl⟩ : _ = range ∧ _ = fate := by simpa using first.symm.trans held
      simp at low
    · obtain ⟨rfl,rfl⟩ : _ = range ∧ _ = fate := by simpa using second.symm.trans held
      simp at high
  · let start : DeliveryQueue Unit := (DeliveryQueue.new usizeMax 100).setReservedBytes 1
    let entry : Entry Unit := ⟨"t",(),usizeMax,none,0⟩
    refine ⟨.visible,entry,start.admitEntry .visible entry,?_,?_⟩
    · have whole : ¬(start.admitEntry .visible entry).byteLimit < (start.admitEntry .visible entry).outstandingBytes :=
        Nat.not_lt.mpr (Nat.le_trans (min_le_right _ _) (le_max_left _ _))
      have room : ¬start.metadataLimit ≤ saturatingAdd usizeMax start.entries.entries.length start.gapCount :=
        Nat.not_le.mpr (Nat.lt_of_le_of_lt (min_le_left _ _) (by decide))
      have fits : ¬usizeMax < start.bytes + entry.bytes := Nat.not_lt.mpr (Nat.le_of_eq (Nat.zero_add _))
      rw [DeliveryQueue.push,if_neg room,if_neg (by decide),if_neg fits,DeliveryQueue.evictOverflow]
      show some _ = _
      rw [if_neg whole]
    · show max usizeMax 1 < 0 + usizeMax + 1
      unfold usizeMax
      omega

end Freshell.Connection
