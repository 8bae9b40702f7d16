import Freshell.Connection.WriterRuns

/-!
The order in which a connection's writer leases what was admitted: output behind
the controls that were admitted before it, nothing of a terminal from before its
last `attach.ready`, and no more than a streak of controls while older output
waits.
-/
namespace Freshell.Connection
open Freshell.Library.Runs

def Lease.isControl : Lease → Bool
  | .control _ => true
  | _ => false

/-- The controls that were leased since the last output. -/
def streak (log : List Lease) : Nat := (log.reverse.takeWhile Lease.isControl).length

theorem streak_append (log : List Lease) (lease : Lease) :
    streak (log ++ [lease]) = if lease.isControl then streak log + 1 else 0 := by
  cases control : lease.isControl <;> simp [streak,control]

namespace WriterHistory
variable {T : Type}

def OlderWaits (history : WriterHistory T) : Prop :=
  ∃ id entry, history.queues.output.entries.lookup id = some entry ∧
    ∀ control ∈ history.queues.controls, entry.stamp < control.seq

/-- Output with the stamp may be leased: no control that waits is older, and the
    terminal's last `attach.ready` is older. -/
def InOrder (history : WriterHistory T) (terminalId : String) (stamp : Nat) : Prop :=
  (∀ control ∈ history.queues.controls, stamp < control.seq) ∧
    ∀ ready, history.ready terminalId = some ready → ready < stamp

/-- What a lease is to keep, in the state that it is made in. -/
def KeepsPrelude (history : WriterHistory T) : Lease → Prop
  | .frame terminalId stamp => history.InOrder terminalId stamp
  | .gap terminalId behind => ∀ stamp ∈ behind, history.InOrder terminalId stamp
  | .control seq => history.OlderWaits → streak (history.log ++ [.control seq]) ≤ CONTROL_STREAK_LIMIT

def LeasesInOrder (shared : Shared T) (history : WriterHistory T) (op : WriterOp T) : Prop :=
  ∀ lease, (history.next shared op).log = history.log ++ [lease] → history.KeepsPrelude lease

/-- When older output waits on a streak at its limit, the frame next in service is
    older than the oldest control; and no `attach.ready` is admitted while a gap of
    its terminal is resolved. -/
def ServesOldest (shared : Shared T) (history : WriterHistory T) (op : WriterOp T) : Prop :=
  (op = .take → CONTROL_STREAK_LIMIT ≤ history.queues.controlsSinceLastOutput → history.OlderWaits →
    ∃ stamp, history.queues.output.frontStamp = some (some stamp) ∧
      ∀ control ∈ history.queues.controls.head?, stamp < control.seq) ∧
  ∀ terminalId wire, op = .server (.attachReady terminalId) wire → history.queues.ControlFits shared wire →
    ∀ range behind, history.pump ≠ .resolving terminalId range behind

/-- The stamp is of output that was admitted after the terminal's last `attach.ready`. -/
def Fresh (history : WriterHistory T) (terminalId : String) (stamp : Nat) : Prop :=
  stamp < history.queues.nextSeq ∧ ∀ ready, history.ready terminalId = some ready → ready < stamp

structure Ordered (history : WriterHistory T) : Prop where
  indexed : history.queues.output.Indexed
  sorted : history.queues.controls.Pairwise fun first second => first.seq < second.seq
  controls : ∀ control ∈ history.queues.controls, control.seq < history.queues.nextSeq
  entries : ∀ id entry, history.queues.output.entries.lookup id = some entry →
    history.Fresh entry.terminalId entry.stamp
  behind : ∀ terminalId stamp, stamp ∈ history.behind terminalId → history.Fresh terminalId stamp
  ready : ∀ terminalId ready, history.ready terminalId = some ready → ready < history.queues.nextSeq
  resolving : ∀ terminalId range behind, history.pump = .resolving terminalId range behind → ∀ stamp ∈ behind,
    stamp < history.queues.nextSeq ∧ history.InOrder terminalId stamp
  streak : history.queues.closed = true ∨ history.queues.controlsSinceLastOutput = streak history.log

variable {history : WriterHistory T}

variable (shared : Shared T)

theorem ordered_new : (new shared : WriterHistory T).Ordered where
  indexed := DeliveryQueue.indexed_new _ _
  sorted := List.Pairwise.nil
  controls _ listed := by cases listed
  entries _ _ found := by simp [new,Queues.new,DeliveryQueue.new] at found
  behind _ _ listed := by cases listed
  ready _ _ found := by cases found
  resolving _ _ _ pump := by cases pump
  streak := .inr rfl

variable {output : DeliveryQueue T}

theorem Ordered.narrow (ordered : history.Ordered) (indexed : output.Indexed)
    (entries : ∀ id entry, output.entries.lookup id = some entry →
      history.queues.output.entries.lookup id = some entry) (interest : InterestState) (closed : Bool)
    (closes : history.queues.closed = true → closed = true) : ({ history with queues := { history.queues with
        output := output, interest := interest, closed := closed } } : WriterHistory T).Ordered where
  indexed := indexed
  sorted := ordered.sorted
  controls := ordered.controls
  entries id entry found := ordered.entries id entry (entries id entry found)
  behind := ordered.behind
  ready := ordered.ready
  resolving := ordered.resolving
  streak := ordered.streak.imp closes id

theorem Ordered.stopped (ordered : history.Ordered) :
    ({ history with queues := history.queues.stop } : WriterHistory T).Ordered :=
  ordered.narrow ordered.indexed (fun _ _ found => found) history.queues.interest true fun _ => rfl

theorem Ordered.control (ordered : history.Ordered) (control : Control T) (controlBytes : Nat)
    (stamped : control.seq = history.queues.nextSeq) :
    ({ history with
        queues := { history.queues with
          controlBytes := controlBytes
          nextSeq := history.queues.nextSeq + 1
          controls := history.queues.controls ++ [control] } } : WriterHistory T).Ordered := by
  refine ⟨ordered.indexed,?_,?_,?_,?_,?_,?_,ordered.streak⟩
  · refine List.pairwise_append.mpr ⟨ordered.sorted,List.pairwise_singleton _ _,?_⟩
    intro other listed last isLast
    rw [List.mem_singleton.mp isLast,stamped]
    exact ordered.controls other listed
  · intro other listed
    obtain listed | isLast := List.mem_append.mp listed
    · exact Nat.lt_succ_of_lt (ordered.controls other listed)
    · rw [List.mem_singleton.mp isLast,stamped]
      exact Nat.lt_succ_self _
  · intro id entry found
    have fresh := ordered.entries id entry found
    exact ⟨Nat.lt_succ_of_lt fresh.1,fresh.2⟩
  · intro terminalId stamp listed
    have fresh := ordered.behind terminalId stamp listed
    exact ⟨Nat.lt_succ_of_lt fresh.1,fresh.2⟩
  · intro terminalId ready found
    exact Nat.lt_succ_of_lt (ordered.ready terminalId ready found)
  · intro terminalId range behind pump stamp listed
    obtain ⟨small,first,last⟩ := ordered.resolving terminalId range behind pump stamp listed
    refine ⟨Nat.lt_succ_of_lt small,fun other waits => ?_,last⟩
    obtain waits | isLast := List.mem_append.mp waits
    · exact first other waits
    · rw [List.mem_singleton.mp isLast,stamped]
      exact small

theorem Ordered.superseded (ordered : history.Ordered) {frame : T} {bytes controlBytes : Nat} {terminalId : String}
    (indexed : output.Indexed) (entries : ∀ id entry, output.entries.lookup id = some entry →
      history.queues.output.entries.lookup id = some entry ∧ entry.terminalId ≠ terminalId)
    (elsewhere : ∀ range behind, history.pump ≠ .resolving terminalId range behind) :
    (history.superseded { history.queues with
      output := output
      controlBytes := controlBytes
      nextSeq := history.queues.nextSeq + 1
      controls := history.queues.controls ++ [⟨frame,bytes,history.queues.nextSeq⟩] } terminalId).Ordered := by
  have pushed := ordered.control ⟨frame,bytes,history.queues.nextSeq⟩ controlBytes rfl
  refine ⟨indexed,pushed.sorted,pushed.controls,?_,?_,?_,?_,ordered.streak⟩
  · intro id entry found
    obtain ⟨found,other⟩ := entries id entry found
    refine ⟨(pushed.entries id entry found).1,fun ready last => ?_⟩
    simp only [WriterHistory.superseded,Function.update_of_ne other] at last
    exact (pushed.entries id entry found).2 ready last
  · intro other stamp listed
    simp only [WriterHistory.superseded] at listed
    by_cases same : other = terminalId
    · subst same
      simp at listed
    · rw [Function.update_of_ne same] at listed
      refine ⟨(pushed.behind other stamp listed).1,fun ready last => ?_⟩
      simp only [WriterHistory.superseded,Function.update_of_ne same] at last
      exact (pushed.behind other stamp listed).2 ready last
  · intro other ready found
    simp only [WriterHistory.superseded] at found
    by_cases same : other = terminalId
    · subst same
      rw [Function.update_self] at found
      rw [← Option.some.inj found]
      exact Nat.lt_succ_self _
    · rw [Function.update_of_ne same] at found
      exact pushed.ready other ready found
  · intro other range behind pump stamp listed
    obtain ⟨small,first,last⟩ := pushed.resolving other range behind pump stamp listed
    have different : other ≠ terminalId := fun same => elsewhere range behind (same ▸ pump)
    refine ⟨small,first,fun ready found => ?_⟩
    simp only [WriterHistory.superseded,Function.update_of_ne different] at found
    exact last ready found

theorem fresh_evicted (ordered : history.Ordered) {after : DeliveryQueue T} {pushed terminalId : String} {stamp : Nat}
    (evicted : stamp ∈ evictedStamps history.queues.output after (pushed,history.queues.nextSeq) terminalId) :
    stamp < history.queues.nextSeq + 1 ∧ ∀ ready, history.ready terminalId = some ready → ready < stamp := by
  unfold evictedStamps at evicted
  obtain queued | isPushed := List.mem_append.mp evicted
  · obtain ⟨⟨id,entry⟩,listed,rfl⟩ := List.mem_map.mp queued
    obtain ⟨listed,test⟩ := List.mem_filter.mp listed
    have own : entry.terminalId = terminalId := by
      simp only [Bool.and_eq_true,beq_iff_eq] at test
      exact test.1
    have fresh := ordered.entries id entry (AList.mem_lookup_iff.mpr listed)
    exact ⟨Nat.lt_succ_of_lt fresh.1,own ▸ fresh.2⟩
  · split at isPushed
    · rw [List.mem_singleton.mp isPushed]
      exact ⟨Nat.lt_succ_self _,fun ready found => ordered.ready terminalId ready found⟩
    · cases isPushed

theorem Ordered.pushed (ordered : history.Ordered) (entry : Entry T) (stamped : entry.stamp = history.queues.nextSeq)
    (indexed : output.Indexed) (entries : ∀ id held, output.entries.lookup id = some held →
      history.queues.output.entries.lookup id = some held ∨ held = entry) (interest : InterestState) (closed : Bool)
    (closes : history.queues.closed = true → closed = true) : (history.pushed { history.queues with
      output := output, interest := interest, nextSeq := history.queues.nextSeq + 1, closed := closed }
      entry.terminalId).Ordered := by
  refine ⟨indexed,ordered.sorted,?_,?_,?_,?_,?_,ordered.streak.imp closes id⟩
  · intro control listed
    exact Nat.lt_succ_of_lt (ordered.controls control listed)
  · intro id held found
    obtain queued | rfl := entries id held found
    · have fresh := ordered.entries id held queued
      exact ⟨Nat.lt_succ_of_lt fresh.1,fresh.2⟩
    · refine ⟨?_,fun ready found => ?_⟩
      · rw [stamped]
        exact Nat.lt_succ_self _
      · rw [stamped]
        exact ordered.ready held.terminalId ready found
  · intro terminalId stamp listed
    obtain earlier | evicted := List.mem_append.mp listed
    · have fresh := ordered.behind terminalId stamp earlier
      exact ⟨Nat.lt_succ_of_lt fresh.1,fresh.2⟩
    · exact fresh_evicted ordered evicted
  · intro terminalId ready found
    exact Nat.lt_succ_of_lt (ordered.ready terminalId ready found)
  · intro terminalId range behind pump stamp listed
    obtain ⟨small,first,last⟩ := ordered.resolving terminalId range behind pump stamp listed
    exact ⟨Nat.lt_succ_of_lt small,first,last⟩

theorem Ordered.guarded (ordered : history.Ordered) (drainReserved : Nat) (guards : List Guard) (pages : List Nat) :
    ({ history with
        queues := { history.queues with drainReserved := drainReserved }
        guards := guards, pages := pages } : WriterHistory T).Ordered :=
  ⟨ordered.indexed,ordered.sorted,ordered.controls,ordered.entries,ordered.behind,ordered.ready,ordered.resolving,
    ordered.streak⟩

theorem server_log (msg : ServerMessage) (wire : Wire T) : (history.server shared msg wire).log = history.log := by
  unfold WriterHistory.server
  split
  · rfl
  · rfl
  · cases msg <;> rfl

theorem Ordered.pushOutput (ordered : history.Ordered) (terminalId : String) (wire : Wire T) (bytes : Nat)
    (range : Option Range) :
    ∃ taken after, history.queues.pushOutput terminalId wire bytes range = some (taken,after) ∧
      if taken then ∀ interest, (history.pushed { after with interest := interest } terminalId).Ordered
      else ({ history with queues := after } : WriterHistory T).Ordered := by
  obtain ⟨result,after,ran,pushes⟩ := Queues.pushOutput_spec terminalId wire bytes range ordered.indexed
  obtain ⟨result',after',ran',indexed,entries,-⟩ := DeliveryQueue.push_shape ordered.indexed
    (history.queues.interest.priority terminalId) ⟨terminalId,wire.frame,bytes,range,history.queues.nextSeq⟩
  obtain ⟨rfl,rfl⟩ := Prod.mk.inj (Option.some.inj (ran.symm.trans ran'))
  have either := fun id held found => (entries id held found).imp_right And.right
  have pushed := ordered.pushed ⟨terminalId,wire.frame,bytes,range,history.queues.nextSeq⟩ rfl
    indexed.taken either
  cases result with
  | ok => exact ⟨true,_,pushes,fun interest => pushed interest history.queues.closed id⟩
  | error =>
    refine ⟨false,_,pushes,?_⟩
    have kept := pushed history.queues.interest true fun _ => rfl
    exact ⟨kept.indexed,kept.sorted,kept.controls,kept.entries,
      fun other stamp listed => kept.behind other stamp (List.mem_append_left _ listed),kept.ready,kept.resolving,
      kept.streak⟩

theorem Ordered.server (ordered : history.Ordered) (shared : Shared T) (msg : ServerMessage) (wire : Wire T)
    (unresolved : ∀ terminalId, msg = .attachReady terminalId → history.queues.ControlFits shared wire →
      ∀ range behind, history.pump ≠ .resolving terminalId range behind) :
    (history.server shared msg wire).Ordered := by
  unfold WriterHistory.server
  cases msg with
  | attachReady terminalId =>
    obtain ⟨-,exit,after,ran,unchanged⟩ | ⟨fits,output,ran,discarded⟩ :=
      Queues.pushControl_spec shared wire (some terminalId) ordered.indexed
    · obtain rfl | rfl := unchanged
      · simpa only [Queues.pushServer,ran,Option.map_some] using ordered
      · simpa only [Queues.pushServer,ran,Option.map_some] using ordered.stopped
    · obtain ⟨after,discards,shrinks,others⟩ := DeliveryQueue.discard_shrinks ordered.indexed terminalId
      obtain rfl := Option.some.inj (discarded.symm.trans discards)
      simp only [Queues.pushServer,ran,Option.map_some]
      exact ordered.superseded shrinks.indexed (fun id entry found => ⟨shrinks.entries id entry found,others id entry found⟩)
        (unresolved terminalId rfl fits)
  | other =>
    obtain ⟨-,exit,after,ran,unchanged⟩ | ⟨-,output,ran,rfl⟩ :=
      Queues.pushControl_spec shared wire none ordered.indexed
    · obtain rfl | rfl := unchanged
      · simpa only [Queues.pushServer,ran,Option.map_some] using ordered
      · simpa only [Queues.pushServer,ran,Option.map_some] using ordered.stopped
    · simp only [Queues.pushServer,ran,Option.map_some]
      exact ordered.control _ _ rfl
  | output terminalId range =>
    by_cases closed : history.queues.closed = true
    · simpa only [Queues.pushServer,closed,if_true] using ordered
    · obtain ⟨taken,after,ran,kept⟩ := ordered.pushOutput terminalId wire wire.bytes (some range)
      simp only [Queues.pushServer,closed,ran,Bool.false_eq_true,if_false]
      cases taken with
      | false => exact kept
      | true => exact kept after.interest
  | exit terminalId =>
    by_cases closed : history.queues.closed = true
    · simpa only [Queues.pushServer,closed,if_true] using ordered
    · obtain ⟨taken,after,ran,kept⟩ := ordered.pushOutput terminalId wire 0 none
      simp only [Queues.pushServer,closed,ran,Bool.false_eq_true,if_false,Option.map_some]
      cases taken with
      | false => exact kept
      | true => exact kept (after.interest.detach terminalId)
  | outputGap terminalId =>
    by_cases closed : history.queues.closed = true
    · simpa only [Queues.pushServer,closed,if_true] using ordered
    · obtain ⟨taken,after,ran,kept⟩ := ordered.pushOutput terminalId wire 0 none
      simp only [Queues.pushServer,closed,ran,Bool.false_eq_true,if_false]
      cases taken with
      | false => exact kept
      | true => exact kept after.interest

theorem Ordered.leased (ordered : history.Ordered) (indexed : output.Indexed)
    (entries : ∀ id entry, output.entries.lookup id = some entry →
      history.queues.output.entries.lookup id = some entry) (bytes : Nat) {lease : Lease}
    (isOutput : lease.isControl = false) {pump : Pump}
    (resolved : ∀ terminalId range behind, pump ≠ .resolving terminalId range behind) (pageInFlight : Bool) :
    ({ history with
        queues := ({ history.queues with output := output } : Queues T).leaseOutput bytes
        pump := pump, log := history.log ++ [lease], pageInFlight := pageInFlight } : WriterHistory T).Ordered where
  indexed := indexed.setReserved bytes
  sorted := ordered.sorted
  controls := ordered.controls
  entries id entry found := ordered.entries id entry (entries id entry found)
  behind := ordered.behind
  ready := ordered.ready
  resolving terminalId range behind found := absurd found (resolved terminalId range behind)
  streak := .inr (by rw [streak_append,isOutput]; rfl)

theorem Ordered.leaseGap (ordered : history.Ordered) (shared : Shared T) (terminalId : String) (range : Range)
    (bounds : Option ReplayBounds) (behind : List Nat) :
    (history.leaseGap shared terminalId range bounds behind).Ordered :=
  ordered.leased ordered.indexed (fun _ _ found => found) _ rfl (by simp) false

variable {entry : Entry T}

theorem outputGoes_first (ordered : history.Ordered) (goes : history.queues.OutputGoes) {id : Nat}
    (front : history.queues.output.front = some (id,entry)) :
    ∀ control ∈ history.queues.controls, entry.stamp < control.seq := by
  obtain empty | ⟨-,id',entry',front',oldest⟩ := goes
  · simp [empty]
  · obtain ⟨rfl,rfl⟩ := Prod.mk.inj (Option.some.inj (front.symm.trans front'))
    have sorted := ordered.sorted
    cases waiting : history.queues.controls with
    | nil => simp
    | cons first rest =>
      rw [waiting] at sorted oldest
      intro control listed
      have ahead := oldest first rfl
      obtain rfl | later := List.mem_cons.mp listed
      · exact ahead
      · exact Nat.lt_trans ahead ((List.pairwise_cons.mp sorted).1 control later)

theorem Ordered.take (ordered : history.Ordered) (shared : Shared T)
    (oldest : CONTROL_STREAK_LIMIT ≤ history.queues.controlsSinceLastOutput → history.OlderWaits →
      ∃ stamp, history.queues.output.frontStamp = some (some stamp) ∧
        ∀ control ∈ history.queues.controls.head?, stamp < control.seq) :
    (history.take shared).Ordered ∧
      ∀ lease, (history.take shared).log = history.log ++ [lease] → history.KeepsPrelude lease := by
  have silent : ∀ lease, history.log = history.log ++ [lease] → history.KeepsPrelude lease := by
    intro lease same
    simp at same
  obtain ⟨taken,after,ran,shape⟩ := Queues.takeNext_spec history.queues ordered.indexed
  unfold WriterHistory.take
  simp only [ran]
  cases taken with
  | idle =>
    subst shape
    exact ⟨ordered,silent⟩
  | control control =>
    obtain ⟨isOpen,declined,rest,waiting,rfl⟩ := shape
    have counted : history.queues.controlsSinceLastOutput = Connection.streak history.log :=
      ordered.streak.resolve_left (by simp [isOpen])
    constructor
    · have sorted := ordered.sorted
      rw [waiting] at sorted
      have fewer : ∀ other ∈ rest, other ∈ history.queues.controls := fun other listed => by
        rw [waiting]
        exact List.mem_cons_of_mem _ listed
      refine ⟨ordered.indexed,(List.pairwise_cons.mp sorted).2,fun other listed => ordered.controls other (fewer other listed),
        ordered.entries,ordered.behind,ordered.ready,by simp,.inr ?_⟩
      rw [streak_append,← counted]
      rfl
    · intro lease same
      obtain rfl := List.singleton_inj.mp (List.append_cancel_left same)
      intro older
      rw [streak_append,← counted]
      -- at the limit the front is older, and then the control is not taken
      by_contra exceeds
      have full : CONTROL_STREAK_LIMIT ≤ history.queues.controlsSinceLastOutput := by
        simp only [Lease.isControl,if_true] at exceeds
        omega
      obtain ⟨stamp,front,ahead⟩ := oldest full older
      rw [(DeliveryQueue.pop_front ordered.indexed).1] at front
      obtain ⟨⟨id,entry⟩,next,rfl⟩ := Option.map_eq_some_iff.mp (Option.some.inj front)
      obtain ⟨_,_,found,-⟩ := older
      exact declined (DeliveryQueue.hasPending_of_lookup ordered.indexed found) (.inr ⟨full,id,entry,next,ahead⟩)
  | frame payload bytes =>
    obtain ⟨-,goes,id,entry,output,front,rfl,rfl,shrinks,-⟩ := shape
    simp only [front]
    refine ⟨ordered.leased shrinks.indexed shrinks.entries _ rfl (by simp) _,?_⟩
    intro lease same
    obtain rfl := List.singleton_inj.mp (List.append_cancel_left same)
    have fresh := ordered.entries id entry (DeliveryQueue.front_lookup front)
    exact ⟨outputGoes_first ordered goes front,fresh.2⟩
  | gap terminalId range =>
    obtain ⟨-,empty,output,rfl,shrinks,-⟩ := shape
    have inOrder : ∀ stamp ∈ history.behind terminalId,
        stamp < history.queues.nextSeq ∧ history.InOrder terminalId stamp := by
      intro stamp listed
      have fresh := ordered.behind terminalId stamp listed
      exact ⟨fresh.1,by simp [empty],fresh.2⟩
    by_cases bounded : shared.gapBounds = true
    · simp only [bounded,if_true]
      refine ⟨⟨shrinks.indexed,ordered.sorted,ordered.controls,
        fun id entry found => ordered.entries id entry (shrinks.entries id entry found),ordered.behind,ordered.ready,
        ?_,ordered.streak⟩,silent⟩
      intro other otherRange behind pump
      obtain ⟨rfl,-,rfl⟩ := Pump.resolving.inj pump
      exact inOrder
    · simp only [bounded,Bool.false_eq_true,if_false]
      refine ⟨ordered.leased shrinks.indexed shrinks.entries _ rfl (by simp) false,?_⟩
      intro lease same
      obtain rfl := List.singleton_inj.mp (List.append_cancel_left same)
      exact fun stamp listed => (inOrder stamp listed).2

/-- A step of a connection keeps the invariant, and what it leases keeps the prelude. -/
theorem Ordered.next (ordered : history.Ordered) (shared : Shared T) (op : WriterOp T)
    (serves : history.ServesOldest shared op) :
    (history.next shared op).Ordered ∧ history.LeasesInOrder shared op := by
  -- only the pump leases
  have silent : ∀ {after : WriterHistory T}, after.log = history.log →
      ∀ lease, after.log = history.log ++ [lease] → history.KeepsPrelude lease := by
    intro after same lease leased
    rw [same] at leased
    simp at leased
  unfold LeasesInOrder
  cases op with
  | control wire =>
    simp only [WriterHistory.next]
    obtain ⟨-,exit,after,ran,unchanged⟩ | ⟨-,output,ran,rfl⟩ :=
      Queues.pushControl_spec shared wire none ordered.indexed
    · simp only [ran]
      obtain rfl | rfl := unchanged
      · exact ⟨ordered,silent rfl⟩
      · exact ⟨ordered.stopped,silent rfl⟩
    · simp only [ran]
      exact ⟨ordered.control _ _ rfl,silent rfl⟩
  | server msg wire =>
    refine ⟨ordered.server shared msg wire ?_,silent ?_⟩
    · rintro terminalId rfl
      exact serves.2 terminalId wire rfl
    · simp only [WriterHistory.next,server_log]
  | interest snapshot =>
    refine ⟨?_,silent rfl⟩
    simp only [WriterHistory.next,Queues.setTerminalInterest]
    split
    · exact ordered
    · split
      next interest _ =>
        exact ordered.narrow (DeliveryQueue.updatePriorities_indexed ordered.indexed _) (fun _ _ found => found) _ _ id
      · exact ordered
  | attachment terminalId background =>
    refine ⟨?_,silent rfl⟩
    simp only [WriterHistory.next,Queues.setAttachmentPriority]
    split
    · exact ordered
    · exact ordered.narrow (DeliveryQueue.updatePriorities_indexed ordered.indexed _) (fun _ _ found => found) _ _ id
  | discard terminalId =>
    obtain ⟨output,ran,shrinks,-⟩ := DeliveryQueue.discard_shrinks ordered.indexed terminalId
    simp only [WriterHistory.next,Queues.discardTerminalDelivery,ran,Option.bind_eq_bind,Option.bind_some,
      Option.pure_def]
    refine ⟨?_,silent rfl⟩
    have kept := ordered.narrow shrinks.indexed shrinks.entries
      (history.queues.interest.detach terminalId) history.queues.closed id
    refine ⟨kept.indexed,kept.sorted,kept.controls,kept.entries,?_,kept.ready,kept.resolving,kept.streak⟩
    intro other stamp listed
    by_cases same : other = terminalId
    · subst same
      simp at listed
    · simp only [Function.update_of_ne same] at listed
      exact kept.behind other stamp listed
  | stop => exact ⟨ordered.stopped,silent rfl⟩
  | take =>
    simp only [WriterHistory.next]
    split
    · exact ordered.take shared (serves.1 rfl)
    · exact ⟨ordered,silent rfl⟩
  | resolved bounds =>
    simp only [WriterHistory.next]
    split
    next terminalId range behind pump =>
      split
      · exact ⟨⟨ordered.indexed,ordered.sorted,ordered.controls,ordered.entries,ordered.behind,ordered.ready,by simp,
          ordered.streak⟩,silent rfl⟩
      · refine ⟨ordered.leaseGap shared terminalId range bounds behind,?_⟩
        intro lease same
        obtain rfl := List.singleton_inj.mp (List.append_cancel_left same)
        exact fun stamp listed => (ordered.resolving terminalId range behind pump stamp listed).2
    · exact ⟨ordered,silent rfl⟩
  | finish =>
    simp only [WriterHistory.next]
    split
    · exact ⟨⟨ordered.indexed.setReserved _,ordered.sorted,ordered.controls,ordered.entries,ordered.behind,
        ordered.ready,by simp,ordered.streak⟩,silent rfl⟩
    · exact ⟨ordered,silent rfl⟩
  | dropPump =>
    refine ⟨?_,silent rfl⟩
    have indexed := DeliveryQueue.indexed_new (T := T) (max shared.outputLimit 1)
      (metadataLimit (max shared.outputLimit 1))
    refine ⟨indexed,List.Pairwise.nil,?_,?_,ordered.behind,ordered.ready,by simp [WriterHistory.next],.inl rfl⟩
    · intro control listed
      cases listed
    · intro id entry found
      simp [WriterHistory.next,Queues.dropPump,DeliveryQueue.new] at found
  | reserve guard bytes =>
    simp only [WriterHistory.next,Queues.tryReserveDrainAdmission]
    split
    · exact ⟨ordered,silent rfl⟩
    · split
      · exact ⟨ordered,silent rfl⟩
      next reserved =>
        obtain ⟨-,-,rfl⟩ : _ ∧ _ ∧ _ := by simpa using reserved
        exact ⟨ordered.guarded _ _ _,silent rfl⟩
  | page guard terminalId range wire =>
    simp only [WriterHistory.next]
    split
    · exact ⟨ordered,silent rfl⟩
    next guard _ =>
      unfold WriterHistory.page
      split
      · have kept := ordered.server shared (.output terminalId range) wire (by simp)
        exact ⟨kept.guarded _ _ _,silent (server_log shared _ wire)⟩
      · exact ⟨ordered,silent rfl⟩
  | release guard =>
    simp only [WriterHistory.next]
    split
    · exact ⟨ordered,silent rfl⟩
    · exact ⟨ordered.guarded _ _ _,silent rfl⟩

theorem take_control (indexed : history.queues.output.Indexed) (idle : history.pump = .idle)
    (isOpen : history.queues.closed = false) {control : Control T} {rest : List (Control T)}
    (waiting : history.queues.controls = control :: rest) (declines : ¬history.queues.OutputGoes) :
    history.next shared .take = { history with
      queues := { history.queues with
        controls := rest, controlsSinceLastOutput := history.queues.controlsSinceLastOutput + 1 }
      pump := .sending 0 control.bytes
      log := history.log ++ [.control control.seq] } := by
  have stays : (queues : Queues T) → queues = history.queues → queues.takeNext = some (.control control,{ queues with
      controls := rest, controlsSinceLastOutput := queues.controlsSinceLastOutput + 1 }) := by
    rintro queues rfl
    unfold Queues.takeNext
    rw [if_neg (by simp [isOpen]),(DeliveryQueue.pop_front indexed).1]
    simp only [Option.bind_eq_bind,Option.bind_some,Option.pure_def,waiting]
    rw [if_neg]
    intro takes
    refine declines (.inr ?_)
    cases front : history.queues.output.front with
    | none => simp [Queues.outputMayLeapfrog,front] at takes
    | some found =>
      obtain ⟨id,entry⟩ := found
      simp [Queues.outputMayLeapfrog,front,waiting] at takes ⊢
      exact takes.2
  simp only [WriterHistory.next,idle,WriterHistory.take,stays _ rfl]

/-- Controls that are older than the frame next in service all go ahead of it,
    whatever else waits. -/
theorem run_controls (shared : Shared T) {id : Nat} (leased : List (Control T)) :
    ∀ {history : WriterHistory T} {rest : List (Control T)}, history.queues.output.Indexed → history.pump = .idle →
      history.queues.closed = false → history.queues.output.reserved = 0 → history.queues.inFlightOutputBytes = 0 →
      history.queues.output.front = some (id,entry) → history.queues.controls = leased ++ rest →
      (∀ control ∈ leased, control.seq ≤ entry.stamp) →
      let after := run (next shared) history (List.replicate leased.length [.take,.finish]).flatten
      after.pump = .idle ∧ after.queues.closed = false ∧ after.queues.output = history.queues.output ∧
        after.queues.controls = rest ∧ after.log = history.log ++ leased.map fun control => .control control.seq := by
  induction leased with
  | nil =>
    intro history rest _ idle isOpen _ _ _ waiting _
    simp [idle,isOpen,waiting]
  | cons control leased ih =>
    intro history rest indexed idle isOpen unreserved landed front waiting newer
    have declines : ¬history.queues.OutputGoes := by
      rintro (empty | ⟨-,other,found,same,ahead⟩)
      · simp [waiting] at empty
      · obtain ⟨rfl,rfl⟩ := Prod.mk.inj (Option.some.inj (front.symm.trans same))
        have := ahead control (by simp [waiting])
        have := newer control (List.mem_cons_self ..)
        omega
    have taken := take_control shared indexed idle isOpen waiting declines
    have same : history.queues.output.setReservedBytes 0 = history.queues.output := by
      unfold DeliveryQueue.setReservedBytes
      rw [← unreserved]
    simp only [List.length_cons,List.replicate_succ,List.flatten_cons,run_append,run_cons,run_nil,taken]
    simp only [next,Queues.finishFrame,landed,Nat.sub_self,same]
    obtain ⟨pump,isOpen,output,remaining,log⟩ := @ih { history with
        queues := { history.queues with
          controls := leased ++ rest
          controlsSinceLastOutput := history.queues.controlsSinceLastOutput + 1
          controlBytes := history.queues.controlBytes - control.bytes
          inFlightOutputBytes := 0
          completedSends := history.queues.completedSends + 1 }
        pump := .idle
        log := history.log ++ [.control control.seq]
        pageInFlight := false } rest indexed rfl isOpen unreserved rfl front rfl
      (fun other listed => newer other (List.mem_cons_of_mem _ listed))
    refine ⟨pump,isOpen,output,remaining,log.trans ?_⟩
    simp

/-- **The prelude comes first.** In every run in which older output is next in service
    whenever it waits on a streak at its limit, and in which no `attach.ready` comes
    while a gap of its terminal is resolved, no output is leased before a control that
    was admitted before it, none is leased from before its terminal's last
    `attach.ready`, and no more controls than a streak are leased between two outputs
    while older output waits. -/
theorem leasesInOrder_run (shared : Shared T) (ops : List (WriterOp T))
    (serves : Along (next shared) (ServesOldest shared) (new shared) ops) :
    Along (next shared) (LeasesInOrder shared) (new shared) ops :=
  invariant_along (fun history op (ordered : Ordered history) serves => (ordered.next shared op serves).1)
    (fun history op (ordered : Ordered history) serves => (ordered.next shared op serves).2)
    (ordered_new shared) serves

def idleBudget : Shared Unit := ⟨1000,1000000,false,fun _ => ⟨(),0⟩⟩

/-- An `attach.ready`, the output behind it and the lease of the first of them. -/
theorem leasesInOrder_attach : Along (next idleBudget) (LeasesInOrder idleBudget) (new idleBudget)
    [.server (.attachReady "a") ⟨(),10⟩,.server (.output "a" ⟨"s",none,1,1⟩) ⟨(),10⟩,.take] := by
  refine leasesInOrder_run _ _ ⟨⟨by simp,fun _ _ _ _ _ _ pump => ?_⟩,⟨by simp,by simp⟩,⟨fun _ full => ?_,by simp⟩,trivial⟩
  · cases pump
  · exact absurd full (by decide)

/-- A frame of the terminal `b`, nine controls and then a frame of the terminal `a`,
    which comes first in service. -/
def newerInService : List (WriterOp Unit) :=
  .server (.output "b" ⟨"s",none,1,1⟩) ⟨(),10⟩ :: List.replicate 9 (.control ⟨(),10⟩) ++
    [.server (.output "a" ⟨"s",none,1,1⟩) ⟨(),10⟩]

theorem newerInService_ordered : (run (next idleBudget) (new idleBudget) newerInService).Ordered := by
  have kept : ∀ (history : WriterHistory Unit) op, history.Ordered → history.ServesOldest idleBudget op →
      (history.next idleBudget op).Ordered := fun _ op ordered serves => (ordered.next idleBudget op serves).1
  refine invariant_run kept (ordered_new idleBudget) ?_
  simp [newerInService,List.replicate,ServesOldest]

theorem newerInService_front :
    ∃ entry, (run (next idleBudget) (new idleBudget) newerInService).queues.output.front = some (1,entry) ∧
      entry.stamp = 10 := by
  have selected : (run (next idleBudget) (new idleBudget) newerInService).queues.output.selectLane = some "a" := by
    refine DeliveryQueue.selectLane_of_least "a" ⟨.visible,{1},[],0⟩ rfl (by decide) ?_
    intro other lane found different
    have listed : Sigma.mk other lane ∈ ([⟨"a",⟨.visible,{1},[],0⟩⟩,⟨"b",⟨.visible,{0},[],0⟩⟩] :
        List (Sigma fun _ : String => Lane)) := AList.mem_lookup_iff.mp found
    obtain same | last := List.mem_cons.mp listed
    · exact absurd (congrArg Sigma.fst same) different
    · obtain ⟨rfl,same⟩ := Sigma.mk.inj (List.mem_singleton.mp last)
      obtain rfl := eq_of_heq same
      show toLex (0,toLex (1,toLex (0,"a"))) < toLex (0,toLex (1,toLex (0,"b")))
      simp only [Prod.Lex.toLex_lt_toLex,lt_self_iff_false,true_and,false_or]
      decide
  refine ⟨⟨"a",(),10,some ⟨"s",none,1,1⟩,10⟩,?_,rfl⟩
  unfold DeliveryQueue.front
  rw [selected]
  rfl

theorem newerInService_state :
    let start := run (next idleBudget) (new idleBudget) newerInService
    start.queues.controls = (List.range' 1 8).map (fun seq => ⟨(),138,seq⟩) ++ [⟨(),138,9⟩] ∧
      (∃ entry, start.queues.output.entries.lookup 0 = some entry ∧ entry.stamp = 0) ∧ start.pump = .idle ∧
      start.queues.closed = false ∧ start.queues.output.reserved = 0 ∧ start.queues.inFlightOutputBytes = 0 ∧
      start.log = [] :=
  ⟨by decide,⟨_,rfl,rfl⟩,rfl,rfl,rfl,rfl,rfl⟩

/-- All nine controls are leased while the frame of `b`, which is older than each of
    them, waits behind the newer frame of `a`. -/
theorem newerFront_starvesOlder :
    ¬∀ ops : List (WriterOp Unit), Along (next idleBudget) (LeasesInOrder idleBudget) (new idleBudget) ops := by
  intro inOrder
  obtain ⟨entry,front,stamp⟩ := newerInService_front
  obtain ⟨waiting,⟨waits,found,first⟩,idle,isOpen,unreserved,landed,log⟩ := newerInService_state
  have indexed := newerInService_ordered.indexed
  have along := ((along_append _ _ _ newerInService ((List.replicate 8 [.take,.finish]).flatten ++ [.take])).mp
    (inOrder _)).2
  generalize run (next idleBudget) (new idleBudget) newerInService = start at *
  have newer : ∀ control ∈ (List.range' 1 8).map fun seq => (⟨(),138,seq⟩ : Control Unit), control.seq ≤ entry.stamp := by
    intro control listed
    obtain ⟨seq,within_,rfl⟩ := List.mem_map.mp listed
    have := (List.mem_range'_1.mp within_).2
    simp only [stamp]
    omega
  obtain ⟨idle,isOpen,output,remaining,leased⟩ :=
    run_controls idleBudget _ indexed idle isOpen unreserved landed front waiting newer
  have last := ((along_append _ _ _ _ _).mp along).2.1
  rw [List.length_map,List.length_range'] at idle isOpen output remaining leased
  generalize run (next idleBudget) start (List.replicate 8 [.take,.finish]).flatten = full at *
  have declines : ¬full.queues.OutputGoes := by
    rintro (empty | ⟨-,other,found,same,ahead⟩)
    · simp [remaining] at empty
    · rw [output,front] at same
      obtain ⟨rfl,rfl⟩ := Prod.mk.inj (Option.some.inj same)
      have := ahead ⟨(),138,9⟩ (by simp [remaining])
      simp only [stamp] at this
      omega
  have kept := last (.control 9) (by rw [take_control idleBudget (output ▸ indexed) idle isOpen remaining declines])
  have exceeded := kept ⟨0,waits,by rw [output,found],by simp [remaining,first]⟩
  rw [leased,log] at exceeded
  exact absurd exceeded (by decide)

end WriterHistory
end Freshell.Connection
