import Freshell.Connection.WriterRuns

/-!
The admission of paced drains. A guard reserves the bytes of the pages that are
pushed under it, so that what all drains have queued, have in flight and may still
push stays below the watermark, or below one guard's own bytes; live output has
the rest of the budget.
-/
namespace Freshell.Connection
open Freshell.Library.Tables Freshell.Library.Runs

/-! ### The guards -/

def reservedBytes (guards : List Guard) : Nat := (guards.map Guard.bytes).sum

def unpushedBytes (guards : List Guard) : Nat := (guards.map fun guard => guard.bytes - guard.pushed).sum

theorem unpushed_le_reserved (guards : List Guard) : unpushedBytes guards ≤ reservedBytes guards := by
  unfold unpushedBytes reservedBytes
  induction guards with
  | nil => exact Nat.le_refl _
  | cons guard rest ih =>
    simp only [List.map_cons,List.sum_cons]
    omega

variable {guards : List Guard} {guard : Guard}

theorem bytes_le_reserved (listed : guard ∈ guards) : guard.bytes ≤ reservedBytes guards := by
  obtain ⟨before,rest,rfl⟩ := List.append_of_mem listed
  simp only [reservedBytes,List.map_append,List.map_cons,List.sum_append,List.sum_cons]
  omega

variable {id : Nat}

theorem guard_split (distinct : (guards.map Guard.id).Nodup)
    (found : guards.find? (fun other => other.id == id) = some guard) :
    guard.id = id ∧ ∃ before rest, guards = before ++ guard :: rest ∧ ∀ other ∈ before ++ rest, other.id ≠ id := by
  obtain ⟨own,before,rest,rfl,apart⟩ := List.find?_eq_some_iff_append.mp found
  obtain rfl : guard.id = id := by simpa using own
  refine ⟨rfl,before,rest,rfl,fun other listed => ?_⟩
  obtain earlier | later := List.mem_append.mp listed
  · simpa using apart other earlier
  · rw [List.map_append,List.map_cons,List.nodup_append] at distinct
    have unlisted := (List.nodup_cons.mp distinct.2.1).1
    exact fun same => unlisted (same ▸ List.mem_map_of_mem later)

def countPage (guards : List Guard) (id bytes : Nat) : List Guard :=
  guards.map fun other => if other.id = id then { other with pushed := other.pushed + bytes } else other

theorem countPage_ids (guards : List Guard) (id bytes : Nat) :
    (countPage guards id bytes).map Guard.id = guards.map Guard.id := by
  simp only [countPage,List.map_map]
  refine List.map_congr_left fun other _ => ?_
  simp only [Function.comp_apply]
  split <;> rfl

theorem countPage_bytes (guards : List Guard) (id bytes : Nat) :
    (countPage guards id bytes).map Guard.bytes = guards.map Guard.bytes := by
  simp only [countPage,List.map_map]
  refine List.map_congr_left fun other _ => ?_
  simp only [Function.comp_apply]
  split <;> rfl

theorem map_others {Value : Type} {others : List Guard} (apart : ∀ other ∈ others, other.id ≠ id)
    (change : Guard → Guard) (read : Guard → Value) :
    (others.map fun other => if other.id = id then change other else other).map read = others.map read := by
  rw [List.map_map]
  refine List.map_congr_left fun other listed => ?_
  simp only [Function.comp_apply,if_neg (apart other listed)]

theorem countPage_unpushed {bytes : Nat} (distinct : (guards.map Guard.id).Nodup)
    (found : guards.find? (fun other => other.id == id) = some guard) (fits : bytes ≤ guard.bytes - guard.pushed) :
    unpushedBytes (countPage guards guard.id bytes) + bytes = unpushedBytes guards := by
  obtain ⟨rfl,before,rest,rfl,apart⟩ := guard_split distinct found
  have earlier : ∀ other ∈ before, other.id ≠ guard.id := fun other listed => apart other (List.mem_append_left _ listed)
  have later : ∀ other ∈ rest, other.id ≠ guard.id := fun other listed => apart other (List.mem_append_right _ listed)
  unfold unpushedBytes countPage
  rw [List.map_append,List.map_append,List.map_append,List.map_cons,List.map_cons,List.map_cons,if_pos rfl,
    map_others earlier _ _,map_others later _ _]
  simp only [List.sum_append,List.sum_cons]
  omega

theorem release_reserved (distinct : (guards.map Guard.id).Nodup)
    (found : guards.find? (fun other => other.id == id) = some guard) :
    reservedBytes (guards.filter fun other => other.id != guard.id) + guard.bytes = reservedBytes guards := by
  obtain ⟨rfl,before,rest,rfl,apart⟩ := guard_split distinct found
  have keeps : ∀ others : List Guard, (∀ other ∈ others, other.id ≠ guard.id) →
      others.filter (fun other => other.id != guard.id) = others := fun others apart =>
    List.filter_eq_self.mpr fun other listed => by simpa using apart other listed
  rw [List.filter_append,List.filter_cons_of_neg (by simp),
    keeps before fun other listed => apart other (List.mem_append_left _ listed),
    keeps rest fun other listed => apart other (List.mem_append_right _ listed)]
  simp only [reservedBytes,List.map_append,List.map_cons,List.sum_append,List.sum_cons]
  omega

namespace WriterHistory
variable {T : Type}

/-! ### Pages and live output -/

def pageSize (pages : List Nat) (entry : Entry T) : Nat := if entry.stamp ∈ pages then entry.bytes else 0
def liveSize (pages : List Nat) (entry : Entry T) : Nat := if entry.stamp ∈ pages then 0 else entry.bytes

def pageBytes (history : WriterHistory T) : Nat :=
  total (pageSize history.pages) history.queues.output.entries +
    if history.pageInFlight then history.queues.inFlightOutputBytes else 0

def liveBytes (history : WriterHistory T) : Nat :=
  total (liveSize history.pages) history.queues.output.entries +
    if history.pageInFlight then 0 else history.queues.inFlightOutputBytes

theorem backlog_split {history : WriterHistory T} (indexed : history.queues.output.Indexed) :
    history.queues.output.pendingBytes + history.queues.inFlightOutputBytes = history.pageBytes + history.liveBytes := by
  have split : total Entry.bytes history.queues.output.entries =
      total (pageSize history.pages) history.queues.output.entries +
        total (liveSize history.pages) history.queues.output.entries := by
    rw [← total_add]
    refine total_congr fun id entry _ => ?_
    unfold pageSize liveSize
    split <;> omega
  have := indexed.bytes
  unfold pageBytes liveBytes DeliveryQueue.pendingBytes
  split <;> omega

/-! ### What is owed to the drains -/

/-- A page fits: the connection is open and has room for one more frame, and the
    page fits beside the backlog. It does so when live output leaves the guard's own
    bytes, or the watermark, free. -/
structure PageFits (shared : Shared T) (history : WriterHistory T) (guard : Guard) (wire : Wire T) : Prop where
  isOpen : history.queues.closed = false
  metadata : history.queues.output.entries.entries.length + history.queues.output.gapCount <
    history.queues.output.metadataLimit
  ids : history.queues.output.nextId < u64Max
  room : history.queues.output.pendingBytes + history.queues.inFlightOutputBytes + wire.bytes ≤ max shared.outputLimit 1 ∨
    0 < wire.bytes ∧ history.liveBytes + max (Queues.backlogWatermark shared) guard.bytes ≤ max shared.outputLimit 1

/-- No drain asks for more than the budget, and each page fits. -/
def DrainsFit (shared : Shared T) (history : WriterHistory T) : WriterOp T → Prop
  | .reserve _ bytes => bytes ≤ max shared.outputLimit 1 ∧ bytes < usizeMax
  | .page id _ _ wire => ∀ guard, history.guards.find? (fun other => other.id == id) = some guard →
      wire.bytes ≤ guard.bytes - guard.pushed → history.PageFits shared guard wire
  | _ => True

structure AdmitsDrains (shared : Shared T) (history : WriterHistory T) (op : WriterOp T) : Prop where
  /-- At an admitted drain the backlog and all reservations are within the budget. -/
  granted : ∀ id bytes, op = .reserve id bytes → (history.next shared op).guards ≠ history.guards →
    (history.next shared op).queues.output.pendingBytes + (history.next shared op).queues.inFlightOutputBytes +
      (history.next shared op).queues.drainReserved ≤ max shared.outputLimit 1
  /-- A page within its guard's bytes is queued, and every queued frame stays. -/
  kept : ∀ id terminalId range wire, op = .page id terminalId range wire → ∀ guard,
    history.guards.find? (fun other => other.id == id) = some guard → wire.bytes ≤ guard.bytes - guard.pushed →
      (history.next shared op).queues.closed = false ∧
      (history.next shared op).queues.drainReserved = history.queues.drainReserved ∧
      (∀ key entry, history.queues.output.entries.lookup key = some entry →
        (history.next shared op).queues.output.entries.lookup key = some entry) ∧
      ∃ key entry, (history.next shared op).queues.output.entries.lookup key = some entry ∧
        entry.stamp = history.queues.nextSeq ∧ entry.terminalId = terminalId ∧ entry.payload = wire.frame
  /-- The end of a guard gives back what it reserved. -/
  released : ∀ id, op = .release id → ∀ guard, history.guards.find? (fun other => other.id == id) = some guard →
    history.pump ≠ .gone → (history.next shared op).queues.drainReserved + guard.bytes = history.queues.drainReserved
  returned : (history.next shared op).guards = [] → (history.next shared op).queues.drainReserved = 0

/-! ### The invariant -/

def Pump.outputBytes : Pump → Nat
  | .sending outputBytes _ => outputBytes
  | _ => 0

structure Admitted (shared : Shared T) (history : WriterHistory T) : Prop where
  indexed : history.queues.output.Indexed
  byteLimit : history.queues.output.byteLimit = max shared.outputLimit 1
  reserved : history.queues.output.reserved = history.queues.inFlightOutputBytes
  sending : history.queues.inFlightOutputBytes = Pump.outputBytes history.pump
  stamps : ∀ id entry, history.queues.output.entries.lookup id = some entry → entry.stamp < history.queues.nextSeq
  pages : ∀ stamp ∈ history.pages, stamp < history.queues.nextSeq
  distinct : (history.guards.map Guard.id).Nodup
  accounted : (history.pump = .gone ∧ history.queues.closed = true ∧ history.queues.drainReserved = 0) ∨
    history.queues.drainReserved = reservedBytes history.guards
  room : ∀ guard ∈ history.guards, 0 < guard.bytes →
    history.pageBytes + unpushedBytes history.guards ≤ max (Queues.backlogWatermark shared) guard.bytes

variable {history : WriterHistory T}

theorem admitted_new (shared : Shared T) : (new shared : WriterHistory T).Admitted shared where
  indexed := DeliveryQueue.indexed_new _ _
  byteLimit := rfl
  reserved := rfl
  sending := rfl
  stamps _ _ found := by simp [new,Queues.new,DeliveryQueue.new] at found
  pages _ listed := by cases listed
  distinct := List.Pairwise.nil
  accounted := .inr rfl
  room _ listed := by cases listed

/-- A call that changes what is queued, with at most one new frame, and leaves the
    pump and the drains alone. -/
structure Requeues (history after : WriterHistory T) : Prop where
  indexed : after.queues.output.Indexed
  byteLimit : after.queues.output.byteLimit = history.queues.output.byteLimit
  reserved : after.queues.output.reserved = history.queues.output.reserved
  inFlight : after.queues.inFlightOutputBytes = history.queues.inFlightOutputBytes
  drainReserved : after.queues.drainReserved = history.queues.drainReserved
  closed : history.queues.closed = true → after.queues.closed = true
  nextSeq : history.queues.nextSeq ≤ after.queues.nextSeq
  entries : ∀ id entry, after.queues.output.entries.lookup id = some entry →
    history.queues.output.entries.lookup id = some entry ∨
      entry.stamp = history.queues.nextSeq ∧ history.queues.nextSeq < after.queues.nextSeq
  pump : after.pump = history.pump
  guards : after.guards = history.guards
  pages : after.pages = history.pages
  pageInFlight : after.pageInFlight = history.pageInFlight

variable {shared : Shared T} {after : WriterHistory T}

theorem Requeues.pageBytes_le (requeues : history.Requeues after) (admitted : history.Admitted shared) :
    after.pageBytes ≤ history.pageBytes := by
  unfold WriterHistory.pageBytes
  rw [requeues.pages,requeues.pageInFlight,requeues.inFlight]
  refine Nat.add_le_add_right (total_le_of_lookup _ fun id entry found => ?_) _
  refine (requeues.entries id entry found).imp_right fun new => ?_
  refine if_neg fun listed => ?_
  have := admitted.pages entry.stamp listed
  omega

theorem Admitted.requeued (admitted : history.Admitted shared) (requeues : history.Requeues after) :
    after.Admitted shared where
  indexed := requeues.indexed
  byteLimit := requeues.byteLimit.trans admitted.byteLimit
  reserved := by rw [requeues.reserved,requeues.inFlight,admitted.reserved]
  sending := by rw [requeues.inFlight,requeues.pump,admitted.sending]
  stamps id entry found := by
    obtain queued | ⟨new,later⟩ := requeues.entries id entry found
    · exact Nat.lt_of_lt_of_le (admitted.stamps id entry queued) requeues.nextSeq
    · rwa [new]
  pages stamp listed := by
    rw [requeues.pages] at listed
    exact Nat.lt_of_lt_of_le (admitted.pages stamp listed) requeues.nextSeq
  distinct := by
    rw [requeues.guards]
    exact admitted.distinct
  accounted := by
    rw [requeues.pump,requeues.drainReserved,requeues.guards]
    exact admitted.accounted.imp_left fun ⟨gone,closed,unreserved⟩ => ⟨gone,requeues.closed closed,unreserved⟩
  room guard listed positive := by
    rw [requeues.guards] at listed ⊢
    have := admitted.room guard listed positive
    have := requeues.pageBytes_le admitted
    omega

variable {output : DeliveryQueue T}

theorem requeues_of_shrinks (shrinks : history.queues.output.Shrinks output) (interest : InterestState) (closed : Bool)
    (closes : history.queues.closed = true → closed = true) (ready : String → Option Nat) (behind : String → List Nat) :
    history.Requeues { history with
      queues := { history.queues with output := output, interest := interest, closed := closed }
      ready := ready, behind := behind } where
  indexed := shrinks.indexed
  byteLimit := shrinks.byteLimit
  reserved := shrinks.reserved
  inFlight := rfl
  drainReserved := rfl
  closed := closes
  nextSeq := Nat.le_refl _
  entries id entry found := .inl (shrinks.entries id entry found)
  pump := rfl
  guards := rfl
  pages := rfl
  pageInFlight := rfl

theorem requeues_control (shrinks : history.queues.output.Shrinks output) (controls : List (Control T))
    (controlBytes : Nat) (ready : String → Option Nat) (behind : String → List Nat) : history.Requeues { history with
      queues := { history.queues with
        output := output
        controlBytes := controlBytes
        nextSeq := history.queues.nextSeq + 1
        controls := controls }
      ready := ready, behind := behind } where
  indexed := shrinks.indexed
  byteLimit := shrinks.byteLimit
  reserved := shrinks.reserved
  inFlight := rfl
  drainReserved := rfl
  closed := id
  nextSeq := Nat.le_succ _
  entries id entry found := .inl (shrinks.entries id entry found)
  pump := rfl
  guards := rfl
  pages := rfl
  pageInFlight := rfl

theorem requeues_refl (indexed : history.queues.output.Indexed) : history.Requeues history :=
  requeues_of_shrinks (.refl indexed) history.queues.interest history.queues.closed id history.ready history.behind

theorem requeues_stop (indexed : history.queues.output.Indexed) :
    history.Requeues { history with queues := history.queues.stop } :=
  requeues_of_shrinks (.refl indexed) history.queues.interest true (fun _ => rfl) history.ready history.behind

theorem requeues_pushOutput (indexed : history.queues.output.Indexed) (terminalId : String) (wire : Wire T)
    (bytes : Nat) (range : Option Range) :
    ∃ taken after, history.queues.pushOutput terminalId wire bytes range = some (taken,after) ∧
      ∀ interest behind, history.Requeues { history with
        queues := { after with interest := interest }, behind := behind } := by
  obtain ⟨result,output,ran,pushes⟩ := Queues.pushOutput_spec terminalId wire bytes range indexed
  obtain ⟨result',output',ran',kept,entries,byteLimit,-,reserved,-⟩ := DeliveryQueue.push_shape indexed
    (history.queues.interest.priority terminalId) ⟨terminalId,wire.frame,bytes,range,history.queues.nextSeq⟩
  obtain ⟨rfl,rfl⟩ := Prod.mk.inj (Option.some.inj (ran.symm.trans ran'))
  have requeues (closed : Bool) (closes : history.queues.closed = true → closed = true) (interest : InterestState)
      (behind : String → List Nat) : history.Requeues { history with
        queues := { history.queues with
          output := output.takeEvictions.2, nextSeq := history.queues.nextSeq + 1, closed := closed, interest := interest }
        behind := behind } := by
    refine ⟨kept.taken,byteLimit,reserved,rfl,rfl,closes,Nat.le_succ _,fun id entry found => ?_,rfl,rfl,rfl,rfl⟩
    refine (entries id entry found).imp_right fun new => ?_
    rw [new.2]
    exact ⟨rfl,Nat.lt_succ_self _⟩
  cases result with
  | ok => exact ⟨_,_,pushes,requeues history.queues.closed id⟩
  | error => exact ⟨_,_,pushes,requeues true fun _ => rfl⟩

theorem requeues_server (indexed : history.queues.output.Indexed) (shared : Shared T) (msg : ServerMessage)
    (wire : Wire T) : history.Requeues (history.server shared msg wire) := by
  unfold WriterHistory.server
  cases msg with
  | attachReady terminalId =>
    obtain ⟨-,exit,after,ran,rfl | rfl⟩ | ⟨fits,output,ran,discarded⟩ :=
      Queues.pushControl_spec shared wire (some terminalId) indexed
    · simpa only [Queues.pushServer,ran,Option.map_some] using requeues_refl indexed
    · simpa only [Queues.pushServer,ran,Option.map_some] using requeues_stop indexed
    · obtain ⟨after,discards,shrinks,-⟩ := DeliveryQueue.discard_shrinks indexed terminalId
      obtain rfl := Option.some.inj (discarded.symm.trans discards)
      simp only [Queues.pushServer,ran,Option.map_some]
      exact requeues_control shrinks _ _ _ _
  | other =>
    obtain ⟨-,exit,after,ran,rfl | rfl⟩ | ⟨-,output,ran,rfl⟩ := Queues.pushControl_spec shared wire none indexed
    · simpa only [Queues.pushServer,ran,Option.map_some] using requeues_refl indexed
    · simpa only [Queues.pushServer,ran,Option.map_some] using requeues_stop indexed
    · simp only [Queues.pushServer,ran,Option.map_some]
      exact requeues_control (.refl indexed) _ _ _ _
  | output terminalId range =>
    by_cases closed : history.queues.closed = true
    · simpa only [Queues.pushServer,closed,if_true] using requeues_refl indexed
    · obtain ⟨taken,after,ran,requeues⟩ := requeues_pushOutput indexed terminalId wire wire.bytes (some range)
      simp only [Queues.pushServer,closed,ran,Bool.false_eq_true,if_false]
      cases taken with
      | false => exact requeues after.interest history.behind
      | true => exact requeues after.interest _
  | exit terminalId =>
    by_cases closed : history.queues.closed = true
    · simpa only [Queues.pushServer,closed,if_true] using requeues_refl indexed
    · obtain ⟨taken,after,ran,requeues⟩ := requeues_pushOutput indexed terminalId wire 0 none
      simp only [Queues.pushServer,closed,ran,Bool.false_eq_true,if_false,Option.map_some]
      cases taken with
      | false => exact requeues after.interest history.behind
      | true => exact requeues (after.interest.detach terminalId) _
  | outputGap terminalId =>
    by_cases closed : history.queues.closed = true
    · simpa only [Queues.pushServer,closed,if_true] using requeues_refl indexed
    · obtain ⟨taken,after,ran,requeues⟩ := requeues_pushOutput indexed terminalId wire 0 none
      simp only [Queues.pushServer,closed,ran,Bool.false_eq_true,if_false]
      cases taken with
      | false => exact requeues after.interest history.behind
      | true => exact requeues after.interest _

/-! ### The pump -/

theorem Admitted.leased (admitted : history.Admitted shared) (shrinks : history.queues.output.Shrinks output)
    (bytes : Nat) (log : List Lease) (pageInFlight : Bool)
    (pages : total (pageSize history.pages) output.entries + (if pageInFlight then bytes else 0) ≤ history.pageBytes)
    (present : history.pump ≠ .gone) : ({ history with
        queues := ({ history.queues with output := output } : Queues T).leaseOutput bytes
        pump := .sending bytes 0, log := log, pageInFlight := pageInFlight } : WriterHistory T).Admitted shared where
  indexed := shrinks.indexed.setReserved bytes
  byteLimit := shrinks.byteLimit.trans admitted.byteLimit
  reserved := rfl
  sending := rfl
  stamps id entry found := admitted.stamps id entry (shrinks.entries id entry found)
  pages := admitted.pages
  distinct := admitted.distinct
  accounted := .inr (admitted.accounted.resolve_left fun gone => present gone.1)
  room guard listed positive := Nat.le_trans (Nat.add_le_add_right pages _) (admitted.room guard listed positive)

theorem Admitted.leaseGap (admitted : history.Admitted shared) (terminalId : String) (range : Range)
    (bounds : Option ReplayBounds) (behind : List Nat) (present : history.pump ≠ .gone) :
    (history.leaseGap shared terminalId range bounds behind).Admitted shared :=
  admitted.leased (.refl admitted.indexed) _ _ false (Nat.le_add_right _ _) present

theorem Admitted.take (admitted : history.Admitted shared) (idle : history.pump = .idle) :
    (history.take shared).Admitted shared := by
  have landed : history.queues.inFlightOutputBytes = 0 := by rw [admitted.sending,idle]; rfl
  have present : history.pump ≠ .gone := by simp [idle]
  have accounted := admitted.accounted.resolve_left fun gone => present gone.1
  obtain ⟨taken,after,ran,shape⟩ := Queues.takeNext_spec history.queues admitted.indexed
  unfold WriterHistory.take
  simp only [ran]
  cases taken with
  | idle =>
    subst shape
    exact admitted
  | control control =>
    obtain ⟨-,-,rest,-,rfl⟩ := shape
    exact ⟨admitted.indexed,admitted.byteLimit,admitted.reserved,landed,admitted.stamps,admitted.pages,
      admitted.distinct,.inr accounted,admitted.room⟩
  | frame payload bytes =>
    obtain ⟨-,-,id,entry,output,front,rfl,rfl,shrinks,entries⟩ := shape
    simp only [front]
    refine admitted.leased shrinks _ _ _ ?_ present
    -- the frame's bytes go from the queue into flight
    have whole := total_erase (pageSize history.pages) (DeliveryQueue.front_lookup front)
    rw [entries]
    unfold pageBytes
    unfold pageSize at whole ⊢
    by_cases isPage : entry.stamp ∈ history.pages
    · simp only [isPage,if_true,List.contains_iff_mem] at whole ⊢
      omega
    · simp only [isPage,if_false,List.contains_iff_mem] at whole ⊢
      omega
  | gap terminalId range =>
    obtain ⟨-,-,output,rfl,shrinks,entries⟩ := shape
    by_cases bounded : shared.gapBounds = true
    · simp only [bounded,if_true]
      refine ⟨shrinks.indexed,shrinks.byteLimit.trans admitted.byteLimit,shrinks.reserved.trans admitted.reserved,
        landed,fun id entry found => admitted.stamps id entry (shrinks.entries id entry found),admitted.pages,
        admitted.distinct,.inr accounted,fun guard listed positive => ?_⟩
      have room := admitted.room guard listed positive
      simpa only [pageBytes,entries] using room
    · simp only [bounded,Bool.false_eq_true,if_false]
      refine admitted.leased shrinks _ _ false ?_ present
      rw [entries]
      exact Nat.le_add_right _ _

theorem Admitted.finish (admitted : history.Admitted shared) {outputBytes controlBytes : Nat}
    (sending : history.pump = .sending outputBytes controlBytes) : ({ history with
        queues := history.queues.finishFrame outputBytes controlBytes
        pump := .idle, pageInFlight := false } : WriterHistory T).Admitted shared where
  indexed := admitted.indexed.setReserved _
  byteLimit := admitted.byteLimit
  reserved := rfl
  sending := by
    have landed := admitted.sending
    rw [sending] at landed
    exact Nat.sub_eq_zero_of_le (Nat.le_of_eq landed)
  stamps := admitted.stamps
  pages := admitted.pages
  distinct := admitted.distinct
  accounted := .inr (admitted.accounted.resolve_left fun gone => by simp [sending] at gone)
  room guard listed positive := by
    refine Nat.le_trans (Nat.add_le_add_right ?_ _) (admitted.room guard listed positive)
    exact Nat.le_add_right _ _

theorem Admitted.dropPump (admitted : history.Admitted shared) : (history.next shared .dropPump).Admitted shared where
  indexed := DeliveryQueue.indexed_new _ _
  byteLimit := by simp [WriterHistory.next,Queues.dropPump,DeliveryQueue.new]
  reserved := rfl
  sending := rfl
  stamps id entry found := by simp [WriterHistory.next,Queues.dropPump,DeliveryQueue.new] at found
  pages := admitted.pages
  distinct := admitted.distinct
  accounted := .inl ⟨rfl,rfl,rfl⟩
  room guard listed positive := by
    refine Nat.le_trans (Nat.add_le_add_right ?_ _) (admitted.room guard listed positive)
    exact Nat.zero_le _

/-! ### Reservations and pages -/

/-- An admission is granted when it fits beside the backlog and the other
    admissions, exactly counted. -/
theorem reserve_granted (limited : shared.outputLimit ≤ usizeMax) {bytes : Nat} {after : Queues T}
    (small : bytes < usizeMax) (granted : history.queues.tryReserveDrainAdmission shared bytes = some after) :
    history.queues.closed = false ∧
      history.queues.output.pendingBytes + history.queues.inFlightOutputBytes + history.queues.drainReserved + bytes ≤
        max (Queues.backlogWatermark shared) bytes ∧
      after = { history.queues with drainReserved := history.queues.drainReserved + bytes } := by
  have watermark : Queues.backlogWatermark shared < usizeMax := by
    unfold Queues.backlogWatermark
    unfold usizeMax at limited ⊢
    omega
  unfold Queues.tryReserveDrainAdmission at granted
  split at granted
  · cases granted
  · simp only at granted
    split at granted
    · cases granted
    next isOpen fits =>
      unfold Queues.backlog saturatingAdd at fits
      have exactly_ : history.queues.output.pendingBytes + history.queues.inFlightOutputBytes +
          history.queues.drainReserved + bytes ≤ max (Queues.backlogWatermark shared) bytes := by omega
      refine ⟨by simpa using isOpen,exactly_,?_⟩
      rw [← Option.some.inj granted]
      unfold saturatingAdd
      congr 1
      omega

theorem Admitted.reserve (admitted : history.Admitted shared) {id bytes : Nat}
    (unused : (history.guards.any fun other => other.id == id) = false) (isOpen : history.queues.closed = false)
    (exactly_ : history.queues.output.pendingBytes + history.queues.inFlightOutputBytes + history.queues.drainReserved +
      bytes ≤ max (Queues.backlogWatermark shared) bytes) : ({ history with
        queues := { history.queues with drainReserved := history.queues.drainReserved + bytes }
        guards := history.guards ++ [⟨id,bytes,0⟩] } : WriterHistory T).Admitted shared := by
  have accounted : history.queues.drainReserved = reservedBytes history.guards :=
    admitted.accounted.resolve_left fun gone => by simp [isOpen] at gone
  have backlog := backlog_split admitted.indexed
  have unpushed := unpushed_le_reserved history.guards
  refine ⟨admitted.indexed,admitted.byteLimit,admitted.reserved,admitted.sending,admitted.stamps,admitted.pages,?_,
    .inr ?_,?_⟩
  · rw [List.map_append,List.nodup_append]
    refine ⟨admitted.distinct,List.nodup_singleton _,?_⟩
    intro other listed new isNew same
    obtain ⟨held,isHeld,own⟩ := List.mem_map.mp listed
    have apart := List.any_eq_false.mp unused held isHeld
    rw [own,same,List.mem_singleton.mp isNew] at apart
    simp at apart
  · simp only [reservedBytes,List.map_append,List.sum_append,List.map_cons,List.map_nil,List.sum_cons,List.sum_nil]
    rw [accounted]
    rfl
  · intro guard listed positive
    show history.pageBytes + unpushedBytes (history.guards ++ [⟨id,bytes,0⟩]) ≤ _
    have whole : unpushedBytes (history.guards ++ [⟨id,bytes,0⟩]) = unpushedBytes history.guards + bytes := by
      simp [unpushedBytes]
    rw [whole]
    obtain old | new := List.mem_append.mp listed
    · -- a grant beyond the watermark is alone
      have := bytes_le_reserved old
      omega
    · obtain rfl := List.mem_singleton.mp new
      simp only
      omega

variable {guard : Guard}

theorem page_queued (admitted : history.Admitted shared) (limited : shared.outputLimit ≤ usizeMax)
    (terminalId : String) (range : Range) {wire : Wire T} (listed : guard ∈ history.guards)
    (within_ : wire.bytes ≤ guard.bytes - guard.pushed) (fits : history.PageFits shared guard wire) :
    ∃ priority, history.server shared (.output terminalId range) wire = history.pushed { history.queues with
      output := (history.queues.output.admitEntry priority
        ⟨terminalId,wire.frame,wire.bytes,some range,history.queues.nextSeq⟩).takeEvictions.2
      nextSeq := history.queues.nextSeq + 1 } terminalId := by
  have backlog := backlog_split admitted.indexed
  have limit : history.queues.output.pendingBytes + history.queues.inFlightOutputBytes + wire.bytes ≤
      max shared.outputLimit 1 := by
    obtain direct | ⟨some_,headroom⟩ := fits.room
    · exact direct
    · have room := admitted.room guard listed (by omega)
      have : guard.bytes - guard.pushed ≤ unpushedBytes history.guards := by
        obtain ⟨before,rest,same⟩ := List.append_of_mem listed
        rw [same]
        simp only [unpushedBytes,List.map_append,List.map_cons,List.sum_append,List.sum_cons]
        omega
      omega
  have bounded : max shared.outputLimit 1 ≤ usizeMax := by
    unfold usizeMax at limited ⊢
    omega
  have room : history.queues.output.Room wire.bytes := by
    have reserved := admitted.reserved
    have byteLimit := admitted.byteLimit
    unfold DeliveryQueue.pendingBytes at limit
    refine ⟨fits.metadata,fits.ids,by omega,?_⟩
    unfold saturatingAdd
    omega
  refine ⟨history.queues.interest.priority terminalId,?_⟩
  obtain ⟨result,output,ran,pushes⟩ := Queues.pushOutput_spec terminalId wire wire.bytes (some range) admitted.indexed
  obtain ⟨result',output',ran',-,-,-,-,-,taken⟩ := DeliveryQueue.push_shape admitted.indexed
    (history.queues.interest.priority terminalId) ⟨terminalId,wire.frame,wire.bytes,some range,history.queues.nextSeq⟩
  obtain ⟨rfl,rfl⟩ := Prod.mk.inj (Option.some.inj (ran.symm.trans ran'))
  obtain ⟨rfl,rfl⟩ := taken room
  simp only [WriterHistory.server,Queues.pushServer,fits.isOpen,Bool.false_eq_true,if_false,pushes]

theorem Admitted.page (admitted : history.Admitted shared) (limited : shared.outputLimit ≤ usizeMax) {id : Nat}
    (terminalId : String) (range : Range) {wire : Wire T}
    (found : history.guards.find? (fun other => other.id == id) = some guard)
    (within_ : wire.bytes ≤ guard.bytes - guard.pushed) (fits : history.PageFits shared guard wire) :
    (history.page shared guard terminalId range wire).Admitted shared := by
  obtain ⟨priority,pushed⟩ := page_queued admitted limited terminalId range (List.mem_of_find?_eq_some found) within_ fits
  have requeues := requeues_server admitted.indexed shared (.output terminalId range) wire
  have requeued := admitted.requeued requeues
  have fresh : history.queues.output.entries.lookup history.queues.output.nextId = none := by
    by_contra listed
    obtain ⟨entry,held⟩ := Option.ne_none_iff_exists'.mp listed
    exact absurd (admitted.indexed.fresh held) (Nat.lt_irrefl _)
  have unpushed := countPage_unpushed admitted.distinct found within_
  simp only [WriterHistory.page,if_pos within_]
  refine ⟨requeued.indexed,requeued.byteLimit,requeued.reserved,requeued.sending,requeued.stamps,?_,?_,?_,?_⟩
  · intro stamp listed
    show stamp < (history.server shared (.output terminalId range) wire).queues.nextSeq
    rw [pushed]
    obtain rfl | older := List.mem_cons.mp listed
    · exact Nat.lt_succ_self _
    · exact Nat.lt_succ_of_lt (admitted.pages stamp older)
  · exact (countPage_ids history.guards guard.id wire.bytes) ▸ admitted.distinct
  · have accounted := admitted.accounted.resolve_left fun gone => by simp [fits.isOpen] at gone
    refine .inr ?_
    show (history.server shared (.output terminalId range) wire).queues.drainReserved =
      reservedBytes (countPage history.guards guard.id wire.bytes)
    rw [requeues.drainReserved,accounted,reservedBytes,reservedBytes,countPage_bytes]
  · intro other listed positive
    have same : other.bytes ∈ history.guards.map Guard.bytes := by
      rw [← countPage_bytes history.guards guard.id wire.bytes]
      exact List.mem_map_of_mem listed
    obtain ⟨original,listed,bytes⟩ := List.mem_map.mp same
    have room := admitted.room original listed (by omega)
    -- the queued frames are no pages of the next stamp
    have pages : total (pageSize (history.queues.nextSeq :: history.pages)) history.queues.output.entries =
        total (pageSize history.pages) history.queues.output.entries := by
      refine total_congr fun id entry held => ?_
      have := admitted.stamps id entry held
      have apart : entry.stamp ≠ history.queues.nextSeq := by omega
      simp [pageSize,apart]
    have pushedBytes : total (pageSize (history.queues.nextSeq :: history.pages))
        (history.server shared (.output terminalId range) wire).queues.output.entries =
          wire.bytes + total (pageSize history.pages) history.queues.output.entries := by
      rw [pushed]
      show total _ (history.queues.output.entries.insert history.queues.output.nextId _) = _
      rw [total_insert_fresh _ fresh,pages]
      simp [pageSize]
    show total (pageSize (history.queues.nextSeq :: history.pages))
        (history.server shared (.output terminalId range) wire).queues.output.entries + _ +
          unpushedBytes (countPage history.guards guard.id wire.bytes) ≤ _
    rw [pushedBytes]
    unfold pageBytes at room
    simp only [requeues.pageInFlight,requeues.inFlight]
    omega

theorem Admitted.release (admitted : history.Admitted shared) {id : Nat}
    (found : history.guards.find? (fun other => other.id == id) = some guard) : ({ history with
        queues := history.queues.dropAdmission guard.bytes
        guards := history.guards.filter fun other => other.id != guard.id } : WriterHistory T).Admitted shared where
  indexed := admitted.indexed
  byteLimit := admitted.byteLimit
  reserved := admitted.reserved
  sending := admitted.sending
  stamps := admitted.stamps
  pages := admitted.pages
  distinct := admitted.distinct.sublist (List.filter_sublist.map _)
  accounted := by
    have released := release_reserved admitted.distinct found
    obtain ⟨gone,closed,unreserved⟩ | accounted := admitted.accounted
    · exact .inl ⟨gone,closed,by simp [Queues.dropAdmission,unreserved]⟩
    · refine .inr ?_
      simp only [Queues.dropAdmission]
      omega
  room other listed positive := by
    have room := admitted.room other (List.mem_filter.mp listed).1 positive
    have fewer : unpushedBytes (history.guards.filter fun other => other.id != guard.id) ≤
        unpushedBytes history.guards := sum_map_le_of_sublist _ List.filter_sublist
    exact Nat.le_trans (Nat.add_le_add_left fewer _) room

/-! ### Runs -/

theorem Admitted.next {shared : Shared T} (admitted : history.Admitted shared) (limited : shared.outputLimit ≤ usizeMax)
    (op : WriterOp T) (fits : history.DrainsFit shared op) : (history.next shared op).Admitted shared := by
  have indexed := admitted.indexed
  cases op with
  | control wire =>
    simp only [WriterHistory.next]
    obtain ⟨-,exit,after,ran,rfl | rfl⟩ | ⟨-,output,ran,rfl⟩ := Queues.pushControl_spec shared wire none indexed
    · simpa only [ran] using admitted
    · simpa only [ran] using admitted.requeued (requeues_stop indexed)
    · simp only [ran]
      exact admitted.requeued (requeues_control (.refl indexed) _ _ _ _)
  | server msg wire => exact admitted.requeued (requeues_server indexed shared msg wire)
  | interest snapshot =>
    simp only [WriterHistory.next,Queues.setTerminalInterest]
    split
    · exact admitted
    · split
      · exact admitted.requeued (requeues_of_shrinks (.reprioritized indexed _) _ _ id _ _)
      · exact admitted
  | attachment terminalId background =>
    simp only [WriterHistory.next,Queues.setAttachmentPriority]
    split
    · exact admitted
    · exact admitted.requeued (requeues_of_shrinks (.reprioritized indexed _) _ _ id _ _)
  | discard terminalId =>
    obtain ⟨output,ran,shrinks,-⟩ := DeliveryQueue.discard_shrinks indexed terminalId
    simp only [WriterHistory.next,Queues.discardTerminalDelivery,ran,Option.bind_eq_bind,Option.bind_some,
      Option.pure_def]
    exact admitted.requeued (requeues_of_shrinks shrinks _ _ id _ _)
  | stop => exact admitted.requeued (requeues_stop indexed)
  | take =>
    simp only [WriterHistory.next]
    split
    next idle => exact admitted.take idle
    · exact admitted
  | resolved bounds =>
    simp only [WriterHistory.next]
    split
    next terminalId range behind resolving =>
      split
      · have landed : history.queues.inFlightOutputBytes = 0 := by rw [admitted.sending,resolving]; rfl
        have accounted := admitted.accounted.resolve_left fun gone => by simp [resolving] at gone
        exact ⟨indexed,admitted.byteLimit,admitted.reserved,landed,admitted.stamps,admitted.pages,admitted.distinct,
          .inr accounted,admitted.room⟩
      · exact admitted.leaseGap terminalId range bounds behind (by simp [resolving])
    · exact admitted
  | finish =>
    simp only [WriterHistory.next]
    split
    next sending => exact admitted.finish sending
    · exact admitted
  | dropPump => exact admitted.dropPump
  | reserve id bytes =>
    simp only [WriterHistory.next]
    split
    · exact admitted
    next unused =>
      split
      · exact admitted
      next granted =>
        obtain ⟨isOpen,exactly_,rfl⟩ := reserve_granted limited fits.2 granted
        exact admitted.reserve (by simpa using unused) isOpen exactly_
  | page id terminalId range wire =>
    simp only [WriterHistory.next]
    split
    · exact admitted
    next guard found =>
      by_cases within_ : wire.bytes ≤ guard.bytes - guard.pushed
      · exact admitted.page limited terminalId range found within_ (fits guard found within_)
      · simpa only [WriterHistory.page,if_neg within_] using admitted
  | release id =>
    simp only [WriterHistory.next]
    split
    · exact admitted
    next found => exact admitted.release found

theorem Admitted.owes (admitted : history.Admitted shared) (limited : shared.outputLimit ≤ usizeMax) (op : WriterOp T)
    (fits : history.DrainsFit shared op) : history.AdmitsDrains shared op where
  granted := by
    rintro id bytes rfl changed
    simp only [WriterHistory.next] at changed ⊢
    split at changed
    · exact absurd rfl changed
    next unused =>
      split at changed
      · exact absurd rfl changed
      next granted =>
        obtain ⟨-,exactly_,rfl⟩ := reserve_granted limited fits.2 granted
        have watermark : Queues.backlogWatermark shared ≤ max shared.outputLimit 1 := by
          unfold Queues.backlogWatermark
          omega
        have := fits.1
        rw [if_neg unused]
        show history.queues.output.pendingBytes + history.queues.inFlightOutputBytes +
          (history.queues.drainReserved + bytes) ≤ _
        omega
  kept := by
    rintro id terminalId range wire rfl guard found within_
    have fits := fits guard found within_
    obtain ⟨priority,pushed⟩ := page_queued admitted limited terminalId range (List.mem_of_find?_eq_some found) within_ fits
    simp only [WriterHistory.next,found,WriterHistory.page,if_pos within_,pushed]
    refine ⟨fits.isOpen,rfl,fun key entry held => ?_,history.queues.output.nextId,_,AList.lookup_insert _,rfl,rfl,rfl⟩
    have older := admitted.indexed.fresh held
    show (history.queues.output.entries.insert history.queues.output.nextId _).lookup key = some entry
    rw [lookup_insert,if_neg (by omega)]
    exact held
  released := by
    rintro id rfl guard found present
    have accounted := admitted.accounted.resolve_left fun gone => present gone.1
    have released := release_reserved admitted.distinct found
    simp only [WriterHistory.next,found,Queues.dropAdmission]
    omega
  returned := by
    intro empty
    obtain ⟨-,-,unreserved⟩ | accounted := (admitted.next limited op fits).accounted
    · exact unreserved
    · rw [accounted,empty]
      rfl

/-- **Drain admission.** In every run in which each page fits, which live output
    within the headroom ensures, admitted drains stay within the budget, guards give
    back what they reserved, nothing stays reserved without a guard, and a page is
    queued without any frame being evicted. -/
theorem admitsDrains_run (shared : Shared T) (limited : shared.outputLimit ≤ usizeMax) (ops : List (WriterOp T))
    (fits : Along (next shared) (DrainsFit shared) (new shared) ops) :
    Along (next shared) (AdmitsDrains shared) (new shared) ops :=
  invariant_along (fun history op (admitted : history.Admitted shared) fits => admitted.next limited op fits)
    (fun history op (admitted : history.Admitted shared) fits => admitted.owes limited op fits)
    (admitted_new shared) fits

/-- A budget of 128 bytes, with a watermark of 64. -/
def smallBudget : Shared Unit := ⟨128,1000,false,fun _ => ⟨(),0⟩⟩

/-- Two pages under one guard, with as much live output between them as the headroom. -/
theorem admitsDrains_headroom : Along (next smallBudget) (AdmitsDrains smallBudget) (new smallBudget)
    [.reserve 1 64,.page 1 "a" ⟨"s",none,1,1⟩ ⟨(),30⟩,.server (.output "b" ⟨"s",none,1,1⟩) ⟨(),64⟩,
      .page 1 "a" ⟨"s",none,2,2⟩ ⟨(),34⟩,.release 1] := by
  refine admitsDrains_run smallBudget (by decide) _ ⟨⟨by decide,by decide⟩,?_,trivial,?_,trivial,trivial⟩
  · rintro guard found -
    obtain rfl := Option.some.inj found
    exact ⟨rfl,by decide,by decide,.inl (by decide)⟩
  · rintro guard found -
    obtain rfl := Option.some.inj found
    exact ⟨rfl,by decide,by decide,.inr ⟨by decide,by decide⟩⟩

/-- Between two pages of one guard comes live output beyond the headroom: the second
    page evicts the first. -/
theorem page_evictsPage : ¬∀ ops : List (WriterOp Unit),
    Along (next smallBudget) (AdmitsDrains smallBudget) (new smallBudget) ops := by
  intro admits
  have along := admits ([.reserve 1 64,.page 1 "a" ⟨"s",none,1,1⟩ ⟨(),30⟩,
    .server (.output "b" ⟨"s",none,1,1⟩) ⟨(),90⟩] ++ [.page 1 "a" ⟨"s",none,2,2⟩ ⟨(),34⟩])
  have last := ((along_append _ _ _ _ _).mp along).2.1
  have kept := (last.kept 1 "a" ⟨"s",none,2,2⟩ ⟨(),34⟩ rfl ⟨1,64,30⟩ rfl (by decide)).2.2.1
  have gone := kept 0 ⟨"a",(),30,some ⟨"s",none,1,1⟩,0⟩ rfl
  cases gone

end WriterHistory
end Freshell.Connection
