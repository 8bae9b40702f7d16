import Freshell.Library.Runs
import Freshell.Terminal.Decode
import Mathlib.Algebra.Order.Ring.Int
import Mathlib.Data.List.TakeWhile

/-!
The replay buffer of a terminal by its bytes. Frames are numbered from one on, and
whole frames leave at the front while the buffer is over its limit; their place in
the vector is reclaimed later, when it is worth it. A cursor reads the frames above
it, and is told when some of them are gone. Sequence numbers are unbounded here, as
no terminal reaches the end of them.
-/
namespace Freshell.Terminal
open Freshell.Library.Runs

def defaultStreamId : String := "stream-1"
def defaultTerminalReplayRingMaxBytes : Nat := 1024 * 1024
def compactMinEvictedFrames : Nat := 1024

structure ReplayFrame where
  seqStart : Int
  seqEnd : Int
  data : String
  bytes : Nat
  atMs : Nat
  streamId : String
  barrier : Bool
deriving DecidableEq, Repr

structure ReplayFrameInput where
  data : String
  streamId : Option String
  barrier : Bool
  atMs : Option Nat
deriving DecidableEq, Repr

structure ReplaySince where
  frames : List ReplayFrame
  missedFromSeq : Option Int
deriving DecidableEq, Repr

def normalizeMaxBytes (maxBytes : Int) : Nat := if 0 < maxBytes then maxBytes.toNat else 0

structure ReplayDeque where
  frames : List ReplayFrame
  startIndex : Nat
  retainedBytes : Nat
  nextSeq : Int
  head : Int
  maxBytes : Nat
  retentionLossPending : Bool
deriving DecidableEq, Repr

namespace ReplayDeque

def new (maxBytes : Int) : ReplayDeque where
  frames := []
  startIndex := 0
  retainedBytes := 0
  nextSeq := 1
  head := 0
  maxBytes := normalizeMaxBytes maxBytes
  retentionLossPending := false

def retainedCount (d : ReplayDeque) : Nat := d.frames.length - d.startIndex
def firstFrame (d : ReplayDeque) : Option ReplayFrame := if 0 < d.retainedCount then d.frames[d.startIndex]? else none
def totalBytes (d : ReplayDeque) : Nat := d.retainedBytes
def headSeq (d : ReplayDeque) : Int := d.head

def tailSeq (d : ReplayDeque) : Int :=
  match d.firstFrame with
  | some first => first.seqStart
  | none => d.head + 1

/-- The loop of `evict_if_needed`. -/
def evictLoop (d : ReplayDeque) : ReplayDeque :=
  if excess : d.maxBytes < d.retainedBytes ∧ 0 < d.retainedCount then
    have : d.startIndex < d.frames.length := by
      unfold retainedCount at excess
      omega
    evictLoop
      { d with
        startIndex := d.startIndex + 1
        retainedBytes := d.retainedBytes - d.frames[d.startIndex].bytes
        retentionLossPending := true }
  else d
termination_by d.retainedCount
decreasing_by
  simp only [retainedCount] at excess ⊢
  omega

def compactIfNeeded (d : ReplayDeque) : ReplayDeque :=
  if d.startIndex = 0 then d
  else if d.retainedCount = 0 then { d with frames := [], startIndex := 0 }
  else if d.startIndex < compactMinEvictedFrames ∨ d.startIndex < d.retainedCount then d
  else { d with frames := d.frames.drop d.startIndex, startIndex := 0 }

def evictIfNeeded (d : ReplayDeque) : ReplayDeque := d.evictLoop.compactIfNeeded

def setMaxBytes (d : ReplayDeque) (nextMaxBytes : Int) : ReplayDeque :=
  let normalized := normalizeMaxBytes nextMaxBytes
  if normalized = d.maxBytes then d else evictIfNeeded { d with maxBytes := normalized }

def frameOf (d : ReplayDeque) (input : ReplayFrameInput) (nowMs : Nat) : ReplayFrame where
  seqStart := d.nextSeq
  seqEnd := d.nextSeq
  data := input.data
  bytes := input.data.utf8ByteSize
  atMs := input.atMs.getD nowMs
  streamId := input.streamId.getD defaultStreamId
  barrier := input.barrier

/-- `append` up to the eviction. -/
def push (d : ReplayDeque) (frame : ReplayFrame) : ReplayDeque :=
  { d with
    nextSeq := d.nextSeq + 1
    head := d.nextSeq
    frames := d.frames ++ [frame]
    retainedBytes := d.retainedBytes + frame.bytes }

def append (d : ReplayDeque) (input : ReplayFrameInput) (nowMs : Nat) : ReplayDeque × ReplayFrame :=
  ((d.push (d.frameOf input nowMs)).evictIfNeeded,d.frameOf input nowMs)

def consumeRetentionLoss (d : ReplayDeque) : ReplayDeque × Bool :=
  ({ d with retentionLossPending := false },d.retentionLossPending)

def normalizeSinceSeq (sinceSeq : Option Int) : Int :=
  match sinceSeq with
  | none | some 0 => 0
  | some v => v

def missedFromSeq (d : ReplayDeque) (since : Int) : Option Int :=
  match d.firstFrame with
  | none => if since < d.head then some (since + 1) else none
  | some first => if since < first.seqStart - 1 then some (since + 1) else none

end ReplayDeque

/-- The loop of `first_frame_index_after`, over the frames from `low` up to `high`. -/
def firstFrameIndexAfter (frames : List ReplayFrame) (seq : Int) (low high : Nat) (inside : high ≤ frames.length) : Nat :=
  if _open : low < high then
    have : (low + high) / 2 < frames.length := by omega
    if frames[(low + high) / 2].seqEnd ≤ seq then firstFrameIndexAfter frames seq ((low + high) / 2 + 1) high inside
    else firstFrameIndexAfter frames seq low ((low + high) / 2) (by omega)
  else low
termination_by high - low

namespace ReplayDeque

/-- No number is above `i64::MAX`, which stands for no upper end. -/
def collectReplayFrames (d : ReplayDeque) (sinceSeq : Int) (toSeq : Option Int) : List ReplayFrame :=
  let start := firstFrameIndexAfter d.frames sinceSeq d.startIndex d.frames.length (Nat.le_refl _)
  (d.frames.drop start).takeWhile fun frame => toSeq.all (frame.seqStart ≤ ·)

def replaySince (d : ReplayDeque) (sinceSeq : Option Int) : ReplaySince :=
  let normalized := normalizeSinceSeq sinceSeq
  if d.retainedCount = 0 then ⟨[],d.missedFromSeq normalized⟩
  else ⟨d.collectReplayFrames normalized none,d.missedFromSeq normalized⟩

def retained (d : ReplayDeque) : List ReplayFrame := d.frames.drop d.startIndex

end ReplayDeque

inductive DequeOp where
  | append (input : ReplayFrameInput) (nowMs : Nat)
  | setMaxBytes (nextMaxBytes : Int)
  | consumeRetentionLoss

def ReplayDeque.perform (d : ReplayDeque) : DequeOp → ReplayDeque
  | .append input nowMs => (d.append input nowMs).1
  | .setMaxBytes nextMaxBytes => d.setMaxBytes nextMaxBytes
  | .consumeRetentionLoss => d.consumeRetentionLoss.1

def ReplayDeque.returned (d : ReplayDeque) : DequeOp → List ReplayFrame
  | .append input nowMs => [(d.append input nowMs).2]
  | .setMaxBytes _ | .consumeRetentionLoss => []

def ReplayDeque.appendedBy (d : ReplayDeque) : List DequeOp → List ReplayFrame
  | [] => []
  | op :: ops => d.returned op ++ (d.perform op).appendedBy ops

/-- The deque beside all frames that were ever appended: what is still in the vector
    are the last of them, and the frames before `startIndex` count no more. -/
structure ReplayDeque.Window (history : List ReplayFrame) (d : ReplayDeque) : Prop where
  numbered : ∀ (i : Nat) (frame : ReplayFrame), history[i]? = some frame → frame.seqStart = i + 1 ∧ frame.seqEnd = i + 1
  sized : ∀ frame ∈ history, frame.bytes = frame.data.utf8ByteSize
  suffix : d.frames <:+ history
  start_le : d.startIndex ≤ d.frames.length
  head : d.head = history.length
  next : d.nextSeq = history.length + 1
  bytes : d.retainedBytes = (d.retained.map (·.bytes)).sum

namespace ReplayDeque
variable {history : List ReplayFrame} {d : ReplayDeque}

theorem Window.new (maxBytes : Int) : Window [] (new maxBytes) where
  numbered := by simp
  sized := by simp
  suffix := List.suffix_refl _
  start_le := Nat.le_refl _
  head := rfl
  next := rfl
  bytes := rfl

theorem length_retained : d.retained.length = d.retainedCount := by
  simp [retained,retainedCount]

theorem Window.retained_suffix (window : Window history d) : d.retained <:+ history :=
  (List.drop_suffix _ _).trans window.suffix

theorem Window.evictOne (window : Window history d) (inside : d.startIndex < d.frames.length) :
    Window history
      { d with
        startIndex := d.startIndex + 1
        retainedBytes := d.retainedBytes - d.frames[d.startIndex].bytes
        retentionLossPending := true } where
  numbered := window.numbered
  sized := window.sized
  suffix := window.suffix
  start_le := inside
  head := window.head
  next := window.next
  bytes := by
    have sum := window.bytes
    rw [retained,List.drop_eq_getElem_cons inside,List.map_cons,List.sum_cons] at sum
    simp only [retained]
    omega

theorem Window.evictLoop (window : Window history d) : Window history d.evictLoop := by
  fun_induction ReplayDeque.evictLoop d with
  | case1 d excess inside ih => exact ih (window.evictOne inside)
  | case2 d stop => exact window

theorem evictLoop_limit (window : Window history d) : d.evictLoop.retainedBytes ≤ d.evictLoop.maxBytes := by
  fun_induction ReplayDeque.evictLoop d with
  | case1 d excess inside ih => exact ih (window.evictOne inside)
  | case2 d stop =>
    by_contra excess
    have nothing : d.retained = [] := by
      apply List.length_eq_zero_iff.mp
      rw [length_retained]
      omega
    have sum := window.bytes
    rw [nothing] at sum
    simp only [List.map_nil,List.sum_nil] at sum
    omega

theorem retained_compactIfNeeded : d.compactIfNeeded.retained = d.retained := by
  unfold compactIfNeeded
  split_ifs with zero none
  · rfl
  · simp only [retained,List.drop_nil]
    rw [eq_comm,List.drop_eq_nil_iff]
    unfold retainedCount at none
    omega
  · rfl
  · simp [retained]

theorem Window.compactIfNeeded (window : Window history d) : Window history d.compactIfNeeded := by
  have kept : d.compactIfNeeded.retained = d.retained := retained_compactIfNeeded
  have suffix : d.compactIfNeeded.frames <:+ history ∧ d.compactIfNeeded.startIndex ≤ d.compactIfNeeded.frames.length := by
    unfold ReplayDeque.compactIfNeeded
    split_ifs
    · exact ⟨window.suffix,window.start_le⟩
    · exact ⟨List.nil_suffix,Nat.le_refl _⟩
    · exact ⟨window.suffix,window.start_le⟩
    · exact ⟨window.retained_suffix,Nat.zero_le _⟩
  have rest : d.compactIfNeeded.head = d.head ∧ d.compactIfNeeded.nextSeq = d.nextSeq ∧
      d.compactIfNeeded.retainedBytes = d.retainedBytes := by
    unfold ReplayDeque.compactIfNeeded
    split_ifs <;> exact ⟨rfl,rfl,rfl⟩
  exact ⟨window.numbered,window.sized,suffix.1,suffix.2,by rw [rest.1,window.head],by rw [rest.2.1,window.next],
    by rw [rest.2.2,kept,window.bytes]⟩

theorem limit_compactIfNeeded (limit : d.retainedBytes ≤ d.maxBytes) :
    d.compactIfNeeded.retainedBytes ≤ d.compactIfNeeded.maxBytes := by
  unfold ReplayDeque.compactIfNeeded
  split_ifs <;> exact limit

theorem Window.setMaxBytes (window : Window history d) (limit : d.retainedBytes ≤ d.maxBytes) (nextMaxBytes : Int) :
    Window history (d.setMaxBytes nextMaxBytes) ∧
      (d.setMaxBytes nextMaxBytes).retainedBytes ≤ (d.setMaxBytes nextMaxBytes).maxBytes := by
  unfold ReplayDeque.setMaxBytes
  by_cases same : normalizeMaxBytes nextMaxBytes = d.maxBytes
  · rw [if_pos same]
    exact ⟨window,limit⟩
  · rw [if_neg same]
    have resized : Window history { d with maxBytes := normalizeMaxBytes nextMaxBytes } :=
      ⟨window.numbered,window.sized,window.suffix,window.start_le,window.head,window.next,window.bytes⟩
    exact ⟨resized.evictLoop.compactIfNeeded,limit_compactIfNeeded (evictLoop_limit resized)⟩

theorem Window.push (window : Window history d) (input : ReplayFrameInput) (nowMs : Nat) :
    Window (history ++ [d.frameOf input nowMs]) (d.push (d.frameOf input nowMs)) where
  numbered := by
    intro i frame at_
    rcases Nat.lt_trichotomy i history.length with before | rfl | after
    · rw [List.getElem?_append_left before] at at_
      exact window.numbered i frame at_
    · rw [List.getElem?_append_right (Nat.le_refl _),Nat.sub_self] at at_
      cases at_
      exact ⟨window.next,window.next⟩
    · rw [List.getElem?_eq_none (by simp; omega)] at at_
      cases at_
  sized := by
    intro frame listed
    rcases List.mem_append.mp listed with old | new
    · exact window.sized frame old
    · rw [List.mem_singleton.mp new]
      rfl
  suffix := List.suffix_append_self_iff.mpr window.suffix
  start_le := by
    simp only [ReplayDeque.push,List.length_append,List.length_singleton]
    exact Nat.le_succ_of_le window.start_le
  head := by simp [ReplayDeque.push,window.next]
  next := by simp [ReplayDeque.push,window.next]
  bytes := by simp [ReplayDeque.push,retained,List.drop_append_of_le_length window.start_le,window.bytes]

theorem Window.append (window : Window history d) (input : ReplayFrameInput) (nowMs : Nat) :
    Window (history ++ [d.frameOf input nowMs]) (d.append input nowMs).1 ∧
      (d.append input nowMs).1.retainedBytes ≤ (d.append input nowMs).1.maxBytes :=
  ⟨(window.push input nowMs).evictLoop.compactIfNeeded,limit_compactIfNeeded (evictLoop_limit (window.push input nowMs))⟩

theorem Window.perform (window : Window history d) (limit : d.retainedBytes ≤ d.maxBytes) (op : DequeOp) :
    Window (history ++ d.returned op) (d.perform op) ∧ (d.perform op).retainedBytes ≤ (d.perform op).maxBytes := by
  cases op with
  | append input nowMs => exact window.append input nowMs
  | setMaxBytes nextMaxBytes =>
    rw [returned,List.append_nil]
    exact window.setMaxBytes limit nextMaxBytes
  | consumeRetentionLoss =>
    rw [returned,List.append_nil]
    exact ⟨⟨window.numbered,window.sized,window.suffix,window.start_le,window.head,window.next,window.bytes⟩,limit⟩

theorem Window.run (window : Window history d) (limit : d.retainedBytes ≤ d.maxBytes) (ops : List DequeOp) :
    Window (history ++ d.appendedBy ops) (run ReplayDeque.perform d ops) ∧
      (run ReplayDeque.perform d ops).retainedBytes ≤ (run ReplayDeque.perform d ops).maxBytes := by
  induction ops generalizing d history with
  | nil =>
    rw [appendedBy,List.append_nil]
    exact ⟨window,limit⟩
  | cons op ops ih =>
    obtain ⟨after,within⟩ := window.perform limit op
    rw [appendedBy,← List.append_assoc]
    exact ih after within

theorem Window.retained_eq (window : Window history d) :
    d.retained = history.drop (history.length - d.retained.length) :=
  List.suffix_iff_eq_drop.mp window.retained_suffix

theorem Window.retained_numbered (window : Window history d) {i : Nat} {frame : ReplayFrame}
    (found : d.retained[i]? = some frame) :
    frame.seqStart = (history.length - d.retained.length : Nat) + i + 1 ∧ frame.seqEnd = frame.seqStart := by
  rw [window.retained_eq,List.getElem?_drop] at found
  obtain ⟨first,last⟩ := window.numbered _ _ found
  rw [Nat.cast_add] at first last
  exact ⟨first,last.trans first.symm⟩

theorem firstFrame_eq : d.firstFrame = d.retained[0]? := by
  simp only [firstFrame,retained,List.getElem?_drop,Nat.add_zero]
  split_ifs with some
  · rfl
  · unfold retainedCount at some
    rw [List.getElem?_eq_none (by omega)]

theorem Window.tailSeq_eq (window : Window history d) :
    d.tailSeq = (history.length - d.retained.length : Nat) + 1 := by
  unfold tailSeq
  rw [firstFrame_eq]
  cases found : d.retained[0]? with
  | some first => simpa using (window.retained_numbered found).1
  | none =>
    have nothing : d.retained.length = 0 := by simpa using found
    simp [window.head,nothing]

theorem missedFromSeq_eq (since : Int) :
    d.missedFromSeq since = if since + 1 < d.tailSeq then some (since + 1) else none := by
  unfold missedFromSeq tailSeq
  cases d.firstFrame with
  | none => simp
  | some first =>
    have : since < first.seqStart - 1 ↔ since + 1 < first.seqStart := by omega
    simp only [this]

end ReplayDeque

theorem firstFrameIndexAfter_spec {frames : List ReplayFrame} {seq : Int} {low high start : Nat}
    (inside : high ≤ frames.length) (order : low ≤ high) (bottom : start ≤ low)
    (ascending : ∀ i j (left : i < frames.length) (right : j < frames.length), start ≤ i → i ≤ j →
      frames[i].seqEnd ≤ frames[j].seqEnd)
    (below : ∀ i (bound : i < frames.length), start ≤ i → i < low → frames[i].seqEnd ≤ seq)
    (above : ∀ i (bound : i < frames.length), high ≤ i → seq < frames[i].seqEnd) :
    frames.drop (firstFrameIndexAfter frames seq low high inside) = (frames.drop start).filter (seq < ·.seqEnd) := by
  fun_induction firstFrameIndexAfter frames seq low high inside with
  | case1 low high inside open_ bound small ih =>
    refine ih (by omega) (by omega) ?_ above
    intro i inner first less
    exact (ascending i _ inner bound first (by omega)).trans small
  | case2 low high inside open_ bound large ih =>
    refine ih (by omega) bottom below ?_
    intro i inner more
    exact lt_of_lt_of_le (not_le.mp large) (ascending _ i bound inner (by omega) more)
  | case3 low high inside closed =>
    obtain ⟨more,rfl⟩ : ∃ more, low = start + more := ⟨low - start,by omega⟩
    obtain rfl : high = start + more := by omega
    rw [← List.take_append_drop more (frames.drop start),List.filter_append,List.drop_drop]
    have none : ((frames.drop start).take more).filter (seq < ·.seqEnd) = [] := by
      rw [List.filter_eq_nil_iff]
      intro frame listed
      obtain ⟨i,bound,rfl⟩ := List.mem_take_iff_getElem.mp listed
      simp only [List.getElem_drop,decide_eq_true_eq,not_lt]
      exact below _ _ (by omega) (by omega)
    have all : (frames.drop (start + more)).filter (seq < ·.seqEnd) = frames.drop (start + more) := by
      rw [List.filter_eq_self]
      intro frame listed
      obtain ⟨i,bound,rfl⟩ := List.mem_drop_iff_getElem.mp listed
      simp only [decide_eq_true_eq]
      exact above _ _ (by omega)
    rw [none,all,List.nil_append]

namespace ReplayDeque
variable {history : List ReplayFrame} {d : ReplayDeque}

theorem Window.ascending (window : Window history d) (i j : Nat) (left : i < d.frames.length) (right : j < d.frames.length)
    (bottom : d.startIndex ≤ i) (order : i ≤ j) : d.frames[i].seqEnd ≤ d.frames[j].seqEnd := by
  have place : ∀ k (bound : k < d.frames.length), d.startIndex ≤ k → d.retained[k - d.startIndex]? = some d.frames[k] := by
    intro k bound after
    rw [retained,List.getElem?_drop,Nat.add_sub_cancel' after,List.getElem?_eq_getElem bound]
  have first := window.retained_numbered (place i left bottom)
  have second := window.retained_numbered (place j right (by omega))
  omega

theorem Window.replaySince_frames (window : Window history d) (sinceSeq : Option Int) :
    (d.replaySince sinceSeq).frames = d.retained.filter (normalizeSinceSeq sinceSeq < ·.seqStart) := by
  unfold replaySince
  by_cases nothing : d.retainedCount = 0
  · have empty : d.retained = [] := List.length_eq_zero_iff.mp (length_retained.trans nothing)
    simp [nothing,empty]
  · have found : d.frames.drop (firstFrameIndexAfter d.frames (normalizeSinceSeq sinceSeq) d.startIndex
        d.frames.length (Nat.le_refl _)) = d.retained.filter (normalizeSinceSeq sinceSeq < ·.seqEnd) :=
      firstFrameIndexAfter_spec (Nat.le_refl _) window.start_le (Nat.le_refl _) window.ascending (by omega) (by omega)
    have same : d.retained.filter (normalizeSinceSeq sinceSeq < ·.seqEnd) =
        d.retained.filter (normalizeSinceSeq sinceSeq < ·.seqStart) := by
      apply List.filter_congr
      intro frame listed
      obtain ⟨i,at_⟩ := List.getElem?_of_mem listed
      rw [(window.retained_numbered at_).2]
    simp only [if_neg nothing,collectReplayFrames,Option.all_none]
    rw [found,← same]
    exact List.takeWhile_eq_self_iff.mpr fun _ _ => rfl

theorem replaySince_missedFromSeq (sinceSeq : Option Int) :
    (d.replaySince sinceSeq).missedFromSeq = d.missedFromSeq (normalizeSinceSeq sinceSeq) := by
  unfold replaySince
  split_ifs <;> rfl

/-- The numbers that were given to frames that are gone. -/
def Evicted (d : ReplayDeque) (n : Int) : Prop := 1 ≤ n ∧ n ≤ d.headSeq ∧ ∀ frame ∈ d.retained, frame.seqStart ≠ n

theorem Window.evicted_iff (window : Window history d) (n : Int) : d.Evicted n ↔ 1 ≤ n ∧ n < d.tailSeq := by
  have short : d.retained.length ≤ history.length := window.retained_suffix.length_le
  unfold Evicted headSeq
  rw [window.tailSeq_eq,window.head]
  constructor
  · rintro ⟨positive,assigned,gone⟩
    refine ⟨positive,?_⟩
    by_contra present
    obtain ⟨i,rfl⟩ : ∃ i : Nat, n = ((history.length - d.retained.length : Nat) : Int) + i + 1 :=
      ⟨(n - ((history.length - d.retained.length : Nat) : Int) - 1).toNat,by omega⟩
    have bound : i < d.retained.length := by omega
    have at_ : d.retained[i]? = some d.retained[i] := List.getElem?_eq_getElem bound
    exact gone _ (List.getElem_mem bound) (window.retained_numbered at_).1
  · rintro ⟨positive,before⟩
    refine ⟨positive,by omega,?_⟩
    rintro frame listed rfl
    obtain ⟨i,at_⟩ := List.getElem?_of_mem listed
    have := (window.retained_numbered at_).1
    omega

structure Same (d e : ReplayDeque) : Prop where
  retained : d.retained = e.retained
  totalBytes : d.totalBytes = e.totalBytes
  headSeq : d.headSeq = e.headSeq
  tailSeq : d.tailSeq = e.tailSeq
  replaySince : ∀ sinceSeq, d.replaySince sinceSeq = e.replaySince sinceSeq

theorem Window.same_compacted (window : Window history d) : Same d.compactIfNeeded d := by
  have kept : d.compactIfNeeded.retained = d.retained := retained_compactIfNeeded
  have fields : d.compactIfNeeded.head = d.head ∧ d.compactIfNeeded.retainedBytes = d.retainedBytes := by
    unfold ReplayDeque.compactIfNeeded
    split_ifs <;> exact ⟨rfl,rfl⟩
  have tails : d.compactIfNeeded.tailSeq = d.tailSeq := by
    simp only [tailSeq,firstFrame_eq,kept,fields.1]
  refine ⟨kept,fields.2,fields.1,tails,fun sinceSeq => ?_⟩
  have frames := window.compactIfNeeded.replaySince_frames sinceSeq
  rw [kept,← window.replaySince_frames] at frames
  have missed : (d.compactIfNeeded.replaySince sinceSeq).missedFromSeq = (d.replaySince sinceSeq).missedFromSeq := by
    simp only [replaySince_missedFromSeq,missedFromSeq_eq,tails]
  cases found : d.compactIfNeeded.replaySince sinceSeq
  cases other : d.replaySince sinceSeq
  simp only [found,other] at frames missed
  rw [frames,missed]

/-- The deque keeps to its numbers: the bytes that it counts are those of the frames
    that are there, their numbers run up to the head without a hole, and a replay
    returns those above the cursor and tells when one is gone. -/
structure Exact (d : ReplayDeque) : Prop where
  bytes : d.totalBytes = (d.retained.map (·.data.utf8ByteSize)).sum
  limit : d.totalBytes ≤ d.maxBytes
  interval : d.retained.map (·.seqStart) = (List.range d.retained.length).map fun i : Nat => d.tailSeq + i
  upToHead : d.tailSeq + d.retained.length = d.headSeq + 1
  replayed : ∀ sinceSeq, (d.replaySince sinceSeq).frames = d.retained.filter (normalizeSinceSeq sinceSeq < ·.seqStart)
  missed : ∀ sinceSeq, (d.replaySince sinceSeq).missedFromSeq =
    if normalizeSinceSeq sinceSeq + 1 < d.tailSeq then some (normalizeSinceSeq sinceSeq + 1) else none
  evicted : ∀ sinceSeq, 0 ≤ normalizeSinceSeq sinceSeq → ((d.replaySince sinceSeq).missedFromSeq.isSome ↔
    ∃ n, normalizeSinceSeq sinceSeq < n ∧ d.Evicted n)

theorem Window.exact (window : Window history d) (limit : d.retainedBytes ≤ d.maxBytes) : Exact d where
  bytes := by
    rw [totalBytes,window.bytes]
    congr 1
    apply List.map_congr_left
    intro frame listed
    exact window.sized frame (window.retained_suffix.subset listed)
  limit := limit
  interval := by
    apply List.ext_getElem (by simp)
    intro i left right
    have bound : i < d.retained.length := by simpa using left
    have at_ : d.retained[i]? = some d.retained[i] := List.getElem?_eq_getElem bound
    have number := (window.retained_numbered at_).1
    simp only [List.getElem_map,List.getElem_range,window.tailSeq_eq]
    omega
  upToHead := by
    have short : d.retained.length ≤ history.length := window.retained_suffix.length_le
    rw [window.tailSeq_eq,headSeq,window.head]
    omega
  replayed := window.replaySince_frames
  missed := fun sinceSeq => by rw [replaySince_missedFromSeq,missedFromSeq_eq]
  evicted := by
    intro sinceSeq nonnegative
    rw [replaySince_missedFromSeq,missedFromSeq_eq]
    simp only [window.evicted_iff]
    split_ifs with gap
    · exact ⟨fun _ => ⟨_,by omega,by omega,gap⟩,fun _ => rfl⟩
    · refine ⟨fun missed => absurd missed (by simp),?_⟩
      rintro ⟨n,above,_,before⟩
      omega

/-- Over every run the deque keeps to its numbers, what it retains are the last of the
    appended frames, and the compaction behind an eviction shows in nothing. -/
theorem exact_run (maxBytes : Int) (ops : List DequeOp) :
    let d := run perform (.new maxBytes) ops
    Exact d ∧ d.retained <:+ (ReplayDeque.new maxBytes).appendedBy ops ∧
      (∀ input nowMs, Same (d.append input nowMs).1 (d.push (d.frameOf input nowMs)).evictLoop) ∧
      ∀ limit, Same (evictIfNeeded { d with maxBytes := limit }) (evictLoop { d with maxBytes := limit }) := by
  intro d
  obtain ⟨window,limit⟩ := (Window.new maxBytes).run (Nat.zero_le _) ops
  rw [List.nil_append] at window
  refine ⟨window.exact limit,window.retained_suffix,?_,?_⟩
  · intro input nowMs
    exact (window.push input nowMs).evictLoop.same_compacted
  · intro limit
    have resized : Window ((ReplayDeque.new maxBytes).appendedBy ops) { d with maxBytes := limit } :=
      ⟨window.numbered,window.sized,window.suffix,window.start_le,window.head,window.next,window.bytes⟩
    exact resized.evictLoop.same_compacted

/-- A cursor below zero is told of frames that never were. -/
theorem missed_below_zero :
    ((ReplayDeque.new 8).replaySince (some (-2))).missedFromSeq = some (-1) ∧ ¬∃ n, (ReplayDeque.new 8).Evicted n := by
  constructor
  · decide
  · rintro ⟨n,positive,assigned,_⟩
    have : n ≤ 0 := assigned
    omega
end ReplayDeque
end Freshell.Terminal
