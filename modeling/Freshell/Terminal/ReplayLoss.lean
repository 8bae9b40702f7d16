import Freshell.Terminal.ReplayRing

/-!
The replay ring over its deque, and what a client is told of the output that is gone.
A frame that left the deque is below the range that a replay reports. A chunk longer
than the ring is cut to its last bytes before it becomes a frame, and of the bytes in
front nothing is reported.
-/
namespace Freshell.Terminal
open Freshell.Library.Runs Freshell.Library.Utf8

/-- The setting, else the environment variable when it parses to a positive number,
    rounded down, else the default. -/
def resolveMaxBytes (fromEnv : Option Nat) (explicit : Option Int) : Nat :=
  match explicit with
  | some v => if 0 < v then v.toNat else fromEnv.getD defaultTerminalReplayRingMaxBytes
  | none => fromEnv.getD defaultTerminalReplayRingMaxBytes

/-- A `usize` cast to an `i64`. -/
def asI64 (n : Nat) : Int := if n < 2 ^ 63 then n else n - 2 ^ 64

def asBytes (data : String) : List UInt8 := data.toList.flatMap String.utf8EncodeChar

structure ReplayRing where
  storage : ReplayDeque
  maxBytes : Nat
deriving DecidableEq, Repr

namespace ReplayRing

def new (fromEnv : Option Nat) (maxBytes : Option Int) : ReplayRing where
  storage := .new (asI64 (resolveMaxBytes fromEnv maxBytes))
  maxBytes := resolveMaxBytes fromEnv maxBytes

/-- A chunk longer than the ring is cut to its last bytes, at the first place where
    they are a text. -/
def normalizeFrameData (ring : ReplayRing) (data : String) : String :=
  if data = "" then ""
  else if ring.maxBytes = 0 then ""
  else if (asBytes data).length ≤ ring.maxBytes then data
  else
    let starts := List.range' ((asBytes data).length - ring.maxBytes) (ring.maxBytes + 1)
    (starts.findSome? fun start => (fromUtf8 ((asBytes data).drop start)).toOption).getD ""

def append (ring : ReplayRing) (data streamId : String) (nowMs : Nat) : ReplayRing × ReplayFrame :=
  let input : ReplayFrameInput := ⟨ring.normalizeFrameData data,some streamId,false,some nowMs⟩
  ({ ring with storage := (ring.storage.append input nowMs).1 },(ring.storage.append input nowMs).2)

def consumeRetentionLoss (ring : ReplayRing) : ReplayRing × Bool :=
  ({ ring with storage := ring.storage.consumeRetentionLoss.1 },ring.storage.consumeRetentionLoss.2)

def replaySince (ring : ReplayRing) (sinceSeq : Option Int) : ReplaySince := ring.storage.replaySince sinceSeq
def tailSeq (ring : ReplayRing) : Int := ring.storage.tailSeq

def setMaxBytes (ring : ReplayRing) (fromEnv : Option Nat) (nextMaxBytes : Option Int) : ReplayRing :=
  let resolved := resolveMaxBytes fromEnv nextMaxBytes
  if resolved = ring.maxBytes then ring
  else { ring with maxBytes := resolved, storage := ring.storage.setMaxBytes (asI64 resolved) }
end ReplayRing

inductive RingOp where
  | append (data streamId : String) (nowMs : Nat)
  | setMaxBytes (fromEnv : Option Nat) (nextMaxBytes : Option Int)
  | consumeRetentionLoss

/-- A ring beside the chunks that were appended to it. -/
structure Written where
  ring : ReplayRing
  chunks : List String

def Written.perform (w : Written) : RingOp → Written
  | .append data streamId nowMs => ⟨(w.ring.append data streamId nowMs).1,w.chunks ++ [data]⟩
  | .setMaxBytes fromEnv nextMaxBytes => { w with ring := w.ring.setMaxBytes fromEnv nextMaxBytes }
  | .consumeRetentionLoss => { w with ring := w.ring.consumeRetentionLoss.1 }

def Written.start (fromEnv : Option Nat) (maxBytes : Option Int) : Written := ⟨.new fromEnv maxBytes,[]⟩

/-- A replay from the cursor reports the number as missed, or the loss is flagged. -/
def ReplayRing.Reports (ring : ReplayRing) (sinceSeq : Option Int) (seq : Int) : Prop :=
  (∃ missed, (ring.replaySince sinceSeq).missedFromSeq = some missed ∧ missed ≤ seq ∧ seq < ring.tailSeq) ∨
    ring.storage.retentionLossPending = true

/-- To a cursor below a chunk the chunk is returned whole, or it is reported. -/
def Written.NoSilentLoss (w : Written) : Prop :=
  ∀ (k : Nat) (chunk : String), w.chunks[k]? = some chunk →
    ∀ sinceSeq, ReplayDeque.normalizeSinceSeq sinceSeq < k + 1 →
      (∃ frame ∈ (w.ring.replaySince sinceSeq).frames, frame.seqStart = k + 1 ∧ frame.data = chunk) ∨
        w.ring.Reports sinceSeq (k + 1)

/-- An appended chunk is no longer than the ring. -/
def Written.Fits (w : Written) : RingOp → Prop
  | .append data _ _ => (asBytes data).length ≤ w.ring.maxBytes
  | .setMaxBytes _ _ | .consumeRetentionLoss => True

/-- The frames of the deque carry the chunks as they were appended. -/
def Written.Whole (w : Written) : Prop :=
  ∃ history : List ReplayFrame, w.ring.storage.Window history ∧
    w.ring.storage.retainedBytes ≤ w.ring.storage.maxBytes ∧ history.map (·.data) = w.chunks

theorem normalizeFrameData_fits {ring : ReplayRing} {data : String} (fits : (asBytes data).length ≤ ring.maxBytes) :
    ring.normalizeFrameData data = data := by
  unfold ReplayRing.normalizeFrameData
  by_cases empty : data = ""
  · rw [if_pos empty,empty]
  · have positive : ring.maxBytes ≠ 0 := by
      intro zero
      obtain ⟨c,rest,chars⟩ := List.exists_cons_of_ne_nil (l := data.toList) (by simpa using empty)
      have some := String.length_utf8EncodeChar c
      have wide := Char.utf8Size_pos c
      simp only [asBytes,chars,List.flatMap_cons,List.length_append] at fits
      omega
    rw [if_neg empty,if_neg positive,if_pos fits]

theorem Written.Whole.perform {w : Written} (whole : w.Whole) {op : RingOp} (fits : w.Fits op) : (w.perform op).Whole := by
  obtain ⟨history,window,limit,chunks⟩ := whole
  cases op with
  | append data streamId nowMs =>
    obtain ⟨after,within⟩ := window.append ⟨w.ring.normalizeFrameData data,some streamId,false,some nowMs⟩ nowMs
    refine ⟨_,after,within,?_⟩
    rw [List.map_append,chunks]
    simp [ReplayDeque.frameOf,normalizeFrameData_fits fits,Written.perform]
  | setMaxBytes fromEnv nextMaxBytes =>
    unfold Written.perform ReplayRing.setMaxBytes
    by_cases same : resolveMaxBytes fromEnv nextMaxBytes = w.ring.maxBytes
    · simp only [if_pos same]
      exact ⟨history,window,limit,chunks⟩
    · simp only [if_neg same]
      obtain ⟨after,within⟩ := window.setMaxBytes limit (asI64 (resolveMaxBytes fromEnv nextMaxBytes))
      exact ⟨history,after,within,chunks⟩
  | consumeRetentionLoss =>
    obtain ⟨after,within⟩ := window.perform limit .consumeRetentionLoss
    rw [ReplayDeque.returned,List.append_nil] at after
    exact ⟨history,after,within,chunks⟩

theorem Written.Whole.noSilentLoss {w : Written} (whole : w.Whole) : w.NoSilentLoss := by
  obtain ⟨history,window,limit,chunks⟩ := whole
  intro k chunk appended sinceSeq below
  rw [← chunks,List.getElem?_map] at appended
  obtain ⟨frame,place,rfl⟩ := Option.map_eq_some_iff.mp appended
  obtain ⟨number,_⟩ := window.numbered k frame place
  have short : w.ring.storage.retained.length ≤ history.length := window.retained_suffix.length_le
  by_cases retained : history.length - w.ring.storage.retained.length ≤ k
  · refine .inl ⟨frame,?_,number,rfl⟩
    change frame ∈ (w.ring.storage.replaySince sinceSeq).frames
    rw [window.replaySince_frames,List.mem_filter]
    refine ⟨?_,by simp only [number,decide_eq_true_eq]; exact below⟩
    rw [window.retained_eq]
    refine List.mem_of_getElem? (i := k - (history.length - w.ring.storage.retained.length)) ?_
    rw [List.getElem?_drop,Nat.add_sub_cancel' retained,place]
  · have tail : (k : Int) + 1 < w.ring.storage.tailSeq := by
      rw [window.tailSeq_eq]
      omega
    refine .inr (.inl ⟨ReplayDeque.normalizeSinceSeq sinceSeq + 1,?_,by omega,tail⟩)
    change (w.ring.storage.replaySince sinceSeq).missedFromSeq = _
    rw [ReplayDeque.replaySince_missedFromSeq,ReplayDeque.missedFromSeq_eq,if_pos (by omega)]

/-- No chunk that fits the ring is lost in silence, whatever is evicted later, also
    when the limit shrinks. -/
theorem losses_reported (fromEnv : Option Nat) (maxBytes : Option Int) (ops : List RingOp)
    (fits : Along Written.perform Written.Fits (.start fromEnv maxBytes) ops) :
    (run Written.perform (.start fromEnv maxBytes) ops).NoSilentLoss := by
  have initial : (Written.start fromEnv maxBytes).Whole := ⟨[],.new _,Nat.zero_le _,rfl⟩
  have kept : ∀ (w : Written) (op : RingOp), w.Whole → w.Fits op → (w.perform op).Whole :=
    fun w op whole fit => whole.perform fit
  exact (invariant_run kept initial fits).noSilentLoss

theorem losses_reported_at :
    (run Written.perform (.start none (some 1)) [.append "a" "s" 0,.append "b" "s" 0]).NoSilentLoss :=
  losses_reported none (some 1) [.append "a" "s" 0,.append "b" "s" 0]
    ⟨by simp [Written.Fits,Written.start,ReplayRing.new,resolveMaxBytes,asBytes,String.utf8EncodeChar],
      by simp [Written.Fits,Written.perform,ReplayRing.append,Written.start,ReplayRing.new,resolveMaxBytes,asBytes,
        String.utf8EncodeChar],trivial⟩

/-- Two bytes into a ring of one: the first is cut off, and no replay hears of it. -/
theorem oversize_silent :
    ¬(run Written.perform (.start none (some 1)) [.append "ab" "s" 0]).NoSilentLoss := by
  have cut : (ReplayRing.new none (some 1)).normalizeFrameData "ab" = "b" := by
    simp [ReplayRing.normalizeFrameData,ReplayRing.new,resolveMaxBytes,asBytes,String.utf8EncodeChar,fromUtf8,front,lead,
      scanTail,List.range',Except.toOption]
  have size : "b".utf8ByteSize = 1 := by decide
  have stored : (run Written.perform (.start none (some 1)) [.append "ab" "s" 0]).ring.storage =
      ⟨[⟨1,1,"b",1,0,"s",false⟩],0,1,2,1,1,false⟩ := by
    simp only [run_cons,run_nil,Written.perform,Written.start,ReplayRing.append,cut]
    simp [ReplayDeque.append,ReplayDeque.push,ReplayDeque.frameOf,ReplayDeque.evictIfNeeded,ReplayDeque.evictLoop,
      ReplayRing.new,resolveMaxBytes,asI64,ReplayDeque.new,normalizeMaxBytes,ReplayDeque.compactIfNeeded,size]
  intro told
  rcases told 0 "ab" rfl none (by decide) with ⟨frame,listed,_,whole⟩ | ⟨missed,_,_,below⟩ | flagged
  · have window : frame ∈ (run Written.perform (.start none (some 1)) [.append "ab" "s" 0]).ring.storage.frames := by
      simp only [ReplayRing.replaySince,ReplayDeque.replaySince,ReplayDeque.collectReplayFrames] at listed
      split at listed
      · cases listed
      · exact List.mem_of_mem_drop ((List.takeWhile_prefix _).subset listed)
    rw [stored,List.mem_singleton] at window
    rw [window] at whole
    exact absurd whole (by decide)
  · rw [ReplayRing.tailSeq,stored] at below
    exact absurd below (by decide)
  · rw [stored] at flagged
    cases flagged
end Freshell.Terminal
