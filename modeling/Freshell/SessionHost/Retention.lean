import Freshell.SessionHost.OutputJournal

/-!
What a journal keeps. The spool and the ring each hold a last part of the frames
that were appended, so a reader's frames by number are a last part too. A frame
that the disk refuses leaves a number unused and nothing else.
-/
namespace Freshell.SessionHost
open Freshell.Library.OrderedIndex Freshell.Library.Runs

theorem fitting_le (room : Nat) (text : List Char) : utf8Len (text.take (fitting room text)) ≤ room := by
  induction text generalizing room with
  | nil => simp [fitting,utf8Len]
  | cons c rest ih =>
    simp only [fitting]
    split
    next fits =>
      have := ih (room - c.utf8Size)
      simp only [utf8Len,List.take_succ_cons,List.map_cons,List.sum_cons] at this ⊢
      omega
    next => simp [utf8Len]

theorem fitting_lt {room : Nat} {text : List Char} (large : room < utf8Len text) : fitting room text < text.length := by
  induction text generalizing room with
  | nil => simp [utf8Len] at large
  | cons c rest ih =>
    simp only [fitting]
    split
    next fits =>
      have below : room - c.utf8Size < utf8Len rest := by
        simp only [utf8Len,List.map_cons,List.sum_cons] at large ⊢
        omega
      have := ih below
      simp only [List.length_cons]
      omega
    next => simp

theorem splitLoop_flatten (maxBytes : Nat) {fuel : Nat} {data : List Char} (enough : data.length ≤ fuel) :
    (splitLoop maxBytes fuel data).flatten = data := by
  induction fuel generalizing data with
  | zero => simp [List.length_eq_zero_iff.mp (Nat.le_zero.mp enough),splitLoop]
  | succ fuel ih =>
    cases data with
    | nil => simp [splitLoop]
    | cons c rest =>
      simp only [splitLoop,List.flatten_cons]
      rw [ih (by simp only [List.length_drop,List.length_cons] at enough ⊢; omega),List.take_append_drop]

theorem splitUtf8_flatten (data : List Char) (maxBytes : Nat) : (splitUtf8 data maxBytes).flatten = data :=
  splitLoop_flatten maxBytes (Nat.le_refl _)

variable {chunk : List Char}

theorem splitLoop_bounded {maxBytes fuel : Nat} {data : List Char} (room : 4 ≤ maxBytes)
    (mem : chunk ∈ splitLoop maxBytes fuel data) : utf8Len chunk ≤ maxBytes := by
  induction fuel generalizing data with
  | zero => simp [splitLoop] at mem
  | succ fuel ih =>
    cases data with
    | nil => simp [splitLoop] at mem
    | cons c rest =>
      simp only [splitLoop,List.mem_cons] at mem
      rcases mem with rfl | mem
      · have one : 1 ≤ fitting (max maxBytes 1) (c :: rest) := by
          have := c.utf8Size_le_four
          simp only [fitting]
          rw [if_pos (by omega)]
          omega
        rw [Nat.max_eq_left one]
        exact Nat.le_trans (fitting_le _ _) (by omega)
      · exact ih mem

theorem ofEpoch_files (spool : Spool) (epoch : String) :
    spool.ofEpoch epoch = spool.previous.filter (fun frame => frame.streamEpoch == epoch) ++
      spool.current.filter (fun frame => frame.streamEpoch == epoch) := by
  simp [Spool.ofEpoch,Spool.rows]

variable {lineLen : RuntimeOutputFrame → Nat} {frame : RuntimeOutputFrame}

/-- The frame is the last of the stream on disk, after a last part of what was there. -/
theorem appendSpool_taken {disk : SpoolOutcome} {limit : Nat} {spool after : Spool}
    (taken : appendSpool lineLen disk limit spool frame = (after,true)) :
    (∃ kept, kept <:+ spool.ofEpoch frame.streamEpoch ∧ after.ofEpoch frame.streamEpoch = kept ++ [frame]) ∧
      frame ∈ after.current := by
  cases disk with
  | refused => simp [appendSpool] at taken
  | renameFailed =>
    simp only [appendSpool] at taken
    split at taken <;> simp at taken
  | written =>
    simp only [appendSpool] at taken
    split at taken
    · obtain ⟨rfl,-⟩ := Prod.mk.inj taken
      refine ⟨⟨spool.current.filter fun row => row.streamEpoch == frame.streamEpoch,?_,?_⟩,List.mem_singleton_self _⟩
      · rw [ofEpoch_files]
        exact List.suffix_append _ _
      · simp [ofEpoch_files]
    · obtain ⟨rfl,-⟩ := Prod.mk.inj taken
      refine ⟨⟨spool.ofEpoch frame.streamEpoch,List.suffix_refl _,?_⟩,by simp⟩
      simp [ofEpoch_files]

theorem appendSpool_failed {disk : SpoolOutcome} {limit : Nat} {spool after : Spool}
    (failed : appendSpool lineLen disk limit spool frame = (after,false)) (epoch : String) :
    after.ofEpoch epoch <:+ spool.ofEpoch epoch ∧ after.current = spool.current := by
  cases disk with
  | refused =>
    obtain ⟨rfl,-⟩ := Prod.mk.inj failed
    exact ⟨List.suffix_refl _,rfl⟩
  | renameFailed =>
    simp only [appendSpool] at failed
    split at failed
    · obtain ⟨rfl,-⟩ := Prod.mk.inj failed
      refine ⟨?_,rfl⟩
      rw [ofEpoch_files spool]
      simp [ofEpoch_files]
    · obtain ⟨rfl,-⟩ := Prod.mk.inj failed
      exact ⟨List.suffix_refl _,rfl⟩
  | written =>
    simp only [appendSpool] at failed
    split at failed <;> simp at failed

theorem evict_suffix (limit : Nat) (ring : List RuntimeOutputFrame) (bytes : Nat) :
    (evict limit ring bytes).1 <:+ ring := by
  induction ring generalizing bytes with
  | nil => simp [evict]
  | cons first rest ih =>
    simp only [evict]
    split
    · exact (ih _).trans (List.suffix_cons _ _)
    · exact List.suffix_refl _

theorem lt_seedSequence {spool : Spool} {epoch : String} (mem : frame ∈ spool.ofEpoch epoch) :
    frame.seqEnd < seedSequence spool epoch := by
  have grows : ∀ (rows : List RuntimeOutputFrame) (top : Nat),
      top ≤ rows.foldl (fun top frame => max top frame.seqEnd) top ∧
        ∀ frame ∈ rows, frame.seqEnd ≤ rows.foldl (fun top frame => max top frame.seqEnd) top := by
    intro rows
    induction rows with
    | nil => simp
    | cons first rest ih =>
      intro top
      obtain ⟨above,each⟩ := ih (max top first.seqEnd)
      refine ⟨Nat.le_trans (Nat.le_max_left _ _) above,fun frame mem => ?_⟩
      rcases List.mem_cons.mp mem with rfl | mem
      · exact Nat.le_trans (Nat.le_max_right _ _) above
      · exact each frame mem
  exact Nat.lt_succ_of_le ((grows _ 0).2 frame mem)

theorem exists_last_le {frames : List RuntimeOutputFrame} (order : InOrder RuntimeOutputFrame.seqStart frames)
    (mem : frame ∈ frames) : ∃ last ∈ frames.getLast?, frame.seqStart ≤ last.seqStart := by
  induction frames using List.reverseRecOn with
  | nil => cases mem
  | append_singleton earlier last _ =>
    refine ⟨last,by simp,?_⟩
    rcases List.mem_append.mp mem with before | isLast
    · exact Nat.le_of_lt ((List.pairwise_append.mp order).2.2 frame before last (List.mem_singleton_self _))
    · exact Nat.le_of_eq (congrArg _ (List.mem_singleton.mp isLast))

structure Retains (history : JournalHistory) : Prop where
  order : InOrder RuntimeOutputFrame.seqStart history.appended
  ends : ∀ frame ∈ history.appended, frame.seqEnd = frame.seqStart
  below : ∀ frame ∈ history.appended, 0 < frame.seqStart ∧ frame.seqStart < history.journal.nextSeq
  bounded : ∀ frame ∈ history.appended, utf8Len frame.data ≤ MAX_TRANSPORT_CHUNK_BYTES
  spool : history.journal.spool.ofEpoch history.journal.streamEpoch <:+ history.appended
  ring : history.journal.ring <:+ history.appended
  last : ∀ frame ∈ history.appended.getLast?, frame ∈ history.journal.spool.current ∧
    frame.streamEpoch = history.journal.streamEpoch
  started : 0 < history.journal.nextSeq

variable {history : JournalHistory}

theorem retains_fresh (fresh : Fresh history) : Retains history := by
  obtain ⟨⟨spool,incarnation,terminal,epoch,ringLimit,spoolLimit,opened⟩,empty,none⟩ := fresh
  have ring : history.journal.ring = [] := by rw [opened]; rfl
  have started : 0 < history.journal.nextSeq := by
    rw [opened]
    exact Nat.succ_pos _
  constructor
  case spool => rw [empty]; exact List.nil_suffix
  case ring => rw [ring]; exact List.nil_suffix
  case started => exact started
  case order => rw [none]; exact List.Pairwise.nil
  all_goals simp [none]

variable {journal : OutputJournal} {appended : List RuntimeOutputFrame} {disk : Nat → SpoolOutcome}

theorem retains_written {after : OutputJournal} (retains : Retains ⟨journal,appended⟩)
    (small : utf8Len chunk ≤ MAX_TRANSPORT_CHUNK_BYTES)
    (step : appendChunk lineLen disk journal chunk = (after,some frame)) : Retains ⟨after,appended ++ [frame]⟩ := by
  simp only [appendChunk] at step
  generalize spooled : appendSpool lineLen (disk journal.nextSeq) journal.spoolLimit journal.spool
    ⟨journal.terminalId,journal.streamEpoch,journal.nextSeq,journal.nextSeq,chunk⟩ = result at step
  obtain ⟨spool,taken⟩ := result
  cases taken with
  | false => simp at step
  | true =>
    simp only [if_true,Prod.mk.injEq,Option.some.injEq] at step
    obtain ⟨rfl,rfl⟩ := step
    obtain ⟨⟨kept,suffix,rows⟩,onDisk⟩ := appendSpool_taken spooled
    have above : ∀ earlier ∈ appended, earlier.seqStart < journal.nextSeq := fun earlier mem => (retains.below _ mem).2
    refine ⟨?_,?_,?_,?_,?_,?_,?_,?_⟩
    · refine List.pairwise_append.mpr ⟨retains.order,List.pairwise_singleton _ _,fun earlier mem last isLast => ?_⟩
      rw [List.mem_singleton.mp isLast]
      exact above earlier mem
    · intro frame mem
      rcases List.mem_append.mp mem with mem | mem
      · exact retains.ends frame mem
      · rw [List.mem_singleton.mp mem]
    · intro frame mem
      rcases List.mem_append.mp mem with mem | mem
      · exact ⟨(retains.below frame mem).1,Nat.lt_succ_of_lt (above frame mem)⟩
      · rw [List.mem_singleton.mp mem]
        exact ⟨retains.started,Nat.lt_succ_self _⟩
    · intro frame mem
      rcases List.mem_append.mp mem with mem | mem
      · exact retains.bounded frame mem
      · rw [List.mem_singleton.mp mem]
        exact small
    · show spool.ofEpoch journal.streamEpoch <:+ _
      rw [rows]
      exact List.suffix_append_inj_of_length_eq rfl |>.mpr ⟨suffix.trans retains.spool,rfl⟩
    · refine (evict_suffix _ _ _).trans ?_
      exact List.suffix_append_inj_of_length_eq rfl |>.mpr ⟨retains.ring,rfl⟩
    · intro last isLast
      simp only [List.getLast?_append,List.getLast?_singleton,Option.some_or,Option.mem_def,Option.some.injEq] at isLast
      subst isLast
      exact ⟨onDisk,rfl⟩
    · exact Nat.succ_pos _

theorem retains_failed {after : OutputJournal} (retains : Retains ⟨journal,appended⟩)
    (step : appendChunk lineLen disk journal chunk = (after,none)) : Retains ⟨after,appended⟩ := by
  simp only [appendChunk] at step
  generalize spooled : appendSpool lineLen (disk journal.nextSeq) journal.spoolLimit journal.spool
    ⟨journal.terminalId,journal.streamEpoch,journal.nextSeq,journal.nextSeq,chunk⟩ = result at step
  obtain ⟨spool,taken⟩ := result
  cases taken with
  | true => simp at step
  | false =>
    simp only [Bool.false_eq_true,if_false,Prod.mk.injEq,and_true] at step
    subst step
    obtain ⟨suffix,current⟩ := appendSpool_failed spooled journal.streamEpoch
    constructor
    case below => exact fun frame mem => ⟨(retains.below frame mem).1,Nat.lt_succ_of_lt (retains.below frame mem).2⟩
    case spool => exact suffix.trans retains.spool
    case last =>
      show ∀ frame ∈ appended.getLast?, frame ∈ spool.current ∧ _
      rw [current]
      exact retains.last
    case started => exact Nat.succ_pos _
    case order => exact retains.order
    case ends => exact retains.ends
    case bounded => exact retains.bounded
    case ring => exact retains.ring

theorem retains_chunks {chunks : List (List Char)} (retains : Retains ⟨journal,appended⟩)
    (small : ∀ chunk ∈ chunks, utf8Len chunk ≤ MAX_TRANSPORT_CHUNK_BYTES) :
    Retains ⟨(appendChunks lineLen disk journal chunks).1,appended ++ (appendChunks lineLen disk journal chunks).2.1⟩ := by
  induction chunks generalizing journal appended with
  | nil => simpa [appendChunks] using retains
  | cons chunk rest ih =>
    simp only [appendChunks]
    generalize step : appendChunk lineLen disk journal chunk = result
    obtain ⟨after,frame⟩ := result
    cases frame with
    | none => simpa using retains_failed retains step
    | some frame =>
      have retained := retains_written retains (small chunk List.mem_cons_self) step
      have := ih retained fun chunk mem => small chunk (List.mem_cons_of_mem _ mem)
      simpa using this

/-- A new host reads its next number off the current file, whose last line of the stream is the last frame. -/
theorem retains_reopen (retains : Retains ⟨journal,appended⟩) (incarnation : String) (ringLimit spoolLimit : Nat) :
    Retains ⟨withLimits journal.spool incarnation journal.terminalId journal.streamEpoch ringLimit spoolLimit,
      appended⟩ := by
  have below : ∀ frame ∈ appended, frame.seqStart < seedSequence journal.spool journal.streamEpoch := by
    intro frame mem
    obtain ⟨final,isLast,le⟩ := exists_last_le retains.order mem
    obtain ⟨onDisk,epoch⟩ := retains.last final isLast
    have inSpool : final ∈ journal.spool.ofEpoch journal.streamEpoch := by
      simp only [Spool.ofEpoch,Spool.rows,List.mem_filter,List.mem_append,beq_iff_eq]
      exact ⟨.inr onDisk,epoch⟩
    have seeded := lt_seedSequence inSpool
    rw [retains.ends final (List.mem_of_getLast? isLast)] at seeded
    exact Nat.lt_of_le_of_lt le seeded
  constructor
  case below => exact fun frame mem => ⟨(retains.below frame mem).1,below frame mem⟩
  case ring => exact List.nil_suffix
  case started => exact Nat.succ_pos _
  case order => exact retains.order
  case ends => exact retains.ends
  case bounded => exact retains.bounded
  case spool => exact retains.spool
  case last => exact retains.last

theorem retains_next (history : JournalHistory) (op : JournalOp) (retains : Retains history) :
    Retains (history.next lineLen op) := by
  cases op with
  | append disk data => exact retains_chunks retains fun chunk mem => splitLoop_bounded (by decide) mem
  | reopen incarnation ringLimit spoolLimit => exact retains_reopen retains incarnation ringLimit spoolLimit

/-- In every run of appends and new hosts the journal keeps a last part of what was appended. -/
theorem retains_run {start : JournalHistory} (fresh : Fresh start) (ops : List JournalOp) :
    Retains (run (JournalHistory.next lineLen) start ops) :=
  invariant_reachable retains_next (retains_fresh fresh) ⟨ops,rfl⟩

theorem bySeq_suffix (retains : Retains history) : history.journal.bySeq <:+ history.appended :=
  (indexByKey_suffixes retains.order retains.spool retains.ring).1

theorem bySeq_order (retains : Retains history) : InOrder RuntimeOutputFrame.seqStart history.journal.bySeq :=
  retains.order.suffix (bySeq_suffix retains)

theorem atLeast_retainedFrom (retains : Retains history) :
    atLeast RuntimeOutputFrame.seqStart history.journal.retainedFromSeq history.appended = history.journal.bySeq := by
  obtain ⟨lost,split⟩ := bySeq_suffix retains
  have order : InOrder RuntimeOutputFrame.seqStart (lost ++ history.journal.bySeq) := split ▸ retains.order
  obtain ⟨-,inner,across⟩ := List.pairwise_append.mp order
  have below := retains.below
  rw [← split] at below ⊢
  generalize found : history.journal.bySeq = kept at *
  cases kept with
  | nil =>
    simp only [OutputJournal.retainedFromSeq,found]
    exact atLeast_append (fun frame mem => (below frame (by simpa using mem)).2) nofun
  | cons first rest =>
    simp only [OutputJournal.retainedFromSeq,found]
    refine atLeast_append (fun frame mem => across frame mem first List.mem_cons_self) fun frame mem => ?_
    rcases List.mem_cons.mp mem with rfl | mem
    · exact Nat.le_refl _
    · exact Nat.le_of_lt ((List.pairwise_cons.mp inner).1 frame mem)

end Freshell.SessionHost
