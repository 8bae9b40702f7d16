import Freshell.SessionHost.Paging

/-!
A journal whose spool took every frame. Its frames are numbered from 1 without a hole, so
that a page which cuts none of them shows those from its cursor on, or from the earliest
retained position on.
-/
namespace Freshell.SessionHost
open Freshell.Library.OrderedIndex

/-- The frames have the numbers from 1 on, each its own. -/
structure Consecutive (frames : List RuntimeOutputFrame) : Prop where
  starts : frames.map RuntimeOutputFrame.seqStart = List.range' 1 frames.length
  ends : ∀ frame ∈ frames, frame.seqEnd = frame.seqStart

theorem consecutive_nil : Consecutive [] := ⟨rfl,fun _ mem => nomatch mem⟩

variable {frames : List RuntimeOutputFrame} {frame : RuntimeOutputFrame}

theorem Consecutive.append (numbered : Consecutive frames) (start : frame.seqStart = frames.length + 1)
    (single : frame.seqEnd = frame.seqStart) : Consecutive (frames ++ [frame]) where
  starts := by
    rw [List.map_append,numbered.starts,List.length_append,List.length_singleton,List.range'_concat]
    simp [start,Nat.add_comm]
  ends other mem := by
    obtain earlier | new := List.mem_append.mp mem
    · exact numbered.ends other earlier
    · exact List.mem_singleton.mp new ▸ single

theorem Consecutive.get (numbered : Consecutive frames) {i : Nat} (h : i < frames.length) :
    frames[i].seqStart = i + 1 := by
  have same := congrArg (fun list => list[i]?) numbered.starts
  simp only [List.getElem?_map,List.getElem?_eq_getElem h,Option.map_some] at same
  rw [List.getElem?_eq_getElem (by simpa using h),List.getElem_range'] at same
  have := Option.some.inj same
  omega

theorem Consecutive.mem_drop (numbered : Consecutive frames) {k : Nat} (mem : frame ∈ frames.drop k) :
    k < frame.seqStart := by
  obtain ⟨i,inside,rfl⟩ := List.getElem_of_mem mem
  rw [List.length_drop] at inside
  rw [List.getElem_drop,numbered.get (by omega)]
  omega

theorem Consecutive.mem_take (numbered : Consecutive frames) {k : Nat} (mem : frame ∈ frames.take k) :
    frame.seqStart ≤ k := by
  obtain ⟨i,inside,rfl⟩ := List.getElem_of_mem mem
  rw [List.length_take] at inside
  rw [List.getElem_take,numbered.get (by omega)]
  omega

structure Complete (history : JournalHistory) : Prop where
  retains : Retains history
  numbered : Consecutive history.appended
  next : history.journal.nextSeq = history.appended.length + 1
  epoch : ∀ frame ∈ history.appended, frame.streamEpoch = history.journal.streamEpoch

variable {history : JournalHistory}

theorem Complete.bySeq_eq (complete : Complete history) :
    history.journal.bySeq = history.appended.drop (history.journal.retainedFromSeq - 1) ∧
      0 < history.journal.retainedFromSeq ∧ history.journal.retainedFromSeq ≤ history.appended.length + 1 := by
  obtain ⟨gone,split⟩ := bySeq_suffix complete.retains
  cases kept : history.journal.bySeq with
  | nil =>
    have from_ : history.journal.retainedFromSeq = history.appended.length + 1 := by
      simp [OutputJournal.retainedFromSeq,kept,complete.next]
    rw [from_]
    simp
  | cons first rest =>
    have from_ : history.journal.retainedFromSeq = first.seqStart := by
      simp [OutputJournal.retainedFromSeq,kept]
    rw [kept] at split
    have inside : gone.length < history.appended.length := by rw [← split]; simp
    have number := complete.numbered.get inside
    have front : history.appended[gone.length] = first := by simp [← split]
    rw [front] at number
    rw [from_,number]
    refine ⟨?_,by omega,by omega⟩
    rw [← split]
    simp

/-- Something is retained of a host that has put something out: the last frame at least. -/
theorem Complete.retains_some (complete : Complete history) (output : history.appended ≠ []) :
    history.journal.bySeq ≠ [] := by
  intro none_
  have isLast := List.getLast?_eq_getLast_of_ne_nil output
  obtain ⟨onDisk,epoch⟩ := complete.retains.last _ isLast
  have inSpool : history.appended.getLast output ∈ history.journal.spool.ofEpoch history.journal.streamEpoch := by
    simp only [Spool.ofEpoch,Spool.rows,List.mem_filter,List.mem_append,beq_iff_eq]
    exact ⟨.inr onDisk,epoch⟩
  have indexed : ∃ kept ∈ history.journal.bySeq, kept.seqStart = (history.appended.getLast output).seqStart :=
    exists_mem_indexByKey (List.mem_append_left history.journal.ring inSpool)
  obtain ⟨kept,listed,-⟩ := indexed
  rw [none_] at listed
  cases listed

theorem pageFrame_whole {budget : Nat} (positive : 0 < budget)
    (fits : utf8Len frame.data ≤ budget ∨ frame.data.length = 1) : pageFrame budget frame = frame := by
  obtain ⟨isPrefix,length⟩ := pageFrame_data positive frame
  have data := isPrefix.eq_of_length (length.mpr fits)
  unfold pageFrame at data ⊢
  split at data
  next large =>
    rw [if_pos large]
    exact congrArg (fun data => { frame with data := data }) data
  next small => rw [if_neg small]

theorem readLoop_whole (maxBytes : Nat) {rows : List RuntimeOutputFrame}
    (fits : ∀ frame ∈ rows, utf8Len frame.data ≤ pageBudget maxBytes ∨ frame.data.length = 1) :
    ∃ n, n ≤ rows.length ∧ (readLoop (pageBudget maxBytes) [] 0 rows).1 = rows.take n ∧ (rows ≠ [] → 0 < n) := by
  obtain ⟨done,left,split,out,-,moved,-⟩ := readLoop_spec (pageBudget_pos maxBytes) rows [] 0
  refine ⟨done.length,by simp [split],?_,fun some => ?_⟩
  · rw [out,List.nil_append,split,List.take_left']
    · refine (List.map_congr_left fun frame mem => ?_).trans (List.map_id _)
      exact pageFrame_whole (pageBudget_pos maxBytes) (fits frame (by simp [split,mem]))
    · rfl
  · obtain none_ | shown | progress := moved
    · exact absurd none_ some
    · exact absurd rfl shown
    · exact List.length_pos_iff.mpr progress

/-- What a read of the journal shows: frames from the cursor on, or from the earliest retained
    position on, with a frame at least. -/
theorem Complete.read_spec (complete : Complete history) {afterSeq maxBytes : Nat}
    (fits : ∀ frame ∈ history.journal.bySeq, utf8Len frame.data ≤ pageBudget maxBytes ∨ frame.data.length = 1)
    (within_ : afterSeq ≤ history.appended.length) : ∃ start n, start + n ≤ history.appended.length ∧
      (history.journal.read afterSeq maxBytes).frames = (history.appended.drop start).take n ∧
      ((history.journal.read afterSeq maxBytes).resetRequired = false → start = afterSeq ∧
        history.journal.retainedFromSeq ≤ afterSeq + 1) ∧
      ((history.journal.read afterSeq maxBytes).resetRequired = true →
        start = history.journal.retainedFromSeq - 1 ∧ afterSeq < start) ∧
      (start < history.appended.length → 0 < n) := by
  obtain ⟨bySeq,positive,above⟩ := complete.bySeq_eq
  have head : history.journal.headSeq = history.appended.length := by
    simp [OutputJournal.headSeq,complete.next]
  -- Frames from a position inside the retained range on.
  have from_ (start : Nat) (inside : history.journal.retainedFromSeq ≤ start + 1) :
      atLeast RuntimeOutputFrame.seqStart (start + 1) history.journal.bySeq = history.appended.drop start := by
    have split : history.journal.bySeq = (history.appended.take start).drop (history.journal.retainedFromSeq - 1) ++
        history.appended.drop start := by
      rw [bySeq,← List.drop_append_of_le_length (by rw [List.length_take]; omega),List.take_append_drop]
    rw [split]
    refine atLeast_append (fun frame mem => ?_) (fun frame mem => ?_)
    · exact Nat.lt_succ_of_le (complete.numbered.mem_take (List.mem_of_mem_drop mem))
    · exact complete.numbered.mem_drop mem
  have page (start : Nat) (inside : history.journal.retainedFromSeq ≤ start + 1) (le : start ≤ history.appended.length) :
      ∃ n, start + n ≤ history.appended.length ∧
        (readLoop (pageBudget maxBytes) [] 0
          (atLeast RuntimeOutputFrame.seqStart (start + 1) history.journal.bySeq)).1 =
            (history.appended.drop start).take n ∧ (start < history.appended.length → 0 < n) := by
    rw [from_ start inside]
    have whole (frame : RuntimeOutputFrame) (mem : frame ∈ history.appended.drop start) :
        utf8Len frame.data ≤ pageBudget maxBytes ∨ frame.data.length = 1 := by
      refine fits frame ?_
      rw [bySeq]
      exact (List.drop_suffix_drop_left _ (by omega)).mem mem
    obtain ⟨n,le,frames,progress⟩ := readLoop_whole maxBytes whole
    rw [List.length_drop] at le
    refine ⟨n,by omega,frames,fun some => progress ?_⟩
    exact List.ne_nil_of_length_pos (by rw [List.length_drop]; omega)
  simp only [OutputJournal.read,head]
  by_cases reset : afterSeq + 1 < history.journal.retainedFromSeq
  · obtain ⟨n,le,frames,progress⟩ := page (history.journal.retainedFromSeq - 1) (by omega) (by omega)
    refine ⟨_,n,le,?_,fun no => ?_,fun _ => ⟨rfl,by omega⟩,progress⟩
    · simpa [reset] using frames
    · simp [reset] at no
  · obtain ⟨n,le,frames,progress⟩ := page afterSeq (by omega) within_
    have inRange : ¬ history.appended.length < afterSeq := by omega
    refine ⟨_,n,le,?_,fun _ => ⟨rfl,by omega⟩,fun yes => ?_,progress⟩
    · simpa [reset,inRange] using frames
    · simp [reset,inRange] at yes

variable (lineLen : RuntimeOutputFrame → Nat) {disk : Nat → SpoolOutcome} {journal : OutputJournal}
  {appended : List RuntimeOutputFrame}

theorem Complete.appendChunk (written : ∀ seq, disk seq = .written) (complete : Complete ⟨journal,appended⟩)
    {chunk : List Char} (small : utf8Len chunk ≤ MAX_TRANSPORT_CHUNK_BYTES) :
    ∃ after frame, SessionHost.appendChunk lineLen disk journal chunk = (after,some frame) ∧
      Complete ⟨after,appended ++ [frame]⟩ ∧ after.streamEpoch = journal.streamEpoch := by
  have taken : ∃ spool, appendSpool lineLen (disk journal.nextSeq) journal.spoolLimit journal.spool
      ⟨journal.terminalId,journal.streamEpoch,journal.nextSeq,journal.nextSeq,chunk⟩ = (spool,true) := by
    rw [written]
    simp only [appendSpool]
    split
    · exact ⟨_,rfl⟩
    · exact ⟨_,rfl⟩
  obtain ⟨spool,spooled⟩ := taken
  have step : SessionHost.appendChunk lineLen disk journal chunk =
      ({ journal with
        nextSeq := journal.nextSeq + 1
        spool := spool
        ring := (evict journal.ringLimit
          (journal.ring ++ [⟨journal.terminalId,journal.streamEpoch,journal.nextSeq,journal.nextSeq,chunk⟩])
          (journal.ringBytes + utf8Len chunk)).1
        ringBytes := (evict journal.ringLimit
          (journal.ring ++ [⟨journal.terminalId,journal.streamEpoch,journal.nextSeq,journal.nextSeq,chunk⟩])
          (journal.ringBytes + utf8Len chunk)).2 },
        some ⟨journal.terminalId,journal.streamEpoch,journal.nextSeq,journal.nextSeq,chunk⟩) := by
    simp only [SessionHost.appendChunk,spooled,if_true]
  have next : journal.nextSeq = appended.length + 1 := complete.next
  refine ⟨_,_,step,⟨retains_written complete.retains small step,?_,?_,fun frame mem => ?_⟩,rfl⟩
  · exact complete.numbered.append next rfl
  · show journal.nextSeq + 1 = _
    rw [List.length_append,List.length_singleton,next]
  · obtain earlier | new := List.mem_append.mp mem
    · exact complete.epoch frame earlier
    · rw [List.mem_singleton.mp new]

theorem Complete.appendChunks (written : ∀ seq, disk seq = .written) {chunks : List (List Char)}
    (complete : Complete ⟨journal,appended⟩) (small : ∀ chunk ∈ chunks, utf8Len chunk ≤ MAX_TRANSPORT_CHUNK_BYTES) :
    Complete ⟨(SessionHost.appendChunks lineLen disk journal chunks).1,
        appended ++ (SessionHost.appendChunks lineLen disk journal chunks).2.1⟩ ∧
      (SessionHost.appendChunks lineLen disk journal chunks).1.streamEpoch = journal.streamEpoch := by
  induction chunks generalizing journal appended with
  | nil => simpa [SessionHost.appendChunks] using complete
  | cons chunk rest ih =>
    obtain ⟨after,frame,step,kept,epoch⟩ :=
      complete.appendChunk lineLen written (small chunk List.mem_cons_self)
    obtain ⟨whole,same⟩ := ih kept fun chunk mem => small chunk (List.mem_cons_of_mem _ mem)
    simp only [SessionHost.appendChunks,step]
    refine ⟨?_,same.trans epoch⟩
    simpa using whole

theorem Complete.append (written : ∀ seq, disk seq = .written) (complete : Complete history) (data : List Char) :
    Complete (history.next lineLen (.append disk data)) ∧
      (history.next lineLen (.append disk data)).journal.streamEpoch = history.journal.streamEpoch ∧
      history.appended <+: (history.next lineLen (.append disk data)).appended := by
  have small (chunk : List Char) (mem : chunk ∈ splitUtf8 data MAX_TRANSPORT_CHUNK_BYTES) :
      utf8Len chunk ≤ MAX_TRANSPORT_CHUNK_BYTES := splitLoop_bounded (by decide) mem
  obtain ⟨whole,epoch⟩ := complete.appendChunks lineLen written small
  exact ⟨whole,epoch,List.prefix_append _ _⟩

theorem complete_fresh (fresh : Fresh history) : Complete history := by
  have appended := fresh.appended
  refine ⟨retains_fresh fresh,appended ▸ consecutive_nil,?_,fun frame mem => ?_⟩
  · obtain ⟨spool,incarnation,terminal,epoch,ringLimit,spoolLimit,opened⟩ := fresh.opened
    have empty := fresh.empty
    rw [opened] at empty
    have empty : spool.ofEpoch epoch = [] := empty
    rw [appended,opened]
    show seedSequence spool epoch = 1
    rw [seedSequence,empty]
    rfl
  · rw [appended] at mem
    cases mem

theorem Complete.read_head (complete : Complete history) (maxBytes : Nat) :
    (history.journal.read history.journal.headSeq maxBytes).frames = [] ∧
      (history.journal.read history.journal.headSeq maxBytes).resetRequired = false := by
  obtain ⟨bySeq,positive,above⟩ := complete.bySeq_eq
  have head : history.journal.headSeq = history.appended.length := by simp [OutputJournal.headSeq,complete.next]
  have noReset : ¬ history.journal.headSeq + 1 < history.journal.retainedFromSeq := by omega
  have none_ : atLeast RuntimeOutputFrame.seqStart (history.journal.headSeq + 1) history.journal.bySeq = [] := by
    rw [atLeast,List.filter_eq_nil_iff]
    intro frame mem
    rw [bySeq] at mem
    have below := complete.numbered.mem_take (k := history.appended.length)
      (by rw [List.take_length]; exact List.mem_of_mem_drop mem)
    simp only [decide_eq_true_eq]
    omega
  simp [OutputJournal.read,noReset,none_,readLoop]

end Freshell.SessionHost
