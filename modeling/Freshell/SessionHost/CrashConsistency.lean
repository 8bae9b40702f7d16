import Freshell.SessionHost.SpoolRecovery
import Mathlib.Logic.Equiv.List

/-!
Runs of appends whose writes may fail or stop at any byte, and of new hosts over
what they leave. When a failed write leaves its whole line or nothing of it, and
the next line on disk starts a line and has the number after the last one there,
every new host serves a run of frames without a hole and says what it has lost.
-/
namespace Freshell.SessionHost.Files
open Freshell.Library.OrderedIndex Freshell.Library.TextLines Freshell.Library.Runs

/-- Some append had the text as the chunk of the number. -/
def AppendedUnder (calls : List (Nat × List Char)) (seq : Nat) (data : List Char) : Prop :=
  ∃ call ∈ calls, ∃ i, seq = call.1 + i ∧ (splitUtf8 call.2 MAX_TRANSPORT_CHUNK_BYTES)[i]? = some data

/-- What a page owes its reader. A number that was handed out is on the page or on a
    later one, or the page says that it is lost. -/
structure Answers (history : FileHistory) (afterSeq maxBytes : Nat) (batch : RuntimeOutputBatch) : Prop where
  contiguous : ∃ low, Numbered low batch.frames
  appended : ∀ frame ∈ batch.frames, ∃ source, AppendedUnder history.calls source.seqStart source.data ∧
    frame = pageFrame (pageBudget maxBytes) source
  accounted : ∀ n ∈ history.handedOut, afterSeq < n →
    (n < batch.retainedFromSeq ∧ batch.resetRequired = true) ∨ n ∈ batch.frames.map RuntimeOutputFrame.seqStart ∨
      (batch.truncated = true ∧ batch.frames ≠ [] ∧ ∀ frame ∈ batch.frames, frame.seqStart < n)

def ReadsBack (codec : SpoolCodec) (history : FileHistory) (journal : OpenJournal) : Prop :=
  ∀ afterSeq maxBytes, ∃ batch, read codec journal history.files afterSeq maxBytes = some batch ∧
    Answers history afterSeq maxBytes batch

/-- A new host reads back what is on disk, and so does the running one up to its first failed append. -/
structure CrashConsistent (codec : SpoolCodec) (terminalId streamEpoch : String) (history : FileHistory) : Prop where
  reopened : ∀ incarnationId ringLimit spoolLimit, ∃ journal,
    withLimits codec history.files incarnationId terminalId streamEpoch ringLimit spoolLimit = some journal ∧
      ReadsBack codec history journal
  running : history.failed = false → ∀ journal ∈ history.journal, ReadsBack codec history journal

/-- Some byte of the line may get into the file. -/
def SpoolWrite.writes : SpoolWrite → Bool
  | .renameFails _ => false
  | .openFails => false
  | .torn bytes => decide (0 < bytes)
  | .written => true

/-- The next line has the number after the last one on disk, and starts a line of its file. -/
def Follows (codec : SpoolCodec) (journal : OpenJournal) (files : SpoolFiles) (chunk : List Char) : Prop :=
  seedSequenceFromSpool codec files journal.streamEpoch = some journal.nextSeq ∧
    LineStart (lineFile codec journal.spoolLimit files (journal.frame journal.nextSeq chunk)).current

def WholeOrNone (codec : SpoolCodec) (disk : Nat → SpoolWrite) (journal : OpenJournal) (first : Nat)
    (chunks : List (List Char)) : Prop :=
  ∀ i chunk, chunks[i]? = some chunk → ∀ bytes, disk (first + i) = .torn bytes →
    bytes = 0 ∨ (codec.toVec (journal.frame (first + i) chunk)).length ≤ bytes

/-- An append whose writes leave whole lines or nothing, and that goes on where the files end. -/
def Recoverable (codec : SpoolCodec) (history : FileHistory) : FileOp → Prop
  | .append disk data => ∀ journal ∈ history.journal,
      WholeOrNone codec disk journal journal.nextSeq (splitUtf8 data MAX_TRANSPORT_CHUNK_BYTES) ∧
        ∀ chunk ∈ (splitUtf8 data MAX_TRANSPORT_CHUNK_BYTES).head?, (disk journal.nextSeq).writes = true →
          Follows codec journal history.files chunk
  | .reopen _ _ _ => True

/-- No host of the stream has run yet. The files have whole lines of other streams at most. -/
structure Untouched (codec : SpoolCodec) (streamEpoch : String) (history : FileHistory) : Prop where
  files : ∃ spool, FileHolds codec history.files spool ∧ spool.ofEpoch streamEpoch = []
  journal : history.journal = none
  calls : history.calls = []
  handedOut : history.handedOut = []

variable {frames : List RuntimeOutputFrame}

theorem numbered_map {low : Nat} {shows : RuntimeOutputFrame → RuntimeOutputFrame}
    (same : ∀ frame, (shows frame).seqStart = frame.seqStart) (numbered : Numbered low frames) :
    Numbered low (frames.map shows) := by
  simpa [Numbered,Function.comp_def,same] using numbered

theorem pageFrame_seqStart (budget : Nat) (frame : RuntimeOutputFrame) :
    (pageFrame budget frame).seqStart = frame.seqStart := by
  unfold pageFrame
  split <;> rfl

theorem atLeast_numbered {base low : Nat} (numbered : Numbered base frames) :
    atLeast RuntimeOutputFrame.seqStart low frames = frames.drop (low - base) := by
  have split := List.take_append_drop (low - base) frames
  have parts := numbered
  rw [← split,numbered_append] at parts
  conv => lhs; rw [← split]
  refine atLeast_append (fun frame mem => ?_) fun frame mem => ?_
  · have := parts.1.bounds mem
    rw [List.length_take] at this
    omega
  · have := parts.2.bounds mem
    rw [List.length_take,List.length_drop] at this
    omega

theorem answers_of_suffix {history : FileHistory} {lineage : List RuntimeOutputFrame} {journal : OutputJournal}
    (numbered : Numbered 1 lineage)
    (appended : ∀ frame ∈ lineage, AppendedUnder history.calls frame.seqStart frame.data)
    (handed : ∀ n ∈ history.handedOut, 1 ≤ n ∧ n ≤ lineage.length) (suffix : journal.bySeq <:+ lineage)
    (reaches : journal.bySeq = [] → lineage = []) (afterSeq maxBytes : Nat) :
    Answers history afterSeq maxBytes (journal.read afterSeq maxBytes) := by
  obtain ⟨lost,split⟩ := suffix
  have numbers : Numbered (1 + lost.length) journal.bySeq := by
    rw [← split,numbered_append] at numbered
    exact numbered.2
  have inLineage : ∀ frame ∈ journal.bySeq, frame ∈ lineage := fun frame mem => split ▸ List.mem_append_right _ mem
  have size : lineage.length = lost.length + journal.bySeq.length := by rw [← split,List.length_append]
  have retained : journal.bySeq ≠ [] → journal.retainedFromSeq = 1 + lost.length := by
    intro some
    simp only [OutputJournal.retainedFromSeq]
    cases found : journal.bySeq with
    | nil => exact absurd found some
    | cons first rest =>
      rw [found] at numbers
      have first := congrArg List.head? numbers
      simpa [List.range'_succ] using first
  simp only [OutputJournal.read,atLeast_numbered numbers]
  generalize reset : (decide (journal.headSeq < afterSeq) || decide (afterSeq + 1 < journal.retainedFromSeq)) = isReset
  generalize skip : (if isReset = true then journal.retainedFromSeq - 1 else afterSeq) + 1 - (1 + lost.length) = skipped
  obtain ⟨done,left,parts,out,stop,moved,idle⟩ :=
    readLoop_spec (pageBudget_pos maxBytes) (journal.bySeq.drop skipped) [] 0
  rw [List.nil_append] at out
  have rows : Numbered (1 + lost.length + (journal.bySeq.take skipped).length) (done ++ left) := by
    rw [← List.take_append_drop skipped journal.bySeq,numbered_append] at numbers
    exact parts ▸ numbers.2
  obtain ⟨shown,later⟩ := numbered_append.mp rows
  refine ⟨⟨1 + lost.length + (journal.bySeq.take skipped).length,?_⟩,?_,?_⟩
  · rw [out]
    exact numbered_map (pageFrame_seqStart _) shown
  · simp only [out]
    intro frame mem
    obtain ⟨source,inDone,rfl⟩ := List.mem_map.mp mem
    have inRows : source ∈ journal.bySeq := List.mem_of_mem_drop (parts ▸ List.mem_append_left _ inDone)
    exact ⟨source,appended source (inLineage source inRows),rfl⟩
  · intro n given above
    simp only [out]
    obtain ⟨positive,low⟩ := handed n given
    have some : journal.bySeq ≠ [] := by
      intro none
      simp [reaches none] at low
      omega
    by_cases gone : n < journal.retainedFromSeq
    · refine .inl ⟨gone,?_⟩
      rw [← reset,Bool.or_eq_true,decide_eq_true_eq,decide_eq_true_eq]
      omega
    · have from' := retained some
      obtain ⟨frame,mem,number⟩ := numbers.exists_mem (n := n) (by omega) (by omega)
      have cursor : skipped ≤ n - (1 + lost.length) := by
        rw [← skip]
        split <;> omega
      obtain ⟨frame,mem,number⟩ : ∃ frame ∈ done ++ left, frame.seqStart = n := by
        refine rows.exists_mem ?_ ?_
        · rw [List.length_take]
          omega
        · rw [← parts,List.length_take,List.length_drop]
          omega
      rcases List.mem_append.mp mem with onPage | onLater
      · exact .inr (.inl (by simpa [pageFrame_seqStart] using ⟨frame,onPage,number⟩))
      · refine .inr (.inr ⟨?_,?_,?_⟩)
        · cases more : (readLoop (pageBudget maxBytes) [] 0 (journal.bySeq.drop skipped)).2 with
          | true => simp
          | false =>
            rw [stop more] at onLater
            cases onLater
        · have rowsSome : journal.bySeq.drop skipped ≠ [] := by
            rw [parts]
            exact List.ne_nil_of_mem mem
          simpa [rowsSome] using moved
        · intro shownFrame inPage
          obtain ⟨source,inDone,rfl⟩ := List.mem_map.mp inPage
          have before := (shown.bounds inDone).2
          have after := (later.bounds onLater).1
          rw [pageFrame_seqStart]
          omega

/-- The running journal is of the stream; its ring holds a last part of it until an append fails. -/
structure Serves (streamEpoch : String) (journal : OpenJournal) (lineage : List RuntimeOutputFrame) (failed : Bool) :
    Prop where
  epoch : journal.streamEpoch = streamEpoch
  ring : failed = false → journal.ring <:+ lineage

section
variable {codec : SpoolCodec} {streamEpoch : String}

variable {files : SpoolFiles}

theorem lineFile_start (codec : SpoolCodec) (limit : Nat) (start : LineStart files.current)
    (frame : RuntimeOutputFrame) : LineStart (lineFile codec limit files frame).current := by
  simp only [lineFile,appendSpool]
  split
  · exact .inl rfl
  · exact start

theorem append_lineStart (bytes line : List UInt8) : LineStart (bytes ++ (line ++ [lineFeed])) := by
  refine .inr ?_
  simp

variable {spool : Spool} {lineage : List RuntimeOutputFrame}

theorem appendSpool_none (descends : Descends codec streamEpoch files spool lineage) {disk : SpoolWrite}
    (none : disk.writes = false) (limit : Nat) (frame : RuntimeOutputFrame) :
    (appendSpool codec disk limit files frame).2 = false ∧
      ∃ spool', Descends codec streamEpoch (appendSpool codec disk limit files frame).1 spool' lineage := by
  cases disk with
  | renameFails removed =>
    refine ⟨rfl,?_⟩
    simp only [appendSpool]
    split
    next moves => exact ⟨_,descends.remove (Bool.and_eq_true_iff.mp moves).1⟩
    next => exact ⟨spool,descends⟩
  | openFails => exact ⟨rfl,descends.rotate limit frame⟩
  | torn bytes =>
    simp only [SpoolWrite.writes,decide_eq_false_iff_not,Nat.not_lt,Nat.le_zero] at none
    obtain ⟨spool',moved⟩ := descends.rotate limit frame
    refine ⟨rfl,spool',?_⟩
    simpa [appendSpool,lineFile,none] using moved
  | written => cases none

theorem appendSpool_line (faithful : codec.Faithful) (descends : Descends codec streamEpoch files spool lineage)
    {disk : SpoolWrite} (writes : disk.writes = true) {limit : Nat} {frame : RuntimeOutputFrame}
    (start : LineStart (lineFile codec limit files frame).current)
    (whole : ∀ bytes, disk = .torn bytes → bytes = 0 ∨ (codec.toVec frame).length ≤ bytes)
    (number : frame.seqStart = lineage.length + 1) (ends : frame.seqEnd = frame.seqStart)
    (sameEpoch : frame.streamEpoch = streamEpoch) :
    (∃ spool', Descends codec streamEpoch (appendSpool codec disk limit files frame).1 spool' (lineage ++ [frame])) ∧
      ((appendSpool codec disk limit files frame).2 = true →
        LineStart (appendSpool codec disk limit files frame).1.current) := by
  obtain ⟨spool',moved⟩ := descends.rotate limit frame
  cases disk with
  | renameFails removed => cases writes
  | openFails => cases writes
  | torn bytes =>
    have positive : 0 < bytes := of_decide_eq_true writes
    have long := (whole bytes rfl).resolve_left (Nat.pos_iff_ne_zero.mp positive)
    exact ⟨moved.line faithful start long number ends sameEpoch,nofun⟩
  | written =>
    refine ⟨?_,fun _ => append_lineStart _ _⟩
    have line := moved.line faithful start (Nat.le_succ (codec.toVec frame).length) number ends sameEpoch
    rwa [List.take_of_length_le (by simp)] at line

theorem appendChunk_next (codec : SpoolCodec) (disk : Nat → SpoolWrite) (journal : OpenJournal) (files : SpoolFiles)
    (chunk : List Char) : (appendChunk codec disk journal files chunk).1.nextSeq = journal.nextSeq + 1 ∧
      (appendChunk codec disk journal files chunk).1.frame = journal.frame := by
  simp only [appendChunk]
  split <;> exact ⟨rfl,rfl⟩

variable {journal : OpenJournal} {failed : Bool} {disk : Nat → SpoolWrite} {after : OpenJournal} {files' : SpoolFiles}

/-- One chunk of an append that writes its whole line or nothing, and where it
    writes, goes on with the lineage. -/
theorem appendChunk_spec (faithful : codec.Faithful) (descends : Descends codec streamEpoch files spool lineage)
    (serves : Serves streamEpoch journal lineage failed) {chunk : List Char}
    (follows : (disk journal.nextSeq).writes = true → journal.nextSeq = lineage.length + 1 ∧
      LineStart (lineFile codec journal.spoolLimit files (journal.frame journal.nextSeq chunk)).current)
    (whole : ∀ bytes, disk journal.nextSeq = .torn bytes →
      bytes = 0 ∨ (codec.toVec (journal.frame journal.nextSeq chunk)).length ≤ bytes)
    {result : Option RuntimeOutputFrame} (step : appendChunk codec disk journal files chunk = (after,files',result)) :
    ∃ spool' lineage', Descends codec streamEpoch files' spool' lineage' ∧
      Serves streamEpoch after lineage' (failed || result.isNone) ∧
      (lineage' = lineage ∨ lineage' = lineage ++ [journal.frame journal.nextSeq chunk]) ∧
      ∀ frame ∈ result, frame = journal.frame journal.nextSeq chunk ∧ lineage' = lineage ++ [frame] ∧
        after.nextSeq = lineage'.length + 1 ∧ LineStart files'.current := by
  simp only [appendChunk] at step
  cases writes : (disk journal.nextSeq).writes with
  | false =>
    obtain ⟨refused,spool',descends'⟩ :=
      appendSpool_none descends writes journal.spoolLimit (journal.frame journal.nextSeq chunk)
    simp only [refused,Bool.false_eq_true,if_false,Prod.mk.injEq] at step
    obtain ⟨rfl,rfl,rfl⟩ := step
    exact ⟨spool',lineage,descends',⟨serves.epoch,by simp⟩,.inl rfl,nofun⟩
  | true =>
    obtain ⟨number,start⟩ := follows writes
    obtain ⟨⟨spool',descends'⟩,ends⟩ := appendSpool_line faithful descends writes start whole number rfl serves.epoch
    have size : (lineage ++ [journal.frame journal.nextSeq chunk]).length = journal.nextSeq := by simp [number]
    cases taken : (appendSpool codec (disk journal.nextSeq) journal.spoolLimit files
        (journal.frame journal.nextSeq chunk)).2 with
    | false =>
      simp only [taken,Bool.false_eq_true,if_false,Prod.mk.injEq] at step
      obtain ⟨rfl,rfl,rfl⟩ := step
      exact ⟨spool',_,descends',⟨serves.epoch,by simp⟩,.inr rfl,nofun⟩
    | true =>
      simp only [taken,if_true,Prod.mk.injEq] at step
      obtain ⟨rfl,rfl,rfl⟩ := step
      refine ⟨spool',_,descends',⟨serves.epoch,fun fine => ?_⟩,.inr rfl,?_⟩
      · refine (evict_suffix _ _ _).trans ?_
        have kept := serves.ring (by simpa using fine)
        exact List.suffix_append_inj_of_length_eq rfl |>.mpr ⟨kept,rfl⟩
      · intro frame isFrame
        obtain rfl := Option.some.inj isFrame
        exact ⟨rfl,rfl,congrArg (· + 1) size.symm,ends taken⟩

theorem appendChunks_spec (faithful : codec.Faithful) {chunks : List (List Char)}
    (descends : Descends codec streamEpoch files spool lineage) (serves : Serves streamEpoch journal lineage failed)
    (follows : ∀ chunk ∈ chunks.head?, (disk journal.nextSeq).writes = true → journal.nextSeq = lineage.length + 1 ∧
      LineStart (lineFile codec journal.spoolLimit files (journal.frame journal.nextSeq chunk)).current)
    (whole : WholeOrNone codec disk journal journal.nextSeq chunks) {written : List RuntimeOutputFrame} {all : Bool}
    (step : appendChunks codec disk journal files chunks = (after,files',written,all)) :
    ∃ spool' lineage', Descends codec streamEpoch files' spool' lineage' ∧
      Serves streamEpoch after lineage' (failed || !all) ∧ lineage <+: lineage' ∧
      (∀ frame ∈ lineage', frame ∈ lineage ∨
        ∃ i, frame.seqStart = journal.nextSeq + i ∧ chunks[i]? = some frame.data) ∧
      ∀ frame ∈ written, frame ∈ lineage' := by
  induction chunks generalizing files spool lineage journal failed written with
  | nil =>
    simp only [appendChunks,Prod.mk.injEq] at step
    obtain ⟨rfl,rfl,rfl,rfl⟩ := step
    exact ⟨spool,lineage,descends,by simpa using serves,List.prefix_rfl,fun _ mem => .inl mem,nofun⟩
  | cons chunk rest ih =>
    simp only [appendChunks] at step
    generalize one : appendChunk codec disk journal files chunk = result at step
    obtain ⟨middle,files₁,result⟩ := result
    obtain ⟨number,sameFrame⟩ := appendChunk_next codec disk journal files chunk
    simp only [one] at number sameFrame
    obtain ⟨spool₁,lineage₁,descends₁,serves₁,grown,taken⟩ := appendChunk_spec faithful descends serves
      (follows chunk rfl) (whole 0 chunk rfl) one
    have first : ∀ frame ∈ lineage₁, frame ∈ lineage ∨
        ∃ i, frame.seqStart = journal.nextSeq + i ∧ (chunk :: rest)[i]? = some frame.data := by
      intro frame mem
      rcases grown with rfl | rfl
      · exact .inl mem
      · rcases List.mem_append.mp mem with mem | mem
        · exact .inl mem
        · rw [List.mem_singleton.mp mem]
          exact .inr ⟨0,rfl,rfl⟩
    have longer : lineage <+: lineage₁ := by
      rcases grown with rfl | rfl
      · exact List.prefix_rfl
      · exact List.prefix_append _ _
    cases result with
    | none =>
      simp only [Prod.mk.injEq] at step
      obtain ⟨rfl,rfl,rfl,rfl⟩ := step
      exact ⟨spool₁,lineage₁,descends₁,by simpa using serves₁,longer,first,nofun⟩
    | some frame =>
      obtain ⟨rfl,rfl,next,start⟩ := taken frame rfl
      simp only [Prod.mk.injEq] at step
      obtain ⟨rfl,rfl,rfl,rfl⟩ := step
      have later : WholeOrNone codec disk middle middle.nextSeq rest := by
        intro i text found bytes torn
        have position : journal.nextSeq + (i + 1) = middle.nextSeq + i := by omega
        have here := whole (i + 1) text found bytes
        rw [position,← sameFrame] at here
        exact here torn
      obtain ⟨spool',lineage',descends',serves',longer',sources,shown⟩ :=
        ih descends₁ (by simpa using serves₁) (fun chunk _ _ => ⟨next,lineFile_start codec _ start _⟩) later rfl
      refine ⟨spool',lineage',descends',serves',longer.trans longer',fun frame mem => ?_,?_⟩
      · rcases sources frame mem with mem | ⟨i,seq,found⟩
        · exact first frame mem
        · exact .inr ⟨i + 1,by omega,found⟩
      · intro shownFrame mem
        rcases List.mem_cons.mp mem with rfl | mem
        · exact longer'.subset (by simp)
        · exact shown shownFrame mem

/-- What holds in every state of a recoverable run. -/
structure Recovers (codec : SpoolCodec) (streamEpoch : String) (history : FileHistory) (spool : Spool)
    (lineage : List RuntimeOutputFrame) : Prop where
  descends : Descends codec streamEpoch history.files spool lineage
  appended : ∀ frame ∈ lineage, AppendedUnder history.calls frame.seqStart frame.data
  handed : ∀ n ∈ history.handedOut, 1 ≤ n ∧ n ≤ lineage.length
  journal : ∀ journal ∈ history.journal, Serves streamEpoch journal lineage history.failed

variable {history : FileHistory}

theorem Recovers.readsBack (faithful : codec.Faithful) (recovers : Recovers codec streamEpoch history spool lineage)
    (epoch : journal.streamEpoch = streamEpoch) (ring : journal.ring <:+ lineage) :
    ReadsBack codec history journal := by
  intro afterSeq maxBytes
  have descends := recovers.descends
  obtain ⟨suffix,members⟩ := indexByKey_suffixes descends.numbered.inOrder descends.suffix ring
  refine ⟨_,read_eq faithful descends.files journal afterSeq maxBytes,?_⟩
  have bySeq : (journal.withSpool spool).bySeq =
      indexByKey RuntimeOutputFrame.seqStart (spool.ofEpoch streamEpoch ++ journal.ring) := by
    rw [← epoch]
    rfl
  refine answers_of_suffix descends.numbered recovers.appended recovers.handed (bySeq ▸ suffix) (fun none => ?_)
    afterSeq maxBytes
  cases final : lineage.getLast? with
  | none => exact List.getLast?_eq_none_iff.mp final
  | some frame =>
    have mem := (members frame).mpr (.inl (descends.last_mem final))
    rw [← bySeq,none] at mem
    cases mem

theorem Recovers.crashConsistent (faithful : codec.Faithful)
    (recovers : Recovers codec streamEpoch history spool lineage) (terminalId : String) :
    CrashConsistent codec terminalId streamEpoch history := by
  have descends := recovers.descends
  constructor
  · intro incarnationId ringLimit spoolLimit
    simp only [withLimits,seed_eq faithful descends.files,descends.seed,Option.map_some]
    refine ⟨_,rfl,recovers.readsBack faithful rfl List.nil_suffix⟩
  · intro fine journal isOpen
    have serves := recovers.journal journal isOpen
    exact recovers.readsBack faithful serves.epoch (serves.ring fine)

theorem recovers_start (untouched : Untouched codec streamEpoch history) :
    ∃ spool lineage, Recovers codec streamEpoch history spool lineage := by
  obtain ⟨⟨spool,holds,none⟩,closed,noCalls,noNumbers⟩ := untouched
  refine ⟨spool,[],⟨holds,rfl,nofun,by simp [none],nofun⟩,nofun,by simp [noNumbers],by simp [closed]⟩

theorem recovers_next (faithful : codec.Faithful) (terminalId : String) (history : FileHistory) (op : FileOp)
    (recovers : ∃ spool lineage, Recovers codec streamEpoch history spool lineage)
    (recoverable : Recoverable codec history op) :
    ∃ spool lineage, Recovers codec streamEpoch (history.next codec terminalId streamEpoch op) spool lineage := by
  obtain ⟨spool,lineage,recovers⟩ := recovers
  have descends := recovers.descends
  cases op with
  | reopen incarnationId ringLimit spoolLimit =>
    refine ⟨spool,lineage,descends,recovers.appended,recovers.handed,fun journal isOpen => ?_⟩
    simp only [FileHistory.next,withLimits,seed_eq faithful descends.files,descends.seed,Option.map_some,
      Option.mem_def,Option.some.injEq] at isOpen
    subst isOpen
    exact ⟨rfl,fun _ => List.nil_suffix⟩
  | append disk data =>
    cases isOpen : history.journal with
    | none =>
      simp only [FileHistory.next,isOpen]
      exact ⟨spool,lineage,recovers⟩
    | some journal =>
      obtain ⟨whole,follows⟩ := recoverable journal isOpen
      have serves := recovers.journal journal isOpen
      have aligned : ∀ chunk ∈ (splitUtf8 data MAX_TRANSPORT_CHUNK_BYTES).head?,
          (disk journal.nextSeq).writes = true → journal.nextSeq = lineage.length + 1 ∧
            LineStart (lineFile codec journal.spoolLimit history.files (journal.frame journal.nextSeq chunk)).current := by
        intro chunk isHead writes
        obtain ⟨seed,start⟩ := follows chunk isHead writes
        rw [serves.epoch,seed_eq faithful descends.files,descends.seed] at seed
        exact ⟨(Option.some.inj seed).symm,start⟩
      simp only [FileHistory.next,isOpen]
      generalize step : append codec disk journal history.files data = result
      obtain ⟨after,files,written,all⟩ := result
      obtain ⟨spool',lineage',descends',serves',longer,sources,shown⟩ :=
        appendChunks_spec faithful descends serves aligned whole step
      refine ⟨spool',lineage',descends',fun frame mem => ?_,fun n given => ?_,fun journal' isOpen' => ?_⟩
      · rcases sources frame mem with mem | ⟨i,number,found⟩
        · obtain ⟨call,mem,position⟩ := recovers.appended frame mem
          exact ⟨call,List.mem_append_left _ mem,position⟩
        · exact ⟨(journal.nextSeq,data),by simp,i,number,found⟩
      · rcases List.mem_append.mp given with given | given
        · exact ⟨(recovers.handed n given).1,Nat.le_trans (recovers.handed n given).2 longer.length_le⟩
        · split at given
          · obtain ⟨frame,mem,rfl⟩ := List.mem_map.mp given
            have bounds := descends'.numbered.bounds (shown frame mem)
            omega
          · cases given
      · obtain rfl := Option.some.inj isOpen'
        exact serves'

/-- In every run whose failed writes leave whole lines or nothing, and whose lines
    go on where the files end, a new host serves contiguous frames of what was
    appended and reports every number that it cannot serve. -/
theorem crashConsistent_run (faithful : codec.Faithful) (terminalId : String) {start : FileHistory}
    (untouched : Untouched codec streamEpoch start) (ops : List FileOp)
    (recoverable : Along (FileHistory.next codec terminalId streamEpoch) (Recoverable codec) start ops) :
    CrashConsistent codec terminalId streamEpoch (run (FileHistory.next codec terminalId streamEpoch) start ops) := by
  obtain ⟨spool,lineage,recovers⟩ :=
    invariant_run (recovers_next faithful terminalId) (recovers_start untouched) recoverable
  exact recovers.crashConsistent faithful terminalId

end

/-- The part of a line that a torn write leaves is read as a line, and fails every read. -/
theorem read_torn {codec : SpoolCodec} (faithful : codec.Faithful) {torn : List Char} (rows : List RuntimeOutputFrame)
    (printable : Printable torn) (text : torn.all isWhitespace = false) (noFrame : codec.fromStr torn = none)
    (journal : OpenJournal) (previous : List UInt8) (afterSeq maxBytes : Nat) :
    read codec journal ⟨previous,writeLines (rows.map codec.toText) ++ utf8 torn⟩ afterSeq maxBytes = none := by
  have some : utf8 torn ≠ [] := by
    refine utf8_ne_nil ?_
    rintro rfl
    cases text
  have split : lines (writeLines (rows.map codec.toText) ++ utf8 torn) = rows.map codec.toVec ++ [utf8 torn] := by
    rw [lines_writeLines (by simpa using fun row _ => faithful.printable row),lines,
      linesFrom_last (printable_utf8 printable).1,List.nil_append,if_neg some,List.map_map]
    rfl
  have unread : ∀ rows : List RuntimeOutputFrame, readLines codec (rows.map codec.toVec ++ [utf8 torn]) = none := by
    intro rows
    induction rows with
    | nil => simp [readLines,utf8Text_utf8,text,noFrame]
    | cons row rest ih =>
      simp only [List.map_cons,List.cons_append,readLines,SpoolCodec.toVec,utf8Text_utf8] at ih ⊢
      simp [faithful.not_blank row,faithful.roundTrip row,ih]
  simp only [read,split,unread]
  cases readLines codec (lines previous) <;> rfl

/-- The first two frames of a terminal, and the lines that JSON makes of them. -/
def frameA : RuntimeOutputFrame := ⟨"t","e",1,1,['a']⟩
def frameB : RuntimeOutputFrame := ⟨"t","e",2,2,['b']⟩
def textA : List Char := "\x7b\"frame\":\x7b\"terminalId\":\"t\",\"streamEpoch\":\"e\",\"seqStart\":1,\"seqEnd\":1,\"data\":\"a\"\x7d\x7d".toList
def textB : List Char := "\x7b\"frame\":\x7b\"terminalId\":\"t\",\"streamEpoch\":\"e\",\"seqStart\":2,\"seqEnd\":2,\"data\":\"b\"\x7d\x7d".toList

abbrev FrameCode := List ℕ × List ℕ × ℕ × ℕ × List ℕ

def frameCode (frame : RuntimeOutputFrame) : FrameCode :=
  (frame.terminalId.toList.map Char.toNat,frame.streamEpoch.toList.map Char.toNat,frame.seqStart,frame.seqEnd,
    frame.data.map Char.toNat)

def codeFrame (code : FrameCode) : RuntimeOutputFrame :=
  ⟨String.ofList (code.1.map Char.ofNat),String.ofList (code.2.1.map Char.ofNat),code.2.2.1,code.2.2.2.1,
    code.2.2.2.2.map Char.ofNat⟩

/-- A codec that does with the two frames what JSON does, and writes any other as the tally of its code. -/
def exampleCodec : SpoolCodec where
  toText frame :=
    if frame = frameA then textA else if frame = frameB then textB
    else '{' :: List.replicate (Encodable.encode (frameCode frame) + 1) '!'
  fromStr text :=
    if text = textA then some frameA else if text = textB then some frameB
    else
      match text with
      | '{' :: '!' :: rest => (Encodable.decode rest.length : Option FrameCode).map codeFrame
      | _ => none

theorem codeFrame_frameCode (frame : RuntimeOutputFrame) : codeFrame (frameCode frame) = frame := by
  have chars : ∀ text : List Char, (text.map Char.toNat).map Char.ofNat = text := by
    intro text
    simp [Function.comp_def]
  simp [codeFrame,frameCode,chars]

theorem toText_frameA : exampleCodec.toText frameA = textA := by simp only [exampleCodec,if_true]

theorem toText_frameB : exampleCodec.toText frameB = textB := by
  have apart : frameB ≠ frameA := fun same => absurd (congrArg RuntimeOutputFrame.seqStart same) (by decide)
  simp only [exampleCodec,if_neg apart,if_true]

theorem texts_of_json : ∀ text ∈ [textA,textB], text[1]? ≠ some '!' ∧ text.head? = some '{' ∧ Printable text := by
  decide +kernel

theorem textB_ne_textA : textB ≠ textA := fun same => absurd (String.toList_injective same) (by decide)

theorem exampleCodec_faithful : exampleCodec.Faithful := by
  -- the second character tells a tally from a line of JSON
  have tally : ∀ rest text, text[1]? ≠ some '!' → '{' :: '!' :: rest ≠ text := by
    rintro rest text apart rfl
    exact apart rfl
  have others : ∀ frame, frame ≠ frameA → frame ≠ frameB →
      exampleCodec.toText frame = '{' :: '!' :: List.replicate (Encodable.encode (frameCode frame)) '!' := by
    intro frame notA notB
    simp only [exampleCodec,if_neg notA,if_neg notB,List.replicate_succ]
  have json := And.intro (texts_of_json textA (by simp)) (texts_of_json textB (by simp))
  refine ⟨fun frame => ?_,fun frame => ?_,fun frame => ?_⟩
  · by_cases isA : frame = frameA
    · rw [isA,toText_frameA]
      simp only [exampleCodec,if_true]
    by_cases isB : frame = frameB
    · rw [isB,toText_frameB]
      simp only [exampleCodec,if_neg textB_ne_textA,if_true]
    rw [others frame isA isB]
    simp only [exampleCodec,if_neg (tally _ textA json.1.1),if_neg (tally _ textB json.2.1),
      List.length_replicate,Encodable.encodek,Option.map_some,codeFrame_frameCode]
  · by_cases isA : frame = frameA
    · rw [isA,toText_frameA]
      exact json.1.2.1
    by_cases isB : frame = frameB
    · rw [isB,toText_frameB]
      exact json.2.2.1
    rw [others frame isA isB]
    rfl
  · by_cases isA : frame = frameA
    · rw [isA,toText_frameA]
      exact json.1.2.2
    by_cases isB : frame = frameB
    · rw [isB,toText_frameB]
      exact json.2.2.2
    rw [others frame isA isB]
    intro c mem
    rcases List.mem_cons.mp mem with rfl | mem
    · decide
    · rw [← List.replicate_succ] at mem
      rw [(List.mem_replicate.mp mem).2]
      decide

def emptyFiles : FileHistory := ⟨⟨[],[]⟩,none,[],[],false⟩

theorem emptyFiles_untouched (codec : SpoolCodec) : Untouched codec "e" emptyFiles :=
  ⟨⟨⟨[],[]⟩,⟨holds_nil,holds_nil⟩,rfl⟩,rfl,rfl,rfl⟩

/-- A write that fails after its whole line, and a new host that goes on. -/
theorem crashConsistent_run_ab :
    CrashConsistent exampleCodec "t" "e" (run (FileHistory.next exampleCodec "t" "e") emptyFiles
      [.reopen "i" 0 0,.append (fun _ => .torn 1000) ['a'],.reopen "i" 0 0]) :=
  crashConsistent_run exampleCodec_faithful "t" (emptyFiles_untouched exampleCodec)
    [.reopen "i" 0 0,.append (fun _ => .torn 1000) ['a'],.reopen "i" 0 0] (by
      refine ⟨trivial,fun journal isOpen => ?_,trivial,trivial⟩
      obtain rfl := Option.some.inj isOpen
      refine ⟨fun i chunk found bytes torn => ?_,fun chunk isHead _ => ⟨rfl,.inl rfl⟩⟩
      obtain rfl := SpoolWrite.torn.inj torn
      have one : i = 0 := by
        have inRange := (List.getElem?_eq_some_iff.mp found).1
        exact Nat.lt_one_iff.mp inRange
      subst one
      obtain rfl := Option.some.inj found
      exact .inr (by decide))

/-- One byte of the second line is written. The next host does not read anything any more. -/
theorem tornLine_unreadable : ¬∀ codec : SpoolCodec, codec.Faithful → ∀ (terminalId streamEpoch : String)
    (start : FileHistory), Untouched codec streamEpoch start → ∀ ops,
      CrashConsistent codec terminalId streamEpoch (run (FileHistory.next codec terminalId streamEpoch) start ops) := by
  intro always
  have consistent := always exampleCodec exampleCodec_faithful "t" "e" emptyFiles (emptyFiles_untouched _)
    [.reopen "i" 0 0,.append (fun seq => if seq = 2 then .torn 1 else .written) ['a'],
      .append (fun seq => if seq = 2 then .torn 1 else .written) ['b']]
  have files : (run (FileHistory.next exampleCodec "t" "e") emptyFiles
      [.reopen "i" 0 0,.append (fun seq => if seq = 2 then .torn 1 else .written) ['a'],
        .append (fun seq => if seq = 2 then .torn 1 else .written) ['b']]).files =
      ⟨[],writeLines ([frameA].map exampleCodec.toText) ++ utf8 ['{']⟩ := by
    rw [List.map_singleton,toText_frameA]
    decide +kernel
  obtain ⟨journal,-,reads⟩ := consistent.reopened "i" 0 0
  obtain ⟨batch,read,-⟩ := reads 0 1
  rw [files,read_torn exampleCodec_faithful [frameA] (by decide) (by decide) (by decide)] at read
  cases read

end Freshell.SessionHost.Files
