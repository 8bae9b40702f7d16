import Freshell.SessionHost.Numbering
import Freshell.Terminal.ManagedOutput

/-!
A managed terminal mirrors its host. The frames of a stream are numbered from 1 and a
window holds those from a retained position up to the head, so that a page of the host
either continues the window or begins a new one. Only a page that cuts a frame, a reset
without a frame, and a number that was lost at the host break this.
-/
namespace Freshell.Terminal
open Freshell.Library.Runs
open Freshell.SessionHost (OutputJournal RuntimeOutputBatch RuntimeOutputFrame JournalHistory Spool SpoolOutcome withLimits
  Fresh utf8Len pageBudget Consecutive consecutive_nil Complete complete_fresh)

/-! ## What is to hold -/

def Managed.hostFrames (m : Managed) (epoch : String) : List RuntimeOutputFrame :=
  (m.past ++ m.host.appended).filter fun frame => frame.streamEpoch == epoch

def asOutput (terminalId streamId : String) (frame : RuntimeOutputFrame) : TerminalOutput where
  terminalId := terminalId
  streamId := streamId
  seqStart := frame.seqStart
  seqEnd := frame.seqEnd
  data := String.ofList frame.data
  attachRequestId := none
  source := none

/-- The items from a number to another, of those numbered from 1. -/
def slice {Item : Type} (items : List Item) (first last : Nat) : List Item := (items.take last).drop (first - 1)

def marked (output : TerminalOutput) : TerminalOutput := { output with data := resumedMarker ++ output.data }

def withMarker (wasReset : Bool) : List TerminalOutput → List TerminalOutput
  | [] => []
  | first :: rest => (if wasReset then marked first else first) :: rest

def Managed.mirrored (m : Managed) : List TerminalOutput :=
  (slice (m.hostFrames m.terminal.streamId) m.windowFrom m.terminal.shared.headSeq).map
    (asOutput m.terminal.shared.terminalId m.terminal.streamId)

structure MirrorsExactly (m : Managed) : Prop where
  /-- Since the latest reset the host's frames came in, whole and in order. -/
  exact : m.window = withMarker m.wasReset m.mirrored
  numbered : m.window.map TerminalOutput.seqStart = List.range' m.windowFrom m.window.length ∧
    m.windowFrom + m.window.length = m.terminal.shared.headSeq + 1
  /-- No frame of a stream comes in twice, or behind a later one. -/
  once : ∀ epoch, ((m.earlier ++ m.window).filter fun output => output.streamId == epoch).Pairwise
    fun earlier later => earlier.seqStart < later.seqStart
  /-- Nothing comes in under a stream but its own frames. -/
  own : ∀ output ∈ m.earlier ++ m.window, ∃ frame ∈ m.hostFrames output.streamId, frame.seqStart = output.seqStart ∧
    (output.data = String.ofList frame.data ∨ output.data = resumedMarker ++ String.ofList frame.data)
  replay : m.terminal.shared.replay.map RetainedFrame.output <:+ m.window

/-- A step leaves the window, adds the next number to it, or clears it and the replay. -/
def StepsOn (m later : Managed) : Prop :=
  later.earlier = m.earlier ∧ later.windowFrom = m.windowFrom ∧ later.wasReset = m.wasReset ∧
      (later.window = m.window ∨ ∃ output, later.window = m.window ++ [output]) ∨
    later.earlier = m.earlier ++ m.window ∧ later.window = [] ∧ later.terminal.shared.replay = [] ∧
      later.wasReset = true

structure MirrorStep (lineLen : RuntimeOutputFrame → Nat) (m : Managed) (op : ManagedOp) : Prop where
  exact : MirrorsExactly (m.next lineLen op)
  jump : StepsOn m (m.next lineLen op)
  /-- A refresh without new output changes nothing. -/
  idle : ∀ maxBytes answer scan, m.terminal.managedReadInFlight = none →
    m.terminal.streamId = m.host.journal.streamEpoch → m.terminal.shared.headSeq = m.host.journal.headSeq →
      (run (Managed.next lineLen) m [.refreshManagedOutput maxBytes,.answer answer,.adopt,.ingest scan]).terminal.shared =
          m.terminal.shared ∧
        StepsOn m (run (Managed.next lineLen) m [.refreshManagedOutput maxBytes,.answer answer,.adopt,.ingest scan]) ∧
        (run (Managed.next lineLen) m [.refreshManagedOutput maxBytes,.answer answer,.adopt,.ingest scan]).window =
          m.window

/-- The spool takes every frame, no frame is cut, and a host with another stream answers only
    once it has put something out. -/
def Whole (m : Managed) (op : ManagedOp) : Prop :=
  match op,m.terminal.managedReadInFlight with
  | .append disk _,_ => ∀ seq, disk seq = .written
  | .answer (.answered _),some (.asking _ maxBytes) =>
    (∀ frame ∈ m.host.journal.bySeq, utf8Len frame.data ≤ pageBudget maxBytes ∨ frame.data.length = 1) ∧
      (m.terminal.streamId ≠ m.host.journal.streamEpoch → m.host.appended ≠ [])
  | _,_ => True

/-! ## The invariant -/

def plainChunk (frame : RuntimeOutputFrame) : ManagedOutputChunk where
  seqStart := frame.seqStart
  seqEnd := frame.seqEnd
  data := String.ofList frame.data

def Managed.ingested (m : Managed) : List TerminalOutput := m.earlier ++ m.window

/-- A read of a source: a part of its frames, which continues the window or begins a new one. -/
structure Offers (m : Managed) (read : ManagedOutputRead) (epoch : String) (start n : Nat) : Prop where
  source : read.streamEpoch = some epoch
  known : epoch ∈ m.epochs
  le : start + n ≤ (m.hostFrames epoch).length
  chunks : read.chunks = (((m.hostFrames epoch).drop start).take n).map plainChunk
  continues : read.resetRequired = false → epoch = m.terminal.streamId ∧ start = m.terminal.shared.headSeq
  resets : read.resetRequired = true → start = read.retainedFromSeq - 1 ∧ 0 < n ∧
    (epoch = m.terminal.streamId → m.terminal.shared.headSeq < start)
  unseen : epoch ≠ m.terminal.streamId → ∀ output ∈ m.ingested, output.streamId ≠ epoch
  current : m.terminal.streamId = m.host.journal.streamEpoch → epoch = m.host.journal.streamEpoch

/-- What the phase of a refresh promises of the chunks to come. -/
def Promises (m : Managed) : Option ReadInFlight → Prop
  | none => True
  | some (.asking afterSeq _) => afterSeq = m.terminal.shared.headSeq
  | some (.answered (.error _)) => True
  | some (.answered (.ok read)) =>
    (read.streamEpoch = none ∧ read.resetRequired = false ∧ read.chunks = []) ∨ ∃ epoch start n, Offers m read epoch start n
  | some (.ingesting chunks) => ∃ n, m.terminal.shared.headSeq + n ≤ (m.hostFrames m.terminal.streamId).length ∧
    let coming := (((m.hostFrames m.terminal.streamId).drop m.terminal.shared.headSeq).take n).map plainChunk
    chunks = if m.wasReset = true ∧ m.window = [] then markFirst coming else coming

structure HostKept (m : Managed) : Prop where
  complete : Complete m.host
  older : ∀ epoch, Consecutive (m.past.filter fun frame => frame.streamEpoch == epoch)
  past : ∀ frame ∈ m.past, frame.streamEpoch ≠ m.host.journal.streamEpoch
  epochs : m.host.journal.streamEpoch ∈ m.epochs ∧ ∀ frame ∈ m.past, frame.streamEpoch ∈ m.epochs

structure WindowKept (m : Managed) : Prop where
  head : m.terminal.shared.headSeq ≤ (m.hostFrames m.terminal.streamId).length
  from_ : 0 < m.windowFrom ∧ m.windowFrom ≤ m.terminal.shared.headSeq + 1
  exact : m.window = withMarker m.wasReset m.mirrored
  behind : ∀ output ∈ m.earlier, output.streamId = m.terminal.streamId → output.seqStart < m.windowFrom
  once : ∀ epoch, (m.earlier.filter fun output => output.streamId == epoch).Pairwise
    fun earlier later => earlier.seqStart < later.seqStart
  own : ∀ output ∈ m.earlier, ∃ frame ∈ m.hostFrames output.streamId, frame.seqStart = output.seqStart ∧
    (output.data = String.ofList frame.data ∨ output.data = resumedMarker ++ String.ofList frame.data)
  replay : m.terminal.shared.replay.map RetainedFrame.output <:+ m.window
  opened : m.wasReset = true → m.window = [] →
    ∃ chunk rest, m.terminal.managedReadInFlight = some (.ingesting (chunk :: rest))
  epochs : m.terminal.streamId ∈ m.epochs ∧ ∀ output ∈ m.ingested, output.streamId ∈ m.epochs
  unseen : m.terminal.streamId ≠ m.host.journal.streamEpoch →
    ∀ output ∈ m.ingested, output.streamId ≠ m.host.journal.streamEpoch

structure Mirrors (m : Managed) : Prop where
  host : HostKept m
  window : WindowKept m
  promises : Promises m m.terminal.managedReadInFlight

/-! ### Slices -/

variable {Item : Type} {first last : Nat}

theorem slice_nil (items : List Item) (empty : last < first) : slice items first last = [] := by
  unfold slice
  rw [List.drop_eq_nil_iff,List.length_take]
  omega

theorem slice_length {items : List Item} (le : last ≤ items.length) :
    (slice items first last).length = last - (first - 1) := by
  rw [slice,List.length_drop,List.length_take]
  omega

theorem slice_succ {items : List Item} (le : first ≤ last + 1) (inside : last < items.length) :
    slice items first (last + 1) = slice items first last ++ [items[last]] := by
  rw [slice,slice,List.take_succ_eq_append_getElem inside,List.drop_append_of_le_length]
  rw [List.length_take]
  omega

theorem slice_of_grows {items more : List Item} (grows : items <+: more) (le : last ≤ items.length) :
    slice more first last = slice items first last := by
  obtain ⟨new,rfl⟩ := grows
  rw [slice,slice,List.take_append_of_le_length le]

theorem page_of_grows {items more : List Item} {start n : Nat} (grows : items <+: more) (le : start + n ≤ items.length) :
    (more.drop start).take n = (items.drop start).take n := by
  obtain ⟨new,rfl⟩ := grows
  rw [List.drop_append_of_le_length (by omega),List.take_append_of_le_length]
  rw [List.length_drop]
  omega

variable {wasReset : Bool} {outputs : List TerminalOutput}

theorem withMarker_append (some : outputs ≠ []) (more : List TerminalOutput) :
    withMarker wasReset (outputs ++ more) = withMarker wasReset outputs ++ more := by
  obtain ⟨first,rest,rfl⟩ := List.exists_cons_of_ne_nil some
  rfl

theorem withMarker_map {Field : Type} (field : TerminalOutput → Field) (same : ∀ output, field (marked output) = field output)
    (wasReset : Bool) (outputs : List TerminalOutput) :
    (withMarker wasReset outputs).map field = outputs.map field := by
  cases outputs with
  | nil => rfl
  | cons first rest => cases wasReset <;> simp [withMarker,same]

variable {output : TerminalOutput}

theorem mem_withMarker (mem : output ∈ withMarker wasReset outputs) :
    ∃ plain ∈ outputs, output = plain ∨ output = marked plain := by
  cases outputs with
  | nil => cases mem
  | cons first rest =>
    obtain rfl | later := List.mem_cons.mp mem
    · refine ⟨first,List.mem_cons_self,?_⟩
      split
      · exact .inr rfl
      · exact .inl rfl
    · exact ⟨output,List.mem_cons_of_mem _ later,.inl rfl⟩

/-! ### The host goes on -/

/-- Another host, or more output: what the streams held they hold still. -/
structure Grows (m later : Managed) : Prop where
  frames : ∀ epoch, m.hostFrames epoch <+: later.hostFrames epoch
  epochs : m.epochs ⊆ later.epochs
  host : later.host.journal.streamEpoch = m.host.journal.streamEpoch ∨ later.host.journal.streamEpoch ∉ m.epochs
  terminal : later.terminal = m.terminal
  earlier : later.earlier = m.earlier
  window : later.window = m.window
  windowFrom : later.windowFrom = m.windowFrom
  wasReset : later.wasReset = m.wasReset

variable {m later : Managed}

theorem Grows.mirrored (grows : Grows m later) (head : m.terminal.shared.headSeq ≤ (m.hostFrames m.terminal.streamId).length) :
    later.mirrored = m.mirrored := by
  rw [Managed.mirrored,Managed.mirrored,grows.terminal,grows.windowFrom,
    slice_of_grows (grows.frames m.terminal.streamId) head]

theorem Grows.promises (grows : Grows m later) (known : m.terminal.streamId ∈ m.epochs) {phase : Option ReadInFlight}
    (promises : Promises m phase) : Promises later phase := by
  unfold Promises at promises ⊢
  split at promises
  · trivial
  · rw [grows.terminal]
    exact promises
  · trivial
  · refine promises.imp_right fun ⟨epoch,start,n,offers⟩ => ⟨epoch,start,n,?_⟩
    obtain ⟨source,listed,le,chunks,continues,resets,unseen,current⟩ := offers
    refine ⟨source,grows.epochs listed,Nat.le_trans le (grows.frames epoch).length_le,?_,?_,?_,?_,?_⟩
    · rw [page_of_grows (grows.frames epoch) le]
      exact chunks
    · rw [grows.terminal]
      exact continues
    · rw [grows.terminal]
      exact resets
    · rw [grows.terminal,Managed.ingested,grows.earlier,grows.window]
      exact unseen
    · rw [grows.terminal]
      obtain same | new := grows.host
      · rw [same]
        exact current
      · exact fun now => absurd (now ▸ known) new
  · obtain ⟨n,le,chunks⟩ := promises
    rw [grows.terminal,grows.wasReset,grows.window]
    refine ⟨n,Nat.le_trans le (grows.frames m.terminal.streamId).length_le,?_⟩
    rw [page_of_grows (grows.frames m.terminal.streamId) le]
    exact chunks

theorem WindowKept.grows (kept : WindowKept m) (grows : Grows m later) : WindowKept later where
  head := by
    rw [grows.terminal]
    exact Nat.le_trans kept.head (grows.frames _).length_le
  from_ := by
    rw [grows.windowFrom,grows.terminal]
    exact kept.from_
  exact := by
    rw [grows.window,grows.wasReset,grows.mirrored kept.head]
    exact kept.exact
  behind := by
    rw [grows.earlier,grows.terminal,grows.windowFrom]
    exact kept.behind
  once := by
    rw [grows.earlier]
    exact kept.once
  own output mem := by
    rw [grows.earlier] at mem
    obtain ⟨frame,listed,same⟩ := kept.own output mem
    exact ⟨frame,(grows.frames _).mem listed,same⟩
  replay := by
    rw [grows.terminal,grows.window]
    exact kept.replay
  opened := by
    rw [grows.terminal,grows.window,grows.wasReset]
    exact kept.opened
  epochs := by
    rw [grows.terminal,Managed.ingested,grows.earlier,grows.window]
    exact ⟨grows.epochs kept.epochs.1,fun output mem => grows.epochs (kept.epochs.2 output mem)⟩
  unseen := by
    rw [grows.terminal,Managed.ingested,grows.earlier,grows.window]
    obtain same | new := grows.host
    · rw [same]
      exact kept.unseen
    · exact fun _ output mem same => new (same ▸ kept.epochs.2 output mem)

theorem Mirrors.grows (mirrors : Mirrors m) (grows : Grows m later) (host : HostKept later) : Mirrors later where
  host := host
  window := mirrors.window.grows grows
  promises := by
    rw [grows.terminal]
    exact grows.promises mirrors.window.epochs.1 mirrors.promises

theorem HostKept.hostFrames_current (kept : HostKept m) : m.hostFrames m.host.journal.streamEpoch = m.host.appended := by
  have none_ : (m.past.filter fun frame => frame.streamEpoch == m.host.journal.streamEpoch) = [] := by
    rw [List.filter_eq_nil_iff]
    exact fun frame mem => by simpa using kept.past frame mem
  rw [Managed.hostFrames,List.filter_append,none_,List.nil_append,List.filter_eq_self]
  exact fun frame mem => by simpa using kept.complete.epoch frame mem

variable {epoch : String}

theorem HostKept.hostFrames_past (kept : HostKept m) (other : epoch ≠ m.host.journal.streamEpoch) :
    m.hostFrames epoch = m.past.filter fun frame => frame.streamEpoch == epoch := by
  have none_ : (m.host.appended.filter fun frame => frame.streamEpoch == epoch) = [] := by
    rw [List.filter_eq_nil_iff]
    intro frame mem
    rw [kept.complete.epoch frame mem]
    simpa using Ne.symm other
  rw [Managed.hostFrames,List.filter_append,none_,List.append_nil]

theorem HostKept.numbered (kept : HostKept m) (epoch : String) : Consecutive (m.hostFrames epoch) := by
  by_cases current : epoch = m.host.journal.streamEpoch
  · rw [current,kept.hostFrames_current]
    exact kept.complete.numbered
  · rw [kept.hostFrames_past current]
    exact kept.older epoch

theorem Mirrors.append {lineLen : RuntimeOutputFrame → Nat} (mirrors : Mirrors m) {disk : Nat → SpoolOutcome}
    (written : ∀ seq, disk seq = .written) (data : List Char) :
    Mirrors (m.next lineLen (.append disk data)) := by
  obtain ⟨complete,epoch,isPrefix⟩ := mirrors.host.complete.append lineLen written data
  have kept := mirrors.host
  have frames (stream : String) : m.hostFrames stream <+: (m.next lineLen (.append disk data)).hostFrames stream := by
    obtain ⟨new,more⟩ := isPrefix
    show _ <+: (m.past ++ (m.host.next lineLen (.append disk data)).appended).filter _
    rw [← more,← List.append_assoc,List.filter_append]
    exact List.prefix_append _ _
  have past (frame : RuntimeOutputFrame) (mem : frame ∈ m.past) :
      frame.streamEpoch ≠ (m.host.next lineLen (.append disk data)).journal.streamEpoch :=
    epoch ▸ kept.past frame mem
  refine mirrors.grows ⟨frames,fun _ mem => mem,.inl epoch,rfl,rfl,rfl,rfl,rfl⟩ ⟨complete,kept.older,past,?_⟩
  show (m.host.next lineLen (.append disk data)).journal.streamEpoch ∈ m.epochs ∧ _
  exact ⟨epoch ▸ kept.epochs.1,kept.epochs.2⟩

theorem Mirrors.replaceHost {lineLen : RuntimeOutputFrame → Nat} (mirrors : Mirrors m) (spool : Spool)
    (incarnationId streamEpoch : String) (ringLimit spoolLimit : Nat) :
    Mirrors (m.next lineLen (.replaceHost spool incarnationId streamEpoch ringLimit spoolLimit)) := by
  have kept := mirrors.host
  simp only [Managed.next]
  split
  next new =>
    obtain ⟨fresh,empty⟩ := new
    have complete : Complete
        ⟨withLimits spool incarnationId m.host.journal.terminalId streamEpoch ringLimit spoolLimit,[]⟩ :=
      complete_fresh ⟨⟨_,_,_,_,_,_,rfl⟩,empty,rfl⟩
    have known (frame : RuntimeOutputFrame) (mem : frame ∈ m.past ++ m.host.appended) :
        frame.streamEpoch ∈ m.epochs := by
      obtain old | current := List.mem_append.mp mem
      · exact kept.epochs.2 frame old
      · exact kept.complete.epoch frame current ▸ kept.epochs.1
    have grows : Grows m { m with
        host := ⟨withLimits spool incarnationId m.host.journal.terminalId streamEpoch ringLimit spoolLimit,[]⟩
        past := m.past ++ m.host.appended
        epochs := m.epochs ++ [streamEpoch] } :=
      ⟨fun epoch => by simp [Managed.hostFrames],List.subset_append_left _ _,.inr fresh,rfl,rfl,rfl,rfl,rfl⟩
    refine mirrors.grows grows ⟨complete,kept.numbered,fun frame mem => ?_,?_⟩
    · rintro rfl
      exact fresh (known frame mem)
    · refine ⟨List.mem_append_right _ (List.mem_singleton.mpr rfl),fun frame mem => ?_⟩
      exact List.mem_append_left _ (known frame mem)
  · exact mirrors

/-! ### The phases of a refresh -/

theorem promises_inFlight {phase phase' : Option ReadInFlight} (promises : Promises m phase) :
    Promises (m.inFlight phase') phase := by
  unfold Promises at promises ⊢
  split at promises
  · trivial
  · exact promises
  · trivial
  · refine promises.imp_right fun ⟨epoch,start,n,offers⟩ => ⟨epoch,start,n,?_⟩
    exact ⟨offers.source,offers.known,offers.le,offers.chunks,offers.continues,offers.resets,offers.unseen,offers.current⟩
  · exact promises

theorem Mirrors.not_opened (mirrors : Mirrors m)
    (phase : ∀ chunk rest, m.terminal.managedReadInFlight ≠ some (.ingesting (chunk :: rest))) :
    ¬ (m.wasReset = true ∧ m.window = []) := by
  rintro ⟨wasReset,empty⟩
  obtain ⟨chunk,rest,held⟩ := mirrors.window.opened wasReset empty
  exact phase chunk rest held

theorem Mirrors.inFlight (mirrors : Mirrors m) {phase : Option ReadInFlight}
    (free : ¬ (m.wasReset = true ∧ m.window = [])) (promises : Promises m phase) : Mirrors (m.inFlight phase) := by
  obtain ⟨head,from_,exact_,behind,once,own,replay,-,epochs,unseen⟩ := mirrors.window
  refine ⟨⟨mirrors.host.complete,mirrors.host.older,mirrors.host.past,mirrors.host.epochs⟩,
    ⟨head,from_,exact_,behind,once,own,replay,fun wasReset empty => ?_,epochs,unseen⟩,promises_inFlight promises⟩
  exact absurd ⟨wasReset,empty⟩ free

theorem toChunk_plain {frame : RuntimeOutputFrame} (start : frame.seqStart ≤ i64Max) (single : frame.seqEnd = frame.seqStart) :
    toChunk frame = plainChunk frame := by
  unfold toChunk plainChunk
  rw [single,Nat.min_eq_left start]

variable {facts : ProcessFacts} {read : ManagedOutputRead}

/-- What the controller makes of an answer: a read, if the bounds are those of the code. -/
theorem controllerReadOutput_answered {journal : OutputJournal} {terminalId streamId : String} {resume : Option String}
    {afterSeq maxBytes : Nat}
    (accepted : controllerReadOutput journal (.answered facts) terminalId streamId resume afterSeq maxBytes = .ok read) :
    journal.headSeq ≤ i64Max ∧ read.streamEpoch = some journal.streamEpoch ∧
      read.resetRequired = ((journal.read (if streamId = journal.streamEpoch then afterSeq else 0) maxBytes).resetRequired ||
        streamId != journal.streamEpoch) ∧
      read.retainedFromSeq = min journal.retainedFromSeq i64Max ∧
      read.chunks = (journal.read (if streamId = journal.streamEpoch then afterSeq else 0) maxBytes).frames.map toChunk := by
  have position : (if (streamId != journal.streamEpoch) = true then 0 else afterSeq) =
      if streamId = journal.streamEpoch then afterSeq else 0 := by
    by_cases same : streamId = journal.streamEpoch
    · simp [same]
    · simp [same]
  have reset : ((streamId != journal.streamEpoch) || journal.streamEpoch != streamId) = (streamId != journal.streamEpoch) := by
    by_cases same : streamId = journal.streamEpoch
    · simp [same]
    · simp [same]
  simp only [controllerReadOutput] at accepted
  split at accepted
  · cases accepted
  next valid =>
    obtain rfl := Except.ok.inj accepted
    have bounded : journal.headSeq ≤ i64Max := by
      unfold validate at valid
      split at valid
      · cases valid
      · split at valid
        · cases valid
        next bounds =>
          have notAbove : ¬ i64Max < journal.headSeq := fun above => bounds (.inl above)
          omega
    refine ⟨bounded,rfl,?_,rfl,?_⟩
    · simp only [hostReadOutput,outputReadPosition,Option.any_some,position,Bool.or_assoc]
      congr 1
    · simp only [hostReadOutput,outputReadPosition,Option.any_some,position]

theorem Mirrors.answer (mirrors : Mirrors m) {afterSeq maxBytes : Nat} (asked : afterSeq = m.terminal.shared.headSeq)
    (fits : ∀ frame ∈ m.host.journal.bySeq, utf8Len frame.data ≤ pageBudget maxBytes ∨ frame.data.length = 1)
    (output : m.terminal.streamId ≠ m.host.journal.streamEpoch → m.host.appended ≠ [])
    (accepted : controllerReadOutput m.host.journal (.answered facts) m.terminal.shared.terminalId m.terminal.streamId
      m.terminal.resumeSessionId afterSeq maxBytes = .ok read) :
    ∃ start n, Offers m read m.host.journal.streamEpoch start n := by
  have complete := mirrors.host.complete
  have current := mirrors.host.hostFrames_current
  obtain ⟨bounded,source,reset,retained,chunks⟩ := controllerReadOutput_answered accepted
  obtain ⟨bySeq,positive,above⟩ := complete.bySeq_eq
  have head : m.host.journal.headSeq = m.host.appended.length := by simp [OutputJournal.headSeq,complete.next]
  -- The cursor that the host reads from is within its frames.
  have within_ : (if m.terminal.streamId = m.host.journal.streamEpoch then afterSeq else 0) ≤ m.host.appended.length := by
    split
    next same =>
      have inside := mirrors.window.head
      rw [same,current] at inside
      omega
    · exact Nat.zero_le _
  obtain ⟨start,n,le,frames,continues,resets,progress⟩ := complete.read_spec fits within_
  have plain (frame : RuntimeOutputFrame) (mem : frame ∈ (m.host.appended.drop start).take n) :
      toChunk frame = plainChunk frame := by
    have listed := List.mem_of_mem_drop (List.mem_of_mem_take mem)
    have below := complete.numbered.mem_take (k := m.host.appended.length) (by rwa [List.take_length])
    exact toChunk_plain (by omega) (complete.numbered.ends frame listed)
  have starts (some : m.host.appended ≠ []) : m.host.journal.retainedFromSeq - 1 < m.host.appended.length := by
    have kept := complete.retains_some some
    rw [bySeq] at kept
    simpa using kept
  refine ⟨start,n,source,mirrors.host.epochs.1,current ▸ le,?_,fun no => ?_,fun yes => ?_,fun other => ?_,fun _ => rfl⟩
  · rw [chunks,frames,current]
    exact List.map_congr_left plain
  · rw [reset,Bool.or_eq_false_iff] at no
    have same : m.terminal.streamId = m.host.journal.streamEpoch := by simpa using no.2
    obtain ⟨begins,-⟩ := continues no.1
    rw [if_pos same] at begins
    exact ⟨same.symm,begins.trans asked⟩
  · rw [retained]
    cases again : (m.host.journal.read (if m.terminal.streamId = m.host.journal.streamEpoch then afterSeq else 0)
        maxBytes).resetRequired with
    | true =>
      obtain ⟨begins,ahead⟩ := resets again
      have some : m.host.appended ≠ [] := by
        intro none_
        rw [none_] at above within_
        simp only [List.length_nil] at above within_
        omega
      have inside := starts some
      refine ⟨by omega,progress (by omega),fun same => ?_⟩
      rw [if_pos same.symm] at ahead
      omega
    | false =>
      rw [reset,again,Bool.false_or] at yes
      have other : m.terminal.streamId ≠ m.host.journal.streamEpoch := by simpa using yes
      obtain ⟨begins,first⟩ := continues again
      rw [if_neg other] at begins first
      have inside := starts (output other)
      exact ⟨by omega,progress (by omega),fun same => absurd same.symm other⟩
  · exact mirrors.window.unseen (Ne.symm other)

/-! ### What came in -/

theorem Mirrors.window_mem (mirrors : Mirrors m) (mem : output ∈ m.window) :
    output.streamId = m.terminal.streamId ∧ m.windowFrom ≤ output.seqStart ∧
      output.seqStart ≤ m.terminal.shared.headSeq ∧
      ∃ frame ∈ m.hostFrames m.terminal.streamId, frame.seqStart = output.seqStart ∧
        (output.data = String.ofList frame.data ∨ output.data = resumedMarker ++ String.ofList frame.data) := by
  rw [mirrors.window.exact] at mem
  obtain ⟨plain,listed,shape⟩ := mem_withMarker mem
  obtain ⟨frame,inSlice,rfl⟩ := List.mem_map.mp listed
  have numbered := mirrors.host.numbered m.terminal.streamId
  have onHost := List.mem_of_mem_take (List.mem_of_mem_drop inSlice)
  have below := numbered.mem_take (List.mem_of_mem_drop inSlice)
  have above : m.windowFrom - 1 < frame.seqStart := by
    rw [slice,List.drop_take] at inSlice
    exact numbered.mem_drop (List.mem_of_mem_take inSlice)
  have positive := mirrors.window.from_.1
  obtain rfl | rfl := shape
  · exact ⟨rfl,by show m.windowFrom ≤ frame.seqStart; omega,below,frame,onHost,rfl,.inl rfl⟩
  · exact ⟨rfl,by show m.windowFrom ≤ frame.seqStart; omega,below,frame,onHost,rfl,.inr rfl⟩

theorem slice_starts {frames : List RuntimeOutputFrame} (numbered : Consecutive frames) (positive : 0 < first)
    (le : last ≤ frames.length) :
    (slice frames first last).map RuntimeOutputFrame.seqStart = List.range' first (last - (first - 1)) := by
  refine List.ext_getElem (by simp [slice_length le]) fun i inside _ => ?_
  rw [List.length_map,slice_length le] at inside
  simp only [slice,List.getElem_map,List.getElem_drop,List.getElem_take,List.getElem_range']
  rw [numbered.get (by omega)]
  omega

theorem Mirrors.numbered (mirrors : Mirrors m) :
    m.window.map TerminalOutput.seqStart = List.range' m.windowFrom m.window.length ∧
      m.windowFrom + m.window.length = m.terminal.shared.headSeq + 1 := by
  obtain ⟨positive,below⟩ := mirrors.window.from_
  have starts : m.window.map TerminalOutput.seqStart =
      List.range' m.windowFrom (m.terminal.shared.headSeq - (m.windowFrom - 1)) := by
    rw [mirrors.window.exact,withMarker_map _ (fun _ => rfl),Managed.mirrored,List.map_map]
    exact slice_starts (mirrors.host.numbered m.terminal.streamId) positive mirrors.window.head
  have length := congrArg List.length starts
  rw [List.length_map,List.length_range'] at length
  exact ⟨length ▸ starts,by omega⟩

theorem Mirrors.once (mirrors : Mirrors m) (epoch : String) :
    ((m.earlier ++ m.window).filter fun output => output.streamId == epoch).Pairwise
      fun earlier later => earlier.seqStart < later.seqStart := by
  rw [List.filter_append,List.pairwise_append]
  refine ⟨mirrors.window.once epoch,?_,fun earlier before later after => ?_⟩
  · have ascending : (m.window.map TerminalOutput.seqStart).Pairwise (· < ·) := by
      rw [mirrors.numbered.1]
      exact List.pairwise_lt_range'
    exact (List.pairwise_map.mp ascending).filter _
  · obtain ⟨listed,same⟩ := List.mem_filter.mp before
    obtain ⟨inWindow,stream⟩ := List.mem_filter.mp after
    obtain ⟨own,above,-⟩ := mirrors.window_mem inWindow
    have ofStream : earlier.streamId = m.terminal.streamId := by
      rw [← own,beq_iff_eq.mp same,beq_iff_eq.mp stream]
    have behind := mirrors.window.behind earlier listed ofStream
    omega

theorem Mirrors.own (mirrors : Mirrors m) {output : TerminalOutput} (mem : output ∈ m.earlier ++ m.window) :
    ∃ frame ∈ m.hostFrames output.streamId, frame.seqStart = output.seqStart ∧
      (output.data = String.ofList frame.data ∨ output.data = resumedMarker ++ String.ofList frame.data) := by
  obtain before | inWindow := List.mem_append.mp mem
  · exact mirrors.window.own output before
  · obtain ⟨own,-,-,frame⟩ := mirrors.window_mem inWindow
    rw [own]
    exact frame

theorem Mirrors.exactly (mirrors : Mirrors m) : MirrorsExactly m where
  exact := mirrors.window.exact
  numbered := mirrors.numbered
  once := mirrors.once
  own _ := mirrors.own
  replay := mirrors.window.replay

/-! ### Going over to a source -/

variable {terminal : ManagedTerminal}

theorem adoptSource_ok {adopted : ManagedTerminal} {reset : Bool}
    (taken : adoptSource terminal read = .ok (adopted,reset)) :
    ∃ epochChanged, sourceChanged terminal read = .ok epochChanged ∧ reset = (epochChanged || read.resetRequired) ∧
      adopted.streamId = (if epochChanged then read.streamEpoch.getD terminal.streamId else terminal.streamId) ∧
      adopted.shared.headSeq = (if reset then read.retainedFromSeq - 1 else terminal.shared.headSeq) ∧
      adopted.shared.replay = (if reset then [] else terminal.shared.replay) ∧
      adopted.shared.terminalId = terminal.shared.terminalId ∧ (reset = false → adopted.shared = terminal.shared) := by
  unfold adoptSource at taken
  split at taken
  · cases taken
  · split at taken
    · cases taken
    next epochChanged source =>
      obtain ⟨rfl,rfl⟩ := Prod.mk.inj (Except.ok.inj taken)
      refine ⟨epochChanged,source,rfl,?_⟩
      cases epochChanged
      · cases read.resetRequired
        · exact ⟨rfl,rfl,rfl,rfl,fun _ => rfl⟩
        · exact ⟨rfl,rfl,rfl,rfl,nofun⟩
      · exact ⟨rfl,rfl,rfl,rfl,nofun⟩

variable {changed : Bool}

theorem sourceChanged_some (source : read.streamEpoch = some epoch) (known : sourceChanged terminal read = .ok changed) :
    changed = (terminal.streamId != epoch) := by
  unfold sourceChanged at known
  rw [source] at known
  split at known
  next other _ isSource _ =>
    obtain rfl := Option.some.inj isSource
    split at known
    · exact (Except.ok.inj known).symm
    · cases known
  next none_ _ => cases none_
  · cases known

theorem sourceChanged_none (source : read.streamEpoch = none) (known : sourceChanged terminal read = .ok changed) :
    changed = false := by
  unfold sourceChanged at known
  rw [source] at known
  split at known
  next isSource _ => cases isSource
  · split at known
    · exact (Except.ok.inj known).symm
    · cases known
  · cases known

theorem Mirrors.adopt (mirrors : Mirrors m) (phase : m.terminal.managedReadInFlight = some (.answered (.ok read))) :
    Mirrors (m.adopt read) := by
  have free : ¬ (m.wasReset = true ∧ m.window = []) := mirrors.not_opened fun chunk rest held => by simp [phase] at held
  have promises := mirrors.promises
  rw [phase] at promises
  unfold Managed.adopt
  cases taken : adoptSource m.terminal read with
  | error error => exact mirrors.inFlight free trivial
  | ok result =>
    obtain ⟨terminal,reset⟩ := result
    obtain ⟨epochChanged,source,isReset,streamId,headSeq,replay,terminalId,-⟩ := adoptSource_ok taken
    have window := mirrors.window
    cases reset with
    | false =>
      -- The window goes on under the same stream.
      obtain ⟨rfl,noReset⟩ := Bool.or_eq_false_iff.mp isReset.symm
      simp only [Bool.false_eq_true,if_false] at streamId headSeq replay
      have same : Managed.mirrored { m with
          terminal := { terminal with managedReadInFlight := some (.ingesting read.chunks) } } = m.mirrored := by
        show (slice (m.hostFrames terminal.streamId) m.windowFrom terminal.shared.headSeq).map
          (asOutput terminal.shared.terminalId terminal.streamId) = _
        rw [streamId,headSeq,terminalId]
        rfl
      refine ⟨⟨mirrors.host.complete,mirrors.host.older,mirrors.host.past,mirrors.host.epochs⟩,
        ⟨?_,?_,?_,?_,window.once,window.own,?_,fun wasReset empty => absurd ⟨wasReset,empty⟩ free,?_,?_⟩,?_⟩
      · show terminal.shared.headSeq ≤ (m.hostFrames terminal.streamId).length
        rw [streamId,headSeq]
        exact window.head
      · show 0 < m.windowFrom ∧ m.windowFrom ≤ terminal.shared.headSeq + 1
        rw [headSeq]
        exact window.from_
      · rw [same]
        exact window.exact
      · show ∀ output ∈ m.earlier, output.streamId = terminal.streamId → output.seqStart < m.windowFrom
        rw [streamId]
        exact window.behind
      · show terminal.shared.replay.map RetainedFrame.output <:+ m.window
        rw [replay]
        exact window.replay
      · show terminal.streamId ∈ m.epochs ∧ ∀ output ∈ m.ingested, output.streamId ∈ m.epochs
        rw [streamId]
        exact window.epochs
      · show terminal.streamId ≠ m.host.journal.streamEpoch → _
        rw [streamId]
        exact window.unseen
      · show ∃ n, terminal.shared.headSeq + n ≤ (m.hostFrames terminal.streamId).length ∧
          read.chunks = if m.wasReset = true ∧ m.window = [] then
            markFirst ((((m.hostFrames terminal.streamId).drop terminal.shared.headSeq).take n).map plainChunk)
          else (((m.hostFrames terminal.streamId).drop terminal.shared.headSeq).take n).map plainChunk
        rw [streamId,headSeq]
        obtain ⟨-,-,none_⟩ | ⟨epoch,start,n,offers⟩ := promises
        · exact ⟨0,window.head,by rw [if_neg free]; simp [none_]⟩
        · obtain ⟨rfl,rfl⟩ := offers.continues noReset
          exact ⟨n,offers.le,by rw [if_neg free]; exact offers.chunks⟩
    | true =>
      -- A new window begins ahead of the first frame of the read.
      obtain ⟨none_,noReset,-⟩ | ⟨epoch,start,n,offers⟩ := promises
      · rw [sourceChanged_none none_ source,noReset] at isReset
        cases isReset
      have changed := sourceChanged_some offers.source source
      have resets : read.resetRequired = true := by
        by_contra noReset
        obtain ⟨same,-⟩ := offers.continues (by simpa using noReset)
        rw [changed,same] at isReset
        simp [noReset] at isReset
      obtain ⟨begins,some,ahead⟩ := offers.resets resets
      have goes : terminal.streamId = epoch := by
        rw [streamId,changed,offers.source]
        by_cases same : m.terminal.streamId = epoch
        · simp [same]
        · simp [same]
      simp only [if_true] at headSeq replay
      rw [← begins] at headSeq
      have le := offers.le
      -- What came in under this stream is behind the new window.
      have behind (output : TerminalOutput) (mem : output ∈ m.ingested) (ofStream : output.streamId = epoch) :
          output.seqStart < start + 1 := by
        by_cases same : epoch = m.terminal.streamId
        · have beyond := ahead same
          obtain before | inWindow := List.mem_append.mp mem
          · have low := window.behind output before (ofStream.trans same)
            have := window.from_.2
            omega
          · obtain ⟨-,-,high,-⟩ := mirrors.window_mem inWindow
            omega
        · exact absurd ofStream (offers.unseen same output mem)
      refine ⟨⟨mirrors.host.complete,mirrors.host.older,mirrors.host.past,mirrors.host.epochs⟩,
        ⟨?_,⟨Nat.succ_pos _,Nat.le_refl _⟩,?_,?_,mirrors.once,fun _ => mirrors.own,?_,fun _ _ => ?_,?_,?_⟩,?_⟩
      · show terminal.shared.headSeq ≤ (m.hostFrames terminal.streamId).length
        rw [goes,headSeq]
        omega
      · show [] = withMarker true ((slice _ (terminal.shared.headSeq + 1) terminal.shared.headSeq).map _)
        rw [slice_nil _ (Nat.lt_succ_self _)]
        rfl
      · show ∀ output ∈ m.ingested, output.streamId = terminal.streamId → output.seqStart < terminal.shared.headSeq + 1
        rw [goes,headSeq]
        exact behind
      · show terminal.shared.replay.map RetainedFrame.output <:+ []
        rw [replay]
        exact List.nil_suffix
      · have first : ((m.hostFrames epoch).drop start).take n ≠ [] := by
          apply List.ne_nil_of_length_pos
          rw [List.length_take,List.length_drop]
          omega
        obtain ⟨frame,rest,shape⟩ := List.exists_cons_of_ne_nil first
        rw [offers.chunks,shape]
        exact ⟨_,_,rfl⟩
      · show terminal.streamId ∈ m.epochs ∧ ∀ output ∈ m.ingested ++ [], output.streamId ∈ m.epochs
        rw [goes,List.append_nil]
        exact ⟨offers.known,window.epochs.2⟩
      · show terminal.streamId ≠ m.host.journal.streamEpoch →
          ∀ output ∈ m.ingested ++ [], output.streamId ≠ m.host.journal.streamEpoch
        rw [goes,List.append_nil]
        exact fun other => window.unseen fun own => other (offers.current own)
      · show ∃ n, terminal.shared.headSeq + n ≤ (m.hostFrames terminal.streamId).length ∧
          markFirst read.chunks = if true = true ∧ ([] : List TerminalOutput) = [] then
            markFirst ((((m.hostFrames terminal.streamId).drop terminal.shared.headSeq).take n).map plainChunk)
          else (((m.hostFrames terminal.streamId).drop terminal.shared.headSeq).take n).map plainChunk
        rw [goes,headSeq]
        exact ⟨n,le,by rw [if_pos ⟨rfl,rfl⟩,offers.chunks]⟩

/-! ### Ingesting -/

theorem evict_suffix (maxChars chars : Nat) (frames : List RetainedFrame) : (evict maxChars chars frames).2 <:+ frames := by
  obtain ⟨gone,split,-⟩ := evict_split maxChars chars frames
  exact ⟨gone,split.symm⟩

/-- The chunk that is next is the host's next frame, with the marker where a window begins. -/
theorem Mirrors.ingest (mirrors : Mirrors m) {chunk : ManagedOutputChunk} {rest : List ManagedOutputChunk}
    (phase : m.terminal.managedReadInFlight = some (.ingesting (chunk :: rest))) (scan : Scan) :
    Mirrors (ingestManagedOutput (m.inFlight (some (.ingesting rest))) chunk scan) ∧
      ∃ output, (ingestManagedOutput (m.inFlight (some (.ingesting rest))) chunk scan).window = m.window ++ [output] := by
  have window := mirrors.window
  have promises := mirrors.promises
  rw [phase] at promises
  obtain ⟨n,le,chunks⟩ := promises
  have numbered := mirrors.host.numbered m.terminal.streamId
  generalize held : m.hostFrames m.terminal.streamId = frames at numbered le chunks
  have room : 0 < n := by
    rcases Nat.eq_zero_or_pos n with rfl | positive
    · simp [markFirst] at chunks
    · exact positive
  have inside : m.terminal.shared.headSeq < frames.length := by omega
  -- The frames to come are the next one and the others.
  have coming : ((frames.drop m.terminal.shared.headSeq).take n).map plainChunk =
      plainChunk frames[m.terminal.shared.headSeq] ::
        ((frames.drop (m.terminal.shared.headSeq + 1)).take (n - 1)).map plainChunk := by
    rw [List.drop_eq_getElem_cons inside]
    obtain ⟨k,rfl⟩ := Nat.exists_eq_succ_of_ne_zero (Nat.pos_iff_ne_zero.mp room)
    rfl
  rw [coming] at chunks
  have begins : frames[m.terminal.shared.headSeq].seqStart = m.terminal.shared.headSeq + 1 := numbered.get inside
  have single : frames[m.terminal.shared.headSeq].seqEnd = m.terminal.shared.headSeq + 1 := by
    rw [numbered.ends _ (List.getElem_mem inside),begins]
  have shape : chunk.seqEnd = m.terminal.shared.headSeq + 1 ∧
      managedOutput m.terminal chunk = (if m.wasReset = true ∧ m.window = [] then marked else id)
        (asOutput m.terminal.shared.terminalId m.terminal.streamId frames[m.terminal.shared.headSeq]) ∧
      rest = ((frames.drop (m.terminal.shared.headSeq + 1)).take (n - 1)).map plainChunk := by
    split at chunks
    next opens =>
      obtain ⟨rfl,rfl⟩ := List.cons.inj chunks
      exact ⟨single,by rw [if_pos opens]; rfl,rfl⟩
    next goesOn =>
      obtain ⟨rfl,rfl⟩ := List.cons.inj chunks
      exact ⟨single,by rw [if_neg goesOn]; rfl,rfl⟩
  obtain ⟨seqEnd,output,others⟩ := shape
  have new : ¬ chunk.seqEnd ≤ (m.inFlight (some (.ingesting rest))).terminal.shared.headSeq := by
    show ¬ chunk.seqEnd ≤ m.terminal.shared.headSeq
    omega
  unfold ingestManagedOutput
  rw [if_neg new]
  refine ⟨?_,_,rfl⟩
  have head : (Terminal.ingest m.terminal.shared (retained (managedOutput m.terminal chunk) scan) scan.modes).headSeq =
      m.terminal.shared.headSeq + 1 := by
    show max m.terminal.shared.headSeq chunk.seqEnd = _
    omega
  have exact_ : m.window ++ [managedOutput m.terminal chunk] = withMarker m.wasReset
      ((slice frames m.windowFrom (m.terminal.shared.headSeq + 1)).map
        (asOutput m.terminal.shared.terminalId m.terminal.streamId)) := by
    rw [slice_succ window.from_.2 inside,List.map_append,List.map_singleton]
    have soFar : m.mirrored = (slice frames m.windowFrom m.terminal.shared.headSeq).map
        (asOutput m.terminal.shared.terminalId m.terminal.streamId) := by
      rw [Managed.mirrored,held]
    rw [← soFar,output]
    have exact_ := window.exact
    cases mirrored : m.mirrored with
    | nil =>
      rw [mirrored] at exact_
      rw [exact_]
      cases wasReset : m.wasReset with
      | false => rfl
      | true => rfl
    | cons first more =>
      rw [withMarker_append (List.cons_ne_nil first more),← mirrored,← exact_]
      have some : m.window ≠ [] := by
        rw [exact_,mirrored]
        exact List.cons_ne_nil _ _
      rw [if_neg fun opens => some opens.2]
      rfl
  refine ⟨⟨mirrors.host.complete,mirrors.host.older,mirrors.host.past,mirrors.host.epochs⟩,
    ⟨?_,⟨window.from_.1,?_⟩,?_,window.behind,window.once,window.own,?_,fun _ empty => ?_,⟨window.epochs.1,?_⟩,?_⟩,?_⟩
  · show (Terminal.ingest m.terminal.shared (retained (managedOutput m.terminal chunk) scan) scan.modes).headSeq ≤
      (m.hostFrames m.terminal.streamId).length
    rw [head,held]
    exact inside
  · show m.windowFrom ≤
      (Terminal.ingest m.terminal.shared (retained (managedOutput m.terminal chunk) scan) scan.modes).headSeq + 1
    rw [head]
    have := window.from_.2
    omega
  · show _ = withMarker m.wasReset ((slice (m.hostFrames m.terminal.streamId) m.windowFrom
      (Terminal.ingest m.terminal.shared (retained (managedOutput m.terminal chunk) scan) scan.modes).headSeq).map _)
    rw [head,held]
    exact exact_
  · show ((Terminal.ingest _ _ _).replay.map RetainedFrame.output) <:+ m.window ++ [managedOutput m.terminal chunk]
    refine ((evict_suffix _ _ _).map RetainedFrame.output).trans ?_
    rw [List.map_append]
    exact List.suffix_append_inj_of_length_eq rfl |>.mpr ⟨window.replay,rfl⟩
  · exact absurd empty (List.append_ne_nil_of_right_ne_nil _ (List.cons_ne_nil _ _))
  · intro other mem
    have mem : other ∈ m.earlier ++ (m.window ++ [managedOutput m.terminal chunk]) := mem
    rw [← List.append_assoc] at mem
    obtain before | now := List.mem_append.mp mem
    · exact window.epochs.2 other before
    · rw [List.mem_singleton.mp now]
      exact window.epochs.1
  · intro other output' mem
    have mem : output' ∈ m.earlier ++ (m.window ++ [managedOutput m.terminal chunk]) := mem
    rw [← List.append_assoc] at mem
    obtain before | now := List.mem_append.mp mem
    · exact window.unseen other output' before
    · rw [List.mem_singleton.mp now]
      exact other
  · refine ⟨n - 1,?_,?_⟩
    · show (Terminal.ingest m.terminal.shared (retained (managedOutput m.terminal chunk) scan) scan.modes).headSeq + (n - 1) ≤
        (m.hostFrames m.terminal.streamId).length
      rw [head,held]
      omega
    · show rest = if m.wasReset = true ∧ m.window ++ [managedOutput m.terminal chunk] = [] then _ else
        (((m.hostFrames m.terminal.streamId).drop
          (Terminal.ingest m.terminal.shared (retained (managedOutput m.terminal chunk) scan) scan.modes).headSeq).take (n - 1)).map
            plainChunk
      rw [head,held,if_neg fun opens => absurd opens.2 (by simp)]
      exact others

/-! ### Steps -/

variable {lineLen : RuntimeOutputFrame → Nat}

theorem Mirrors.next (mirrors : Mirrors m) {op : ManagedOp} (whole : Whole m op) : Mirrors (m.next lineLen op) := by
  cases op with
  | append disk data => exact mirrors.append whole data
  | replaceHost spool incarnationId streamEpoch ringLimit spoolLimit => exact mirrors.replaceHost ..
  | refreshManagedOutput maxBytes =>
    cases phase : m.terminal.managedReadInFlight with
    | some _ => simpa only [Managed.next,phase] using mirrors
    | none =>
      simp only [Managed.next,phase]
      exact mirrors.inFlight (mirrors.not_opened fun chunk rest held => by simp [phase] at held) rfl
  | answer answer =>
    unfold Managed.next
    split
    any_goals contradiction
    next isOp phase =>
      obtain rfl := ManagedOp.answer.inj isOp
      refine mirrors.inFlight (mirrors.not_opened fun chunk rest held => by simp [phase] at held) ?_
      cases answer with
      | failed error => trivial
      | recovering => exact .inl ⟨rfl,rfl,rfl⟩
      | answered facts =>
        simp only [Whole,phase] at whole
        have asked := mirrors.promises
        rw [phase] at asked
        generalize accepted : controllerReadOutput m.host.journal (.answered facts) m.terminal.shared.terminalId
          m.terminal.streamId m.terminal.resumeSessionId _ _ = result
        cases result with
        | error error => trivial
        | ok read =>
          obtain ⟨start,n,offers⟩ := mirrors.answer asked whole.1 whole.2 accepted
          exact .inr ⟨_,start,n,offers⟩
    · exact mirrors
  | adopt =>
    unfold Managed.next
    split
    any_goals contradiction
    next phase =>
      exact mirrors.inFlight (mirrors.not_opened fun chunk rest held => by simp [phase] at held) trivial
    next phase => exact mirrors.adopt phase
    · exact mirrors
  | ingest scan =>
    unfold Managed.next
    split
    any_goals contradiction
    next phase =>
      exact mirrors.inFlight (mirrors.not_opened fun chunk rest held => by simp [phase] at held) trivial
    next isOp phase => exact (mirrors.ingest phase _).1
    · exact mirrors
  | cancel =>
    unfold Managed.next
    split
    any_goals contradiction
    next phase =>
      exact mirrors.inFlight (mirrors.not_opened fun chunk rest held => by simp [phase] at held) trivial
    next phase =>
      exact mirrors.inFlight (mirrors.not_opened fun chunk rest held => by simp [phase] at held) trivial
    · exact mirrors

theorem stepsOn_same (window : later.window = m.window) (earlier : later.earlier = m.earlier)
    (windowFrom : later.windowFrom = m.windowFrom) (wasReset : later.wasReset = m.wasReset) : StepsOn m later :=
  .inl ⟨earlier,windowFrom,wasReset,.inl window⟩

theorem stepsOn_adopt (m : Managed) (read : ManagedOutputRead) : StepsOn m (m.adopt read) := by
  unfold Managed.adopt
  split
  · exact stepsOn_same rfl rfl rfl rfl
  next terminal taken =>
    obtain ⟨-,-,-,-,-,replay,-⟩ := adoptSource_ok taken
    exact .inr ⟨rfl,rfl,replay,rfl⟩
  · exact stepsOn_same rfl rfl rfl rfl

theorem Mirrors.stepsOn (mirrors : Mirrors m) (op : ManagedOp) : StepsOn m (m.next lineLen op) := by
  unfold Managed.next
  split
  · exact stepsOn_same rfl rfl rfl rfl
  · split
    · exact stepsOn_same rfl rfl rfl rfl
    · exact stepsOn_same rfl rfl rfl rfl
  · exact stepsOn_same rfl rfl rfl rfl
  · exact stepsOn_same rfl rfl rfl rfl
  · exact stepsOn_same rfl rfl rfl rfl
  · exact stepsOn_adopt ..
  · exact stepsOn_same rfl rfl rfl rfl
  next scan chunk rest phase =>
    obtain ⟨-,output,appended⟩ := mirrors.ingest phase scan
    unfold ingestManagedOutput at appended ⊢
    split
    · exact stepsOn_same rfl rfl rfl rfl
    · exact .inl ⟨rfl,rfl,rfl,.inr ⟨_,rfl⟩⟩
  · exact stepsOn_same rfl rfl rfl rfl
  · exact stepsOn_same rfl rfl rfl rfl
  · exact stepsOn_same rfl rfl rfl rfl

/-! ### Without new output -/

structure Unchanged (m later : Managed) : Prop where
  shared : later.terminal.shared = m.terminal.shared
  earlier : later.earlier = m.earlier
  window : later.window = m.window
  windowFrom : later.windowFrom = m.windowFrom
  wasReset : later.wasReset = m.wasReset

theorem unchanged_adopt (lineLen : RuntimeOutputFrame → Nat) (chunks : read.chunks = [])
    (noReset : read.resetRequired = false)
    (own : ∀ changed, sourceChanged m.terminal read = .ok changed → changed = false) (scan : Scan) :
    Unchanged m ((m.adopt read).next lineLen (.ingest scan)) := by
  unfold Managed.adopt
  cases taken : adoptSource m.terminal read with
  | error error => exact ⟨rfl,rfl,rfl,rfl,rfl⟩
  | ok result =>
    obtain ⟨terminal,reset⟩ := result
    obtain ⟨epochChanged,source,isReset,-,-,-,-,same⟩ := adoptSource_ok taken
    obtain rfl := own epochChanged source
    rw [noReset] at isReset
    subst isReset
    simp only [chunks,Managed.next]
    exact ⟨same rfl,rfl,rfl,rfl,rfl⟩

theorem Mirrors.idle (lineLen : RuntimeOutputFrame → Nat) (mirrors : Mirrors m) (free : m.terminal.managedReadInFlight = none)
    (own : m.terminal.streamId = m.host.journal.streamEpoch)
    (caught : m.terminal.shared.headSeq = m.host.journal.headSeq) (maxBytes : Nat) (answer : HostAnswer) (scan : Scan) :
    Unchanged m (run (Managed.next lineLen) m [.refreshManagedOutput maxBytes,.answer answer,.adopt,.ingest scan]) := by
  have asked : m.next lineLen (.refreshManagedOutput maxBytes) =
      m.inFlight (some (.asking m.terminal.shared.headSeq maxBytes)) := by
    simp only [Managed.next,free]
  simp only [run_cons,run_nil,asked]
  generalize accepted : controllerReadOutput m.host.journal answer m.terminal.shared.terminalId m.terminal.streamId
    m.terminal.resumeSessionId m.terminal.shared.headSeq maxBytes = result
  have answered : (m.inFlight (some (.asking m.terminal.shared.headSeq maxBytes))).next lineLen (.answer answer) =
      m.inFlight (some (.answered result)) := by
    rw [← accepted]
    rfl
  rw [answered]
  cases result with
  | error error => exact ⟨rfl,rfl,rfl,rfl,rfl⟩
  | ok read =>
    have quiet : read.chunks = [] ∧ read.resetRequired = false ∧
        ∀ changed, sourceChanged m.terminal read = .ok changed → changed = false := by
      cases answer with
      | failed error => cases accepted
      | recovering =>
        obtain rfl := Except.ok.inj accepted
        exact ⟨rfl,rfl,fun changed => sourceChanged_none rfl⟩
      | answered facts =>
        obtain ⟨-,source,reset,-,chunks⟩ := controllerReadOutput_answered accepted
        obtain ⟨frames,noReset⟩ := mirrors.host.complete.read_head maxBytes
        rw [if_pos own,caught] at reset chunks
        refine ⟨by rw [chunks,frames]; rfl,by simp [reset,noReset,own],fun changed known => ?_⟩
        rw [sourceChanged_some source known]
        simp [own]
    obtain ⟨chunks,noReset,same⟩ := quiet
    have unchanged := unchanged_adopt (m := m.inFlight (some (.answered (.ok read)))) lineLen chunks noReset same scan
    exact ⟨unchanged.shared,unchanged.earlier,unchanged.window,unchanged.windowFrom,unchanged.wasReset⟩

theorem Mirrors.step (mirrors : Mirrors m) {op : ManagedOp} (whole : Whole m op) : MirrorStep lineLen m op where
  exact := (mirrors.next whole).exactly
  jump := mirrors.stepsOn op
  idle maxBytes answer scan free own caught := by
    have unchanged := mirrors.idle lineLen free own caught maxBytes answer scan
    exact ⟨unchanged.shared,stepsOn_same unchanged.window unchanged.earlier unchanged.windowFrom unchanged.wasReset,
      unchanged.window⟩

structure Registered (m : Managed) : Prop where
  host : Fresh m.host
  past : m.past = []
  epochs : m.host.journal.streamEpoch ∈ m.epochs ∧ m.terminal.streamId ∈ m.epochs
  shared : m.terminal.shared.headSeq = 0 ∧ m.terminal.shared.replay = []
  history : m.earlier = [] ∧ m.window = [] ∧ m.windowFrom = 1 ∧ m.wasReset = false
  free : m.terminal.managedReadInFlight = none

theorem mirrors_registered (registered : Registered m) : Mirrors m := by
  obtain ⟨head,replay⟩ := registered.shared
  obtain ⟨earlier,window,windowFrom,wasReset⟩ := registered.history
  have past := registered.past
  refine ⟨⟨complete_fresh registered.host,fun epoch => ?_,?_,registered.epochs.1,?_⟩,
    ⟨?_,?_,?_,?_,?_,?_,?_,?_,⟨registered.epochs.2,?_⟩,?_⟩,?_⟩
  · rw [past]
    exact consecutive_nil
  · simp [past]
  · simp [past]
  · omega
  · omega
  · rw [window,Managed.mirrored,windowFrom,head,slice_nil _ Nat.one_pos]
    rfl
  · simp [earlier]
  · simp [earlier]
  · simp [earlier]
  · simp [replay]
  · simp [wasReset]
  · simp [Managed.ingested,earlier,window]
  · simp [Managed.ingested,earlier,window]
  · rw [registered.free]
    trivial

theorem Mirrors.along (mirrors : Mirrors m) {ops : List ManagedOp} (whole : Along (Managed.next lineLen) Whole m ops) :
    Along (Managed.next lineLen) (MirrorStep lineLen) m ops := by
  induction ops generalizing m with
  | nil => trivial
  | cons op rest ih => exact ⟨mirrors.step whole.1,ih (mirrors.next whole.1) whole.2⟩

/-- **A managed terminal mirrors its host.** In every run of output, new hosts and refreshes in
    which the spool takes every frame, no page cuts one and no reset is without one, each
    step is as `MirrorStep` says. -/
theorem mirror_run (lineLen : RuntimeOutputFrame → Nat) {start : Managed} (registered : Registered start)
    (ops : List ManagedOp) (whole : Along (Managed.next lineLen) Whole start ops) :
    Along (Managed.next lineLen) (MirrorStep lineLen) start ops := (mirrors_registered registered).along whole

def registeredTerminal : Managed where
  host := SessionHost.emptyHistory
  past := []
  epochs := ["stream","epoch"]
  terminal := {
    incarnationId := "incarnation", streamId := "stream", resumeSessionId := none, managedReadInFlight := none
    shared := {
      terminalId := "terminal", streamId := "stream", replay := [], replayChars := 0, maxReplayChars := 1000, modes := ""
      headSeq := 0, status := .running, exitCode := none, subscribers := fun _ => none } }
  earlier := []
  window := []
  windowFrom := 1
  wasReset := false

theorem registeredTerminal_registered : Registered registeredTerminal :=
  ⟨SessionHost.emptyHistory_fresh,rfl,⟨by decide,by decide⟩,⟨rfl,rfl⟩,⟨rfl,rfl,rfl,rfl⟩,rfl⟩

def running : HostAnswer := .answered ⟨false,0,none⟩

def transparent : Scan := ⟨false,none,.ground,.ground,""⟩

/-- The first output comes in behind the marker. -/
theorem mirror_first :
    Along (Managed.next fun _ => 0) (MirrorStep fun _ => 0) registeredTerminal
      [.append (fun _ => .written) ['a'],.refreshManagedOutput 65536,.answer running,.adopt,.ingest transparent] := by
  refine mirror_run (fun _ => 0) registeredTerminal_registered _
    ⟨fun _ => rfl,trivial,⟨?_,fun _ => ?_⟩,trivial,trivial,trivial⟩
  · decide
  · decide

/-- A refresh that finds a new host silent clears the ring, and the host's first frame then
    comes in without the marker; and of a frame that is larger than a page only the start
    comes in. -/
theorem silentHost_unmarked :
    ¬ Along (Managed.next fun _ => 0) (MirrorStep fun _ => 0) registeredTerminal
        [.refreshManagedOutput 65536,.answer running,.adopt,.ingest transparent,.append (fun _ => .written) ['a'],
          .refreshManagedOutput 65536,.answer running,.adopt,.ingest transparent] ∧
      ¬ Along (Managed.next fun _ => 0) (MirrorStep fun _ => 0) registeredTerminal
        [.append (fun _ => .written) ['a','b'],.refreshManagedOutput 1,.answer running,.adopt,.ingest transparent] := by
  constructor
  · rintro ⟨-,-,-,-,-,-,-,-,last,-⟩
    exact absurd last.exact.exact (by decide)
  · rintro ⟨-,-,-,-,last,-⟩
    exact absurd last.exact.exact (by decide)

end Freshell.Terminal
