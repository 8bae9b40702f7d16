import Freshell.Library.OrderedIndex
import Freshell.Library.Runs

/-!
The session host's output journal: text in numbered frames, the last of them in a
ring in memory and more of them in two spool files on disk. A text is the list of
its characters and its size is that of its UTF-8 form.
-/
namespace Freshell.SessionHost
open Freshell.Library.OrderedIndex

def MAX_TRANSPORT_CHUNK_BYTES : Nat := 64 * 1024

def utf8Len (text : List Char) : Nat := (text.map Char.utf8Size).sum

/-- How many characters the longest start of the text has that takes up at most `room` bytes. -/
def fitting : Nat → List Char → Nat
  | _, [] => 0
  | room, c :: rest => if c.utf8Size ≤ room then fitting (room - c.utf8Size) rest + 1 else 0

/-- The chunks of a text, each as long as the bound allows and one character at
    least. The first argument bounds the number of chunks. -/
def splitLoop (maxBytes : Nat) : Nat → List Char → List (List Char)
  | 0, _ => []
  | _, [] => []
  | fuel + 1, c :: rest =>
    -- a first character above the bound goes alone
    let stop := max (fitting (max maxBytes 1) (c :: rest)) 1
    (c :: rest).take stop :: splitLoop maxBytes fuel ((c :: rest).drop stop)

def splitUtf8 (data : List Char) (maxBytes : Nat) : List (List Char) := splitLoop maxBytes data.length data

structure RuntimeOutputFrame where
  terminalId : String
  streamEpoch : String
  seqStart : Nat
  seqEnd : Nat
  data : List Char
deriving DecidableEq, Repr

structure RuntimeOutputBatch where
  incarnationId : String
  terminalId : String
  streamEpoch : String
  retainedFromSeq : Nat
  headSeq : Nat
  resetRequired : Bool
  truncated : Bool
  exited : Bool
  exitCode : Option Int
  nativeSessionId : Option String
  frames : List RuntimeOutputFrame
deriving DecidableEq, Repr

/-- The two files of the state directory, a frame a line. A file that does not exist has no line. -/
structure Spool where
  previous : List RuntimeOutputFrame
  current : List RuntimeOutputFrame
deriving DecidableEq, Repr

structure OutputJournal where
  incarnationId : String
  terminalId : String
  streamEpoch : String
  spool : Spool
  ring : List RuntimeOutputFrame
  ringBytes : Nat
  ringLimit : Nat
  spoolLimit : Nat
  nextSeq : Nat
deriving DecidableEq, Repr

/-- What the disk does with a frame: takes its line, fails before any file has
    changed, or fails between the removal of the previous file and the rename of
    the current one. -/
inductive SpoolOutcome where
  | written | refused | renameFailed
deriving DecidableEq, Repr

def Spool.rows (spool : Spool) : List RuntimeOutputFrame := spool.previous ++ spool.current

def Spool.ofEpoch (spool : Spool) (epoch : String) : List RuntimeOutputFrame :=
  spool.rows.filter fun frame => frame.streamEpoch == epoch

/-- The size of a file: the lines of its frames, each with its line feed. -/
def fileLen (lineLen : RuntimeOutputFrame → Nat) (rows : List RuntimeOutputFrame) : Nat :=
  (rows.map fun frame => lineLen frame + 1).sum

/-- Past half of the limit the current file takes the previous one's place. -/
def appendSpool (lineLen : RuntimeOutputFrame → Nat) (disk : SpoolOutcome) (spoolLimit : Nat) (spool : Spool)
    (frame : RuntimeOutputFrame) : Spool × Bool :=
  let segmentLimit := max (spoolLimit / 2) (MAX_TRANSPORT_CHUNK_BYTES * 2)
  let currentLen := fileLen lineLen spool.current
  let rotates := decide (0 < currentLen) && decide (segmentLimit < currentLen + lineLen frame + 1)
  match disk with
  | .refused => (spool,false)
  | .renameFailed => if rotates then ({ spool with previous := [] },false) else (spool,false)
  | .written =>
    if rotates then (⟨spool.current,[frame]⟩,true) else ({ spool with current := spool.current ++ [frame] },true)

/-- The highest end of the stream's frames on disk. -/
def seedSequence (spool : Spool) (epoch : String) : Nat :=
  (spool.ofEpoch epoch).foldl (fun top frame => max top frame.seqEnd) 0 + 1

/-- A journal over the files that are in the state directory. -/
def withLimits (spool : Spool) (incarnationId terminalId streamEpoch : String) (ringLimit spoolLimit : Nat) :
    OutputJournal where
  incarnationId := incarnationId
  terminalId := terminalId
  streamEpoch := streamEpoch
  spool := spool
  ring := []
  ringBytes := 0
  ringLimit := max ringLimit MAX_TRANSPORT_CHUNK_BYTES
  spoolLimit := max spoolLimit (MAX_TRANSPORT_CHUNK_BYTES * 4)
  nextSeq := seedSequence spool streamEpoch

/-- The oldest frames leave the ring until its bytes are within the limit. -/
def evict (ringLimit : Nat) : List RuntimeOutputFrame → Nat → List RuntimeOutputFrame × Nat
  | [], bytes => ([],bytes)
  | first :: rest, bytes =>
    if ringLimit < bytes then evict ringLimit rest (bytes - utf8Len first.data) else (first :: rest,bytes)

/-- One chunk of an append. The frame takes its number whether or not the disk takes the frame. -/
def appendChunk (lineLen : RuntimeOutputFrame → Nat) (disk : Nat → SpoolOutcome) (journal : OutputJournal)
    (chunk : List Char) : OutputJournal × Option RuntimeOutputFrame :=
  let seq := journal.nextSeq
  let frame : RuntimeOutputFrame :=
    ⟨journal.terminalId,journal.streamEpoch,seq,seq,chunk⟩
  let (spool,taken) := appendSpool lineLen (disk seq) journal.spoolLimit journal.spool frame
  let journal := { journal with nextSeq := seq + 1, spool := spool }
  if taken then
    let (ring,ringBytes) := evict journal.ringLimit (journal.ring ++ [frame]) (journal.ringBytes + utf8Len chunk)
    ({ journal with ring := ring, ringBytes := ringBytes },some frame)
  else (journal,none)

/-- The chunks in order up to the first that the disk does not take, with the
    frames that were written and whether all of them were. -/
def appendChunks (lineLen : RuntimeOutputFrame → Nat) (disk : Nat → SpoolOutcome) :
    OutputJournal → List (List Char) → OutputJournal × List RuntimeOutputFrame × Bool
  | journal, [] => (journal,[],true)
  | journal, chunk :: rest =>
    match appendChunk lineLen disk journal chunk with
    | (journal,none) => (journal,[],false)
    | (journal,some frame) =>
      let (journal,written,whole) := appendChunks lineLen disk journal rest
      (journal,frame :: written,whole)

def OutputJournal.append (lineLen : RuntimeOutputFrame → Nat) (disk : Nat → SpoolOutcome) (journal : OutputJournal)
    (data : List Char) : OutputJournal × List RuntimeOutputFrame × Bool :=
  appendChunks lineLen disk journal (splitUtf8 data MAX_TRANSPORT_CHUNK_BYTES)

/-- The stream's frames by number: the two files', and over them the ring's. -/
def OutputJournal.bySeq (journal : OutputJournal) : List RuntimeOutputFrame :=
  indexByKey RuntimeOutputFrame.seqStart (journal.spool.ofEpoch journal.streamEpoch ++ journal.ring)

/-- The frames of one page and whether there is more. `used` is the bytes that
    `frames` take up. -/
def readLoop (budget : Nat) (frames : List RuntimeOutputFrame) (used : Nat) :
    List RuntimeOutputFrame → List RuntimeOutputFrame × Bool
  | [] => (frames,false)
  | frame :: rest =>
    let cost := max (utf8Len frame.data) 1
    if !frames.isEmpty && decide (budget < used + cost) then (frames,true)
    else if decide (budget < cost) && frames.isEmpty then
      match (splitUtf8 frame.data budget).head? with
      | none => readLoop budget frames used rest
      | some first => (frames ++ [{ frame with data := first }],true)
    else readLoop budget (frames ++ [frame]) (used + cost) rest

def pageBudget (maxBytes : Nat) : Nat := min (max maxBytes 1) MAX_TRANSPORT_CHUNK_BYTES

def OutputJournal.retainedFromSeq (journal : OutputJournal) : Nat :=
  match journal.bySeq with
  | [] => journal.nextSeq
  | first :: _ => first.seqStart

def OutputJournal.headSeq (journal : OutputJournal) : Nat := journal.nextSeq - 1

def OutputJournal.read (journal : OutputJournal) (afterSeq maxBytes : Nat) : RuntimeOutputBatch :=
  let retainedFromSeq := journal.retainedFromSeq
  let headSeq := journal.headSeq
  let resetRequired := decide (headSeq < afterSeq) || decide (afterSeq + 1 < retainedFromSeq)
  let effectiveAfter := if resetRequired then retainedFromSeq - 1 else afterSeq
  let (frames,more) :=
    readLoop (pageBudget maxBytes) [] 0 (atLeast RuntimeOutputFrame.seqStart (effectiveAfter + 1) journal.bySeq)
  { incarnationId := journal.incarnationId, terminalId := journal.terminalId, streamEpoch := journal.streamEpoch
    retainedFromSeq, headSeq, resetRequired, truncated := resetRequired || more
    exited := false, exitCode := none, nativeSessionId := none, frames }

structure JournalHistory where
  journal : OutputJournal
  appended : List RuntimeOutputFrame

/-- An append, or a new host over the files of the one before it. -/
inductive JournalOp where
  | append (disk : Nat → SpoolOutcome) (data : List Char)
  | reopen (incarnationId : String) (ringLimit spoolLimit : Nat)

def JournalHistory.next (lineLen : RuntimeOutputFrame → Nat) (history : JournalHistory) :
    JournalOp → JournalHistory
  | .append disk data =>
    let (journal,written,_) := history.journal.append lineLen disk data
    ⟨journal,history.appended ++ written⟩
  | .reopen incarnationId ringLimit spoolLimit =>
    let journal := history.journal
    { history with
      journal := withLimits journal.spool incarnationId journal.terminalId journal.streamEpoch ringLimit spoolLimit }

/-- A new journal, whose stream has no line in the files yet. -/
structure Fresh (history : JournalHistory) : Prop where
  opened : ∃ spool incarnation terminal epoch ringLimit spoolLimit,
    history.journal = withLimits spool incarnation terminal epoch ringLimit spoolLimit
  empty : history.journal.spool.ofEpoch history.journal.streamEpoch = []
  appended : history.appended = []

end Freshell.SessionHost
