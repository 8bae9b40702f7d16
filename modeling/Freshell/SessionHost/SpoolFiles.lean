import Freshell.Library.TextLines
import Freshell.SessionHost.OutputJournal

/-!
The output journal down to the bytes of its spool. A write to the spool can stop at
any byte, and a new host reads whatever lines the files then have: for its next
number it passes over those that are no frame, and to read it fails on them.
-/
namespace Freshell.SessionHost.Files
open Freshell.Library.TextLines

/-- How a frame is written as JSON, and read from it. -/
structure SpoolCodec where
  toText : RuntimeOutputFrame → List Char
  fromStr : List Char → Option RuntimeOutputFrame

/-- What JSON promises: an object that is read back, with its control characters escaped. -/
structure SpoolCodec.Faithful (codec : SpoolCodec) : Prop where
  roundTrip : ∀ frame, codec.fromStr (codec.toText frame) = some frame
  opens : ∀ frame, (codec.toText frame).head? = some '{'
  printable : ∀ frame, Printable (codec.toText frame)

/-- The two files of the state directory. A file that does not exist has no bytes. -/
structure SpoolFiles where
  previous : List UInt8
  current : List UInt8
deriving DecidableEq

structure OpenJournal where
  incarnationId : String
  terminalId : String
  streamEpoch : String
  ring : List RuntimeOutputFrame
  ringBytes : Nat
  ringLimit : Nat
  spoolLimit : Nat
  nextSeq : Nat
deriving DecidableEq

/-- How far a write gets. What fails after the rename of a full file, up to the
    opening of the new one, leaves the new one without a line. -/
inductive SpoolWrite where
  | renameFails (previousRemoved : Bool)
  | openFails
  | torn (bytes : Nat)
  | written
deriving DecidableEq

def isWhitespace (c : Char) : Bool :=
  let n := c.toNat
  (decide (9 ≤ n) && decide (n ≤ 13)) || n == 0x20 || n == 0x85 || n == 0xA0 || n == 0x1680 ||
    (decide (0x2000 ≤ n) && decide (n ≤ 0x200A)) || n == 0x2028 || n == 0x2029 || n == 0x202F || n == 0x205F ||
    n == 0x3000

def SpoolCodec.toVec (codec : SpoolCodec) (frame : RuntimeOutputFrame) : List UInt8 := utf8 (codec.toText frame)

/-- Past half of the limit the current file takes the previous one's place. -/
def rotates (codec : SpoolCodec) (spoolLimit : Nat) (files : SpoolFiles) (frame : RuntimeOutputFrame) : Bool :=
  let segmentLimit := max (spoolLimit / 2) (MAX_TRANSPORT_CHUNK_BYTES * 2)
  decide (0 < files.current.length) &&
    decide (segmentLimit < files.current.length + (codec.toVec frame).length + 1)

def appendSpool (codec : SpoolCodec) (disk : SpoolWrite) (spoolLimit : Nat) (files : SpoolFiles)
    (frame : RuntimeOutputFrame) : SpoolFiles × Bool :=
  let rotates := rotates codec spoolLimit files frame
  let rotated : SpoolFiles := if rotates then ⟨files.current,[]⟩ else files
  let line := codec.toVec frame ++ [lineFeed]
  match disk with
  | .renameFails previousRemoved => (if rotates && previousRemoved then { files with previous := [] } else files,false)
  | .openFails => (rotated,false)
  | .torn bytes => ({ rotated with current := rotated.current ++ line.take bytes },false)
  | .written => ({ rotated with current := rotated.current ++ line },true)

/-- The highest end of the lines that are frames of the stream. A line that is no text fails. -/
def seedLoop (codec : SpoolCodec) (streamEpoch : String) (top : Nat) : List (List UInt8) → Option Nat
  | [] => some top
  | line :: rest =>
    match utf8Text line with
    | none => none
    | some text =>
      match codec.fromStr text with
      | some frame => seedLoop codec streamEpoch (if frame.streamEpoch == streamEpoch then max top frame.seqEnd else top) rest
      | none => seedLoop codec streamEpoch top rest

def seedSequenceFromSpool (codec : SpoolCodec) (files : SpoolFiles) (streamEpoch : String) : Option Nat :=
  (seedLoop codec streamEpoch 0 (lines files.previous ++ lines files.current)).map fun top => max (top + 1) 1

def withLimits (codec : SpoolCodec) (files : SpoolFiles) (incarnationId terminalId streamEpoch : String)
    (ringLimit spoolLimit : Nat) : Option OpenJournal :=
  (seedSequenceFromSpool codec files streamEpoch).map fun nextSeq =>
    { incarnationId, terminalId, streamEpoch, ring := [], ringBytes := 0
      ringLimit := max ringLimit MAX_TRANSPORT_CHUNK_BYTES
      spoolLimit := max spoolLimit (MAX_TRANSPORT_CHUNK_BYTES * 4)
      nextSeq }

def OpenJournal.frame (journal : OpenJournal) (seq : Nat) (chunk : List Char) : RuntimeOutputFrame :=
  ⟨journal.terminalId,journal.streamEpoch,seq,seq,chunk⟩

/-- One chunk of an append. The frame takes its number whether or not the disk takes the frame. -/
def appendChunk (codec : SpoolCodec) (disk : Nat → SpoolWrite) (journal : OpenJournal) (files : SpoolFiles)
    (chunk : List Char) : OpenJournal × SpoolFiles × Option RuntimeOutputFrame :=
  let seq := journal.nextSeq
  let frame := journal.frame seq chunk
  let (files,taken) := appendSpool codec (disk seq) journal.spoolLimit files frame
  let journal := { journal with nextSeq := seq + 1 }
  if taken then
    let (ring,ringBytes) := evict journal.ringLimit (journal.ring ++ [frame]) (journal.ringBytes + utf8Len chunk)
    ({ journal with ring := ring, ringBytes := ringBytes },files,some frame)
  else (journal,files,none)

/-- The chunks in order up to the first that the disk does not take, with the
    frames that were written and whether all of them were. -/
def appendChunks (codec : SpoolCodec) (disk : Nat → SpoolWrite) :
    OpenJournal → SpoolFiles → List (List Char) → OpenJournal × SpoolFiles × List RuntimeOutputFrame × Bool
  | journal, files, [] => (journal,files,[],true)
  | journal, files, chunk :: rest =>
    match appendChunk codec disk journal files chunk with
    | (journal,files,none) => (journal,files,[],false)
    | (journal,files,some frame) =>
      let (journal,files,written,whole) := appendChunks codec disk journal files rest
      (journal,files,frame :: written,whole)

def append (codec : SpoolCodec) (disk : Nat → SpoolWrite) (journal : OpenJournal) (files : SpoolFiles)
    (data : List Char) : OpenJournal × SpoolFiles × List RuntimeOutputFrame × Bool :=
  appendChunks codec disk journal files (splitUtf8 data MAX_TRANSPORT_CHUNK_BYTES)

/-- The frames of the lines. A line that is not blank and no frame fails. -/
def readLines (codec : SpoolCodec) : List (List UInt8) → Option (List RuntimeOutputFrame)
  | [] => some []
  | line :: rest =>
    match utf8Text line with
    | none => none
    | some text =>
      if text.all isWhitespace then readLines codec rest
      else
        match codec.fromStr text with
        | none => none
        | some frame => (readLines codec rest).map (frame :: ·)

def OpenJournal.withSpool (journal : OpenJournal) (spool : Spool) : OutputJournal where
  incarnationId := journal.incarnationId
  terminalId := journal.terminalId
  streamEpoch := journal.streamEpoch
  spool := spool
  ring := journal.ring
  ringBytes := journal.ringBytes
  ringLimit := journal.ringLimit
  spoolLimit := journal.spoolLimit
  nextSeq := journal.nextSeq

/-- Both files are read whole, and the page is taken from their lines and the ring. -/
def read (codec : SpoolCodec) (journal : OpenJournal) (files : SpoolFiles) (afterSeq maxBytes : Nat) :
    Option RuntimeOutputBatch :=
  match readLines codec (lines files.previous), readLines codec (lines files.current) with
  | some previous, some current => some ((journal.withSpool ⟨previous,current⟩).read afterSeq maxBytes)
  | _, _ => none

/-- The files with the journal of the running host, every append's first number and
    text, the numbers of the frames that appends gave back, and whether an append
    has failed since the journal was opened. -/
structure FileHistory where
  files : SpoolFiles
  journal : Option OpenJournal
  calls : List (Nat × List Char)
  handedOut : List Nat
  failed : Bool

inductive FileOp where
  | append (disk : Nat → SpoolWrite) (data : List Char)
  | reopen (incarnationId : String) (ringLimit spoolLimit : Nat)

def FileHistory.next (codec : SpoolCodec) (terminalId streamEpoch : String) (history : FileHistory) :
    FileOp → FileHistory
  | .append disk data =>
    match history.journal with
    | none => history
    | some journal =>
      let (after,files,written,whole) := append codec disk journal history.files data
      { files, journal := some after, calls := history.calls ++ [(journal.nextSeq,data)]
        handedOut := history.handedOut ++ if whole then written.map RuntimeOutputFrame.seqStart else []
        failed := history.failed || !whole }
  | .reopen incarnationId ringLimit spoolLimit =>
    { history with
      journal := withLimits codec history.files incarnationId terminalId streamEpoch ringLimit spoolLimit
      failed := false }

end Freshell.SessionHost.Files
