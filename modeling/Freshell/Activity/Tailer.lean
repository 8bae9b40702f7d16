import Freshell.Activity.Signal
import Freshell.Library.TextLines
import Freshell.Terminal.Decode
import Mathlib.Data.List.Infix

/-!
The tailer of an events file: it reads what was appended since its last read, in bounded
batches, keeps an unfinished last line for the next read, and drops a line that outgrows
the buffer. Only lines that name a lifecycle event are parsed.
-/
namespace Freshell.Activity.Amplifier
open Freshell.Library.TextLines

inductive Value where
  | null
  | bool (value : Bool)
  | number (literal : String)
  | string (text : String)
  | array (items : List Value)
  | object (fields : List (String × Value))

namespace Value

def get (value : Value) (key : String) : Option Value :=
  match value with
  | .object fields => fields.lookup key
  | _ => none

def asStr : Value → Option String
  | .string text => some text
  | _ => none

end Value

/-- A lifecycle record of `events.jsonl`. -/
structure ParsedRecord where
  event : String
  ts : Option String
  sessionId : Option String
  schemaName : Option String
  schemaVer : Option String
  parentId : Option String
  configCwd : Option String
deriving DecidableEq, Repr

def nonEmpty (text : String) : Bool := text != ""

/-- The envelope of a line; none without an event that is a string. -/
def ParsedRecord.fromJson (value : Value) : Option ParsedRecord := do
  let event ← (← value.get "event").asStr
  let schema := value.get "schema"
  let data := value.get "data"
  let raw := data.bind (·.get "raw")
  return {
    event := event
    ts := (value.get "ts").bind (·.asStr)
    sessionId := ((value.get "session_id").bind (·.asStr)).filter nonEmpty
    schemaName := (schema.bind (·.get "name")).bind (·.asStr)
    schemaVer := (schema.bind (·.get "ver")).bind (·.asStr)
    parentId := ((data.bind (·.get "parent_id")).bind (·.asStr)).filter nonEmpty
    configCwd := (((raw.bind (·.get "working_dir")).bind (·.asStr)).filter nonEmpty).or
      (((raw.bind (·.get "project_dir")).bind (·.asStr)).filter nonEmpty) }

def amplifierLogSchemaName : String := "amplifier.log"
def amplifierLogSchemaMajor : Int := 1

inductive SchemaGateFailure where
  | schemaMissing
  | schemaNameMismatch
  | schemaVersionUnsupported
deriving DecidableEq, Repr

def digitsValue (digits : List Char) : Option Nat :=
  if digits ≠ [] ∧ digits.all Char.isDigit then some (digits.foldl (fun value ch => value * 10 + (ch.toNat - 48)) 0)
  else none

/-- `str::parse::<i64>` -/
def parseI64 (text : List Char) : Option Int :=
  match text with
  | '-' :: digits => (digitsValue digits).bind fun value => if value ≤ 2 ^ 63 then some (-value) else none
  | '+' :: digits => (digitsValue digits).bind fun value => if value < 2 ^ 63 then some (value : Int) else none
  | digits => (digitsValue digits).bind fun value => if value < 2 ^ 63 then some (value : Int) else none

def checkAmplifierRecordSchema (record : ParsedRecord) : Option SchemaGateFailure :=
  if record.schemaName.isNone && record.schemaVer.isNone then some .schemaMissing
  else if record.schemaName != some amplifierLogSchemaName then some .schemaNameMismatch
  else
    let major := parseI64 ((record.schemaVer.getD "").toList.takeWhile (· != '.'))
    if major = some amplifierLogSchemaMajor then none else some .schemaVersionUnsupported

def partialMaxBytes : Nat := 8 * 1024 * 1024
def readBatchMaxBytes : Nat := 16 * 1024 * 1024

def eventPrefixes : List String := ["session:","prompt:","execution:","orchestrator:"]

def contains (line needle : String) : Bool := decide (needle.toList <:+: line.toList)

def matchesPrefilter (line : String) : Bool :=
  eventPrefixes.any fun event =>
    contains line ("\"event\":\"" ++ event) || contains line ("\"event\": \"" ++ event)

/-- `str::trim_end_matches('\r')` -/
def trimEndReturns (line : String) : String := String.ofList (line.toList.reverse.dropWhile (· == '\r')).reverse

inductive LineReading where
  | blank
  | skipped
  | record (record : ParsedRecord)

/-- `fromStr` is the JSON parser. -/
def readLine (fromStr : String → Option Value) (bytes : List UInt8) : LineReading :=
  let line := trimEndReturns (Terminal.fromUtf8Lossy bytes)
  if line.toList.all isWhitespace then .blank
  else if !matchesPrefilter line then .skipped
  else
    match fromStr line with
    | none => .skipped
    | some value =>
      match ParsedRecord.fromJson value with
      | none => .skipped
      | some record => .record record

/-- The complete lines of a buffer and the bytes behind the last of them. -/
def splitCompleteLines (buffer : List UInt8) : List (List UInt8) × List UInt8 :=
  if _ : lineFeed ∈ buffer then
    let relative := buffer.idxOf lineFeed
    let (lines,remainder) := splitCompleteLines (buffer.drop (relative + 1))
    (buffer.take relative :: lines,remainder)
  else ([],buffer)
termination_by buffer.length
decreasing_by
  have inside := List.idxOf_lt_length_iff.mpr ‹lineFeed ∈ buffer›
  simp only [List.length_drop]
  omega

inductive TailerDegradeReason where
  | fileReset
  | schemaMismatch
  | readError
deriving DecidableEq, Repr

inductive TailerReadOutcome where
  | ok (records : List ParsedRecord) (skippedLines bytesConsumed offset : Nat)
  | degraded (reason : TailerDegradeReason) (message : String)

inductive AttachAt where
  | start
  | eof
deriving DecidableEq, Repr

structure EventsFile where
  stat : Except String Nat
  readRange : Nat → Nat → Except String (List UInt8)

def EventsFile.holding (bytes : List UInt8) : EventsFile where
  stat := .ok bytes.length
  readRange position length := .ok ((bytes.drop position).take length)

structure AmplifierEventsTailer where
  offset : Nat := 0
  partialLine : List UInt8 := []
  skippingOversizedLine : Bool := false
  oversizedLineLogged : Bool := false
  schemaValidated : Bool := false
  degraded : Option (TailerDegradeReason × String) := none

namespace AmplifierEventsTailer

def degrade (tailer : AmplifierEventsTailer) (reason : TailerDegradeReason) (message : String) : AmplifierEventsTailer :=
  { tailer with degraded := some (reason,message) }

def attach (tailer : AmplifierEventsTailer) (file : EventsFile) (place : AttachAt) : AmplifierEventsTailer :=
  match tailer.degraded with
  | some _ => tailer
  | none =>
    match place with
    | .start => { tailer with offset := 0, partialLine := [], skippingOversizedLine := false }
    | .eof =>
      match file.stat with
      | .ok length => { tailer with offset := length, partialLine := [], skippingOversizedLine := false }
      | .error error =>
        tailer.degrade .readError ("Could not stat amplifier events file for EOF attach: " ++ error)

end AmplifierEventsTailer

structure Reading where
  tailer : AmplifierEventsTailer
  records : List ParsedRecord := []
  skippedLines : Nat := 0
  bytesConsumed : Nat := 0

namespace Reading
variable (fromStr : String → Option Value)

/-- The complete lines one by one. The first record is checked against the schema. -/
def takeLines (reading : Reading) : List (List UInt8) → Reading
  | [] => reading
  | line :: rest =>
    match readLine fromStr line with
    | .blank => takeLines reading rest
    | .skipped => takeLines { reading with skippedLines := reading.skippedLines + 1 } rest
    | .record record =>
      if !reading.tailer.schemaValidated && (checkAmplifierRecordSchema record).isSome then
        { reading with
          tailer := reading.tailer.degrade .schemaMismatch
            "Amplifier events schema gate failed; expected amplifier.log major version 1." }
      else
        takeLines { reading with
          tailer := { reading.tailer with schemaValidated := true }
          records := reading.records ++ [record] } rest

def takeChunk (reading : Reading) (chunk : List UInt8) : Reading :=
  let (lines,remainder) := splitCompleteLines (reading.tailer.partialLine ++ chunk)
  let tailer :=
    if partialMaxBytes < remainder.length then
      { reading.tailer with partialLine := [], skippingOversizedLine := true, oversizedLineLogged := true }
    else { reading.tailer with partialLine := remainder }
  takeLines fromStr { reading with tailer := tailer } lines

def moved (reading : Reading) (appended : List UInt8) : Reading :=
  { reading with
    bytesConsumed := reading.bytesConsumed + appended.length
    tailer := { reading.tailer with offset := reading.tailer.offset + appended.length } }

def pastOversizedLine (reading : Reading) : Reading :=
  { reading with
    tailer := { reading.tailer with skippingOversizedLine := false }
    skippedLines := reading.skippedLines + 1 }

def takeBatch (reading : Reading) (appended : List UInt8) : Reading :=
  if reading.tailer.skippingOversizedLine then
    if lineFeed ∈ appended then
      takeChunk fromStr (reading.moved appended).pastOversizedLine (appended.drop (appended.idxOf lineFeed + 1))
    else reading.moved appended
  else takeChunk fromStr (reading.moved appended) appended

variable {fromStr} in
theorem takeLines_offset (reading : Reading) (lines : List (List UInt8)) :
    (reading.takeLines fromStr lines).tailer.offset = reading.tailer.offset := by
  induction lines generalizing reading with
  | nil => rfl
  | cons line rest ih =>
    simp only [takeLines]
    split
    · exact ih _
    · exact ih _
    · split
      · rfl
      · exact ih _

variable {fromStr} in
theorem takeBatch_offset (reading : Reading) (appended : List UInt8) :
    (reading.takeBatch fromStr appended).tailer.offset = reading.tailer.offset + appended.length := by
  simp only [takeBatch,takeChunk]
  split
  · split
    · rw [takeLines_offset]
      split
      · rfl
      · rfl
    · rfl
  · rw [takeLines_offset]
    split
    · rfl
    · rfl

/-- Batch after batch up to the size, as long as the lane is not degraded. -/
def readBatches (file : EventsFile) (size : Nat) (reading : Reading) : Reading :=
  if _ : reading.tailer.offset < size then
    match file.readRange reading.tailer.offset (min (size - reading.tailer.offset) readBatchMaxBytes) with
    | .error error =>
      { reading with
        tailer := reading.tailer.degrade .readError ("Could not read amplifier events file: " ++ error) }
    | .ok appended =>
      if _ : appended = [] then reading
      else
        let next := reading.takeBatch fromStr appended
        if next.tailer.degraded.isSome then next else readBatches file size next
  else reading
termination_by size - reading.tailer.offset
decreasing_by
  have grown := List.length_pos_iff.mpr ‹¬appended = []›
  rw [takeBatch_offset]
  omega

end Reading

namespace AmplifierEventsTailer
variable (fromStr : String → Option Value)

def outcome (reading : Reading) : TailerReadOutcome :=
  match reading.tailer.degraded with
  | some (reason,message) => .degraded reason message
  | none => .ok reading.records reading.skippedLines reading.bytesConsumed reading.tailer.offset

def read (tailer : AmplifierEventsTailer) (file : EventsFile) : TailerReadOutcome × AmplifierEventsTailer :=
  match tailer.degraded with
  | some (reason,message) => (.degraded reason message,tailer)
  | none =>
    let reading : Reading :=
      match file.stat with
      | .error error => ⟨tailer.degrade .readError ("Could not stat amplifier events file: " ++ error),[],0,0⟩
      | .ok size =>
        if size < tailer.offset then
          ⟨tailer.degrade .fileReset ("Amplifier events file shrank (size " ++ toString size ++ " < offset " ++
            toString tailer.offset ++ "); refusing to guess."),[],0,0⟩
        else Reading.readBatches fromStr file size ⟨tailer,[],0,0⟩
    (outcome reading,reading.tailer)

end AmplifierEventsTailer

end Freshell.Activity.Amplifier
