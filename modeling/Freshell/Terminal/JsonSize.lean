import Freshell.Terminal.Ring
import Mathlib.Data.Nat.Log

/-!
The sizes of the serialized messages. A batch carries its own size, so its size
depends on the digits of a number that it holds. The four passes of
`fixSerializedBytes` reach a number that is the size of the batch that carries it.
-/
namespace Freshell.Terminal

/-- The serializer writes the size field of a batch in decimal, and nothing else
    of the batch depends on it. -/
def JsonLen.CountsDigits (jsonLen : JsonLen) : Prop :=
  ∀ base : TerminalOutputBatch, ∃ rest, ∀ n,
    jsonLen.message (.terminalOutputBatch { base with serializedBytes := n }) = rest + digitCount n

/-- Quotes, backslashes and the control characters with a short form take two
    bytes, the other control characters six, the rest their UTF-8 form. -/
def escapedLen (c : Char) : Nat :=
  if c ∈ ['"','\\','\x08','\t','\n','\x0c','\r'] then 2 else if c.toNat < 0x20 then 6 else c.utf8Size

def jsonStringLen (s : String) : Nat := (s.toList.map escapedLen).sum + 2

/-- An object of some fields: braces, commas, and each key in quotes with its colon. -/
def jsonObjectLen (fields : List (String × Nat)) : Nat := (fields.map fun (key,value) => key.length + 4 + value).sum + 1

def jsonArrayLen (items : List Nat) : Nat := items.sum + (items.length - 1) + 2

def OutputSource.asStr : OutputSource → String
  | .live => "live"
  | .replay => "replay"

def BarrierReason.asStr : BarrierReason → String
  | .control => "control"
  | .osc52 => "osc52"
  | .requestMode => "request_mode"
  | .turnComplete => "turn_complete"
  | .startupProbe => "startup_probe"

def segmentJsonLen (seg : OutputSegment) : Nat :=
  jsonObjectLen ([("seqStart",digitCount seg.seqStart),("seqEnd",digitCount seg.seqEnd),
    ("endOffset",digitCount seg.endOffset),("rawFrameCount",digitCount seg.rawFrameCount)] ++
      seg.barrier.toList.map fun reason => ("barrier",jsonStringLen reason.asStr))

def outputJsonLen (output : TerminalOutput) : Nat :=
  jsonObjectLen ([("type",jsonStringLen "terminal.output"),("terminalId",jsonStringLen output.terminalId),
    ("streamId",jsonStringLen output.streamId),("seqStart",digitCount output.seqStart),
    ("seqEnd",digitCount output.seqEnd),("data",jsonStringLen output.data)] ++
      output.attachRequestId.toList.map (fun id => ("attachRequestId",jsonStringLen id)) ++
      output.source.toList.map fun source => ("source",jsonStringLen source.asStr))

def batchJsonLen (batch : TerminalOutputBatch) : Nat :=
  jsonObjectLen [("type",jsonStringLen "terminal.output.batch"),("terminalId",jsonStringLen batch.terminalId),
    ("streamId",jsonStringLen batch.streamId),("attachRequestId",jsonStringLen batch.attachRequestId),
    ("source",jsonStringLen batch.source.asStr),("seqStart",digitCount batch.seqStart),
    ("seqEnd",digitCount batch.seqEnd),("data",jsonStringLen batch.data),
    ("serializedBytes",digitCount batch.serializedBytes),("segments",jsonArrayLen (batch.segments.map segmentJsonLen))]

def serdeJson : JsonLen where
  message
    | .terminalOutput output => outputJsonLen output
    | .terminalOutputBatch batch => batchJsonLen batch
    | _ => 0
  string := jsonStringLen

theorem serdeJson_countsDigits : serdeJson.CountsDigits := by
  intro base
  refine ⟨batchJsonLen { base with serializedBytes := 0 } - 1,fun n => ?_⟩
  simp only [serdeJson,batchJsonLen,jsonObjectLen,List.map_cons,List.map_nil,List.sum_cons,List.sum_nil]
  have zero : digitCount 0 = 1 := rfl
  omega

theorem digitCount_eq {n k : Nat} (low : 10 ^ k ≤ n) (high : n < 10 ^ (k + 1)) : digitCount n = k + 1 := by
  have most : digitCount n ≤ k + 1 := (Nat.length_toDigits_le_iff (by decide) (Nat.succ_pos k)).mpr high
  have least : k < digitCount n := by
    cases k with
    | zero => exact Nat.length_toDigits_pos
    | succ k =>
      have longer := mt (Nat.length_toDigits_le_iff (by decide) (Nat.succ_pos k)).mp (Nat.not_lt.mpr low)
      exact Nat.not_le.mp longer
  omega

/-- A size of `rest` bytes and the digits of a size: one more digit at most
    comes in, so the third guess is right. -/
theorem thirdGuess_fixed (rest : Nat) :
    digitCount (rest + digitCount (rest + digitCount (rest + 1))) = digitCount (rest + digitCount (rest + 1)) := by
  obtain ⟨k,low,high⟩ : ∃ k, 10 ^ k ≤ rest + 1 ∧ rest + 1 < 10 ^ (k + 1) :=
    ⟨Nat.log 10 (rest + 1),Nat.pow_log_le_self 10 (by omega),Nat.lt_pow_succ_log_self (by decide) _⟩
  have small : k < 10 ^ k := Nat.lt_pow_self (by decide)
  have next : 10 ^ (k + 1) = 10 * 10 ^ k := by rw [Nat.pow_succ,Nat.mul_comm]
  have after : 10 ^ (k + 1 + 1) = 100 * 10 ^ k := by
    rw [Nat.pow_succ,next]
    omega
  rw [digitCount_eq low high]
  by_cases crosses : rest + (k + 1) < 10 ^ (k + 1)
  · have second : digitCount (rest + (k + 1)) = k + 1 := digitCount_eq (by omega) crosses
    rw [second,second]
  · have second : digitCount (rest + (k + 1)) = k + 1 + 1 := digitCount_eq (by omega) (by omega)
    rw [second]
    exact digitCount_eq (by omega) (by omega)

theorem fixSerializedBytes_fixed {jsonLen : JsonLen} {base : TerminalOutputBatch} {n : Nat}
    (fixed : jsonLen.message (.terminalOutputBatch { base with serializedBytes := n }) = n) (passes : Nat) :
    fixSerializedBytes jsonLen base passes n = n := by
  cases passes with
  | zero => rfl
  | succ passes => simp only [fixSerializedBytes,if_pos fixed]

theorem fixSerializedBytes_succ (jsonLen : JsonLen) (base : TerminalOutputBatch) (passes n : Nat) :
    fixSerializedBytes jsonLen base (passes + 1) n =
      fixSerializedBytes jsonLen base passes
        (jsonLen.message (.terminalOutputBatch { base with serializedBytes := n })) := by
  by_cases fixed : jsonLen.message (.terminalOutputBatch { base with serializedBytes := n }) = n
  · rw [fixed,fixSerializedBytes_fixed fixed,fixSerializedBytes_fixed fixed]
  · simp only [fixSerializedBytes,if_neg fixed]

theorem serializedBytes_exact {jsonLen : JsonLen} (counts : jsonLen.CountsDigits) (base : TerminalOutputBatch) :
    jsonLen.message (.terminalOutputBatch { base with serializedBytes := fixSerializedBytes jsonLen base 4 0 }) =
      fixSerializedBytes jsonLen base 4 0 := by
  obtain ⟨rest,measure⟩ := counts base
  have zero : digitCount 0 = 1 := rfl
  have third : fixSerializedBytes jsonLen base 4 0 = rest + digitCount (rest + digitCount (rest + 1)) := by
    simp only [fixSerializedBytes_succ _ _ 3,fixSerializedBytes_succ _ _ 2,fixSerializedBytes_succ _ _ 1,measure,zero]
    apply fixSerializedBytes_fixed
    rw [measure,thirdGuess_fixed]
  rw [third,measure,thirdGuess_fixed]

end Freshell.Terminal
