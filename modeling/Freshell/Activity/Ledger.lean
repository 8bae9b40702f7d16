import Freshell.Library.Tables

/-!
The completions of a provider's terminals, numbered for each terminal from one. No
number is given up when a terminal goes, so that a client can tell completions apart
over a reconnect.
-/
namespace Freshell.Activity
open Freshell.Library.Tables

structure TurnCompletionSnapshot where
  terminalId : String
  completedAt : Int
  completionSeq : Nat
deriving DecidableEq, Repr

structure TurnCompletionLedger where
  completionSeqByTerminalId : Table String Nat := ∅
  latestOrder : List String := []
  latestByTerminalId : Table String TurnCompletionSnapshot := ∅

/-- What an interaction with a tracker asks of the hub. -/
inductive TrackerEffect (Row : Type) where
  | changed (upsert : List Row) (remove : List String)
  | turnComplete (terminalId : String) (sessionId : Option String) (completedAt : Int) (completionSeq : Nat)
  | forceRead (terminalId : String) (readAt : Int)
  | attentionBoundary (terminalId : String) (boundaryAt : Int)
deriving DecidableEq, Repr

def turnCompletesOf {Row : Type} (terminalId : String) (effects : List (TrackerEffect Row)) : List (TrackerEffect Row) :=
  effects.filter fun effect =>
    match effect with
    | .turnComplete id _ _ _ => id == terminalId
    | _ => false

@[simp] theorem turnCompletesOf_nil {Row : Type} (terminalId : String) :
    turnCompletesOf terminalId ([] : List (TrackerEffect Row)) = [] := rfl

@[simp] theorem turnCompletesOf_append {Row : Type} (terminalId : String) (first second : List (TrackerEffect Row)) :
    turnCompletesOf terminalId (first ++ second) = turnCompletesOf terminalId first ++ turnCompletesOf terminalId second :=
  List.filter_append first second

namespace TurnCompletionLedger

/-- The number of the newest completion of a terminal. -/
def seqOf (ledger : TurnCompletionLedger) (terminalId : String) : Nat :=
  (ledger.completionSeqByTerminalId.lookup terminalId).getD 0

/-- The next number of the terminal, and the ledger with it. -/
def recordTurnCompletion (ledger : TurnCompletionLedger) (terminalId : String) (now : Int) :
    Nat × TurnCompletionLedger :=
  let seq := ledger.seqOf terminalId + 1
  (seq,
    { completionSeqByTerminalId := ledger.completionSeqByTerminalId.insert terminalId seq
      latestOrder :=
        if (ledger.latestByTerminalId.lookup terminalId).isSome then ledger.latestOrder
        else ledger.latestOrder ++ [terminalId]
      latestByTerminalId := ledger.latestByTerminalId.insert terminalId ⟨terminalId,now,seq⟩ })

def listLatestCompletions (ledger : TurnCompletionLedger) : List TurnCompletionSnapshot :=
  ledger.latestOrder.filterMap fun id => ledger.latestByTerminalId.lookup id

theorem seqOf_record (ledger : TurnCompletionLedger) (terminalId other : String) (now : Int) :
    (ledger.recordTurnCompletion terminalId now).2.seqOf other =
      if other = terminalId then ledger.seqOf terminalId + 1 else ledger.seqOf other := by
  simp only [recordTurnCompletion,seqOf,lookup_insert]
  split
  · rfl
  · rfl

end TurnCompletionLedger
end Freshell.Activity
