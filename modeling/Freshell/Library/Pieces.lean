/-!
Input that arrives in chunks and is taken apart into pieces: what does not make a piece
yet is held back and read again in front of the next chunk.
-/
namespace Freshell.Library.Pieces
universe u v w

/-- A reader of one piece at the front of the input, with nothing while the piece is
    incomplete. A complete piece is the same whatever follows it. -/
structure Splitter (Symbol : Type u) (Piece : Type v) where
  next : List Symbol → Option (Piece × List Symbol)
  shorter : ∀ {input piece rest}, next input = some (piece,rest) → rest.length < input.length
  settled : ∀ {input piece rest}, next input = some (piece,rest) → ∀ more, next (input ++ more) = some (piece,rest ++ more)

namespace Splitter
variable {Symbol : Type u} {Piece : Type v} {State : Type w} (splitter : Splitter Symbol Piece)

/-- The complete pieces of the input, and what is held back behind them. -/
def split (input : List Symbol) : List Piece × List Symbol :=
  match _ : splitter.next input with
  | none => ([],input)
  | some (piece,rest) => (piece :: (split rest).1,(split rest).2)
termination_by input.length
decreasing_by all_goals exact splitter.shorter ‹_›

variable {splitter}

theorem split_none {input : List Symbol} (incomplete : splitter.next input = none) : splitter.split input = ([],input) := by
  unfold split
  split <;> simp_all

theorem split_some {input rest : List Symbol} {piece : Piece} (taken : splitter.next input = some (piece,rest)) :
    splitter.split input = (piece :: (splitter.split rest).1,(splitter.split rest).2) := by
  rw [split]
  split
  · simp_all
  · rename_i found
    simp only [found,Option.some.injEq,Prod.mk.injEq] at taken
    obtain ⟨rfl,rfl⟩ := taken
    rfl

/-- The pieces of two chunks are those of the first, and then those of the second behind
    what the first one left. -/
theorem split_append (first second : List Symbol) :
    splitter.split (first ++ second) =
      ((splitter.split first).1 ++ (splitter.split ((splitter.split first).2 ++ second)).1,
        (splitter.split ((splitter.split first).2 ++ second)).2) := by
  induction long : first.length using Nat.strongRecOn generalizing first with
  | ind size ih =>
    cases taken : splitter.next first with
    | none => simp [split_none taken]
    | some found =>
      obtain ⟨piece,rest⟩ := found
      have fewer : rest.length < size := long ▸ splitter.shorter taken
      rw [split_some taken,split_some (splitter.settled taken second),ih rest.length fewer rest rfl]
      simp

variable (splitter) (act : State → Piece → State)

/-- A chunk is read behind what was held back, and its pieces act in order. -/
def feed (reader : State × List Symbol) (chunk : List Symbol) : State × List Symbol :=
  let pieces := splitter.split (reader.2 ++ chunk)
  (pieces.1.foldl act reader.1,pieces.2)

theorem feed_append (reader : State × List Symbol) (first second : List Symbol) :
    splitter.feed act reader (first ++ second) = splitter.feed act (splitter.feed act reader first) second := by
  simp only [feed]
  rw [←List.append_assoc,split_append (reader.2 ++ first) second,List.foldl_append]

theorem feed_chunks (reader : State × List Symbol) (chunk : List Symbol) (chunks : List (List Symbol)) :
    chunks.foldl (splitter.feed act) (splitter.feed act reader chunk) = splitter.feed act reader (chunk ++ chunks.flatten) := by
  induction chunks generalizing chunk with
  | nil => simp
  | cons next rest ih =>
    rw [List.foldl_cons,←feed_append,ih (chunk ++ next),List.flatten_cons,List.append_assoc]

end Splitter
end Freshell.Library.Pieces
