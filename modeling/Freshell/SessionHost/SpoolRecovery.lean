import Freshell.SessionHost.Paging
import Freshell.SessionHost.SpoolFiles

/-!
What a spool holds after writes that put whole lines into it or none. Its files hold
the lines of frames, and those of the stream are a last part of its lineage: the
frames that ever got onto disk, numbered from one on without a hole.
-/
namespace Freshell.SessionHost.Files
open Freshell.Library.OrderedIndex Freshell.Library.TextLines

/-- The lines of the files are the frames of the spool. -/
structure FileHolds (codec : SpoolCodec) (files : SpoolFiles) (spool : Spool) : Prop where
  previous : Holds files.previous (spool.previous.map codec.toText)
  current : Holds files.current (spool.current.map codec.toText)

def LineStart (bytes : List UInt8) : Prop := bytes = [] ∨ bytes.getLast? = some lineFeed

instance decidableLineStart (bytes : List UInt8) : Decidable (LineStart bytes) :=
  inferInstanceAs (Decidable (bytes = [] ∨ bytes.getLast? = some lineFeed))

section
variable {codec : SpoolCodec}

theorem SpoolCodec.Faithful.ne_nil (faithful : codec.Faithful) (frame : RuntimeOutputFrame) :
    codec.toText frame ≠ [] := by
  intro none
  simpa [none] using faithful.opens frame

theorem SpoolCodec.Faithful.not_blank (faithful : codec.Faithful) (frame : RuntimeOutputFrame) :
    (codec.toText frame).all isWhitespace = false := by
  have opens := faithful.opens frame
  cases text : codec.toText frame with
  | nil => exact absurd text (faithful.ne_nil frame)
  | cons c rest =>
    rw [text,List.head?_cons] at opens
    rw [Option.some.inj opens]
    rfl

variable {bytes : List UInt8} {rows : List RuntimeOutputFrame}

theorem lines_rows (faithful : codec.Faithful) (holds : Holds bytes (rows.map codec.toText)) :
    lines bytes = rows.map codec.toVec := by
  have printable : ∀ text ∈ rows.map codec.toText, Printable text := by
    simpa using fun row _ => faithful.printable row
  have some : ∀ text ∈ rows.map codec.toText, text ≠ [] := by
    simpa using fun row _ => faithful.ne_nil row
  rw [lines_holds holds printable some,List.map_map]
  rfl

theorem readLines_rows (faithful : codec.Faithful) (rows : List RuntimeOutputFrame) :
    readLines codec (rows.map codec.toVec) = some rows := by
  induction rows with
  | nil => rfl
  | cons row rest ih =>
    simp only [List.map_cons,readLines,SpoolCodec.toVec,utf8Text_utf8] at ih ⊢
    simp [faithful.not_blank row,faithful.roundTrip row,ih]

variable {files : SpoolFiles} {spool : Spool}

theorem read_eq (faithful : codec.Faithful) (holds : FileHolds codec files spool) (journal : OpenJournal)
    (afterSeq maxBytes : Nat) :
    read codec journal files afterSeq maxBytes = some ((journal.withSpool spool).read afterSeq maxBytes) := by
  simp only [read,lines_rows faithful holds.previous,lines_rows faithful holds.current,readLines_rows faithful]

theorem seedLoop_rows (faithful : codec.Faithful) (epoch : String) (top : Nat) (rows : List RuntimeOutputFrame) :
    seedLoop codec epoch top (rows.map codec.toVec) =
      some ((rows.filter fun row => row.streamEpoch == epoch).foldl (fun top row => max top row.seqEnd) top) := by
  induction rows generalizing top with
  | nil => rfl
  | cons row rest ih =>
    simp only [List.map_cons,seedLoop,SpoolCodec.toVec,utf8Text_utf8,faithful.roundTrip] at ih ⊢
    rw [ih]
    by_cases same : (row.streamEpoch == epoch) = true <;> simp [same]

theorem seed_eq (faithful : codec.Faithful) (holds : FileHolds codec files spool) (epoch : String) :
    seedSequenceFromSpool codec files epoch = some (seedSequence spool epoch) := by
  rw [seedSequenceFromSpool,lines_rows faithful holds.previous,lines_rows faithful holds.current,← List.map_append,
    seedLoop_rows faithful]
  simp [seedSequence,Spool.ofEpoch,Spool.rows]

theorem holds_nil : Holds [] [] := .inl rfl

theorem rows_nil (faithful : codec.Faithful) (holds : Holds [] (rows.map codec.toText)) : rows = [] := by
  have none : [] = rows.map codec.toVec := lines_rows faithful holds
  exact List.map_eq_nil_iff.mp none.symm

theorem holds_lineStart (faithful : codec.Faithful) (holds : Holds bytes (rows.map codec.toText))
    (start : LineStart bytes) : bytes = writeLines (rows.map codec.toText) := by
  rcases holds with whole | unterminated
  · exact whole
  rcases start with rfl | ends
  · rw [rows_nil faithful (.inr unterminated),List.map_nil] at unterminated
    cases unterminated
  -- a text has no line feed to end in
  · exfalso
    induction rows using List.reverseRecOn with
    | nil => simp at unterminated
    | append_singleton earlier last _ =>
      rw [List.map_append,writeLines_append,List.map_singleton,writeLines_cons,writeLines_nil,← List.append_assoc]
        at unterminated
      have text := utf8_ne_nil (faithful.ne_nil last)
      rw [List.append_inj_left' unterminated rfl,List.getLast?_append,List.getLast?_eq_some_getLast text,
        Option.some_or] at ends
      have mem := List.getLast_mem text
      rw [Option.some.inj ends] at mem
      exact (printable_utf8 (faithful.printable last)).1 mem

/-- A line that starts where the last one ended, and of which all but the line feed is written for certain. -/
theorem holds_append (faithful : codec.Faithful) (holds : Holds bytes (rows.map codec.toText))
    (start : LineStart bytes) (frame : RuntimeOutputFrame) {n : Nat} (whole : (codec.toVec frame).length ≤ n) :
    Holds (bytes ++ (codec.toVec frame ++ [lineFeed]).take n) ((rows ++ [frame]).map codec.toText) := by
  rw [holds_lineStart faithful holds start,List.map_append,List.map_singleton]
  rcases Nat.eq_or_lt_of_le whole with exact | more
  · refine .inr ?_
    rw [← exact,List.take_left' rfl,writeLines_append]
    simp [SpoolCodec.toVec]
  · refine .inl ?_
    rw [List.take_of_length_le (by simpa using Nat.succ_le_of_lt more),writeLines_append]
    simp [SpoolCodec.toVec]

end

/-- The frames are numbered one by one from `low` on. -/
def Numbered (low : Nat) (frames : List RuntimeOutputFrame) : Prop :=
  frames.map RuntimeOutputFrame.seqStart = List.range' low frames.length

variable {low : Nat}

theorem numbered_append {first second : List RuntimeOutputFrame} :
    Numbered low (first ++ second) ↔ Numbered low first ∧ Numbered (low + first.length) second := by
  rw [Numbered,List.map_append,List.length_append,← List.range'_append_1]
  constructor
  · intro same
    exact List.append_inj same (by simp)
  · rintro ⟨one,other⟩
    rw [one,other]

variable {frames : List RuntimeOutputFrame}

theorem Numbered.bounds (numbered : Numbered low frames) {frame : RuntimeOutputFrame} (mem : frame ∈ frames) :
    low ≤ frame.seqStart ∧ frame.seqStart < low + frames.length := by
  have inRange : frame.seqStart ∈ List.range' low frames.length := numbered ▸ List.mem_map_of_mem mem
  simpa using inRange

theorem Numbered.exists_mem (numbered : Numbered low frames) {n : Nat} (above : low ≤ n)
    (below : n < low + frames.length) : ∃ frame ∈ frames, frame.seqStart = n := by
  have inRange : n ∈ List.range' low frames.length := by simpa using ⟨above,below⟩
  rwa [← numbered,List.mem_map] at inRange

theorem Numbered.inOrder (numbered : Numbered low frames) : InOrder RuntimeOutputFrame.seqStart frames := by
  have order : (frames.map RuntimeOutputFrame.seqStart).Pairwise (· < ·) := numbered ▸ List.pairwise_lt_range'
  exact List.pairwise_map.mp order

theorem seedSequence_le {spool : Spool} {epoch : String} {bound : Nat}
    (below : ∀ frame ∈ spool.ofEpoch epoch, frame.seqEnd ≤ bound) : seedSequence spool epoch ≤ bound + 1 := by
  have stays : ∀ (rows : List RuntimeOutputFrame) (top : Nat), top ≤ bound → (∀ row ∈ rows, row.seqEnd ≤ bound) →
      rows.foldl (fun top row => max top row.seqEnd) top ≤ bound := by
    intro rows
    induction rows with
    | nil => exact fun top low _ => low
    | cons row rest ih =>
      intro top low each
      exact ih _ (Nat.max_le.mpr ⟨low,each row List.mem_cons_self⟩) fun r mem => each r (List.mem_cons_of_mem _ mem)
  exact Nat.succ_le_succ (stays _ 0 (Nat.zero_le _) below)

/-- The files hold a last part of the lineage, its last frame with them. -/
structure Descends (codec : SpoolCodec) (epoch : String) (files : SpoolFiles) (spool : Spool)
    (lineage : List RuntimeOutputFrame) : Prop where
  files : FileHolds codec files spool
  numbered : Numbered 1 lineage
  ends : ∀ frame ∈ lineage, frame.seqEnd = frame.seqStart ∧ frame.streamEpoch = epoch
  suffix : spool.ofEpoch epoch <:+ lineage
  last : ∀ frame ∈ lineage.getLast?, frame ∈ spool.current ∨ (spool.current = [] ∧ frame ∈ spool.previous)

section
variable {codec : SpoolCodec} {epoch : String} {files : SpoolFiles} {spool : Spool} {lineage : List RuntimeOutputFrame}

variable {frame : RuntimeOutputFrame}

theorem Descends.last_mem (descends : Descends codec epoch files spool lineage) (isLast : frame ∈ lineage.getLast?) :
    frame ∈ spool.ofEpoch epoch := by
  have sameEpoch := (descends.ends frame (List.mem_of_getLast? isLast)).2
  simp only [Spool.ofEpoch,Spool.rows,List.mem_filter,List.mem_append,beq_iff_eq]
  exact ⟨(descends.last frame isLast).elim .inr fun moved => .inl moved.2,sameEpoch⟩

theorem Descends.seed (descends : Descends codec epoch files spool lineage) :
    seedSequence spool epoch = lineage.length + 1 := by
  apply Nat.le_antisymm
  · refine seedSequence_le fun frame mem => ?_
    have inLineage := descends.suffix.mem mem
    rw [(descends.ends frame inLineage).1]
    have := (descends.numbered.bounds inLineage).2
    omega
  · cases final : lineage.getLast? with
    | none =>
      rw [List.getLast?_eq_none_iff.mp final]
      exact Nat.succ_pos _
    | some frame =>
      have seeded := lt_seedSequence (descends.last_mem final)
      rw [(descends.ends frame (List.mem_of_getLast? final)).1] at seeded
      obtain ⟨earlier,split⟩ : ∃ earlier, lineage = earlier ++ [frame] := by
        obtain ⟨earlier,h⟩ := List.getLast?_eq_some_iff.mp final
        exact ⟨earlier,h⟩
      have numbered := descends.numbered
      rw [split,numbered_append] at numbered
      have := (numbered.2.bounds (List.mem_singleton_self frame)).1
      simp only [split,List.length_append,List.length_singleton]
      omega

def lineFile (codec : SpoolCodec) (spoolLimit : Nat) (files : SpoolFiles) (frame : RuntimeOutputFrame) : SpoolFiles :=
  (appendSpool codec .openFails spoolLimit files frame).1

theorem current_ne_nil (holds : FileHolds codec files spool) {limit : Nat}
    (moves : rotates codec limit files frame = true) : spool.current ≠ [] := by
  intro none
  simp only [rotates,Bool.and_eq_true,decide_eq_true_eq] at moves
  have current := holds.current
  rw [none,List.map_nil] at current
  rcases current with empty | unterminated
  · simp [empty] at moves
  · simp at unterminated

theorem Descends.rotate (descends : Descends codec epoch files spool lineage) (limit : Nat)
    (frame : RuntimeOutputFrame) :
    ∃ spool', Descends codec epoch (lineFile codec limit files frame) spool' lineage := by
  simp only [lineFile,appendSpool]
  split
  next moves =>
    have some := current_ne_nil descends.files moves
    refine ⟨⟨spool.current,[]⟩,⟨descends.files.current,holds_nil⟩,descends.numbered,descends.ends,?_,fun last isLast => ?_⟩
    · refine List.IsSuffix.trans ?_ descends.suffix
      rw [ofEpoch_files,ofEpoch_files]
      simp
    · refine .inr ⟨rfl,?_⟩
      exact (descends.last last isLast).resolve_right fun moved => some moved.1
  next => exact ⟨spool,descends⟩

theorem Descends.remove (descends : Descends codec epoch files spool lineage) {limit : Nat}
    (moves : rotates codec limit files frame = true) :
    Descends codec epoch { files with previous := [] } { spool with previous := [] } lineage := by
  have some := current_ne_nil descends.files moves
  refine ⟨⟨holds_nil,descends.files.current⟩,descends.numbered,descends.ends,?_,fun last isLast => ?_⟩
  · refine List.IsSuffix.trans ?_ descends.suffix
    rw [ofEpoch_files,ofEpoch_files]
    simp
  · exact .inl ((descends.last last isLast).resolve_right fun moved => some moved.1)

theorem Descends.line (faithful : codec.Faithful) (descends : Descends codec epoch files spool lineage)
    (start : LineStart files.current) {n : Nat} (whole : (codec.toVec frame).length ≤ n)
    (number : frame.seqStart = lineage.length + 1) (ends : frame.seqEnd = frame.seqStart)
    (sameEpoch : frame.streamEpoch = epoch) : ∃ spool', Descends codec epoch
      { files with current := files.current ++ (codec.toVec frame ++ [lineFeed]).take n } spool' (lineage ++ [frame]) := by
  refine ⟨{ spool with current := spool.current ++ [frame] },?_,?_,?_,?_,?_⟩
  · exact ⟨descends.files.previous,holds_append faithful descends.files.current start frame whole⟩
  · refine numbered_append.mpr ⟨descends.numbered,?_⟩
    simp [Numbered,number,Nat.add_comm]
  · intro row mem
    rcases List.mem_append.mp mem with mem | mem
    · exact descends.ends row mem
    · rw [List.mem_singleton.mp mem]
      exact ⟨ends,sameEpoch⟩
  · have rows : ({ spool with current := spool.current ++ [frame] } : Spool).ofEpoch epoch =
        spool.ofEpoch epoch ++ [frame] := by
      simp [ofEpoch_files,sameEpoch]
    rw [rows]
    exact List.suffix_append_inj_of_length_eq rfl |>.mpr ⟨descends.suffix,rfl⟩
  · intro last isLast
    simp only [List.getLast?_append,List.getLast?_singleton,Option.some_or,Option.mem_def,Option.some.injEq] at isLast
    exact .inl (by simp [← isLast])

end
end Freshell.SessionHost.Files
