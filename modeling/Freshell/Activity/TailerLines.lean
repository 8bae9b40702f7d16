import Freshell.Activity.Tailer
import Freshell.Library.BrokenLines

/-!
What the reads of a growing events file return: the records of its complete lines, in
order and each once. A line is dropped only where a batch ended in it with more of it
read than the buffer holds.
-/
namespace Freshell.Activity.Amplifier
open Freshell.Library.TextLines Freshell.Library.BrokenLines

def follow (fromStr : String → Option Value) (tailer : AmplifierEventsTailer) :
    List EventsFile → List TailerReadOutcome × AmplifierEventsTailer
  | [] => ([],tailer)
  | file :: later =>
    let (outcome,next) := tailer.read fromStr file
    let (outcomes,last) := follow fromStr next later
    (outcome :: outcomes,last)

def growing (seen : List UInt8) : List (List UInt8) → List EventsFile
  | [] => []
  | appended :: later => .holding (seen ++ appended) :: growing (seen ++ appended) later

def recordsOf (outcomes : List TailerReadOutcome) : List ParsedRecord :=
  outcomes.flatMap fun outcome =>
    match outcome with
    | .ok records _ _ _ => records
    | .degraded _ _ => []

def batchEnds (offset size : Nat) : List Nat :=
  if offset < size then
    (offset + min (size - offset) readBatchMaxBytes) :: batchEnds (offset + min (size - offset) readBatchMaxBytes) size
  else []
termination_by size - offset
decreasing_by
  simp only [readBatchMaxBytes]
  omega

def readEnds (size : Nat) : List (List UInt8) → List Nat
  | [] => []
  | appended :: later => batchEnds size (size + appended.length) ++ readEnds (size + appended.length) later

/-- No batch ended in the line with more of it read than the buffer holds. -/
def kept (ends : List Nat) (line : Nat × List UInt8) : Bool :=
  ends.all fun place => decide (place ≤ line.1 + partialMaxBytes) || decide (line.1 + line.2.length < place)

/-- The record of a line that passes the prefilter and parses. -/
def lineRecord (fromStr : String → Option Value) (line : List UInt8) : Option ParsedRecord :=
  match readLine fromStr line with
  | .record record => some record
  | _ => none

theorem kept_of_short {ends : List Nat} {line : Nat × List UInt8} (short : line.2.length ≤ partialMaxBytes) :
    kept ends line = true := by
  rw [kept,List.all_eq_true]
  intro place _
  by_cases within_ : place ≤ line.1 + partialMaxBytes
  · simp [within_]
  · have beyond : line.1 + line.2.length < place := by omega
    simp [beyond]

theorem splitCompleteLines_eq {buffer rest : List UInt8} {bodies : List (List UInt8)}
    (broken : Broken buffer bodies rest) : splitCompleteLines buffer = (bodies,rest) := by
  induction bodies generalizing buffer with
  | nil =>
    have open_ : buffer = rest := by simpa using broken.bytes_eq
    rw [splitCompleteLines,dif_neg (open_ ▸ broken.unfinished),open_]
  | cons body later ih =>
    obtain ⟨split,unbroken,unfinished⟩ := broken
    have whole : buffer = body ++ lineFeed :: ((later.flatMap fun body => body ++ [lineFeed]) ++ rest) := by
      simpa using split
    have first : buffer.idxOf lineFeed = body.length := by
      rw [whole,List.idxOf_append_of_notMem (unbroken body (by simp))]
      simp
    have listed : lineFeed ∈ buffer := by
      rw [whole]
      simp
    have remaining : buffer.drop (body.length + 1) = (later.flatMap fun body => body ++ [lineFeed]) ++ rest := by
      rw [whole]
      simp [List.drop_append]
    have own : buffer.take body.length = body := by
      rw [whole]
      simp
    rw [splitCompleteLines,dif_pos listed]
    simp only [first,remaining,own]
    rw [ih ⟨rfl,fun line inside => unbroken line (by simp [inside]),unfinished⟩]

namespace Reading
variable {fromStr : String → Option Value} {reading : Reading}

theorem takeLines_buffer (reading : Reading) (lines : List (List UInt8)) :
    (reading.takeLines fromStr lines).tailer.partialLine = reading.tailer.partialLine ∧
      (reading.takeLines fromStr lines).tailer.skippingOversizedLine = reading.tailer.skippingOversizedLine := by
  induction lines generalizing reading with
  | nil => exact ⟨rfl,rfl⟩
  | cons line rest ih =>
    simp only [takeLines]
    split
    · exact ih _
    · exact ih _
    · split
      · exact ⟨rfl,rfl⟩
      · exact ih _

theorem takeLines_records (reading : Reading) (lines : List (List UInt8)) :
    (∃ message, (reading.takeLines fromStr lines).tailer.degraded = some (.schemaMismatch,message)) ∨
      ((reading.takeLines fromStr lines).tailer.degraded = reading.tailer.degraded ∧
        (reading.takeLines fromStr lines).records = reading.records ++ lines.filterMap (lineRecord fromStr)) := by
  induction lines generalizing reading with
  | nil => exact .inr ⟨rfl,by simp [takeLines]⟩
  | cons line rest ih =>
    simp only [takeLines]
    cases read : readLine fromStr line with
    | blank =>
      have none_ : lineRecord fromStr line = none := by rw [lineRecord,read]
      rw [List.filterMap_cons_none none_]
      exact ih reading
    | skipped =>
      have none_ : lineRecord fromStr line = none := by rw [lineRecord,read]
      rw [List.filterMap_cons_none none_]
      exact ih _
    | record record =>
      have given : lineRecord fromStr line = some record := by rw [lineRecord,read]
      rw [List.filterMap_cons_some given]
      simp only
      split
      · exact .inl ⟨_,rfl⟩
      · refine (ih _).imp id fun taken => ⟨taken.1,?_⟩
        rw [taken.2]
        simp

end Reading

/-- What the tailer has read, and what it returned of it. -/
structure Follows (fromStr : String → Option Value) (seen : List UInt8) (ends : List Nat)
    (tailer : AmplifierEventsTailer) (records : List ParsedRecord) (bodies : List (List UInt8)) (rest : List UInt8) :
    Prop where
  broken : Broken seen bodies rest
  offset : tailer.offset = seen.length
  lane : tailer.degraded = none
  ends_le : ∀ place ∈ ends, place ≤ seen.length
  records_eq : records = ((placed 0 bodies).filter (kept ends)).filterMap (lineRecord fromStr ·.2)
  /-- The unfinished line of a tailer that skips has outgrown the buffer at the end of a batch. -/
  skipping : tailer.skippingOversizedLine = true →
    tailer.partialLine = [] ∧ ∃ place ∈ ends, extent bodies + partialMaxBytes < place
  buffered : tailer.skippingOversizedLine = false →
    tailer.partialLine = rest ∧ rest.length ≤ partialMaxBytes

variable {fromStr : String → Option Value} {seen rest : List UInt8} {ends : List Nat} {tailer : AmplifierEventsTailer}
  {records : List ParsedRecord} {bodies : List (List UInt8)}

theorem kept_concat {line : Nat × List UInt8} {size : Nat} (within_ : line.1 + line.2.length < size) :
    kept (ends ++ [size]) line = kept ends line := by
  simp [kept,within_]

theorem kept_of_later {line : Nat × List UInt8} (before : ∀ place ∈ ends, place ≤ line.1 + partialMaxBytes) :
    kept ends line = true := by
  rw [kept,List.all_eq_true]
  intro place listed
  simp [before place listed]

/-- The lines that a batch completes: the first is kept unless it was skipped, the others are kept. -/
theorem Follows.kept_later (follows : Follows fromStr seen ends tailer records bodies rest) {more remaining : List UInt8}
    {later : List (List UInt8)} (next : Broken (rest ++ more) later remaining) :
    (placed (extent bodies) later).filter (kept ends) =
      if tailer.skippingOversizedLine then (placed (extent bodies) later).drop 1 else placed (extent bodies) later := by
  have size := follows.broken.length_eq
  cases later with
  | nil => simp [placed]
  | cons first others =>
    have whole : rest ++ more = first ++ lineFeed :: ((others.flatMap fun body => body ++ [lineFeed]) ++ remaining) := by
      simpa using next.bytes_eq
    have longer : rest.length ≤ first.length := by
      by_contra short
      have inside : lineFeed ∈ rest := by
        have at_ : (rest ++ more)[first.length]? = some lineFeed := by
          rw [whole]
          simp
        rw [List.getElem?_append_left (by omega)] at at_
        exact List.mem_of_getElem? at_
      exact follows.broken.unfinished inside
    have others_kept : (placed (extent bodies + first.length + 1) others).filter (kept ends) =
        placed (extent bodies + first.length + 1) others := by
      refine List.filter_eq_self.mpr fun line listed => kept_of_later fun place bounded => ?_
      have begins := (placed_within listed).1
      have last := follows.ends_le place bounded
      omega
    rw [placed,List.filter_cons,others_kept]
    cases skips : tailer.skippingOversizedLine with
    | true =>
      obtain ⟨_,place,listed,beyond⟩ := follows.skipping skips
      have dropped : kept ends (extent bodies,first) = false := by
        rw [kept,List.all_eq_false]
        have last := follows.ends_le place listed
        refine ⟨place,listed,?_⟩
        simp only [Bool.or_eq_true,decide_eq_true_eq]
        omega
      simp [dropped]
    | false =>
      obtain ⟨_,bounded⟩ := follows.buffered skips
      have first_kept : kept ends (extent bodies,first) = true := kept_of_later fun place listed => by
        have last := follows.ends_le place listed
        simp only
        omega
      simp [first_kept]

theorem Follows.advance (follows : Follows fromStr seen ends tailer records bodies rest) {more remaining : List UInt8}
    {later : List (List UInt8)} (next : Broken (rest ++ more) later remaining) {after : AmplifierEventsTailer}
    (offset : after.offset = seen.length + more.length) (lane : after.degraded = none)
    (skipping : after.skippingOversizedLine = true → after.partialLine = [] ∧
      (partialMaxBytes < remaining.length ∨ (tailer.skippingOversizedLine = true ∧ later = [])))
    (buffered : after.skippingOversizedLine = false → after.partialLine = remaining ∧ remaining.length ≤ partialMaxBytes)
    {total : List ParsedRecord}
    (returns : total = records ++
      (if tailer.skippingOversizedLine then later.drop 1 else later).filterMap (lineRecord fromStr)) :
    Follows fromStr (seen ++ more) (ends ++ [seen.length + more.length]) after total (bodies ++ later) remaining := by
  have broken := follows.broken.append next
  have size := broken.length_eq
  rw [List.length_append] at size
  refine ⟨broken,by simpa using offset,lane,?_,?_,?_,buffered⟩
  · intro place listed
    obtain listed | listed := List.mem_append.mp listed
    · have last := follows.ends_le place listed
      simp only [List.length_append]
      omega
    · simp [List.mem_singleton.mp listed]
  · have same : (placed 0 (bodies ++ later)).filter (kept (ends ++ [seen.length + more.length])) =
        (placed 0 (bodies ++ later)).filter (kept ends) := by
      refine List.filter_congr fun line listed => kept_concat ?_
      have ended := (placed_within listed).2
      omega
    have lines (from_ : Nat) (bodies : List (List UInt8)) :
        (placed from_ bodies).filterMap (lineRecord fromStr ·.2) = bodies.filterMap (lineRecord fromStr) := by
      conv => rhs; rw [← map_snd_placed from_ bodies,List.filterMap_map]
      simp only [Function.comp_def]
    rw [same,placed_append,Nat.zero_add,List.filter_append,List.filterMap_append,follows.kept_later next,
      ← follows.records_eq,returns]
    congr 1
    split
    · conv => lhs; rw [← map_snd_placed (extent bodies) later,← List.map_drop,List.filterMap_map]
      simp only [Function.comp_def]
    · rw [lines]
  · intro skips
    obtain ⟨empty,long | ⟨still,none_⟩⟩ := skipping skips
    · refine ⟨empty,seen.length + more.length,by simp,?_⟩
      omega
    · obtain ⟨_,place,listed,beyond⟩ := follows.skipping still
      exact ⟨empty,place,List.mem_append_left _ listed,by simpa [none_] using beyond⟩

namespace Reading
variable {reading : Reading}

theorem takeChunk_spec {chunk remaining : List UInt8} {later : List (List UInt8)}
    (skips : reading.tailer.skippingOversizedLine = false) (lane : reading.tailer.degraded = none)
    (next : Broken (reading.tailer.partialLine ++ chunk) later remaining) :
    (∃ message, (reading.takeChunk fromStr chunk).tailer.degraded = some (.schemaMismatch,message)) ∨
      ((reading.takeChunk fromStr chunk).tailer.degraded = none ∧
        (reading.takeChunk fromStr chunk).tailer.offset = reading.tailer.offset ∧
        (reading.takeChunk fromStr chunk).records = reading.records ++ later.filterMap (lineRecord fromStr) ∧
        ((reading.takeChunk fromStr chunk).tailer.skippingOversizedLine = true →
          (reading.takeChunk fromStr chunk).tailer.partialLine = [] ∧ partialMaxBytes < remaining.length) ∧
        ((reading.takeChunk fromStr chunk).tailer.skippingOversizedLine = false →
          (reading.takeChunk fromStr chunk).tailer.partialLine = remaining ∧ remaining.length ≤ partialMaxBytes)) := by
  simp only [takeChunk,splitCompleteLines_eq next]
  by_cases long : partialMaxBytes < remaining.length
  · simp only [long,if_true]
    refine (takeLines_records _ later).imp id fun taken => ⟨taken.1.trans lane,takeLines_offset _ _,taken.2,?_,?_⟩
    · intro _
      exact ⟨(takeLines_buffer _ later).1,trivial⟩
    · intro buffers
      rw [(takeLines_buffer _ later).2] at buffers
      cases buffers
  · simp only [long,if_false]
    refine (takeLines_records _ later).imp id fun taken => ⟨taken.1.trans lane,takeLines_offset _ _,taken.2,?_,?_⟩
    · intro skipping
      rw [(takeLines_buffer _ later).2,skips] at skipping
      cases skipping
    · intro _
      exact ⟨(takeLines_buffer _ later).1,by omega⟩

theorem takeBatch_follows {before : List ParsedRecord}
    (follows : Follows fromStr seen ends reading.tailer (before ++ reading.records) bodies rest) (appended : List UInt8) :
    (∃ message, (reading.takeBatch fromStr appended).tailer.degraded = some (.schemaMismatch,message)) ∨
      ∃ bodies rest, Follows fromStr (seen ++ appended) (ends ++ [seen.length + appended.length])
        (reading.takeBatch fromStr appended).tailer (before ++ (reading.takeBatch fromStr appended).records) bodies rest := by
  have offset := follows.offset
  cases skips : reading.tailer.skippingOversizedLine with
  | true =>
    obtain ⟨empty,_⟩ := follows.skipping skips
    rw [takeBatch,if_pos skips]
    by_cases listed : lineFeed ∈ appended
    · obtain ⟨body,after,split,unbroken⟩ := List.eq_append_cons_of_mem listed
      obtain ⟨later,remaining,next⟩ := Broken.of_bytes after
      have first : appended.idxOf lineFeed = body.length := by
        rw [split,List.idxOf_append_of_notMem unbroken]
        simp
      have chunk : appended.drop (body.length + 1) = after := by
        rw [split]
        simp [List.drop_append]
      have whole : Broken (rest ++ appended) ((rest ++ body) :: later) remaining := by
        have line : lineFeed ∉ rest ++ body := by simp [follows.broken.unfinished,unbroken]
        simpa [split] using next.cons line
      rw [if_pos listed,first,chunk]
      obtain closed | ⟨lane,moved,records,skipping,buffered⟩ :=
        @takeChunk_spec fromStr (reading.moved appended).pastOversizedLine after remaining later rfl follows.lane
          (by simpa [pastOversizedLine,Reading.moved,empty] using next)
      · exact .inl closed
      · refine .inr ⟨_,_,follows.advance whole ?_ lane ?_ buffered ?_⟩
        · rw [moved,← offset]
          rfl
        · exact fun skips => ⟨(skipping skips).1,.inl (skipping skips).2⟩
        · rw [records,if_pos skips,List.drop_one,List.tail_cons,List.append_assoc]
          rfl
    · rw [if_neg listed]
      have open_ : lineFeed ∉ rest ++ appended := by simp [follows.broken.unfinished,listed]
      refine .inr ⟨_,_,@Follows.advance _ _ _ _ _ _ _ follows _ _ _ (.unended open_) (reading.moved appended).tailer
        ?_ follows.lane ?_ ?_ _ ?_⟩
      · rw [← offset]
        rfl
      · exact fun _ => ⟨empty,.inr ⟨skips,rfl⟩⟩
      · intro buffers
        exact absurd (skips.symm.trans buffers) (by decide)
      · simp [Reading.moved]
  | false =>
    obtain ⟨buffer,_⟩ := follows.buffered skips
    obtain ⟨later,remaining,next⟩ := Broken.of_bytes (rest ++ appended)
    rw [takeBatch,if_neg (by simp [skips])]
    obtain closed | ⟨lane,moved,records,skipping,buffered⟩ :=
      @takeChunk_spec fromStr (reading.moved appended) appended remaining later skips follows.lane
        (by simpa [Reading.moved,buffer] using next)
    · exact .inl closed
    · refine .inr ⟨_,_,follows.advance next ?_ lane ?_ buffered ?_⟩
      · rw [moved,← offset]
        rfl
      · exact fun skips => ⟨(skipping skips).1,.inl (skipping skips).2⟩
      · rw [records,skips,List.append_assoc]
        rfl

theorem readBatches_follows {before : List ParsedRecord} {bytes : List UInt8} {reading : Reading} {ends : List Nat}
    {bodies : List (List UInt8)} {rest : List UInt8}
    (follows : Follows fromStr (bytes.take reading.tailer.offset) ends reading.tailer (before ++ reading.records)
      bodies rest) (within_ : reading.tailer.offset ≤ bytes.length) :
    (∃ message, (reading.readBatches fromStr (.holding bytes) bytes.length).tailer.degraded =
      some (.schemaMismatch,message)) ∨
      ∃ bodies rest, Follows fromStr bytes (ends ++ batchEnds reading.tailer.offset bytes.length)
        (reading.readBatches fromStr (.holding bytes) bytes.length).tailer
        (before ++ (reading.readBatches fromStr (.holding bytes) bytes.length).records) bodies rest := by
  induction left : bytes.length - reading.tailer.offset using Nat.strongRecOn generalizing reading ends bodies rest with
  | ind n ih =>
    by_cases more : reading.tailer.offset < bytes.length
    · rw [readBatches,dif_pos more,batchEnds,if_pos more]
      simp only [EventsFile.holding]
      generalize count : min (bytes.length - reading.tailer.offset) readBatchMaxBytes = amount
      have amount_le : amount ≤ bytes.length - reading.tailer.offset := by omega
      have amount_pos : 0 < amount := by
        have room : 0 < readBatchMaxBytes := by decide
        omega
      have size : ((bytes.drop reading.tailer.offset).take amount).length = amount := by
        rw [List.length_take,List.length_drop]
        omega
      have nonempty : (bytes.drop reading.tailer.offset).take amount ≠ [] := by
        intro none_
        rw [none_] at size
        simp only [List.length_nil] at size
        omega
      rw [dif_neg nonempty]
      have batch := takeBatch_follows follows ((bytes.drop reading.tailer.offset).take amount)
      have moved := @takeBatch_offset fromStr reading ((bytes.drop reading.tailer.offset).take amount)
      generalize reading.takeBatch fromStr ((bytes.drop reading.tailer.offset).take amount) = next at batch moved
      rw [size] at moved
      obtain ⟨message,closed⟩ | ⟨bodies,rest,batch⟩ := batch
      · simp only [closed,Option.isSome_some,if_true]
        exact .inl ⟨message,rfl⟩
      · have seen : bytes.take reading.tailer.offset ++ (bytes.drop reading.tailer.offset).take amount =
            bytes.take next.tailer.offset := by rw [moved,List.take_add]
        have place : (bytes.take reading.tailer.offset).length + ((bytes.drop reading.tailer.offset).take amount).length =
            next.tailer.offset := by rw [size,moved,List.length_take]; omega
        rw [seen,place] at batch
        simp only [batch.lane,Option.isSome_none,Bool.false_eq_true,if_false]
        rw [← moved,List.append_cons]
        exact ih _ (by omega) batch (by omega) rfl
    · rw [readBatches,dif_neg more,batchEnds,if_neg more,List.append_nil]
      rw [List.take_of_length_le (by omega)] at follows
      exact .inr ⟨bodies,rest,follows⟩

/-! The buffer stays within its bound whatever the file does. -/

theorem takeChunk_le (reading : Reading) (chunk : List UInt8) :
    (reading.takeChunk fromStr chunk).tailer.partialLine.length ≤ partialMaxBytes := by
  simp only [takeChunk]
  rw [(takeLines_buffer _ _).1]
  split
  · simp
  · simp only
    omega

theorem takeBatch_le (bounded : reading.tailer.partialLine.length ≤ partialMaxBytes) (appended : List UInt8) :
    (reading.takeBatch fromStr appended).tailer.partialLine.length ≤ partialMaxBytes := by
  simp only [takeBatch]
  split
  · split
    · exact takeChunk_le _ _
    · exact bounded
  · exact takeChunk_le _ _

theorem readBatches_le (file : EventsFile) (size : Nat) (bounded : reading.tailer.partialLine.length ≤ partialMaxBytes) :
    (reading.readBatches fromStr file size).tailer.partialLine.length ≤ partialMaxBytes := by
  fun_induction readBatches fromStr file size reading with
  | case1 => exact bounded
  | case2 => exact bounded
  | case3 => exact takeBatch_le bounded _
  | case4 _ _ _ _ _ _ _ ih => exact ih (takeBatch_le bounded _)
  | case5 => exact bounded

end Reading

theorem read_le {tailer : AmplifierEventsTailer} (file : EventsFile)
    (bounded : tailer.partialLine.length ≤ partialMaxBytes) :
    (tailer.read fromStr file).2.partialLine.length ≤ partialMaxBytes := by
  simp only [AmplifierEventsTailer.read]
  split
  · exact bounded
  · simp only
    split
    · exact bounded
    · split
      · exact bounded
      · exact Reading.readBatches_le file _ bounded

/-- Whatever the file does between the reads, the buffered line stays within its bound. -/
theorem follow_le {tailer : AmplifierEventsTailer} (files : List EventsFile)
    (bounded : tailer.partialLine.length ≤ partialMaxBytes) :
    (follow fromStr tailer files).2.partialLine.length ≤ partialMaxBytes := by
  induction files generalizing tailer with
  | nil => exact bounded
  | cons file later ih => exact ih (read_le file bounded)

theorem follow_degraded {tailer : AmplifierEventsTailer} {closed : TailerDegradeReason × String}
    (degraded : tailer.degraded = some closed) (files : List EventsFile) :
    (follow fromStr tailer files).2.degraded = some closed := by
  induction files with
  | nil => exact degraded
  | cons file later ih =>
    have same : (tailer.read fromStr file).2 = tailer := by simp [AmplifierEventsTailer.read,degraded]
    simpa only [follow,same] using ih

theorem read_follows (follows : Follows fromStr seen ends tailer records bodies rest) (appended : List UInt8) :
    (∃ message, (tailer.read fromStr (.holding (seen ++ appended))).2.degraded = some (.schemaMismatch,message)) ∨
      ∃ bodies rest, Follows fromStr (seen ++ appended) (ends ++ batchEnds seen.length (seen.length + appended.length))
        (tailer.read fromStr (.holding (seen ++ appended))).2
        (records ++ recordsOf [(tailer.read fromStr (.holding (seen ++ appended))).1]) bodies rest := by
  have offset := follows.offset
  have grown : ¬(seen ++ appended).length < tailer.offset := by
    rw [offset,List.length_append]
    omega
  have already : (seen ++ appended).take tailer.offset = seen := by
    rw [offset]
    exact List.take_left
  have start : Follows fromStr ((seen ++ appended).take tailer.offset) ends (⟨tailer,[],0,0⟩ : Reading).tailer
      (records ++ (⟨tailer,[],0,0⟩ : Reading).records) bodies rest := by
    rw [already]
    simpa using follows
  have reads := @Reading.readBatches_follows fromStr records (seen ++ appended) ⟨tailer,[],0,0⟩ ends bodies rest start
    (Nat.not_lt.mp grown)
  simp only [AmplifierEventsTailer.read,follows.lane,EventsFile.holding,grown,if_false]
  simp only [EventsFile.holding,offset,List.length_append] at reads
  rw [List.length_append]
  generalize Reading.readBatches fromStr _ _ _ = last at reads ⊢
  refine reads.imp id fun ⟨bodies,rest,later⟩ => ⟨bodies,rest,?_⟩
  simpa [recordsOf,AmplifierEventsTailer.outcome,later.lane] using later

theorem follow_follows (follows : Follows fromStr seen ends tailer records bodies rest) (appends : List (List UInt8))
    (gate : ∀ message, (follow fromStr tailer (growing seen appends)).2.degraded ≠ some (.schemaMismatch,message)) :
    ∃ bodies rest, Follows fromStr (seen ++ appends.flatten) (ends ++ readEnds seen.length appends)
      (follow fromStr tailer (growing seen appends)).2
      (records ++ recordsOf (follow fromStr tailer (growing seen appends)).1) bodies rest := by
  induction appends generalizing seen ends tailer records bodies rest with
  | nil =>
    refine ⟨bodies,rest,?_⟩
    simpa [growing,follow,readEnds,recordsOf] using follows
  | cons appended later ih =>
    obtain ⟨message,closed⟩ | ⟨bodies,rest,next⟩ := read_follows follows appended
    · exact absurd (follow_degraded closed _) (gate message)
    · obtain ⟨bodies,rest,last⟩ := ih next gate
      refine ⟨bodies,rest,?_⟩
      simp only [growing,follow,readEnds,List.flatten_cons]
      rw [List.length_append] at last
      simpa [recordsOf,List.append_assoc] using last

theorem follows_start (fromStr : String → Option Value) : Follows fromStr [] [] {} [] [] [] where
  broken := .nil
  offset := rfl
  lane := rfl
  ends_le _ listed := nomatch listed
  records_eq := rfl
  skipping skips := nomatch skips
  buffered _ := ⟨rfl,Nat.zero_le _⟩

/-- A tailer attached at the start of a growing file returns the records of its complete lines, in order
    and each once, but for lines in which a batch ended with more than the buffer's bound read. A line
    within the bound is always kept, and the buffer stays within it. -/
theorem tailing_exact (fromStr : String → Option Value) (appends : List (List UInt8)) :
    let start := ({} : AmplifierEventsTailer).attach (.holding []) .start
    let run := follow fromStr start (growing [] appends)
    run.2.partialLine.length ≤ partialMaxBytes ∧
      ((∀ message, run.2.degraded ≠ some (.schemaMismatch,message)) →
        ∃ bodies rest, Broken appends.flatten bodies rest ∧
          recordsOf run.1 =
            ((placed 0 bodies).filter (kept (readEnds 0 appends))).filterMap (lineRecord fromStr ·.2) ∧
          ∀ line ∈ placed 0 bodies, line.2.length ≤ partialMaxBytes → kept (readEnds 0 appends) line = true) := by
  refine ⟨follow_le _ (Nat.zero_le _),fun gate => ?_⟩
  obtain ⟨bodies,rest,last⟩ := follow_follows (follows_start fromStr) appends gate
  exact ⟨bodies,rest,last.broken,by simpa [AmplifierEventsTailer.attach] using last.records_eq,fun line _ short => kept_of_short short⟩

def paddedHead : List Char :=
  "\x7b\"event\":\"session:start\",\"schema\":\x7b\"name\":\"amplifier.log\",\"ver\":\"1.0.0\"\x7d,\"pad\":\"".toList

/-- A lifecycle line with so many characters of padding. -/
def paddedText (size : Nat) : List Char := paddedHead ++ List.replicate size 'x' ++ ['"','\x7d']

def paddedValue (size : Nat) : Value :=
  .object [("event",.string "session:start"),
    ("schema",.object [("name",.string "amplifier.log"),("ver",.string "1.0.0")]),
    ("pad",.string (String.ofList (List.replicate size 'x')))]

def paddedRecord : ParsedRecord := ⟨"session:start",none,none,some "amplifier.log",some "1.0.0",none,none⟩

theorem length_padded (size : Nat) : (utf8 (paddedText size)).length = (utf8 paddedHead).length + size + 2 := by
  have pad : (utf8 (List.replicate size 'x')).length = size := by
    induction size with
    | zero => rfl
    | succ n ih =>
      rw [List.replicate_succ,utf8_cons,List.length_append,ih]
      exact Nat.add_comm 1 n
  have parts : utf8 (paddedText size) = utf8 paddedHead ++ utf8 (List.replicate size 'x') ++ utf8 ['"','\x7d'] := by
    simp [utf8,paddedText]
  have tail : (utf8 ['"','\x7d']).length = 2 := by decide +kernel
  rw [parts,List.length_append,List.length_append,pad,tail]

theorem readLine_padded (size : Nat) :
    readLine (fun _ => some (paddedValue size)) (utf8 (paddedText size)) = .record paddedRecord := by
  have text : (Terminal.fromUtf8Lossy (utf8 (paddedText size))).toList = paddedText size := by
    have encoded := Freshell.Library.Utf8.decode_encoded (paddedText size) []
    rw [List.append_nil] at encoded
    rw [Terminal.fromUtf8Lossy_eq,utf8,encoded]
    simp [Freshell.Library.Utf8.decode]
  have trimmed : (trimEndReturns (Terminal.fromUtf8Lossy (utf8 (paddedText size)))).toList = paddedText size := by
    rw [trimEndReturns,text,String.toList_ofList]
    simp [paddedText]
  have shown : (paddedText size).all isWhitespace = false := by
    rw [paddedText,List.append_assoc,List.all_append]
    have head : paddedHead.all isWhitespace = false := by decide +kernel
    rw [head,Bool.false_and]
  have named : matchesPrefilter (trimEndReturns (Terminal.fromUtf8Lossy (utf8 (paddedText size)))) = true := by
    have inside : contains (trimEndReturns (Terminal.fromUtf8Lossy (utf8 (paddedText size))))
        "\"event\":\"session:" = true := by
      rw [contains,trimmed,decide_eq_true_iff]
      have head : "\"event\":\"session:".toList <:+: paddedHead :=
        ⟨['\x7b'],"start\",\"schema\":\x7b\"name\":\"amplifier.log\",\"ver\":\"1.0.0\"\x7d,\"pad\":\"".toList,
          by decide +kernel⟩
      rw [paddedText,List.append_assoc]
      exact head.trans (List.prefix_append _ _).isInfix
    simp [matchesPrefilter,eventPrefixes,inside]
  have record : ParsedRecord.fromJson (paddedValue size) = some paddedRecord := rfl
  rw [readLine]
  simp only [trimmed,shown,named,Bool.false_eq_true,if_false,Bool.not_true,record]

theorem follow_one_line {parse : String → Option Value} {line : List UInt8} {record : ParsedRecord}
    (unbroken : lineFeed ∉ line) (fits : line.length < readBatchMaxBytes) (reads : readLine parse line = .record record)
    (valid : checkAmplifierRecordSchema record = none) :
    (follow parse {} (growing [] [line ++ [lineFeed]])).2.degraded = none ∧
      recordsOf (follow parse {} (growing [] [line ++ [lineFeed]])).1 = [record] := by
  have broken : Broken (line ++ [lineFeed]) [line] [] := Broken.nil.cons unbroken
  have batch : ((⟨{},[],0,0⟩ : Reading).takeBatch parse (line ++ [lineFeed])).tailer.degraded = none ∧
      ((⟨{},[],0,0⟩ : Reading).takeBatch parse (line ++ [lineFeed])).records = [record] := by
    have lines : splitCompleteLines ([] ++ (line ++ [lineFeed])) = ([line],[]) := splitCompleteLines_eq broken
    simp only [Reading.takeBatch,Reading.moved,Reading.takeChunk,lines,Bool.false_eq_true,if_false]
    simp [Reading.takeLines,reads,valid]
  have moved := @Reading.takeBatch_offset parse ⟨{},[],0,0⟩ (line ++ [lineFeed])
  have whole : (line ++ [lineFeed]).take (min (line ++ [lineFeed]).length readBatchMaxBytes) = line ++ [lineFeed] :=
    List.take_of_length_le (by simp; omega)
  have read : Reading.readBatches parse (.holding (line ++ [lineFeed])) (line ++ [lineFeed]).length ⟨{},[],0,0⟩ =
      (⟨{},[],0,0⟩ : Reading).takeBatch parse (line ++ [lineFeed]) := by
    rw [Reading.readBatches,dif_pos (by simp)]
    simp only [EventsFile.holding,Nat.sub_zero,List.drop_zero,whole]
    rw [dif_neg (by simp)]
    simp only [batch.1,Option.isSome_none,Bool.false_eq_true,if_false]
    rw [Reading.readBatches,dif_neg (by rw [moved]; simp)]
  have zero : ¬(line ++ [lineFeed]).length < 0 := Nat.not_lt_zero _
  have result : AmplifierEventsTailer.read parse {} (.holding (line ++ [lineFeed])) =
      (AmplifierEventsTailer.outcome ((⟨{},[],0,0⟩ : Reading).takeBatch parse (line ++ [lineFeed])),
        ((⟨{},[],0,0⟩ : Reading).takeBatch parse (line ++ [lineFeed])).tailer) := by
    rw [EventsFile.holding] at read ⊢
    simp only [AmplifierEventsTailer.read,zero,if_false,read]
  simp only [growing,follow,List.nil_append,result]
  exact ⟨batch.1,by simp [recordsOf,AmplifierEventsTailer.outcome,batch.1,batch.2]⟩

theorem padded_printable (size : Nat) : Printable (paddedText size) := by
  intro c listed
  simp only [paddedText,List.mem_append,List.mem_replicate] at listed
  obtain (listed | ⟨_,rfl⟩) | listed := listed
  · have head : Printable paddedHead := by decide +kernel
    exact head c listed
  · decide
  · have tail : Printable ['"','\x7d'] := by decide
    exact tail c listed

theorem attach_start (file : EventsFile) : ({} : AmplifierEventsTailer).attach file .start = {} := rfl

theorem padded_returned {size : Nat} (long : partialMaxBytes ≤ size) (fits : size + 100 < readBatchMaxBytes) :
    let parse := fun _ : String => some (paddedValue size)
    let line := utf8 (paddedText size)
    let run := follow parse (({} : AmplifierEventsTailer).attach (.holding []) .start) (growing [] [line ++ [lineFeed]])
    run.2.degraded = none ∧ Broken (line ++ [lineFeed]) [line] [] ∧ recordsOf run.1 = [paddedRecord] ∧
      ([line].filter (·.length ≤ partialMaxBytes)).filterMap (lineRecord parse) = [] := by
  have bytes := length_padded size
  have head : (utf8 paddedHead).length < 98 := by decide +kernel
  have unbroken := (printable_utf8 (padded_printable size)).1
  have valid : checkAmplifierRecordSchema paddedRecord = none := by decide +kernel
  have returned := follow_one_line unbroken (by omega) (readLine_padded size) valid
  have beyond : ¬(utf8 (paddedText size)).length ≤ partialMaxBytes := by omega
  rw [attach_start]
  exact ⟨returned.1,Broken.nil.cons unbroken,returned.2,by simp [beyond]⟩

/-- A line longer than the buffer's bound that arrives at once is returned. -/
theorem long_line_returned :
    let parse := fun _ : String => some (paddedValue partialMaxBytes)
    let line := utf8 (paddedText partialMaxBytes)
    let run := follow parse (({} : AmplifierEventsTailer).attach (.holding []) .start) (growing [] [line ++ [lineFeed]])
    run.2.degraded = none ∧ Broken (line ++ [lineFeed]) [line] [] ∧ recordsOf run.1 = [paddedRecord] ∧
      ([line].filter (·.length ≤ partialMaxBytes)).filterMap (lineRecord parse) = [] :=
  padded_returned (Nat.le_refl _) (by decide)

end Freshell.Activity.Amplifier
