import Freshell.Activity.Signal
import Mathlib.Data.List.Induction

/-!
The two scanners for the bell of a turn's end, side by side. Both read the output one
character at a time, so that what is extracted does not depend on how the output is cut
into chunks. They test the nested sequences in different orders, and agree as long as one
sequence is open at a time.
-/
namespace Freshell.Activity

namespace ParserState

def ground (state : ParserState) : Bool := !state.pendingEsc && !state.inOsc && !state.inDcs && !state.inCsi

def tracked (state : ParserState) (ch : Char) : ParserState := (CandidateScan.read ⟨state,false,[]⟩ ch).parser

def extracted (state : ParserState) (ch : Char) : ParserState := (Extraction.read ⟨state,"",0⟩ ch).parser

end ParserState

variable (scan : CandidateScan)

theorem CandidateScan.read_parser (ch : Char) : (scan.read ch).parser = scan.parser.tracked ch := by
  simp only [ParserState.tracked,CandidateScan.read,apply_ite CandidateScan.parser]

variable (extraction : Extraction)

theorem Extraction.read_parser (ch : Char) : (extraction.read ch).parser = extraction.parser.extracted ch := by
  simp only [ParserState.extracted,Extraction.read,apply_ite Extraction.parser]

/-- The bell is none of the characters that open or close a sequence for the scanners. -/
theorem bell_apart : (turnCompleteSignal == esc) = false ∧ (turnCompleteSignal == c1Csi) = false ∧
    (turnCompleteSignal == c1Dcs) = false ∧ (turnCompleteSignal == c1Osc) = false ∧
    (turnCompleteSignal == c1St) = false ∧ isCsiFinal turnCompleteSignal = false := by decide

variable (state : ParserState)

theorem ParserState.pendingEsc_afterEsc (ch : Char) : (state.afterEsc ch).pendingEsc = false := by
  simp only [afterEsc,apply_ite ParserState.pendingEsc,ite_self]

theorem esc_apart : (esc == turnCompleteSignal) = false := by decide

theorem CandidateScan.read_candidates (ch : Char) : (scan.read ch).candidates.length =
      scan.candidates.length + if ch == turnCompleteSignal && scan.parser.ground then 1 else 0 := by
  by_cases bell : ch = turnCompleteSignal
  · subst bell
    obtain ⟨notEsc,notCsi,notDcs,notOsc,notSt,notFinal⟩ := bell_apart
    obtain ⟨⟨inOsc,inCsi,inDcs,pendingEsc⟩,saw,candidates⟩ := scan
    simp only [read,ParserState.ground,notEsc,notCsi,notDcs,notOsc,notSt,notFinal]
    cases pendingEsc <;> cases inOsc <;> cases inDcs <;> cases inCsi <;> simp
  · simp only [read,bell,beq_iff_eq,if_false,apply_ite CandidateScan.candidates,apply_ite List.length,List.length_map,
      Bool.and_eq_true,false_and,ite_self,Nat.add_zero]

theorem Extraction.read_count (ch : Char) : (extraction.read ch).count =
      extraction.count + if ch == turnCompleteSignal && extraction.parser.ground then 1 else 0 := by
  by_cases bell : ch = turnCompleteSignal
  · subst bell
    obtain ⟨notEsc,notCsi,notDcs,notOsc,_⟩ := bell_apart
    obtain ⟨⟨inOsc,inCsi,inDcs,pendingEsc⟩,cleaned,count⟩ := extraction
    simp only [read,ParserState.ground,notEsc,notCsi,notDcs,notOsc]
    cases pendingEsc <;> cases inOsc <;> cases inDcs <;> cases inCsi <;> simp
  · simp only [read,bell,beq_iff_eq,if_false,apply_ite Extraction.count,Bool.and_eq_true,false_and,ite_self,Nat.add_zero]

/-- The escape that the extraction holds back until the next character. -/
def ParserState.held (state : ParserState) : List Char := if state.pendingEsc then [esc] else []

/-- With the held escape behind it, the cleaned text grows by every character but the counted bell. -/
theorem Extraction.read_cleaned (ch : Char) : (extraction.read ch).cleaned.toList ++ (extraction.read ch).parser.held =
      extraction.cleaned.toList ++ extraction.parser.held ++
        if ch == turnCompleteSignal && extraction.parser.ground then [] else [ch] := by
  obtain ⟨⟨inOsc,inCsi,inDcs,pendingEsc⟩,cleaned,count⟩ := extraction
  cases pendingEsc with
  | true => simp [read,ParserState.ground,ParserState.held,ParserState.pendingEsc_afterEsc]
  | false =>
    by_cases escape : ch = esc
    · subst escape
      simp [read,ParserState.ground,ParserState.held,esc_apart]
    · by_cases bell : ch = turnCompleteSignal
      · subst bell
        obtain ⟨notEsc,notCsi,notDcs,notOsc,notSt,notFinal⟩ := bell_apart
        simp only [read,ParserState.ground,ParserState.held,notEsc,notCsi,notDcs,notOsc,notSt,notFinal]
        cases inOsc <;> cases inDcs <;> cases inCsi <;> simp
      · have other : (ch == turnCompleteSignal) = false := beq_false_of_ne bell
        simp only [read,other,escape,beq_iff_eq,if_false,Bool.false_eq_true,Bool.false_and]
        split_ifs <;> simp [ParserState.held]

section
variable (state : ParserState)

/-- The tracker's scanner enters the character at the position as a candidate. -/
def TrackerBell (data : List Char) (i : Nat) : Prop :=
  ((data.take (i + 1)).foldl CandidateScan.read ⟨state,false,[]⟩).candidates.length =
    ((data.take i).foldl CandidateScan.read ⟨state,false,[]⟩).candidates.length + 1

def ExtractedBell (data : List Char) (i : Nat) : Prop :=
  ((data.take (i + 1)).foldl Extraction.read ⟨state,"",0⟩).count =
    ((data.take i).foldl Extraction.read ⟨state,"",0⟩).count + 1

instance (data : List Char) (i : Nat) : Decidable (TrackerBell state data i) :=
  inferInstanceAs (Decidable (_ = _))

instance (data : List Char) (i : Nat) : Decidable (ExtractedBell state data i) :=
  inferInstanceAs (Decidable (_ = _))

/-- The text without the characters that the extraction counts. -/
def stripped (data : List Char) : List Char :=
  (data.zipIdx.filter fun entry => !decide (ExtractedBell state data entry.2)).map Prod.fst

end

variable (data : List Char)

theorem foldl_tracked : (data.foldl CandidateScan.read scan).parser = data.foldl ParserState.tracked scan.parser := by
  induction data generalizing scan with
  | nil => rfl
  | cons ch rest ih => rw [List.foldl_cons,List.foldl_cons,ih,scan.read_parser]

theorem foldl_extracted :
    (data.foldl Extraction.read extraction).parser = data.foldl ParserState.extracted extraction.parser := by
  induction data generalizing extraction with
  | nil => rfl
  | cons ch rest ih => rw [List.foldl_cons,List.foldl_cons,ih,extraction.read_parser]

variable {i : Nat}

theorem take_succ_eq {data : List Char} {ch : Char} (read : data[i]? = some ch) :
    data.take (i + 1) = data.take i ++ [ch] := by rw [List.take_add_one,read]; rfl

theorem trackerBell_iff {state : ParserState} {data : List Char} : TrackerBell state data i ↔
      data[i]? = some turnCompleteSignal ∧ ((data.take i).foldl ParserState.tracked state).ground = true := by
  cases read : data[i]? with
  | none => simp [TrackerBell,List.take_add_one,read]
  | some ch =>
    rw [TrackerBell,take_succ_eq read,List.foldl_append,List.foldl_cons,List.foldl_nil,CandidateScan.read_candidates,
      foldl_tracked]
    by_cases bell : ch = turnCompleteSignal
    · simp [bell]
    · simp [bell]

theorem extractedBell_iff {state : ParserState} {data : List Char} : ExtractedBell state data i ↔
      data[i]? = some turnCompleteSignal ∧ ((data.take i).foldl ParserState.extracted state).ground = true := by
  cases read : data[i]? with
  | none => simp [ExtractedBell,List.take_add_one,read]
  | some ch =>
    rw [ExtractedBell,take_succ_eq read,List.foldl_append,List.foldl_cons,List.foldl_nil,Extraction.read_count,
      foldl_extracted]
    by_cases bell : ch = turnCompleteSignal
    · simp [bell]
    · simp [bell]

/-- A measure of the text that grows by at most one with each character counts the positions
    where it grows. -/
theorem grown_eq_countP (measure : List Char → Nat) (start : measure [] = 0)
    (step : ∀ data ch, measure (data ++ [ch]) = measure data ∨ measure (data ++ [ch]) = measure data + 1)
    (data : List Char) :
    measure data = (List.range data.length).countP fun i => measure (data.take (i + 1)) = measure (data.take i) + 1 := by
  induction data using List.reverseRecOn with
  | nil => simpa using start
  | append_singleton data ch ih =>
    rw [List.length_append,List.length_singleton,List.range_succ,List.countP_append]
    have before : (List.range data.length).countP
        (fun i => measure ((data ++ [ch]).take (i + 1)) = measure ((data ++ [ch]).take i) + 1) = measure data := by
      rw [ih]
      refine List.countP_congr fun i listed => ?_
      have inside := List.mem_range.mp listed
      rw [List.take_append_of_le_length (by omega),List.take_append_of_le_length (by omega)]
    rw [before]
    have whole : (data ++ [ch]).take (data.length + 1) = data ++ [ch] := List.take_of_length_le (by simp)
    obtain same | grown := step data ch
    · simp [whole,same]
    · simp [whole,grown]

theorem candidates_eq : (data.foldl CandidateScan.read ⟨state,false,[]⟩).candidates.length =
      (List.range data.length).countP (TrackerBell state data ·) := by
  refine grown_eq_countP (fun data => (data.foldl CandidateScan.read ⟨state,false,[]⟩).candidates.length) rfl ?_ data
  intro data ch
  rw [List.foldl_append,List.foldl_cons,List.foldl_nil,CandidateScan.read_candidates]
  split
  · exact .inr rfl
  · exact .inl rfl

theorem count_eq :
    (data.foldl Extraction.read ⟨state,"",0⟩).count = (List.range data.length).countP (ExtractedBell state data ·) := by
  refine grown_eq_countP (fun data => (data.foldl Extraction.read ⟨state,"",0⟩).count) rfl ?_ data
  intro data ch
  rw [List.foldl_append,List.foldl_cons,List.foldl_nil,Extraction.read_count]
  split
  · exact .inr rfl
  · exact .inl rfl

theorem stripped_concat (ch : Char) : stripped state (data ++ [ch]) =
      stripped state data ++ if ExtractedBell state (data ++ [ch]) data.length then [] else [ch] := by
  have before : (data.zipIdx.filter fun entry => !decide (ExtractedBell state (data ++ [ch]) entry.2)) =
      data.zipIdx.filter fun entry => !decide (ExtractedBell state data entry.2) := by
    refine List.filter_congr fun entry listed => ?_
    have inside := (List.mem_zipIdx listed).2.1
    have same : ExtractedBell state (data ++ [ch]) entry.2 ↔ ExtractedBell state data entry.2 := by
      rw [ExtractedBell,ExtractedBell,List.take_append_of_le_length (by omega),List.take_append_of_le_length (by omega)]
    rw [decide_eq_decide.mpr same]
  simp only [stripped,List.zipIdx_append,List.filter_append,List.map_append,before,List.zipIdx_singleton,List.filter_cons,
    List.filter_nil,Nat.zero_add]
  by_cases counted : ExtractedBell state (data ++ [ch]) data.length
  · simp [counted]
  · simp [counted]

/-- The cleaned text is the text without the counted bells, with an escape at its end held back. -/
theorem cleaned_eq :
    (data.foldl Extraction.read ⟨state,"",0⟩).cleaned.toList ++ (data.foldl Extraction.read ⟨state,"",0⟩).parser.held =
      state.held ++ stripped state data := by
  induction data using List.reverseRecOn with
  | nil => simp [stripped]
  | append_singleton data ch ih =>
    rw [List.foldl_append,List.foldl_cons,List.foldl_nil,Extraction.read_cleaned,ih,stripped_concat,List.append_assoc,
      foldl_extracted]
    simp only [extractedBell_iff]
    congr 2
    by_cases bell : ch = turnCompleteSignal
    · simp [bell]
    · simp [bell]

namespace ParserState

/-- What a character leaves open, as long as nesting does not matter: an opener inside a sequence of
    another kind, or the end of a sequence opened inside another, has no reading. -/
def settle (state : ParserState) (ch : Char) : Option ParserState :=
  if state.pendingEsc then some (state.afterEsc ch)
  else if ch == esc then some { state with pendingEsc := true }
  else if ch == c1Csi then
    if state.inCsi || !(state.inOsc || state.inDcs) then some { state with inCsi := true } else none
  else if ch == c1Dcs then
    if state.inDcs || !(state.inOsc || state.inCsi) then some { state with inDcs := true } else none
  else if ch == c1Osc then
    if state.inOsc || !(state.inDcs || state.inCsi) then some { state with inOsc := true } else none
  else if state.inCsi && (state.inOsc || state.inDcs) then
    if isCsiFinal ch || ch == c1St || (ch == turnCompleteSignal && state.inOsc) then none else some state
  else if state.inOsc then some { state with inOsc := !(ch == turnCompleteSignal || ch == c1St) }
  else if state.inDcs then some { state with inDcs := ch != c1St }
  else if state.inCsi then some { state with inCsi := !isCsiFinal ch }
  else some state

/-- The text reads with one sequence open at a time. -/
def Plain (state : ParserState) (data : List Char) : Prop := (data.foldlM settle state).isSome = true

instance (state : ParserState) (data : List Char) : Decidable (state.Plain data) :=
  inferInstanceAs (Decidable (_ = true))

end ParserState

theorem settle_eq (ch : Char) :
    state.settle ch = if state.tracked ch = state.extracted ch then some (state.tracked ch) else none := by
  obtain ⟨inOsc,inCsi,inDcs,pendingEsc⟩ := state
  cases pendingEsc with
  | true => simp [ParserState.settle,ParserState.tracked,ParserState.extracted,CandidateScan.read,Extraction.read]
  | false =>
    by_cases named : ch ∈ [esc,c1Csi,c1Dcs,c1Osc,c1St,turnCompleteSignal]
    · simp only [List.mem_cons,List.not_mem_nil,or_false] at named
      revert inOsc inCsi inDcs
      rcases named with rfl | rfl | rfl | rfl | rfl | rfl
      all_goals decide
    · simp only [List.mem_cons,List.not_mem_nil,or_false,not_or] at named
      obtain ⟨notEsc,notCsi,notDcs,notOsc,notSt,notBell⟩ := named
      simp only [ParserState.settle,ParserState.tracked,ParserState.extracted,CandidateScan.read,Extraction.read,
        beq_false_of_ne notEsc,beq_false_of_ne notCsi,beq_false_of_ne notDcs,beq_false_of_ne notOsc,
        beq_false_of_ne notSt,beq_false_of_ne notBell]
      cases final : isCsiFinal ch <;> cases inOsc <;> cases inDcs <;> cases inCsi <;> simp [apply_ite CandidateScan.parser,notSt]

namespace ParserState
variable {state : ParserState} {data : List Char}

variable {ch : Char}

theorem tracked_of_settle {next : ParserState} (read : state.settle ch = some next) :
    state.tracked ch = next ∧ state.extracted ch = next := by
  rw [settle_eq] at read
  split at read
  · next same =>
    obtain rfl := Option.some.inj read
    exact ⟨rfl,same.symm⟩
  · cases read

theorem apart_of_settle (unread : state.settle ch = none) : state.tracked ch ≠ state.extracted ch := by
  rw [settle_eq] at unread
  split at unread
  · cases unread
  · assumption

theorem foldl_of_settled {last : ParserState} (plain : data.foldlM settle state = some last) :
    data.foldl tracked state = last ∧ data.foldl extracted state = last := by
  induction data generalizing state with
  | nil =>
    obtain rfl := Option.some.inj plain
    exact ⟨rfl,rfl⟩
  | cons ch rest ih =>
    rw [List.foldlM_cons] at plain
    obtain ⟨next,read,plain⟩ := Option.bind_eq_some_iff.mp plain
    obtain ⟨tracker,extraction⟩ := tracked_of_settle read
    rw [List.foldl_cons,List.foldl_cons,tracker,extraction]
    exact ih plain

theorem Plain.take (plain : state.Plain data) (i : Nat) : state.Plain (data.take i) := by
  rw [Plain,Option.isSome_iff_exists] at plain
  obtain ⟨last,plain⟩ := plain
  rw [← List.take_append_drop i data,List.foldlM_append] at plain
  obtain ⟨middle,read,_⟩ := Option.bind_eq_some_iff.mp plain
  rw [Plain,read]
  rfl

theorem Plain.same (plain : state.Plain data) : data.foldl tracked state = data.foldl extracted state := by
  rw [Plain,Option.isSome_iff_exists] at plain
  obtain ⟨last,plain⟩ := plain
  obtain ⟨tracker,extraction⟩ := foldl_of_settled plain
  exact tracker.trans extraction.symm

theorem first_unread (nested : ¬state.Plain data) : ∃ before ch after middle,
    data = before ++ ch :: after ∧ before.foldlM settle state = some middle ∧ middle.settle ch = none := by
  induction data generalizing state with
  | nil => exact (nested rfl).elim
  | cons ch rest ih =>
    cases read : state.settle ch with
    | none => exact ⟨[],ch,rest,state,rfl,rfl,read⟩
    | some next =>
      have later : ¬next.Plain rest := by
        rwa [Plain,List.foldlM_cons,read] at nested
      obtain ⟨before,first,after,middle,rfl,plain,unread⟩ := ih later
      refine ⟨ch :: before,first,after,middle,rfl,?_,unread⟩
      rw [List.foldlM_cons,read]
      exact plain

/-- Texts that close sequences, one of which tells apart any two sets of open sequences. -/
def closers : List (List Char) :=
  [[],['\\'],[c1St],[c1St,'\\'],[turnCompleteSignal],[turnCompleteSignal,'\\'],[turnCompleteSignal,c1St],['\\',c1St]]

theorem told_apart {tracker extraction : ParserState} (tracked_ : tracker.pendingEsc = false)
    (extracted_ : extraction.pendingEsc = false) (apart : tracker ≠ extraction) :
    ∃ closer ∈ closers, (closer.foldl tracked tracker).ground ≠ (closer.foldl extracted extraction).ground := by
  obtain ⟨o,c,d,p⟩ := tracker
  obtain ⟨o',c',d',p'⟩ := extraction
  subst tracked_ extracted_
  revert o c d o' c' d'
  decide +kernel

theorem pendingEsc_of_unread (unread : state.settle ch = none) :
    (state.tracked ch).pendingEsc = false ∧ (state.extracted ch).pendingEsc = false := by
  have pending : state.pendingEsc = false := by
    cases pending : state.pendingEsc with
    | false => rfl
    | true => simp [settle,pending] at unread
  have escape : (ch == esc) = false := by
    cases escape : ch == esc with
    | false => rfl
    | true => simp [settle,pending,eq_of_beq escape] at unread
  constructor
  · simp only [tracked,CandidateScan.read,pending,escape,Bool.false_eq_true,if_false,apply_ite CandidateScan.parser,
      apply_ite ParserState.pendingEsc,ite_self]
  · simp only [extracted,Extraction.read,pending,escape,Bool.false_eq_true,if_false,apply_ite Extraction.parser,
      apply_ite ParserState.pendingEsc,ite_self]

end ParserState

/-- The extraction over the chunks of a stream, with the parser carried from each to the next. -/
def extractChunks (mode : String) : List String → ParserState → String × Nat × ParserState
  | [],state => ("",0,state)
  | chunk :: rest,state =>
    let (cleaned,count,next) := extractTurnCompleteSignals chunk mode state
    let (later,more,last) := extractChunks mode rest next
    (cleaned ++ later,count + more,last)

variable (cleaned : String)

theorem Extraction.read_shift (count : Nat) (ch : Char) : Extraction.read ⟨state,cleaned,count⟩ ch =
      { parser := (Extraction.read ⟨state,"",0⟩ ch).parser
        cleaned := cleaned ++ (Extraction.read ⟨state,"",0⟩ ch).cleaned
        count := count + (Extraction.read ⟨state,"",0⟩ ch).count } := by
  have parser : (Extraction.read ⟨state,cleaned,count⟩ ch).parser = (Extraction.read ⟨state,"",0⟩ ch).parser := by
    rw [Extraction.read_parser,Extraction.read_parser]
  have text : (Extraction.read ⟨state,cleaned,count⟩ ch).cleaned =
      cleaned ++ (Extraction.read ⟨state,"",0⟩ ch).cleaned := by
    simp only [Extraction.read,apply_ite Extraction.cleaned,apply_ite (cleaned ++ ·),String.push_eq_append,
      String.empty_append,String.append_empty,String.append_assoc]
  have bells : (Extraction.read ⟨state,cleaned,count⟩ ch).count =
      count + (Extraction.read ⟨state,"",0⟩ ch).count := by
    rw [Extraction.read_count,Extraction.read_count,Nat.zero_add]
  rw [← parser,← text,← bells]

theorem Extraction.foldl_shift (count : Nat) (data : List Char) : data.foldl Extraction.read ⟨state,cleaned,count⟩ =
      { parser := (data.foldl Extraction.read ⟨state,"",0⟩).parser
        cleaned := cleaned ++ (data.foldl Extraction.read ⟨state,"",0⟩).cleaned
        count := count + (data.foldl Extraction.read ⟨state,"",0⟩).count } := by
  induction data generalizing state cleaned count with
  | nil => simp
  | cons ch rest ih =>
    rw [List.foldl_cons,List.foldl_cons,Extraction.read_shift,ih]
    obtain ⟨parser,text,bells⟩ := Extraction.read ⟨state,"",0⟩ ch
    rw [ih parser text bells]
    simp [String.append_assoc,Nat.add_assoc]

variable {mode : String}

theorem extract_eq (supports : supportsTurnSignal mode = true) (data : String) (state : ParserState) :
    extractTurnCompleteSignals data mode state =
      ((data.toList.foldl Extraction.read ⟨state,"",0⟩).cleaned,(data.toList.foldl Extraction.read ⟨state,"",0⟩).count,
        (data.toList.foldl Extraction.read ⟨state,"",0⟩).parser) := by
  simp [extractTurnCompleteSignals,supports]

theorem extractChunks_eq (supports : supportsTurnSignal mode = true) (chunks : List String) (state : ParserState) :
    extractChunks mode chunks state = extractTurnCompleteSignals (String.join chunks) mode state := by
  induction chunks generalizing state with
  | nil => simp [extractChunks,extract_eq supports]
  | cons chunk rest ih =>
    simp only [extractChunks,ih,extract_eq supports,String.join_cons,String.toList_append,List.foldl_append]
    obtain ⟨parser,cleaned,count⟩ := chunk.toList.foldl Extraction.read ⟨state,"",0⟩
    rw [Extraction.foldl_shift parser cleaned count]

theorem countTracker_le (data : String) (state : ParserState) :
    countTrackerTurnCompleteSignals data state ≤
      (List.range data.toList.length).countP (TrackerBell state data.toList ·) := by
  rw [← candidates_eq]
  exact List.length_filter_le _ _

theorem bells_same {state : ParserState} {data : List Char} (plain : state.Plain data) (i : Nat) :
    TrackerBell state data i ↔ ExtractedBell state data i := by
  rw [trackerBell_iff,extractedBell_iff,(plain.take i).same]

/-- After a character without a reading some text has a bell that only one of the scanners sees. -/
theorem bell_told_apart {state middle : ParserState} {before : List Char} {ch : Char}
    (plain : before.foldlM ParserState.settle state = some middle) (unread : middle.settle ch = none) :
    ∃ more i, ¬(TrackerBell state (before ++ ch :: more) i ↔ ExtractedBell state (before ++ ch :: more) i) := by
  obtain ⟨tracker,extraction⟩ := ParserState.foldl_of_settled plain
  obtain ⟨trackerEsc,extractionEsc⟩ := ParserState.pendingEsc_of_unread unread
  obtain ⟨closer,_,apart⟩ := ParserState.told_apart trackerEsc extractionEsc (ParserState.apart_of_settle unread)
  refine ⟨closer ++ [turnCompleteSignal],(before ++ ch :: closer).length,?_⟩
  have regrouped : before ++ ch :: (closer ++ [turnCompleteSignal]) = (before ++ ch :: closer) ++ [turnCompleteSignal] := by
    simp
  have bell : ((before ++ ch :: closer) ++ [turnCompleteSignal])[(before ++ ch :: closer).length]? =
      some turnCompleteSignal := by simp
  have text : ((before ++ ch :: closer) ++ [turnCompleteSignal]).take (before ++ ch :: closer).length =
      before ++ ch :: closer := List.take_left
  rw [regrouped,trackerBell_iff,extractedBell_iff,bell,text,List.foldl_append,List.foldl_append,List.foldl_cons,
    List.foldl_cons,tracker,extraction]
  intro same
  exact apart (Bool.eq_iff_iff.mpr (by simpa using same))

/-- How a stream is cut has no part in what is extracted, and the cleaned text is the stream without
    the counted bells. Over a plain stream the tracker sees the same bells; in a stream that is not
    plain the first character without a reading can be followed by a bell that one scanner alone sees. -/
theorem scanners_agree (mode : String) (supports : supportsTurnSignal mode = true) (state : ParserState) :
    (∀ chunks : List String,
      extractChunks mode chunks state = extractTurnCompleteSignals (String.join chunks) mode state) ∧
    ∀ data : String,
      let extraction := extractTurnCompleteSignals data mode state
      extraction.1.toList ++ extraction.2.2.held = state.held ++ stripped state data.toList ∧
      extraction.2.1 = (List.range data.toList.length).countP (ExtractedBell state data.toList ·) ∧
      (∀ i, ExtractedBell state data.toList i → data.toList[i]? = some turnCompleteSignal) ∧
      (state.Plain data.toList →
        (∀ i, TrackerBell state data.toList i ↔ ExtractedBell state data.toList i) ∧
          countTrackerTurnCompleteSignals data state ≤ extraction.2.1) ∧
      (¬state.Plain data.toList → ∃ before ch after, data.toList = before ++ ch :: after ∧ state.Plain before ∧
        ¬state.Plain (before ++ [ch]) ∧
        ∃ more i, ¬(TrackerBell state (before ++ ch :: more) i ↔ ExtractedBell state (before ++ ch :: more) i)) := by
  refine ⟨fun chunks => extractChunks_eq supports chunks state,fun data => ?_⟩
  simp only [extract_eq supports]
  refine ⟨cleaned_eq state data.toList,count_eq state data.toList,fun i counted => (extractedBell_iff.mp counted).1,?_,?_⟩
  · intro plain
    refine ⟨bells_same plain,?_⟩
    calc countTrackerTurnCompleteSignals data state
      _ ≤ (List.range data.toList.length).countP (TrackerBell state data.toList ·) := countTracker_le data state
      _ = (List.range data.toList.length).countP (ExtractedBell state data.toList ·) :=
          List.countP_congr fun i _ => by simpa using bells_same plain i
      _ = _ := (count_eq state data.toList).symm
  · intro nested
    obtain ⟨before,ch,after,middle,same,plain,unread⟩ := ParserState.first_unread nested
    refine ⟨before,ch,after,same,by simp [ParserState.Plain,plain],?_,bell_told_apart plain unread⟩
    simp [ParserState.Plain,List.foldlM_append,plain,unread]

theorem scanners_agree_codex :
    extractChunks "codex" ["\x1b","]a\x07"] {} = extractTurnCompleteSignals (String.join ["\x1b","]a\x07"]) "codex" {} ∧
      countTrackerTurnCompleteSignals "\x07" {} ≤ (extractTurnCompleteSignals "\x07" "codex" {}).2.1 :=
  ⟨(scanners_agree "codex" (by decide) {}).1 ["\x1b","]a\x07"],
    (((scanners_agree "codex" (by decide) {}).2 "\x07").2.2.2.1 (by decide)).2⟩

/-- The introducer of a control sequence inside a title: the bell that ends the title does not end it for
    the extraction, which takes the signal behind it for a part of the control sequence. -/
theorem introducer_hides_signal :
    let data := "\x1b]\x9b\x07\x07"
    TrackerBell {} data.toList 4 ∧ ¬ExtractedBell {} data.toList 4 ∧
      countTrackerTurnCompleteSignals data {} = 1 ∧ (extractTurnCompleteSignals data "codex" {}).2.1 = 0 := by
  decide

end Freshell.Activity
