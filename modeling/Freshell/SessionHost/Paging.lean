import Freshell.SessionHost.Retention

/-!
Reading the journal page by page. A reader that goes on after the end of each
page's last frame meets every retained frame once, in order. A frame larger than
a page is cut to the first of its chunks and still reports its own end, so the
rest of it is behind the reader's cursor: the pages give the retained text exactly
when no retained frame has more than one chunk of the page's size.
-/
namespace Freshell.SessionHost
open Freshell.Library.OrderedIndex Freshell.Library.Runs

def textOf (frames : List RuntimeOutputFrame) : List Char := frames.flatMap fun frame => frame.data

def pageAll (journal : OutputJournal) (maxBytes : Nat) : Nat → Nat → Option (List RuntimeOutputFrame)
  | 0, _ => none
  | fuel + 1, afterSeq =>
    let batch := journal.read afterSeq maxBytes
    if batch.truncated then
      match batch.frames.getLast? with
      | none => none
      | some last => (pageAll journal maxBytes fuel last.seqEnd).map (batch.frames ++ ·)
    else some batch.frames

/-- The cursors that the journal can go on from. -/
def OutputJournal.InRetainedRange (journal : OutputJournal) (afterSeq : Nat) : Prop :=
  journal.retainedFromSeq ≤ afterSeq + 1 ∧ afterSeq ≤ journal.headSeq

structure LosslesslyPageable (history : JournalHistory) (maxBytes : Nat) : Prop where
  complete : ∀ fuel, history.appended.length < fuel →
    (pageAll history.journal maxBytes fuel (history.journal.retainedFromSeq - 1)).map textOf =
      some (textOf (atLeast RuntimeOutputFrame.seqStart history.journal.retainedFromSeq history.appended))
  progress : ∀ afterSeq, history.journal.InRetainedRange afterSeq ∨ history.journal.bySeq ≠ [] →
    (history.journal.read afterSeq maxBytes).truncated = true → (history.journal.read afterSeq maxBytes).frames ≠ []
  reset : ∀ afterSeq, (history.journal.read afterSeq maxBytes).resetRequired = true ↔
    ¬history.journal.InRetainedRange afterSeq

/-- A frame as a page shows it: whole where it fits, else its first chunk. -/
def pageFrame (budget : Nat) (frame : RuntimeOutputFrame) : RuntimeOutputFrame :=
  if budget < max (utf8Len frame.data) 1 then { frame with data := (splitUtf8 frame.data budget).headD [] } else frame

theorem pageFrame_seqEnd (budget : Nat) (frame : RuntimeOutputFrame) : (pageFrame budget frame).seqEnd = frame.seqEnd := by
  unfold pageFrame
  split <;> rfl

variable (maxBytes : Nat)

theorem pageBudget_pos : 0 < pageBudget maxBytes := by
  simp only [pageBudget,MAX_TRANSPORT_CHUNK_BYTES]
  omega

variable {budget : Nat}

/-- Where a page stops: it shows a first part of the frames, all of them unless it says more. -/
theorem readLoop_spec (positive : 0 < budget) (rows shown : List RuntimeOutputFrame) (used : Nat) :
    ∃ done left, rows = done ++ left ∧
      (readLoop budget shown used rows).1 = shown ++ done.map (pageFrame budget) ∧
      ((readLoop budget shown used rows).2 = false → left = []) ∧ (rows = [] ∨ shown ≠ [] ∨ done ≠ []) ∧
      (rows = [] → (readLoop budget shown used rows).2 = false) := by
  induction rows generalizing shown used with
  | nil => exact ⟨[],[],by simp [readLoop]⟩
  | cons frame rest ih =>
    have go : ∀ used', pageFrame budget frame = frame →
        ∃ done left, frame :: rest = done ++ left ∧
          (readLoop budget (shown ++ [frame]) used' rest).1 = shown ++ done.map (pageFrame budget) ∧
          ((readLoop budget (shown ++ [frame]) used' rest).2 = false → left = []) ∧
          (frame :: rest = [] ∨ shown ≠ [] ∨ done ≠ []) ∧
          (frame :: rest = [] → (readLoop budget (shown ++ [frame]) used' rest).2 = false) := by
      intro used' whole
      obtain ⟨done,left,split,out,stop,-,-⟩ := ih (shown ++ [frame]) used'
      exact ⟨frame :: done,left,by simp [split],by simp [out,whole],stop,.inr (.inr (by simp)),by simp⟩
    simp only [readLoop]
    by_cases full : (!shown.isEmpty && decide (budget < used + max (utf8Len frame.data) 1)) = true
    · rw [if_pos full]
      have some : shown ≠ [] := by
        rintro rfl
        simp at full
      exact ⟨[],frame :: rest,by simp [some]⟩
    · rw [if_neg full]
      by_cases large : (decide (budget < max (utf8Len frame.data) 1) && shown.isEmpty) = true
      · rw [if_pos large]
        obtain ⟨exceeds,none⟩ := Bool.and_eq_true_iff.mp large
        have exceeds := of_decide_eq_true exceeds
        obtain rfl := List.isEmpty_iff.mp none
        cases cut : (splitUtf8 frame.data budget).head? with
        | none =>
          -- only an empty text has no chunk, and it is not larger than a page
          have empty : frame.data = [] := by
            rw [← splitUtf8_flatten frame.data budget,List.head?_eq_none_iff.mp cut]
            rfl
          simp only [empty,utf8Len,List.map_nil,List.sum_nil] at exceeds
          omega
        | some first =>
          refine ⟨[frame],rest,rfl,?_,by simp,by simp,by simp⟩
          simp [pageFrame,exceeds,List.headD_eq_head?_getD,cut]
      · rw [if_neg large]
        refine go _ ?_
        have fits : ¬budget < max (utf8Len frame.data) 1 := by
          cases shown with
          | nil => simpa using large
          | cons first others =>
            simp only [List.isEmpty_cons,Bool.not_false,Bool.true_and,decide_eq_true_eq] at full
            omega
        exact if_neg fits

theorem reset_iff (journal : OutputJournal) (afterSeq maxBytes : Nat) :
    (journal.read afterSeq maxBytes).resetRequired = true ↔ ¬journal.InRetainedRange afterSeq := by
  simp only [OutputJournal.read,OutputJournal.InRetainedRange,Bool.or_eq_true,decide_eq_true_eq]
  omega

variable {afterSeq : Nat}

/-- A cursor inside the range divides the retained frames into those it has
    passed and those it has not, and the page shows a first part of the latter. -/
theorem read_rest {journal : OutputJournal} {seen rest : List RuntimeOutputFrame}
    (split : journal.bySeq = seen ++ rest) (inside : journal.InRetainedRange afterSeq)
    (passed : ∀ frame ∈ seen, frame.seqStart ≤ afterSeq) (ahead : ∀ frame ∈ rest, afterSeq < frame.seqStart) :
    (journal.read afterSeq maxBytes).frames = (readLoop (pageBudget maxBytes) [] 0 rest).1 ∧
      (journal.read afterSeq maxBytes).truncated = (readLoop (pageBudget maxBytes) [] 0 rest).2 := by
  have noReset : (decide (journal.headSeq < afterSeq) || decide (afterSeq + 1 < journal.retainedFromSeq)) = false := by
    obtain ⟨low,high⟩ := inside
    simp only [Bool.or_eq_false_iff,decide_eq_false_iff_not]
    omega
  have left : atLeast RuntimeOutputFrame.seqStart (afterSeq + 1) journal.bySeq = rest := by
    rw [split]
    exact atLeast_append (fun frame mem => Nat.lt_succ_of_le (passed frame mem)) ahead
  simp only [OutputJournal.read,noReset,Bool.false_eq_true,if_false,left,Bool.false_or,and_self]

variable {history : JournalHistory}

theorem pageAll_rest (retains : Retains history) (maxBytes : Nat) {fuel : Nat} {seen rest : List RuntimeOutputFrame}
    (split : history.journal.bySeq = seen ++ rest) (inside : history.journal.InRetainedRange afterSeq)
    (passed : ∀ frame ∈ seen, frame.seqStart ≤ afterSeq) (ahead : ∀ frame ∈ rest, afterSeq < frame.seqStart)
    (enough : rest.length < fuel) :
    pageAll history.journal maxBytes fuel afterSeq = some (rest.map (pageFrame (pageBudget maxBytes))) := by
  induction fuel generalizing afterSeq seen rest with
  | zero => omega
  | succ fuel ih =>
    obtain ⟨frames,truncated⟩ := read_rest maxBytes split inside passed ahead
    obtain ⟨done,left,parts,out,stop,moved,idle⟩ := readLoop_spec (pageBudget_pos maxBytes) rest [] 0
    rw [List.nil_append] at out
    simp only [pageAll,truncated,frames,out]
    cases more : (readLoop (pageBudget maxBytes) [] 0 rest).2 with
    | false =>
      rw [stop more,List.append_nil] at parts
      simp [parts]
    | true =>
      have progress : done ≠ [] := by
        rcases moved with none | none | progress
        · simp [idle none] at more
        · exact absurd rfl none
        · exact progress
      obtain ⟨earlier,last,rfl⟩ : ∃ earlier last, done = earlier ++ [last] :=
        ⟨_,_,(List.dropLast_append_getLast progress).symm⟩
      have order := bySeq_order retains
      have isSuffix := bySeq_suffix retains
      have lastMem : last ∈ history.journal.bySeq := by simp [split,parts]
      have ends : last.seqEnd = last.seqStart := retains.ends last (isSuffix.mem lastMem)
      have below : last.seqStart < history.journal.nextSeq := (retains.below last (isSuffix.mem lastMem)).2
      have lastAhead : afterSeq < last.seqStart := ahead last (by simp [parts])
      rw [split,parts] at order
      obtain ⟨-,inner,across⟩ := List.pairwise_append.mp order
      have parted : history.journal.bySeq = (seen ++ (earlier ++ [last])) ++ left := by simp [split,parts]
      suffices next : pageAll history.journal maxBytes fuel last.seqEnd =
          some (left.map (pageFrame (pageBudget maxBytes))) by
        simp [pageFrame_seqEnd,next,parts]
      refine ih parted ?_ ?_ ?_ ?_
      · obtain ⟨low,-⟩ := inside
        simp only [OutputJournal.InRetainedRange,OutputJournal.headSeq]
        omega
      · intro frame mem
        rw [ends]
        rcases List.mem_append.mp mem with before | shown
        · exact Nat.le_of_lt (across frame before last (by simp))
        · rcases List.mem_append.mp shown with before | isLast
          · have := (List.pairwise_append.mp (List.pairwise_append.mp inner).1).2.2 frame before last (by simp)
            exact Nat.le_of_lt this
          · exact Nat.le_of_eq (congrArg _ (List.mem_singleton.mp isLast))
      · intro frame mem
        rw [ends]
        exact (List.pairwise_append.mp inner).2.2 last (by simp) frame mem
      · simp only [parts,List.length_append,List.length_singleton] at enough
        omega

/-- The earliest retained position is inside the range, and every retained frame is ahead of it. -/
theorem retainedFrom_le (retains : Retains history) :
    history.journal.InRetainedRange (history.journal.retainedFromSeq - 1) ∧
      ∀ frame ∈ history.journal.bySeq, history.journal.retainedFromSeq - 1 < frame.seqStart := by
  have isSuffix := bySeq_suffix retains
  have order := bySeq_order retains
  have started := retains.started
  simp only [OutputJournal.InRetainedRange,OutputJournal.headSeq,OutputJournal.retainedFromSeq]
  generalize history.journal.bySeq = kept at isSuffix order ⊢
  cases kept with
  | nil =>
    refine ⟨?_,by simp⟩
    simp only
    omega
  | cons first rest =>
    obtain ⟨above,below⟩ := retains.below first (isSuffix.mem List.mem_cons_self)
    refine ⟨?_,fun frame mem => ?_⟩
    · simp only
      omega
    · rcases List.mem_cons.mp mem with rfl | mem
      · simp only
        omega
      · have := (List.pairwise_cons.mp order).1 frame mem
        simp only
        omega

/-- All pages from the earliest retained position show the retained frames once each. -/
theorem pageAll_retained (retains : Retains history) (maxBytes : Nat) {fuel : Nat}
    (enough : history.appended.length < fuel) :
    pageAll history.journal maxBytes fuel (history.journal.retainedFromSeq - 1) =
      some (history.journal.bySeq.map (pageFrame (pageBudget maxBytes))) := by
  obtain ⟨inside,ahead⟩ := retainedFrom_le retains
  refine pageAll_rest retains maxBytes (List.nil_append _).symm inside nofun ahead ?_
  exact Nat.lt_of_le_of_lt (bySeq_suffix retains).length_le enough

theorem read_progress (retains : Retains history) {maxBytes : Nat}
    (covered : history.journal.InRetainedRange afterSeq ∨ history.journal.bySeq ≠ [])
    (truncated : (history.journal.read afterSeq maxBytes).truncated = true) :
    (history.journal.read afterSeq maxBytes).frames ≠ [] := by
  obtain ⟨-,ahead⟩ := retainedFrom_le retains
  have shows : ∀ rows, rows ≠ [] ∨ (readLoop (pageBudget maxBytes) [] 0 rows).2 = true →
      (readLoop (pageBudget maxBytes) [] 0 rows).1 ≠ [] := by
    intro rows some
    obtain ⟨done,left,-,out,-,moved,idle⟩ := readLoop_spec (pageBudget_pos maxBytes) rows [] 0
    have rowsSome : rows ≠ [] := by
      rcases some with some | more
      · exact some
      · rintro rfl
        simp [idle rfl] at more
    rw [out]
    simpa [rowsSome] using moved
  by_cases reset : (history.journal.read afterSeq maxBytes).resetRequired = true
  · have kept : history.journal.bySeq ≠ [] := covered.resolve_left ((reset_iff _ _ _).mp reset)
    have all : atLeast RuntimeOutputFrame.seqStart (history.journal.retainedFromSeq - 1 + 1) history.journal.bySeq =
        history.journal.bySeq := atLeast_append (fun frame (mem : frame ∈ []) => nomatch mem) ahead
    simp only [OutputJournal.read] at reset ⊢
    rw [if_pos reset,all]
    exact shows _ (.inl kept)
  · have reset := Bool.eq_false_iff.mpr reset
    simp only [OutputJournal.read] at reset truncated ⊢
    rw [reset,Bool.false_or] at truncated
    rw [reset]
    exact shows _ (.inr truncated)

theorem splitUtf8_head (positive : 0 < budget) {data : List Char} (some : data ≠ []) :
    (splitUtf8 data budget).headD [] = data.take (max (fitting budget data) 1) := by
  cases data with
  | nil => exact absurd rfl some
  | cons c rest => simp [splitUtf8,splitLoop,Nat.max_eq_left positive]

theorem pageFrame_data (positive : 0 < budget) (frame : RuntimeOutputFrame) :
    (pageFrame budget frame).data <+: frame.data ∧
      ((pageFrame budget frame).data.length = frame.data.length ↔
        utf8Len frame.data ≤ budget ∨ frame.data.length = 1) := by
  unfold pageFrame
  by_cases exceeds : budget < max (utf8Len frame.data) 1
  · have some : frame.data ≠ [] := by
      intro none
      simp only [none,utf8Len,List.map_nil,List.sum_nil] at exceeds
      omega
    have short : budget < utf8Len frame.data → fitting budget frame.data < frame.data.length := fitting_lt
    have length := List.length_pos_iff.mpr some
    rw [if_pos exceeds]
    simp only [splitUtf8_head positive some]
    refine ⟨List.take_prefix _ _,?_⟩
    rw [List.length_take]
    omega
  · rw [if_neg exceeds]
    refine ⟨List.prefix_refl _,?_⟩
    simp only [true_iff]
    omega

theorem textOf_map_iff {show' : RuntimeOutputFrame → RuntimeOutputFrame}
    (cuts : ∀ frame, (show' frame).data <+: frame.data) (frames : List RuntimeOutputFrame) :
    textOf (frames.map show') = textOf frames ↔ ∀ frame ∈ frames, (show' frame).data.length = frame.data.length := by
  have shorter : ∀ frames : List RuntimeOutputFrame, (textOf (frames.map show')).length ≤ (textOf frames).length := by
    intro frames
    induction frames with
    | nil => simp [textOf]
    | cons frame rest ih =>
      have := (cuts frame).length_le
      simp only [textOf,List.map_cons,List.flatMap_cons,List.length_append] at ih ⊢
      omega
  induction frames with
  | nil => simp [textOf]
  | cons frame rest ih =>
    have first := (cuts frame).length_le
    have others := shorter rest
    simp only [textOf,List.map_cons,List.flatMap_cons,List.mem_cons,forall_eq_or_imp] at ih others ⊢
    constructor
    · intro same
      have lengths := congrArg List.length same
      simp only [List.length_append] at lengths
      obtain ⟨-,tail⟩ := List.append_inj same (by omega)
      exact ⟨by omega,ih.mp tail⟩
    · rintro ⟨whole,tail⟩
      rw [(cuts frame).eq_of_length whole,ih.mpr tail]

theorem losslesslyPageable_retained (retains : Retains history) (maxBytes : Nat) :
    LosslesslyPageable history maxBytes ↔ ∀ frame ∈ history.journal.bySeq,
      utf8Len frame.data ≤ pageBudget maxBytes ∨ frame.data.length = 1 := by
  have cut := fun frame => pageFrame_data (pageBudget_pos maxBytes) frame
  have pages : ∀ fuel, history.appended.length < fuel →
      pageAll history.journal maxBytes fuel (history.journal.retainedFromSeq - 1) =
        some (history.journal.bySeq.map (pageFrame (pageBudget maxBytes))) :=
    fun fuel enough => pageAll_retained retains maxBytes enough
  have text := textOf_map_iff (fun frame => (cut frame).1) history.journal.bySeq
  simp only [fun frame => (cut frame).2] at text
  rw [← text]
  constructor
  · intro pageable
    have complete := pageable.complete (history.appended.length + 1) (Nat.lt_succ_self _)
    rw [pages _ (Nat.lt_succ_self _),atLeast_retainedFrom retains] at complete
    exact Option.some.inj complete
  · intro whole
    refine ⟨fun fuel enough => ?_,fun afterSeq covered truncated => ?_,fun afterSeq => reset_iff _ _ _⟩
    · rw [pages fuel enough,atLeast_retainedFrom retains,Option.map_some,whole]
    · exact read_progress retains covered truncated

/-- In every run of appends and new hosts the pages of a size give back the
    retained text exactly when each retained frame fits in a page or is one character. -/
theorem losslesslyPageable_iff {lineLen : RuntimeOutputFrame → Nat} {start : JournalHistory} (fresh : Fresh start)
    (ops : List JournalOp) (maxBytes : Nat) :
    LosslesslyPageable (run (JournalHistory.next lineLen) start ops) maxBytes ↔
      ∀ frame ∈ (run (JournalHistory.next lineLen) start ops).journal.bySeq,
        utf8Len frame.data ≤ pageBudget maxBytes ∨ frame.data.length = 1 :=
  losslesslyPageable_retained (retains_run fresh ops) maxBytes

def emptyHistory : JournalHistory := ⟨withLimits ⟨[],[]⟩ "incarnation" "terminal" "epoch" 0 0,[]⟩

theorem emptyHistory_fresh : Fresh emptyHistory :=
  ⟨⟨⟨[],[]⟩,"incarnation","terminal","epoch",0,0,rfl⟩,rfl,rfl⟩

theorem losslesslyPageable_iff_abc :
    LosslesslyPageable (run (JournalHistory.next fun _ => 0) emptyHistory [.append (fun _ => .written) ['a','b','c']]) 2 ↔
      ∀ frame ∈ (run (JournalHistory.next fun _ => 0) emptyHistory
          [.append (fun _ => .written) ['a','b','c']]).journal.bySeq,
        utf8Len frame.data ≤ pageBudget 2 ∨ frame.data.length = 1 :=
  losslesslyPageable_iff emptyHistory_fresh [.append (fun _ => .written) ['a','b','c']] 2

/-- A frame of two bytes, read by pages of one byte: the second is behind the cursor after the first. -/
theorem cutFrame_losesText :
    ¬∀ (lineLen : RuntimeOutputFrame → Nat) (start : JournalHistory), Fresh start →
      ∀ (ops : List JournalOp) (maxBytes : Nat), 0 < maxBytes →
        LosslesslyPageable (run (JournalHistory.next lineLen) start ops) maxBytes := by
  intro lossless
  have pageable := lossless (fun _ => 0) emptyHistory emptyHistory_fresh
    [.append (fun _ => .written) ['a','b']] 1 (by decide)
  have complete := pageable.complete 3 (by decide)
  revert complete
  decide

end Freshell.SessionHost
