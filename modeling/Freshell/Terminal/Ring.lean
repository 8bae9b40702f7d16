import Freshell.Terminal.Batches

/-!
The shared state of a terminal: the ring of retained frames, the head of its
sequence and its subscribers. A page is read from the ring above a cursor; as
the ring keeps the frames up to the head without a hole, a page continues
exactly where the cursor stands.
-/
namespace Freshell.Terminal
open Freshell.Library.Spans
set_option linter.unusedSimpArgs false

abbrev ConnId := Nat

inductive TerminalRunStatus where
  | running | exited
deriving DecidableEq, Repr

/-- What an attach hands the registry to send with: the queue of its
    connection. The number of the attach is not on the wire; it tells what was
    sent for one attach from what was sent for the next one. -/
structure FrameSink where
  attach : Nat
deriving DecidableEq, Repr

structure Subscriber where
  sink : FrameSink
  attachRequestId : Option String
  terminalOutputBatchV1 : Bool
  pacedTerminalReplayV1 : Bool
  pacedDeferred : Bool
  pacedHandoffBoundary : Option Nat
  pacedExitPending : Option Int
deriving DecidableEq, Repr

structure TerminalShared where
  terminalId : String
  streamId : String
  replay : List RetainedFrame
  replayChars : Nat
  maxReplayChars : Nat
  /-- What the mode tracker makes of the output so far. -/
  modes : String
  headSeq : Nat
  status : TerminalRunStatus
  exitCode : Option Int
  subscribers : ConnId → Option Subscriber

/-- What the code reads of its environment and of the packages it calls. -/
structure Config where
  jsonLen : JsonLen
  /-- `TERMINAL_STREAM_BATCH_MAX_BYTES`, when it parses to a positive number. -/
  batchMaxFromEnv : Option Nat
  pacedPageMaxBytes : Nat

def maxRealtimeMessageBytes : Nat := 16 * 1024
def pacedPageBudgetFloorBytes : Nat := 32 * 1024

def terminalStreamBatchMaxBytes (config : Config) : Nat :=
  min pacedPageBudgetFloorBytes (max 1024 (config.batchMaxFromEnv.getD maxRealtimeMessageBytes))

variable (config : Config)

theorem terminalStreamBatchMaxBytes_ne : terminalStreamBatchMaxBytes config ≠ 0 := by
  unfold terminalStreamBatchMaxBytes pacedPageBudgetFloorBytes
  omega

def TerminalShared.oldestRetainedSeq (s : TerminalShared) : Nat :=
  match s.replay with
  | [] => s.headSeq + 1
  | f :: _ => f.output.seqStart

def batchInput (config : Config) (terminalId arid : String) (source : OutputSource) : BatchBuildInput where
  maxSerializedBytes := terminalStreamBatchMaxBytes config
  terminalId := terminalId
  attachRequestId := arid
  source := source

/-- The frames as one subscriber gets them when it takes batches and its attach
    has a request id. -/
def deliverBatches (config : Config) (terminalId arid : String) (source : OutputSource) (frames : List RetainedFrame) :
    List ServerMessage :=
  buildBatchMessages config.jsonLen (batchInput config terminalId arid source) frames

/-- What the fan-out of a live frame sends to one subscriber. -/
def liveMessages (config : Config) (terminalId : String) (sub : Subscriber) (retained : RetainedFrame) :
    List ServerMessage :=
  if sub.pacedDeferred then []
  else
    match sub.terminalOutputBatchV1, sub.attachRequestId with
    | true, some arid => deliverBatches config terminalId arid .live [retained]
    | _, _ => [.terminalOutput { retained.output with attachRequestId := sub.attachRequestId }]

/-- Whole frames leave the front while the ring is over its cap, but the last. -/
def evict (maxChars : Nat) : Nat → List RetainedFrame → Nat × List RetainedFrame
  | chars, f :: g :: rest =>
    if maxChars < chars then evict maxChars (chars - utf16Len f.output.data) (g :: rest) else (chars,f :: g :: rest)
  | chars, frames => (chars,frames)

/-- The frame enters the ring; the fan-out is `liveMessages` of each subscriber. -/
def ingest (s : TerminalShared) (retained : RetainedFrame) (modes : String) : TerminalShared :=
  let kept := evict s.maxReplayChars (s.replayChars + utf16Len retained.output.data) (s.replay ++ [retained])
  { s with
    headSeq := max s.headSeq retained.output.seqEnd
    modes := modes
    replayChars := kept.1
    replay := kept.2 }

structure PacedPageBuild where
  messages : List ServerMessage
  endSeq : Nat

def segmentWireOverheadEstimate : Nat := 96
def batchEnvelopeFixedBytes : Nat := 41

def digitCount (n : Nat) : Nat := (Nat.toDigits 10 n).length

def legacyEnvelopeScaffoldBytes (config : Config) (terminalId streamId : String) (attachRequestId : Option String)
    (source : OutputSource) : Nat :=
  measureLegacyOutputBytes config.jsonLen terminalId streamId 0 0 "" attachRequestId (some source) - 4

def Subscriber.batchMode (sub : Subscriber) : Bool := sub.terminalOutputBatchV1 && sub.attachRequestId.isSome

/-- The charge of one frame against the page budget. -/
def frameCost (config : Config) (sub : Subscriber) (scaffold budget : Nat) (f : RetainedFrame) : Nat :=
  let digits := digitCount f.output.seqStart + digitCount f.output.seqEnd
  let batchCharge :=
    if sub.batchMode then segmentWireOverheadEstimate + batchEnvelopeFixedBytes + digitCount budget else 0
  scaffold + digits + config.jsonLen.string f.output.data + batchCharge

/-- The frames that follow the first one while they are wanted and fit. -/
def selectFrames (cost : RetainedFrame → Nat) (budget toSeq : Nat) : Nat → List RetainedFrame → List RetainedFrame
  | _, [] => []
  | pageBytes, f :: rest =>
    if toSeq < f.output.seqStart then []
    else if budget < pageBytes + cost f then []
    else f :: selectFrames cost budget toSeq (pageBytes + cost f) rest

/-- A page takes its first frame whatever its size, alone if it is too large. -/
def selectPage (cost : RetainedFrame → Nat) (budget toSeq : Nat) (first : RetainedFrame) (rest : List RetainedFrame) :
    List RetainedFrame :=
  first :: if budget < cost first then [] else selectFrames cost budget toSeq (cost first) rest

def RetainedFrame.stamped (f : RetainedFrame) (attachRequestId : Option String) (source : OutputSource) : TerminalOutput :=
  { f.output with attachRequestId, source := some source }

/-- The selected frames as the inline paths would deliver them. -/
def pageMessages (config : Config) (terminalId : String) (sub : Subscriber) (source : OutputSource)
    (selected : List RetainedFrame) : List ServerMessage :=
  if sub.batchMode then deliverBatches config terminalId (sub.attachRequestId.getD "") source selected
  else selected.map fun f => .terminalOutput (f.stamped sub.attachRequestId source)

/-- One page of the window above `fromSeq` up to `toSeq`. The ring ascends, so
    the bisection of the source finds the first frame above the cursor. -/
def pacedPageBuild (config : Config) (s : TerminalShared) (sub : Subscriber) (fromSeq toSeq budget : Nat)
    (source : OutputSource) : Option PacedPageBuild :=
  match s.replay.dropWhile fun f => f.output.seqStart ≤ fromSeq with
  | [] => none
  | first :: rest =>
    if toSeq < first.output.seqStart then none
    else
      let scaffold := legacyEnvelopeScaffoldBytes config s.terminalId first.output.streamId sub.attachRequestId source
      let selected := selectPage (frameCost config sub scaffold budget) budget toSeq first rest
      some {
        messages := pageMessages config s.terminalId sub source selected
        endSeq := (selected.getLast (List.cons_ne_nil _ _)).output.seqEnd }

/-- The ring holds the frames up to the head, one number each. -/
structure TerminalShared.Sound (s : TerminalShared) : Prop where
  single : ∀ f ∈ s.replay, f.output.seqEnd = f.output.seqStart
  tiles : Tiles (s.oldestRetainedSeq - 1) (s.replay.map RetainedFrame.span) s.headSeq
  positive : 0 < s.oldestRetainedSeq
  nonempty : s.headSeq ≠ 0 → s.replay ≠ []

variable {s : TerminalShared}

theorem TerminalShared.Sound.oldest_le (sound : s.Sound) : s.oldestRetainedSeq ≤ s.headSeq + 1 := by
  have := tiles_le sound.tiles
  omega

theorem TerminalShared.Sound.oldest_le_head (sound : s.Sound) (output : s.headSeq ≠ 0) :
    s.oldestRetainedSeq ≤ s.headSeq := by
  obtain ⟨f,rest,ring⟩ := List.exists_cons_of_ne_nil (sound.nonempty output)
  have within := tiles_within sound.tiles f.span (by rw [ring]; exact List.mem_cons_self)
  have front : s.oldestRetainedSeq = f.output.seqStart := by simp [TerminalShared.oldestRetainedSeq,ring]
  have : f.span.first = f.output.seqStart := rfl
  omega

theorem oldestRetainedSeq_congr {t : TerminalShared} (replay : t.replay = s.replay) (head : t.headSeq = s.headSeq) :
    t.oldestRetainedSeq = s.oldestRetainedSeq := by
  simp only [TerminalShared.oldestRetainedSeq,replay,head]

theorem TerminalShared.Sound.congr {s t : TerminalShared} (sound : s.Sound) (replay : t.replay = s.replay)
    (head : t.headSeq = s.headSeq) : t.Sound where
  single := by rw [replay]; exact sound.single
  tiles := by rw [oldestRetainedSeq_congr replay head,replay,head]; exact sound.tiles
  positive := by rw [oldestRetainedSeq_congr replay head]; exact sound.positive
  nonempty := by rw [replay,head]; exact sound.nonempty

theorem evict_split (maxChars chars : Nat) (frames : List RetainedFrame) :
    ∃ gone, frames = gone ++ (evict maxChars chars frames).2 ∧ (frames ≠ [] → (evict maxChars chars frames).2 ≠ []) := by
  induction frames generalizing chars with
  | nil => exact ⟨[],by simp [evict],by simp⟩
  | cons f rest ih =>
    cases rest with
    | nil => exact ⟨[],by simp [evict],by simp [evict]⟩
    | cons g rest =>
      unfold evict
      split
      · obtain ⟨gone,split,kept⟩ := ih (chars - utf16Len f.output.data)
        exact ⟨f :: gone,by rw [List.cons_append,← split],fun _ => kept (List.cons_ne_nil g rest)⟩
      · exact ⟨[],rfl,fun _ => List.cons_ne_nil _ _⟩

@[simp] theorem ingest_headSeq (s : TerminalShared) (retained : RetainedFrame) (modes : String) :
    (ingest s retained modes).headSeq = max s.headSeq retained.output.seqEnd := rfl

/-- The next frame extends the ring by its number; eviction takes a whole
    front and leaves the frame itself. -/
theorem sound_ingest {retained : RetainedFrame} (modes : String) (sound : s.Sound)
    (start : retained.output.seqStart = s.headSeq + 1) (single : retained.output.seqEnd = s.headSeq + 1) :
    (ingest s retained modes).Sound ∧ s.oldestRetainedSeq ≤ (ingest s retained modes).oldestRetainedSeq := by
  obtain ⟨gone,split,kept⟩ := evict_split s.maxReplayChars (s.replayChars + utf16Len retained.output.data)
    (s.replay ++ [retained])
  have ring : s.replay ++ [retained] = gone ++ (ingest s retained modes).replay := split
  have remains : (ingest s retained modes).replay ≠ [] := kept (by simp)
  have head : (ingest s retained modes).headSeq = s.headSeq + 1 := by rw [ingest_headSeq,single]; omega
  have extended : Tiles (s.oldestRetainedSeq - 1) ((gone ++ (ingest s retained modes).replay).map RetainedFrame.span)
      (s.headSeq + 1) := by
    rw [← ring,List.map_append]
    exact tiles_concat sound.tiles (tiles_singleton start single (by omega))
  rw [List.map_append] at extended
  obtain ⟨middle,evicted,tail⟩ := tiles_append.mp extended
  obtain ⟨front,rest,cons⟩ := List.exists_cons_of_ne_nil remains
  have oldest : (ingest s retained modes).oldestRetainedSeq = middle + 1 := by
    rw [cons] at tail
    simp only [TerminalShared.oldestRetainedSeq,cons]
    exact tail.1
  have := tiles_le evicted
  have := sound.positive
  refine ⟨⟨?_,?_,?_,fun _ => remains⟩,by omega⟩
  · intro f member
    have present : f ∈ s.replay ++ [retained] := by rw [ring]; exact List.mem_append_right gone member
    obtain old | new := List.mem_append.mp present
    · exact sound.single f old
    · obtain rfl := List.mem_singleton.mp new
      omega
  · rw [oldest,head]
    exact tail
  · omega

variable {base top : Nat}

theorem tiles_dropWhile (fromSeq : Nat) {frames : List RetainedFrame}
    (tiles : Tiles base (frames.map RetainedFrame.span) top)
    (single : ∀ f ∈ frames, f.output.seqEnd = f.output.seqStart) (above : base ≤ fromSeq) (below : fromSeq ≤ top) :
    Tiles fromSeq ((frames.dropWhile fun f => f.output.seqStart ≤ fromSeq).map RetainedFrame.span) top := by
  induction frames generalizing base with
  | nil =>
    obtain rfl : top = base := tiles
    exact Nat.le_antisymm above below
  | cons f rest ih =>
    obtain ⟨first,proper,tail⟩ := tiles
    have one : f.span.last = f.span.first := single f List.mem_cons_self
    have starts : f.output.seqStart = f.span.first := rfl
    by_cases passed : f.output.seqStart ≤ fromSeq
    · rw [List.dropWhile_cons_of_pos (by simpa using passed)]
      exact ih tail (fun g member => single g (List.mem_cons_of_mem f member)) (by omega)
    · rw [List.dropWhile_cons_of_neg (by simpa using passed)]
      obtain rfl : fromSeq = base := by omega
      exact ⟨first,proper,tail⟩

variable (cost : RetainedFrame → Nat)

theorem selectFrames_within (budget toSeq pageBytes : Nat) (frames : List RetainedFrame) :
    ∃ tail, frames = selectFrames cost budget toSeq pageBytes frames ++ tail ∧
      ∀ f ∈ selectFrames cost budget toSeq pageBytes frames, f.output.seqStart ≤ toSeq := by
  induction frames generalizing pageBytes with
  | nil => exact ⟨[],rfl,by simp [selectFrames]⟩
  | cons f rest ih =>
    unfold selectFrames
    split
    · exact ⟨f :: rest,rfl,by simp⟩
    · split
      · exact ⟨f :: rest,rfl,by simp⟩
      · obtain ⟨tail,split,wanted⟩ := ih (pageBytes + cost f)
        refine ⟨tail,by rw [List.cons_append,← split],?_⟩
        intro g member
        obtain rfl | member := List.mem_cons.mp member
        · omega
        · exact wanted g member

theorem selectPage_within (budget : Nat) {toSeq : Nat} {first : RetainedFrame} (rest : List RetainedFrame)
    (wanted : first.output.seqStart ≤ toSeq) : ∃ tail, first :: rest = selectPage cost budget toSeq first rest ++ tail ∧
      ∀ f ∈ selectPage cost budget toSeq first rest, f.output.seqStart ≤ toSeq := by
  unfold selectPage
  split
  · exact ⟨rest,rfl,by simpa using wanted⟩
  · obtain ⟨tail,split,inside⟩ := selectFrames_within cost budget toSeq (cost first) rest
    refine ⟨tail,by rw [List.cons_append,← split],?_⟩
    intro f member
    obtain rfl | member := List.mem_cons.mp member
    · exact wanted
    · exact inside f member

theorem spans_stamped (attachRequestId : Option String) (source : OutputSource) (selected : List RetainedFrame) :
    spans (selected.map fun f => .terminalOutput (f.stamped attachRequestId source)) = selected.map RetainedFrame.span := by
  induction selected with
  | nil => rfl
  | cons f rest ih =>
    rw [List.map_cons,List.map_cons,spans_output,ih]
    rfl

variable (terminalId : String) (sub : Subscriber)

theorem tiles_pageMessages (source : OutputSource) {selected : List RetainedFrame}
    (tiles : Tiles base (selected.map RetainedFrame.span) top) :
    Tiles base (spans (pageMessages config terminalId sub source selected)) top := by
  unfold pageMessages
  split
  · exact tiles_batchMessages config.jsonLen (terminalStreamBatchMaxBytes_ne config) tiles
  · rw [spans_stamped]
    exact tiles

variable {build : PacedPageBuild}

/-- A page accounts for the numbers from the cursor to its end, and its end
    stays within the window. -/
theorem tiles_page {config : Config} {sub : Subscriber} {fromSeq toSeq budget : Nat} {source : OutputSource}
    (sound : s.Sound) (retained : s.oldestRetainedSeq ≤ fromSeq + 1) (below : fromSeq ≤ s.headSeq)
    (built : pacedPageBuild config s sub fromSeq toSeq budget source = some build) :
    Tiles fromSeq (spans build.messages) build.endSeq ∧ fromSeq < build.endSeq ∧ build.endSeq ≤ toSeq ∧
      build.endSeq ≤ s.headSeq := by
  have positive := sound.positive
  have window := tiles_dropWhile fromSeq sound.tiles sound.single (by omega) below
  unfold pacedPageBuild at built
  split at built
  · cases built
  · rename_i first rest ring
    split at built
    · cases built
    · rename_i wanted
      rw [ring] at window
      let cost := frameCost config sub
        (legacyEnvelopeScaffoldBytes config s.terminalId first.output.streamId sub.attachRequestId source) budget
      obtain ⟨tail,split,inside⟩ := selectPage_within cost budget rest (Nat.le_of_not_lt wanted)
      obtain rfl := Option.some.inj built
      rw [split,List.map_append] at window
      obtain ⟨middle,page,remainder⟩ := tiles_append.mp window
      have whole : selectPage cost budget toSeq first rest ≠ [] := List.cons_ne_nil _ _
      let final := (selectPage cost budget toSeq first rest).getLast whole
      have last : final ∈ selectPage cost budget toSeq first rest := List.getLast_mem whole
      have ends : final.span.last = middle := by
        apply tiles_last page
        rw [List.getLast?_map,List.getLast?_eq_some_getLast whole]
        rfl
      have within := tiles_within page final.span (List.mem_map_of_mem last)
      have ringMember : final ∈ s.replay := by
        apply (List.dropWhile_sublist _).subset
        rw [ring,split]
        exact List.mem_append_left tail last
      have one : final.output.seqEnd = final.output.seqStart := sound.single final ringMember
      have endsAt : final.output.seqEnd = middle := ends
      have startsAt : final.span.first = final.output.seqStart := rfl
      have := inside final last
      have := tiles_le remainder
      refine ⟨?_,?_,?_,?_⟩
      · show Tiles fromSeq _ final.output.seqEnd
        rw [endsAt]
        exact tiles_pageMessages config s.terminalId sub source page
      · show fromSeq < final.output.seqEnd
        omega
      · show final.output.seqEnd ≤ toSeq
        omega
      · show final.output.seqEnd ≤ s.headSeq
        omega

theorem pageMessages_output (source : OutputSource) (selected : List RetainedFrame) :
    ∀ message ∈ pageMessages config terminalId sub source selected, message.outputSpan.isSome := by
  intro message member
  unfold pageMessages at member
  split at member
  · exact batchMessages_output _ _ selected message member
  · obtain ⟨f,-,rfl⟩ := List.mem_map.mp member
    rfl

/-- The last sequence number of a message of a page. -/
def pageLastSeq (message : ServerMessage) : Option Nat := message.outputSpan.map Span.last

variable {messages : List ServerMessage}

theorem pageLastSeq_le (tiles : Tiles base (spans messages) top) {message : ServerMessage}
    (member : message ∈ messages) {seq : Nat} (ends : pageLastSeq message = some seq) : seq ≤ top := by
  obtain ⟨span,carried,rfl⟩ := Option.map_eq_some_iff.mp ends
  have listed : span ∈ spans messages := List.mem_filterMap.mpr ⟨message,member,by simp [ServerMessage.span,carried]⟩
  exact (tiles_within tiles span listed).2.2

theorem pageLastSeq_of_tiles (output : ∀ message ∈ messages, message.outputSpan.isSome)
    (tiles : Tiles base (spans messages) top) (some_ : base < top) :
    ∃ before message, messages = before ++ [message] ∧ pageLastSeq message = some top := by
  obtain rfl | ⟨before,message,rfl⟩ := List.eq_nil_or_concat messages
  · have : top = base := tiles
    omega
  · obtain ⟨span,carried⟩ := Option.isSome_iff_exists.mp (output message (by simp))
    have one : spans [message] = [span] := by simp [spans,ServerMessage.span,carried]
    rw [List.concat_eq_append,spans_append,one] at tiles
    have ends : span.last = top := tiles_last tiles (by simp)
    refine ⟨before,message,List.concat_eq_append,?_⟩
    rw [pageLastSeq,carried,Option.map_some,ends]

theorem page_output {config : Config} {sub : Subscriber} {fromSeq toSeq budget : Nat} {source : OutputSource}
    (built : pacedPageBuild config s sub fromSeq toSeq budget source = some build) :
    ∀ message ∈ build.messages, message.outputSpan.isSome := by
  unfold pacedPageBuild at built
  split at built
  · cases built
  · split at built
    · cases built
    · obtain rfl := Option.some.inj built
      exact pageMessages_output config s.terminalId sub source _

theorem page_isSome (fromSeq toSeq budget : Nat) (source : OutputSource) (sound : s.Sound)
    (retained : s.oldestRetainedSeq ≤ fromSeq + 1) (below : fromSeq < s.headSeq) (wanted : fromSeq < toSeq) :
    ∃ build, pacedPageBuild config s sub fromSeq toSeq budget source = some build := by
  have positive := sound.positive
  have window := tiles_dropWhile fromSeq sound.tiles sound.single (by omega) (Nat.le_of_lt below)
  unfold pacedPageBuild
  split
  · rename_i empty
    rw [empty] at window
    have : s.headSeq = fromSeq := window
    omega
  · rename_i first rest ring
    rw [ring] at window
    have starts : first.output.seqStart = fromSeq + 1 := window.1
    rw [if_neg (by omega)]
    exact ⟨_,rfl⟩

end Freshell.Terminal
