import Freshell.Client.StartupProbes
import Freshell.Library.Pieces

/-!
The filter reads its input piece by piece, so how the output is cut makes no difference.
A replay that ends inside a sequence resumes as the filter would have gone on where the
filter is armed, but for the color query, which leaves it armed.
-/
namespace Freshell.Client
open Probes Freshell.Library.Pieces

inductive ProbePiece where
  | plain (ch : UInt16)
  | csi (sequence : Units)
  | str (introducer : UInt16) (content terminator sequence : Units)
deriving DecidableEq, Repr

variable {body : Units}

theorem findCsi_some {stop : Nat} (found : findCsiSequenceTerminator body = some stop) :
    stop ≤ body.length ∧ ∀ more, findCsiSequenceTerminator (body ++ more) = some stop := by
  induction body generalizing stop with
  | nil => simp [findCsiSequenceTerminator] at found
  | cons code rest ih =>
    by_cases final : isCsiFinal code
    · simp only [findCsiSequenceTerminator,final,if_true,Option.some.injEq] at found
      subst found
      exact ⟨by simp,fun more => by simp [findCsiSequenceTerminator,final]⟩
    · simp only [findCsiSequenceTerminator,final,Bool.false_eq_true,if_false,Option.map_eq_some_iff] at found
      obtain ⟨earlier,found,rfl⟩ := found
      obtain ⟨inside,stays⟩ := ih found
      refine ⟨by simp; omega,fun more => ?_⟩
      simp [findCsiSequenceTerminator,final,stays more]

theorem findString_some {found : StringSequenceTerminator} (taken : findStringSequenceTerminator body = some found) :
    found.start ≤ found.stop ∧ found.stop ≤ body.length ∧ ∀ more, findStringSequenceTerminator (body ++ more) = some found := by
  induction body generalizing found with
  | nil => simp [findStringSequenceTerminator] at taken
  | cons ch rest ih =>
    simp only [findStringSequenceTerminator] at taken
    by_cases bell : ch = BEL ∨ ch = C1_ST
    · rw [if_pos bell,Option.some.injEq] at taken
      subst taken
      exact ⟨by simp,by simp,fun more => by simp [findStringSequenceTerminator,bell]⟩
    rw [if_neg bell] at taken
    by_cases last : ch = ESC ∧ rest = []
    · simp [last] at taken
    rw [if_neg last] at taken
    -- What follows an `ESC` is there to be read, with more behind it or without.
    have ahead : ∀ more, ¬(ch = ESC ∧ rest ++ more = []) := fun more empty => last ⟨empty.1,(List.append_eq_nil_iff.mp empty.2).1⟩
    have second : ∀ more, ch = ESC → (rest ++ more).head? = rest.head? := by
      intro more escaped
      cases rest with
      | nil => exact absurd ⟨escaped,rfl⟩ last
      | cons next tail => rfl
    by_cases ended : ch = ESC ∧ rest.head? = some BACKSLASH
    · rw [if_pos ended,Option.some.injEq] at taken
      subst taken
      have longer : 1 ≤ rest.length := by
        cases rest with
        | nil => simp at ended
        | cons next tail => simp
      refine ⟨by simp,by simp; omega,fun more => ?_⟩
      rw [List.cons_append,findStringSequenceTerminator,if_neg bell,if_neg (ahead more),
        if_pos ⟨ended.1,(second more ended.1).trans ended.2⟩]
    · rw [if_neg ended,Option.map_eq_some_iff] at taken
      obtain ⟨earlier,taken,rfl⟩ := taken
      obtain ⟨ordered,inside,stays⟩ := ih taken
      refine ⟨by simp [StringSequenceTerminator.later,ordered],by simp [StringSequenceTerminator.later,inside],fun more => ?_⟩
      rw [List.cons_append,findStringSequenceTerminator,if_neg bell,if_neg (ahead more),
        if_neg fun escaped => ended ⟨escaped.1,(second more escaped.1).symm.trans escaped.2⟩,stays more]
      rfl

def nextPiece : Units → Option (ProbePiece × Units)
  | [] => none
  | ch :: rest =>
    if ch ≠ ESC then some (.plain ch,rest)
    else
      match rest with
      | [] => none
      | introducer :: body =>
        if introducer = 0x5b then
          (findCsiSequenceTerminator body).map fun stop => (.csi (ch :: introducer :: body.take stop),body.drop stop)
        else if introducer ≠ 0x5d ∧ introducer ≠ 0x50 ∧ introducer ≠ 0x5f then some (.plain ch,introducer :: body)
        else
          (findStringSequenceTerminator body).map fun found =>
            (.str introducer (body.take found.start) found.terminator (ch :: introducer :: body.take found.stop),
              body.drop found.stop)

variable {piece : ProbePiece}

theorem nextPiece_some {input rest : Units} (taken : nextPiece input = some (piece,rest)) :
    rest.length < input.length ∧ ∀ more, nextPiece (input ++ more) = some (piece,rest ++ more) := by
  cases input with
  | nil => simp [nextPiece] at taken
  | cons ch tail =>
    by_cases plain : ch ≠ ESC
    · simp only [nextPiece,if_pos plain,Option.some.injEq,Prod.mk.injEq] at taken
      obtain ⟨rfl,rfl⟩ := taken
      exact ⟨by simp,fun more => by simp [nextPiece,plain]⟩
    cases tail with
    | nil => simp [nextPiece,plain] at taken
    | cons introducer body =>
      simp only [nextPiece,if_neg plain] at taken
      by_cases control : introducer = 0x5b
      · rw [if_pos control,Option.map_eq_some_iff] at taken
        obtain ⟨stop,found,same⟩ := taken
        obtain ⟨rfl,rfl⟩ := Prod.mk.inj same
        obtain ⟨inside,stays⟩ := findCsi_some found
        refine ⟨by simp; omega,fun more => ?_⟩
        simp only [List.cons_append,nextPiece,if_neg plain,if_pos control,stays more,Option.map_some]
        rw [List.take_append_of_le_length inside,List.drop_append_of_le_length inside]
      rw [if_neg control] at taken
      by_cases other : introducer ≠ 0x5d ∧ introducer ≠ 0x50 ∧ introducer ≠ 0x5f
      · simp only [if_pos other,Option.some.injEq,Prod.mk.injEq] at taken
        obtain ⟨rfl,rfl⟩ := taken
        exact ⟨by simp,fun more => by simp only [List.cons_append,nextPiece,if_neg plain,if_neg control,if_pos other]⟩
      · rw [if_neg other,Option.map_eq_some_iff] at taken
        obtain ⟨found,terminated,same⟩ := taken
        obtain ⟨rfl,rfl⟩ := Prod.mk.inj same
        obtain ⟨ordered,inside,stays⟩ := findString_some terminated
        refine ⟨by simp; omega,fun more => ?_⟩
        simp only [List.cons_append,nextPiece,if_neg plain,if_neg control,if_neg other,stays more,Option.map_some]
        rw [List.take_append_of_le_length inside,List.drop_append_of_le_length inside,
          List.take_append_of_le_length (Nat.le_trans ordered inside)]

def probePieces : Splitter UInt16 ProbePiece where
  next := nextPiece
  shorter taken := (nextPiece_some taken).1
  settled taken := (nextPiece_some taken).2

def ProbeScan.act (colors : TerminalStartupProbeColors) (scan : ProbeScan) : ProbePiece → ProbeScan
  | .plain ch => scan.disarm.pass [ch]
  | .csi sequence => scan.onCsi colors sequence
  | .str introducer content terminator sequence => scan.onString colors introducer content terminator sequence

variable (colors : TerminalStartupProbeColors)

theorem extractFrom_turn (fuel : Nat) (input : Units) (scan : ProbeScan) : extractFrom colors (fuel + 1) input scan =
      match nextPiece input with 
      | none => if input = [] then scan else scan.hold input
      | some (piece,rest) => extractFrom colors fuel rest (scan.act colors piece) := by
  cases input with
  | nil => rfl
  | cons ch tail =>
    by_cases plain : ch ≠ ESC
    · simp [extractFrom,nextPiece,plain,ProbeScan.act]
    cases tail with
    | nil => simp [extractFrom,nextPiece,plain]
    | cons introducer body =>
      simp only [extractFrom,nextPiece,if_neg plain]
      by_cases control : introducer = 0x5b
      · rw [if_pos control,if_pos control]
        cases findCsiSequenceTerminator body <;> simp [ProbeScan.act]
      rw [if_neg control,if_neg control]
      by_cases other : introducer ≠ 0x5d ∧ introducer ≠ 0x50 ∧ introducer ≠ 0x5f
      · rw [if_pos other,if_pos other]
        rfl
      · rw [if_neg other,if_neg other]
        cases findStringSequenceTerminator body <;> simp [ProbeScan.act]

theorem extractFrom_eq {fuel : Nat} {input : Units} (enough : input.length ≤ fuel) (scan : ProbeScan) :
    extractFrom colors fuel input scan =
      if (probePieces.split input).2 = [] then (probePieces.split input).1.foldl (ProbeScan.act colors) scan
      else ((probePieces.split input).1.foldl (ProbeScan.act colors) scan).hold (probePieces.split input).2 := by
  induction fuel generalizing input scan with
  | zero =>
    obtain rfl : input = [] := List.length_eq_zero_iff.mp (by omega)
    simp [extractFrom,Splitter.split_none (show probePieces.next [] = none from rfl)]
  | succ fuel ih =>
    rw [extractFrom_turn]
    cases taken : nextPiece input with
    | none =>
      rw [Splitter.split_none (show probePieces.next input = none from taken)]
      rfl
    | some found =>
      obtain ⟨piece,rest⟩ := found
      rw [Splitter.split_some (show probePieces.next input = some (piece,rest) from taken)]
      have fewer := (nextPiece_some taken).1
      exact ih (by omega) (scan.act colors piece)

variable {sequence : Units} {taken : TerminalStartupProbeResult × TerminalStartupProbeState}

theorem codexStartup_pending {scan : ProbeScan} {colors : TerminalStartupProbeColors}
    (found : scan.codexStartup colors sequence = some taken) : taken.2.pending = scan.parserState.pending := by
  unfold ProbeScan.codexStartup maybeConsumeCodexStartupStep at found
  split at found
  · split at found
    · simp at found
    · split at found
      · simp at found
      · rw [←Option.some.inj found]
  · simp at found

theorem disarm_pending (scan : ProbeScan) : scan.disarm.parserState.pending = scan.parserState.pending := by
  unfold ProbeScan.disarm
  split <;> rfl

theorem act_pending (scan : ProbeScan) (piece : ProbePiece) :
    (scan.act colors piece).parserState.pending = scan.parserState.pending := by
  cases piece with
  | plain ch => exact disarm_pending scan
  | csi sequence =>
    simp only [ProbeScan.act,ProbeScan.onCsi]
    split
    · rename_i taken found
      exact codexStartup_pending found
    · exact disarm_pending scan
  | str introducer content terminator sequence =>
    simp only [ProbeScan.act,ProbeScan.onString]
    split
    · rename_i taken found
      exact codexStartup_pending found
    split
    · rfl
    split
    · split <;> rfl
    · exact disarm_pending scan

theorem acts_pending (pieces : List ProbePiece) (scan : ProbeScan) :
    (pieces.foldl (ProbeScan.act colors) scan).parserState.pending = scan.parserState.pending := by
  induction pieces generalizing scan with
  | nil => rfl
  | cons piece rest ih => rw [List.foldl_cons,ih,act_pending]

def TerminalStartupProbeState.scan (state : TerminalStartupProbeState) : ProbeScan :=
  ⟨{ state with pending := [] },state.armed,[],[]⟩

theorem extract_eq (chunk : Units) (state : TerminalStartupProbeState) (colors : TerminalStartupProbeColors) :
    let pieces := probePieces.split (state.pending ++ chunk)
    let last := pieces.1.foldl (ProbeScan.act colors) state.scan
    extractTerminalStartupProbes chunk state colors =
      (⟨last.cleaned,last.replies⟩,⟨pieces.2,last.armed,last.parserState.codexStep⟩) := by
  intro pieces last
  have unheld : last.parserState.pending = [] := acts_pending colors pieces.1 state.scan
  unfold extractTerminalStartupProbes
  simp only
  rw [show ProbeScan.mk { state with pending := [] } state.armed [] [] = state.scan from rfl,
    extractFrom_eq colors (Nat.le_refl _) state.scan]
  split
  · rename_i done
    change (_,{ last.parserState with armed := last.armed }) = _
    rw [show pieces.2 = last.parserState.pending by rw [unheld]; exact done]
  · rfl

/-- The scan has done what `later` did, behind what it had put out before. -/
structure AppendsTo (prior : TerminalStartupProbeResult) (scan later : ProbeScan) : Prop where
  armed : scan.armed = later.armed
  codexStep : scan.parserState.codexStep = later.parserState.codexStep
  cleaned : scan.cleaned = prior.cleaned ++ later.cleaned
  replies : scan.replies = prior.replies ++ later.replies

namespace AppendsTo
variable {prior : TerminalStartupProbeResult} {scan later : ProbeScan}

theorem disarm (same : AppendsTo prior scan later) : AppendsTo prior scan.disarm later.disarm := by
  unfold ProbeScan.disarm
  rw [same.armed]
  split
  · exact ⟨rfl,rfl,same.cleaned,same.replies⟩
  · exact same

theorem pass (same : AppendsTo prior scan later) (text : Units) : AppendsTo prior (scan.pass text) (later.pass text) :=
  ⟨same.armed,same.codexStep,by simp [ProbeScan.pass,same.cleaned],same.replies⟩

theorem reply (same : AppendsTo prior scan later) (answer : Units) : AppendsTo prior (scan.reply answer) (later.reply answer) :=
  ⟨same.armed,same.codexStep,same.cleaned,by simp [ProbeScan.reply,same.replies]⟩

theorem startup (same : AppendsTo prior scan later) (colors : TerminalStartupProbeColors) (sequence : Units) :
    (scan.codexStartup colors sequence = none ∧ later.codexStartup colors sequence = none) ∨
      ∃ taken takenLater, scan.codexStartup colors sequence = some taken ∧
        later.codexStartup colors sequence = some takenLater ∧
        AppendsTo prior (scan.consume taken) (later.consume takenLater) := by
  unfold ProbeScan.codexStartup maybeConsumeCodexStartupStep
  rw [same.armed,same.codexStep]
  by_cases armed : later.armed
  · cases stepped : CODEX_STARTUP_PROBE_STEPS[later.parserState.codexStep]? with
    | none => simp [armed]
    | some step =>
      by_cases other : sequence ≠ step.sequence
      · simp [armed,other]
      · simp only [armed,if_true,if_neg other]
        refine .inr ⟨_,_,rfl,rfl,?_⟩
        exact ⟨armed ▸ same.armed,rfl,by simp [ProbeScan.consume,same.cleaned],by simp [ProbeScan.consume,same.replies]⟩
  · simp [armed]

theorem act (same : AppendsTo prior scan later) (colors : TerminalStartupProbeColors) (piece : ProbePiece) :
    AppendsTo prior (scan.act colors piece) (later.act colors piece) := by
  cases piece with
  | plain ch => exact same.disarm.pass [ch]
  | csi sequence =>
    simp only [ProbeScan.act,ProbeScan.onCsi]
    obtain ⟨missed,missedLater⟩ | ⟨taken,takenLater,found,foundLater,next⟩ := same.startup colors sequence
    · rw [missed,missedLater]
      exact same.disarm.pass sequence
    · rw [found,foundLater]
      exact next
  | str introducer content terminator sequence =>
    simp only [ProbeScan.act,ProbeScan.onString]
    obtain ⟨missed,missedLater⟩ | ⟨taken,takenLater,found,foundLater,next⟩ := same.startup colors sequence
    · rw [missed,missedLater]
      simp only [same.armed,same.codexStep]
      split
      · exact same.pass sequence
      split
      · cases buildOsc11BackgroundReply colors.background with
        | none => exact same.pass sequence
        | some answer => exact same.reply answer
      · exact same.disarm.pass sequence
    · rw [found,foundLater]
      exact next

theorem acts (same : AppendsTo prior scan later) (colors : TerminalStartupProbeColors) (pieces : List ProbePiece) :
    AppendsTo prior (pieces.foldl (ProbeScan.act colors) scan) (pieces.foldl (ProbeScan.act colors) later) := by
  induction pieces generalizing scan later with
  | nil => exact same
  | cons piece rest ih => exact ih (same.act colors piece)

end AppendsTo

/-- The reader of the pieces stands where the filter does, and has put out `prior`. -/
structure Reads (reader : ProbeScan × Units) (state : TerminalStartupProbeState) (prior : TerminalStartupProbeResult) : Prop where
  held : reader.2 = state.pending
  armed : reader.1.armed = state.armed
  codexStep : reader.1.parserState.codexStep = state.codexStep
  cleaned : reader.1.cleaned = prior.cleaned
  replies : reader.1.replies = prior.replies

def TerminalStartupProbeResult.append (first second : TerminalStartupProbeResult) : TerminalStartupProbeResult :=
  ⟨first.cleaned ++ second.cleaned,first.replies ++ second.replies⟩

variable {reader : ProbeScan × Units}

theorem Reads.unique {first second : TerminalStartupProbeState} {prior later : TerminalStartupProbeResult}
    (one : Reads reader first prior) (two : Reads reader second later) : first = second ∧ prior = later := by
  constructor
  · obtain ⟨pending,armed,codexStep⟩ := first
    have held := one.held.symm.trans two.held
    have sameArmed := one.armed.symm.trans two.armed
    have sameStep := one.codexStep.symm.trans two.codexStep
    simp only at held sameArmed sameStep
    rw [held,sameArmed,sameStep]
  · obtain ⟨cleaned,replies⟩ := prior
    have sameCleaned := one.cleaned.symm.trans two.cleaned
    have sameReplies := one.replies.symm.trans two.replies
    simp only at sameCleaned sameReplies
    rw [sameCleaned,sameReplies]

theorem Reads.start (state : TerminalStartupProbeState) : Reads (state.scan,state.pending) state ⟨[],[]⟩ :=
  ⟨rfl,rfl,rfl,rfl,rfl⟩

variable {state : TerminalStartupProbeState}

theorem Reads.extract {prior : TerminalStartupProbeResult} (reads : Reads reader state prior)
    (colors : TerminalStartupProbeColors) (chunk : Units) :
    Reads (probePieces.feed (ProbeScan.act colors) reader chunk) (extractTerminalStartupProbes chunk state colors).2
      (prior.append (extractTerminalStartupProbes chunk state colors).1) := by
  have begun : AppendsTo prior reader.1 state.scan :=
    ⟨reads.armed,reads.codexStep,by simp [TerminalStartupProbeState.scan,reads.cleaned],
      by simp [TerminalStartupProbeState.scan,reads.replies]⟩
  have done := begun.acts colors (probePieces.split (state.pending ++ chunk)).1
  rw [extract_eq]
  simp only [Splitter.feed,reads.held]
  exact ⟨rfl,done.armed,done.codexStep,done.cleaned,done.replies⟩

/-- The chunks one after the other, and all that they give. -/
def feedChunks (colors : TerminalStartupProbeColors) (state : TerminalStartupProbeState) :
    List Units → TerminalStartupProbeResult × TerminalStartupProbeState
  | [] => (⟨[],[]⟩,state)
  | chunk :: rest =>
    let first := extractTerminalStartupProbes chunk state colors
    let later := feedChunks colors first.2 rest
    (first.1.append later.1,later.2)

theorem Reads.chunks {reader : ProbeScan × Units} {state : TerminalStartupProbeState} {prior : TerminalStartupProbeResult}
    (reads : Reads reader state prior) (colors : TerminalStartupProbeColors) (chunks : List Units) :
    Reads (chunks.foldl (probePieces.feed (ProbeScan.act colors)) reader) (feedChunks colors state chunks).2
      (prior.append (feedChunks colors state chunks).1) := by
  induction chunks generalizing reader state prior with
  | nil => simpa [feedChunks,TerminalStartupProbeResult.append] using reads
  | cons chunk rest ih =>
    have next := ih (reads.extract colors chunk)
    simpa [feedChunks,TerminalStartupProbeResult.append] using next

theorem feedChunks_flatten (state : TerminalStartupProbeState) (chunk : Units) (chunks : List Units) :
    feedChunks colors state (chunk :: chunks) = extractTerminalStartupProbes (chunk ++ chunks.flatten) state colors := by
  have cut := (Reads.start state).chunks colors (chunk :: chunks)
  rw [List.foldl_cons,Splitter.feed_chunks] at cut
  obtain ⟨sameState,sameResult⟩ := cut.unique ((Reads.start state).extract colors (chunk ++ chunks.flatten))
  exact Prod.ext sameResult sameState

def Quiet (colors : TerminalStartupProbeColors) (armed : Bool) (codexStep : Nat) : Prop :=
  armed = false ∨ CODEX_STARTUP_PROBE_STEPS.length ≤ codexStep ∨
    (codexStep = 6 ∧ buildOsc10ForegroundReply colors.foreground = none)

theorem Quiet.steps {colors : TerminalStartupProbeColors} {armed : Bool} {codexStep : Nat} (quiet : Quiet colors armed codexStep)
    (on : armed = true) : codexStep ≠ 0 ∧ ∀ step, CODEX_STARTUP_PROBE_STEPS[codexStep]? = some step →
      step.buildReply colors = none ∧ CODEX_STARTUP_PROBE_STEPS.length ≤ codexStep + 1 := by
  obtain off | beyond | ⟨rfl,dark⟩ := quiet
  · simp [on] at off
  · refine ⟨fun zero => ?_,fun step found => ?_⟩
    · subst zero
      simp [CODEX_STARTUP_PROBE_STEPS] at beyond
    · rw [List.getElem?_eq_none beyond] at found
      simp at found
  · refine ⟨by simp,fun step found => ?_⟩
    rw [←Option.some.inj found]
    exact ⟨dark,by decide⟩

/-- The scan has put out no reply but those it began with, and will not. -/
structure Silent (colors : TerminalStartupProbeColors) (prior : List Units) (scan : ProbeScan) : Prop where
  quiet : Quiet colors scan.armed scan.parserState.codexStep
  replies : scan.replies = prior

namespace Silent
variable {colors : TerminalStartupProbeColors} {prior : List Units} {scan : ProbeScan}

theorem disarm (silent : Silent colors prior scan) (text : Units) : Silent colors prior (scan.disarm.pass text) := by
  unfold ProbeScan.disarm
  by_cases armed : scan.armed
  · rw [if_pos armed]
    exact ⟨.inl rfl,silent.replies⟩
  · rw [if_neg armed]
    exact ⟨silent.quiet,silent.replies⟩

theorem consume (silent : Silent colors prior scan) {sequence : Units}
    {taken : TerminalStartupProbeResult × TerminalStartupProbeState} (found : scan.codexStartup colors sequence = some taken) :
    Silent colors prior (scan.consume taken) := by
  unfold ProbeScan.codexStartup maybeConsumeCodexStartupStep at found
  by_cases armed : scan.armed
  · rw [if_pos armed] at found
    split at found
    · simp at found
    rename_i step stepped
    split at found
    · simp at found
    obtain ⟨dark,last⟩ := (silent.quiet.steps armed).2 step stepped
    rw [←Option.some.inj found]
    exact ⟨.inr (.inl last),by simp [ProbeScan.consume,dark,silent.replies]⟩
  · rw [if_neg armed] at found
    simp at found

theorem act (silent : Silent colors prior scan) (piece : ProbePiece) : Silent colors prior (scan.act colors piece) := by
  cases piece with
  | plain ch => exact silent.disarm [ch]
  | csi sequence =>
    simp only [ProbeScan.act,ProbeScan.onCsi]
    split
    · exact silent.consume ‹_›
    · exact silent.disarm sequence
  | str introducer content terminator sequence =>
    simp only [ProbeScan.act,ProbeScan.onString]
    split
    · exact silent.consume ‹_›
    split
    · exact ⟨silent.quiet,silent.replies⟩
    split
    · rename_i query
      exact absurd query.2.1 (silent.quiet.steps query.1).1
    · exact silent.disarm sequence

theorem acts (silent : Silent colors prior scan) (pieces : List ProbePiece) :
    Silent colors prior (pieces.foldl (ProbeScan.act colors) scan) := by
  induction pieces generalizing scan with
  | nil => exact silent
  | cons piece rest ih => exact ih (silent.act piece)

end Silent

theorem quiet_extract {colors : TerminalStartupProbeColors} (quiet : Quiet colors state.armed state.codexStep)
    (chunk : Units) : (extractTerminalStartupProbes chunk state colors).1.replies = [] ∧
      Quiet colors (extractTerminalStartupProbes chunk state colors).2.armed
        (extractTerminalStartupProbes chunk state colors).2.codexStep := by
  have begun : Silent colors [] state.scan := ⟨quiet,rfl⟩
  have done := begun.acts (probePieces.split (state.pending ++ chunk)).1
  rw [extract_eq]
  exact ⟨done.replies,done.quiet⟩

theorem extract_joined (chunk : Units) (state : TerminalStartupProbeState) (colors : TerminalStartupProbeColors) :
    extractTerminalStartupProbes chunk state colors =
      extractTerminalStartupProbes (state.pending ++ chunk) { state with pending := [] } colors := rfl

/-- The sequence that the handshake is asked about. -/
def ProbePiece.sequence? : ProbePiece → Option Units
  | .plain _ => none
  | .csi sequence => some sequence
  | .str _ _ _ sequence => some sequence

theorem act_taken {colors : TerminalStartupProbeColors} {scan : ProbeScan} (read : piece.sequence? = some sequence)
    (found : scan.codexStartup colors sequence = some taken) : scan.act colors piece = scan.consume taken := by
  cases piece with
  | plain ch => simp [ProbePiece.sequence?] at read
  | csi own =>
    obtain rfl := Option.some.inj read
    simp only [ProbeScan.act,ProbeScan.onCsi,found]
  | str introducer content terminator own =>
    obtain rfl := Option.some.inj read
    simp only [ProbeScan.act,ProbeScan.onString,found]

theorem extract_piece (whole : nextPiece sequence = some (piece,[])) (colors : TerminalStartupProbeColors)
    (armed : Bool) (codexStep : Nat) : extractTerminalStartupProbes sequence ⟨[],armed,codexStep⟩ colors =
      let scan := (TerminalStartupProbeState.mk [] armed codexStep).scan.act colors piece
      (⟨scan.cleaned,scan.replies⟩,⟨[],scan.armed,scan.parserState.codexStep⟩) := by
  have nothing : probePieces.split [] = ([],[]) := Splitter.split_none rfl
  have pieces : probePieces.split sequence = ([piece],[]) := by
    rw [Splitter.split_some (show probePieces.next sequence = some (piece,[]) from whole),nothing]
  rw [extract_eq]
  simp [pieces]

theorem extract_query :
    (extractTerminalStartupProbes STARTUP_PROBE_OSC11_QUERY createTerminalStartupProbeState colors).2 =
      createTerminalStartupProbeState := by
  have whole : nextPiece STARTUP_PROBE_OSC11_QUERY =
      some (.str 0x5d (units "11;?") [BEL] STARTUP_PROBE_OSC11_QUERY,[]) := by decide +kernel
  have missed : createTerminalStartupProbeState.scan.codexStartup colors STARTUP_PROBE_OSC11_QUERY = none := rfl
  refine (congrArg Prod.snd (extract_piece whole colors true 0)).trans ?_
  change TerminalStartupProbeState.mk [] (createTerminalStartupProbeState.scan.act colors _).armed
    (createTerminalStartupProbeState.scan.act colors _).parserState.codexStep = _
  simp only [ProbeScan.act,ProbeScan.onString,missed]
  cases buildOsc11BackgroundReply colors.background <;> rfl

theorem steps_whole : ∀ step ∈ CODEX_STARTUP_PROBE_STEPS,
    (nextPiece step.sequence).map (fun taken => (taken.1.sequence?,taken.2)) = some (some step.sequence,[]) := by
  decide +kernel

variable {codexStep : Nat} {step : CodexStartupProbeStep}

/-- A step of the handshake is answered and leaves the filter armed for the next one. -/
theorem extract_step (stepped : CODEX_STARTUP_PROBE_STEPS[codexStep]? = some step) :
    (extractTerminalStartupProbes step.sequence ⟨[],true,codexStep⟩ colors).2 = ⟨[],true,codexStep + 1⟩ ∧
      (extractTerminalStartupProbes step.sequence ⟨[],true,codexStep⟩ colors).1.replies = (step.buildReply colors).toList := by
  obtain ⟨⟨piece,rest⟩,whole,same⟩ := Option.map_eq_some_iff.mp (steps_whole step (List.mem_of_getElem? stepped))
  obtain ⟨read,rfl⟩ := Prod.mk.inj same
  have found : ∃ taken, (TerminalStartupProbeState.mk [] true codexStep).scan.codexStartup colors step.sequence = some taken ∧
      taken.2.codexStep = codexStep + 1 ∧ taken.1.replies = (step.buildReply colors).toList := by
    simp [ProbeScan.codexStartup,maybeConsumeCodexStartupStep,TerminalStartupProbeState.scan,stepped]
  obtain ⟨taken,found,next,answered⟩ := found
  rw [extract_piece whole,act_taken read found]
  exact ⟨congrArg (TerminalStartupProbeState.mk [] true) next,answered⟩

/-- An armed filter at this step answers some output. -/
def Answers (colors : TerminalStartupProbeColors) (codexStep : Nat) : Prop :=
  ∃ further, (extractTerminalStartupProbes further ⟨[],true,codexStep⟩ colors).1.replies ≠ []

theorem answers_reply {colors : TerminalStartupProbeColors} {reply : Units}
    (stepped : CODEX_STARTUP_PROBE_STEPS[codexStep]? = some step) (built : step.buildReply colors = some reply) :
    Answers colors codexStep := by
  refine ⟨step.sequence,?_⟩
  rw [(extract_step colors stepped).2,built]
  simp

theorem answers_before {colors : TerminalStartupProbeColors}
    (stepped : CODEX_STARTUP_PROBE_STEPS[codexStep]? = some step) (later : Answers colors (codexStep + 1)) :
    Answers colors codexStep := by
  obtain ⟨further,answered⟩ := later
  refine ⟨step.sequence ++ further,?_⟩
  have cut := feedChunks_flatten colors ⟨[],true,codexStep⟩ step.sequence [further]
  simp only [List.flatten_cons,List.flatten_nil,List.append_nil] at cut
  rw [←cut]
  simp [feedChunks,TerminalStartupProbeResult.append,(extract_step colors stepped).1,answered]

theorem handshake_answers (early : codexStep ≤ 5) : Answers colors codexStep := by
  have last : Answers colors 5 := @answers_reply _
    ⟨CSI_PRIMARY_DEVICE_ATTRIBUTES_QUERY,false,fun _ => some CSI_PRIMARY_DEVICE_ATTRIBUTES_REPLY⟩ colors _ rfl rfl
  induction early using Nat.decreasingInduction with
  | self => exact last
  | of_succ earlier below ih =>
    have stepped : earlier < CODEX_STARTUP_PROBE_STEPS.length := by
      simp only [CODEX_STARTUP_PROBE_STEPS,List.length_cons]
      omega
    exact answers_before (List.getElem?_eq_getElem stepped) ih

/-- With the rest of the sequence, the filter answers what follows as it does from `resume`. -/
def ResumesAs (colors : TerminalStartupProbeColors) (state : TerminalStartupProbeState) (remainder : Units)
    (resume : TerminalStartupProbeState) : Prop :=
  ∀ further, (extractTerminalStartupProbes further (extractTerminalStartupProbes remainder state colors).2 colors).1.replies =
    (extractTerminalStartupProbes further resume colors).1.replies

/-- The color query leaves an armed filter armed, and only an armed one takes a step of the
    handshake; nothing is answered behind its last one. -/
def ReplayExact (colors : TerminalStartupProbeColors) (state : TerminalStartupProbeState) : Prop :=
  if state.codexStep = 0 ∧ state.pending <+: STARTUP_PROBE_OSC11_QUERY then state.armed = false
  else state.armed = true ∨ state.codexStep = 6 ∨ (state.codexStep = 5 ∧ buildOsc10ForegroundReply colors.foreground = none)

instance decidableReplayExact (colors : TerminalStartupProbeColors) (state : TerminalStartupProbeState) :
    Decidable (ReplayExact colors state) := by
  unfold ReplayExact
  infer_instance

theorem prefix_joined {first whole : Units} (begins : first <+: whole) : first ++ whole.drop first.length = whole := by
  obtain ⟨rest,rfl⟩ := begins
  simp

variable {remainder : Units}

theorem boundary_cases (cut : (getTerminalStartupProbeReplayBoundary state).remainder = some remainder) :
    ((state.codexStep = 0 ∧ state.pending <+: STARTUP_PROBE_OSC11_QUERY) ∧
        state.pending ++ remainder = STARTUP_PROBE_OSC11_QUERY ∧
        (getTerminalStartupProbeReplayBoundary state).resumeState = some ⟨[],false,0⟩) ∨
      (¬(state.codexStep = 0 ∧ state.pending <+: STARTUP_PROBE_OSC11_QUERY) ∧
        ∃ step, CODEX_STARTUP_PROBE_STEPS[state.codexStep]? = some step ∧ state.pending ++ remainder = step.sequence ∧
          (getTerminalStartupProbeReplayBoundary state).resumeState =
            some ⟨[],decide (state.codexStep + 1 < CODEX_STARTUP_PROBE_STEPS.length),state.codexStep + 1⟩) := by
  unfold getTerminalStartupProbeReplayBoundary at cut ⊢
  by_cases nothing : state.pending = []
  · simp [nothing] at cut
  by_cases query : state.codexStep = 0 ∧ state.pending = STARTUP_PROBE_OSC11_QUERY
  · simp [query] at cut
  rw [if_neg nothing,if_neg query] at cut ⊢
  by_cases begun : state.codexStep = 0 ∧ state.pending <+: STARTUP_PROBE_OSC11_QUERY
  · rw [if_pos begun] at cut ⊢
    obtain rfl := Option.some.inj cut
    exact .inl ⟨begun,prefix_joined begun.2,rfl⟩
  rw [if_neg begun] at cut ⊢
  cases stepped : CODEX_STARTUP_PROBE_STEPS[state.codexStep]? with
  | none => simp [stepped] at cut
  | some step =>
    simp only [stepped] at cut ⊢
    by_cases held : state.pending <+: step.sequence
    · rw [if_pos held] at cut ⊢
      obtain rfl := Option.some.inj cut
      exact .inr ⟨begun,step,rfl,prefix_joined held,rfl⟩
    · simp [held] at cut

/-- From a quiet state on, what follows is answered alike where the other state is quiet too. -/
theorem resumes_quiet {colors : TerminalStartupProbeColors} {resume : TerminalStartupProbeState}
    (quiet : Quiet colors (extractTerminalStartupProbes remainder state colors).2.armed
      (extractTerminalStartupProbes remainder state colors).2.codexStep) :
    ResumesAs colors state remainder resume ↔ ∀ further, (extractTerminalStartupProbes further resume colors).1.replies = [] := by
  unfold ResumesAs
  constructor
  · intro same further
    rw [←same further,(quiet_extract quiet further).1]
  · intro silent further
    rw [(quiet_extract quiet further).1,silent further]

theorem resumes_query {colors : TerminalStartupProbeColors} (begun : state.codexStep = 0)
    (completes : state.pending ++ remainder = STARTUP_PROBE_OSC11_QUERY) :
    ResumesAs colors state remainder ⟨[],false,0⟩ ↔ state.armed = false := by
  have resumed : ∀ further, (extractTerminalStartupProbes further ⟨[],false,0⟩ colors).1.replies = [] := fun further =>
    (quiet_extract (.inl rfl) further).1
  obtain ⟨pending,armed,codexStep⟩ := state
  obtain rfl : codexStep = 0 := begun
  cases armed with
  | false =>
    have quiet := (@quiet_extract ⟨pending,false,0⟩ colors (.inl rfl) remainder).2
    exact ⟨fun _ => rfl,fun _ => (resumes_quiet quiet).mpr resumed⟩
  | true =>
    refine ⟨fun same => ?_,fun off => by simp at off⟩
    obtain ⟨further,answered⟩ := handshake_answers colors (Nat.zero_le 5)
    refine absurd ?_ answered
    have next : (extractTerminalStartupProbes remainder ⟨pending,true,0⟩ colors).2 = ⟨[],true,0⟩ := by
      rw [extract_joined]
      exact (congrArg (fun input => (extractTerminalStartupProbes input ⟨[],true,0⟩ colors).2) completes).trans
        (extract_query colors)
    have told := same further
    rw [next] at told
    exact told.trans (resumed further)

theorem resumes_step {colors : TerminalStartupProbeColors}
    (stepped : CODEX_STARTUP_PROBE_STEPS[state.codexStep]? = some step)
    (completes : state.pending ++ remainder = step.sequence) : ResumesAs colors state remainder
        ⟨[],decide (state.codexStep + 1 < CODEX_STARTUP_PROBE_STEPS.length),state.codexStep + 1⟩ ↔
      state.armed = true ∨ state.codexStep = 6 ∨
        (state.codexStep = 5 ∧ buildOsc10ForegroundReply colors.foreground = none) := by
  have inside : state.codexStep < 7 := (List.getElem?_eq_some_iff.mp stepped).1
  obtain ⟨pending,armed,codexStep⟩ := state
  simp only at stepped completes inside ⊢
  by_cases last : codexStep = 6
  · -- Behind the last step neither state answers anything.
    subst last
    refine ⟨fun _ => .inr (.inl rfl),fun _ => ?_⟩
    have resumed : ∀ further, (extractTerminalStartupProbes further ⟨[],false,7⟩ colors).1.replies = [] := fun further =>
      (quiet_extract (.inl rfl) further).1
    refine (resumes_quiet ?_).mpr resumed
    cases armed with
    | false => exact (quiet_extract (.inl rfl) remainder).2
    | true =>
      rw [extract_joined,completes,(extract_step colors stepped).1]
      exact .inr (.inl (by decide))
  have more : codexStep + 1 < CODEX_STARTUP_PROBE_STEPS.length := by
    simp only [CODEX_STARTUP_PROBE_STEPS,List.length_cons,List.length_nil]
    omega
  simp only [more,decide_true]
  cases armed with
  | true =>
    refine ⟨fun _ => .inl rfl,fun _ further => ?_⟩
    rw [extract_joined remainder,completes,(extract_step colors stepped).1]
  | false =>
    rw [resumes_quiet (@quiet_extract ⟨pending,false,codexStep⟩ colors (.inl rfl) remainder).2]
    constructor
    · intro silent
      have unanswered : ¬Answers colors (codexStep + 1) := fun ⟨further,answered⟩ => answered (silent further)
      by_cases five : codexStep = 5
      · subst five
        refine .inr (.inr ⟨rfl,Option.eq_none_iff_forall_ne_some.mpr fun reply built => ?_⟩)
        exact unanswered (@answers_reply _ ⟨OSC_FOREGROUND_QUERY,false,
          fun colors => buildOsc10ForegroundReply colors.foreground⟩ colors _ rfl built)
      · exact absurd (handshake_answers colors (by omega)) unanswered
    · rintro (off | six | ⟨rfl,dark⟩) further
      · simp at off
      · exact absurd six last
      · exact (quiet_extract (.inr (.inr ⟨rfl,dark⟩)) further).1

/-- However the output is cut, the filter does what it does on the whole; and a replay that
    ends inside a sequence resumes as the filter goes on, unless the boundary takes an armed
    filter to be done with a color query, or one that is not armed to take a step. -/
theorem probes_exact (colors : TerminalStartupProbeColors) (state : TerminalStartupProbeState) :
    (∀ chunks ≠ [], feedChunks colors state chunks = extractTerminalStartupProbes chunks.flatten state colors) ∧
        (∀ remainder, (getTerminalStartupProbeReplayBoundary state).remainder = some remainder →
          ∃ resume, (getTerminalStartupProbeReplayBoundary state).resumeState = some resume ∧
            ResumesAs colors state remainder resume) ↔
      ((getTerminalStartupProbeReplayBoundary state).remainder ≠ none → ReplayExact colors state) := by
  have whole : ∀ chunks ≠ [], feedChunks colors state chunks = extractTerminalStartupProbes chunks.flatten state colors := by
    intro chunks some
    obtain ⟨chunk,rest,rfl⟩ := List.exists_cons_of_ne_nil some
    rw [feedChunks_flatten,List.flatten_cons]
  rw [and_iff_right whole]
  cases cut : (getTerminalStartupProbeReplayBoundary state).remainder with
  | none => simp
  | some remainder =>
    simp only [Option.some.injEq,forall_eq',ne_eq,reduceCtorEq,not_false_eq_true,forall_const]
    unfold ReplayExact
    obtain ⟨query,completes,resumed⟩ | ⟨other,step,stepped,completes,resumed⟩ := boundary_cases cut
    · rw [if_pos query,resumed]
      simp [resumes_query query.1 completes]
    · rw [if_neg other,resumed]
      simp [resumes_step stepped completes]

/-- A shell's output ends inside the sequence that begins the handshake; the state to resume
    from answers a cursor query that the filter passes on. -/
theorem cut_prompt_answered :
    ¬∀ (colors : TerminalStartupProbeColors) (state : TerminalStartupProbeState),
      (∀ chunks ≠ [], feedChunks colors state chunks = extractTerminalStartupProbes chunks.flatten state colors) ∧
        ∀ remainder, (getTerminalStartupProbeReplayBoundary state).remainder = some remainder →
          ∃ resume, (getTerminalStartupProbeReplayBoundary state).resumeState = some resume ∧
            ResumesAs colors state remainder resume := by
  intro claimed
  have reached := claimed ⟨none,none⟩
    (extractTerminalStartupProbes (units "$ \x1b[?2004") createTerminalStartupProbeState ⟨none,none⟩).2
  have held : (extractTerminalStartupProbes (units "$ \x1b[?2004") createTerminalStartupProbeState ⟨none,none⟩).2 =
      ⟨units "\x1b[?2004",false,0⟩ := by decide +kernel
  rw [held] at reached
  obtain ⟨resume,resumed,same⟩ := reached.2 (units "h") (by decide +kernel)
  obtain rfl : (⟨[],true,1⟩ : TerminalStartupProbeState) = resume := by
    refine Option.some.inj (Eq.trans ?_ resumed)
    decide +kernel
  have differs : (extractTerminalStartupProbes (units "\x1b[>7u\x1b[?1004h\x1b[6n")
        (extractTerminalStartupProbes (units "h") ⟨units "\x1b[?2004",false,0⟩ ⟨none,none⟩).2 ⟨none,none⟩).1.replies ≠
      (extractTerminalStartupProbes (units "\x1b[>7u\x1b[?1004h\x1b[6n") ⟨[],true,1⟩ ⟨none,none⟩).1.replies := by
    decide +kernel
  exact differs (same _)

end Freshell.Client
