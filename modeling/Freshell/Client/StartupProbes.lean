import Mathlib.Data.Nat.Basic
/-!
The probes that a program sends a terminal when it starts, taken out of its output and
answered: the color query of one program, and the handshake of another. A sequence that is
not complete is held back; a replay that ends inside one leaves a remainder to discard.
-/
namespace Freshell.Client

abbrev Units := List UInt16

def units (text : String) : Units := text.toList.map fun c => c.toNat.toUInt16

namespace Probes

def ESC : UInt16 := 0x1b
def BEL : UInt16 := 0x07
def BACKSLASH : UInt16 := 0x5c
def C1_ST : UInt16 := 0x9c
def STARTUP_PROBE_OSC11_QUERY : Units := units "\x1b]11;?\x07"
def CSI_CURSOR_POSITION_QUERY : Units := units "\x1b[6n"
def CSI_PRIMARY_DEVICE_ATTRIBUTES_QUERY : Units := units "\x1b[c"
def CSI_CURSOR_POSITION_REPLY : Units := units "\x1b[1;1R"
def CSI_PRIMARY_DEVICE_ATTRIBUTES_REPLY : Units := units "\x1b[?1;2c"
def OSC_FOREGROUND_QUERY : Units := units "\x1b]10;?\x1b\\"
def OSC_TITLE_PREFIXES : List Units := [units "0;",units "1;",units "2;"]

end Probes
open Probes

structure TerminalStartupProbeColors where
  foreground : Option Units
  background : Option Units
deriving DecidableEq, Repr

structure TerminalStartupProbeState where
  pending : Units
  armed : Bool
  codexStep : Nat
deriving DecidableEq, Repr

structure TerminalStartupProbeResult where
  cleaned : Units
  replies : List Units
deriving DecidableEq, Repr

structure TerminalStartupProbeReplayBoundary where
  remainder : Option Units
  resumeState : Option TerminalStartupProbeState
deriving DecidableEq, Repr

def createTerminalStartupProbeState : TerminalStartupProbeState where
  pending := []
  armed := true
  codexStep := 0

def isStrWhiteSpace (code : UInt16) : Bool :=
  (0x09 ≤ code && code ≤ 0x0d) || code == 0x20 || code == 0xa0 || code == 0x1680 || (0x2000 ≤ code && code ≤ 0x200a) ||
    code == 0x2028 || code == 0x2029 || code == 0x202f || code == 0x205f || code == 0x3000 || code == 0xfeff

def hexDigit (code : UInt16) : Option Nat :=
  if 0x30 ≤ code ∧ code ≤ 0x39 then some (code.toNat - 0x30)
  else if 0x41 ≤ code ∧ code ≤ 0x46 then some (code.toNat - 0x37)
  else if 0x61 ≤ code ∧ code ≤ 0x66 then some (code.toNat - 0x57)
  else none

def hexDigits : Units → List Nat
  | [] => []
  | code :: rest =>
    match hexDigit code with
    | none => []
    | some digit => digit :: hexDigits rest

/-- `parseInt(text, 16)`, with `none` for `NaN`. -/
def parseInt16 (text : Units) : Option Int :=
  let trimmed := text.dropWhile isStrWhiteSpace
  let negative := trimmed.head? = some 0x2d
  let unsigned := if negative ∨ trimmed.head? = some 0x2b then trimmed.tail else trimmed
  let digits := hexDigits (if unsigned.take 2 = units "0x" ∨ unsigned.take 2 = units "0X" then unsigned.drop 2 else unsigned)
  if digits = [] then none
  else
    let value : Int := Int.ofNat (digits.foldl (fun value digit => 16 * value + digit) 0)
    some (if negative then -value else value)

def normalizeHexColor (color : Units) : Option (Option Int × Option Int × Option Int) :=
  match color with
  | [] => none
  | mark :: hex =>
    if mark ≠ 0x23 then none
    else
      match hex with
      | [r,g,b] => some (parseInt16 [r,r],parseInt16 [g,g],parseInt16 [b,b])
      | [_,_,_,_,_,_] => some (parseInt16 (hex.take 2),parseInt16 ((hex.drop 2).take 2),parseInt16 ((hex.drop 4).take 2))
      | _ => none

/-- `value.toString(16)`. -/
def toString16 : Option Int → Units
  | none => units "NaN"
  | some (.ofNat value) => (Nat.toDigits 16 value).map fun c => c.toNat.toUInt16
  | some (.negSucc value) => units "-" ++ (Nat.toDigits 16 (value + 1)).map fun c => c.toNat.toUInt16

def pad16Bit (value : Option Int) : Units :=
  let digits := toString16 value
  let hex := List.replicate (2 - digits.length) 0x30 ++ digits
  hex ++ hex

/-- The reply to a color query, under the number of what it asks for. -/
def buildColorReply (number : String) (color : Option Units) : Option Units :=
  match color with
  | none => none
  | some color =>
    match normalizeHexColor color with
    | none => none
    | some (r,g,b) =>
      some (units "\x1b]" ++ units number ++ units ";rgb:" ++ pad16Bit r ++ units "/" ++ pad16Bit g ++ units "/" ++ pad16Bit b ++
        units "\x1b\\")

def buildOsc11BackgroundReply (color : Option Units) : Option Units := buildColorReply "11" color
def buildOsc10ForegroundReply (color : Option Units) : Option Units := buildColorReply "10" color

/-- `start` and `stop` count from where the search began. -/
structure StringSequenceTerminator where
  start : Nat
  stop : Nat
  terminator : Units
deriving DecidableEq, Repr

def StringSequenceTerminator.later (found : StringSequenceTerminator) : StringSequenceTerminator :=
  { found with start := found.start + 1, stop := found.stop + 1 }

def findStringSequenceTerminator : Units → Option StringSequenceTerminator
  | [] => none
  | ch :: rest =>
    if ch = BEL ∨ ch = C1_ST then some ⟨0,1,[ch]⟩
    else if ch = ESC ∧ rest = [] then none
    else if ch = ESC ∧ rest.head? = some BACKSLASH then some ⟨0,2,[ESC,BACKSLASH]⟩
    else (findStringSequenceTerminator rest).map (·.later)

def isCsiFinal (code : UInt16) : Bool := 0x40 ≤ code && code ≤ 0x7e

/-- Where the sequence ends, from where the search began. -/
def findCsiSequenceTerminator : Units → Option Nat
  | [] => none
  | code :: rest => if isCsiFinal code then some 1 else (findCsiSequenceTerminator rest).map (· + 1)

def matchesCodexTransparentSequence (content : Units) : Bool :=
  OSC_TITLE_PREFIXES.any fun mark => mark.isPrefixOf content

structure CodexStartupProbeStep where
  sequence : Units
  passthrough : Bool
  buildReply : TerminalStartupProbeColors → Option Units

def CODEX_STARTUP_PROBE_STEPS : List CodexStartupProbeStep :=
  [⟨units "\x1b[?2004h",true,fun _ => none⟩,
    ⟨units "\x1b[>7u",true,fun _ => none⟩,
    ⟨units "\x1b[?1004h",true,fun _ => none⟩,
    ⟨CSI_CURSOR_POSITION_QUERY,false,fun _ => some CSI_CURSOR_POSITION_REPLY⟩,
    ⟨units "\x1b[?u",true,fun _ => none⟩,
    ⟨CSI_PRIMARY_DEVICE_ATTRIBUTES_QUERY,false,fun _ => some CSI_PRIMARY_DEVICE_ATTRIBUTES_REPLY⟩,
    ⟨OSC_FOREGROUND_QUERY,false,fun colors => buildOsc10ForegroundReply colors.foreground⟩]

/-- The result, and the state as the call leaves it. -/
def maybeConsumeCodexStartupStep (sequence : Units) (state : TerminalStartupProbeState) (colors : TerminalStartupProbeColors) :
    Option (TerminalStartupProbeResult × TerminalStartupProbeState) :=
  match CODEX_STARTUP_PROBE_STEPS[state.codexStep]? with
  | none => none
  | some step =>
    if sequence ≠ step.sequence then none
    else
      let reply := step.buildReply colors
      let cleaned := if step.passthrough then sequence else if reply.isSome then [] else sequence
      let codexStep := state.codexStep + 1
      let armed := if CODEX_STARTUP_PROBE_STEPS.length ≤ codexStep then false else state.armed
      some (⟨cleaned,reply.toList⟩,{ state with codexStep := codexStep, armed := armed })

def getTerminalStartupProbeReplayBoundary (state : TerminalStartupProbeState) : TerminalStartupProbeReplayBoundary :=
  if state.pending = [] then
    ⟨none,if state.armed ∧ 0 < state.codexStep then some ⟨[],true,state.codexStep⟩ else none⟩
  else if state.codexStep = 0 ∧ state.pending = STARTUP_PROBE_OSC11_QUERY then ⟨none,none⟩
  else if state.codexStep = 0 ∧ state.pending <+: STARTUP_PROBE_OSC11_QUERY then
    ⟨some (STARTUP_PROBE_OSC11_QUERY.drop state.pending.length),some ⟨[],false,0⟩⟩
  else
    match CODEX_STARTUP_PROBE_STEPS[state.codexStep]? with
    | none => ⟨none,none⟩
    | some step =>
      if state.pending <+: step.sequence then
        ⟨some (step.sequence.drop state.pending.length),
          some ⟨[],decide (state.codexStep + 1 < CODEX_STARTUP_PROBE_STEPS.length),state.codexStep + 1⟩⟩
      else ⟨none,none⟩

structure ProbeScan where
  parserState : TerminalStartupProbeState
  armed : Bool
  cleaned : Units
  replies : List Units
deriving DecidableEq, Repr

namespace ProbeScan
variable (scan : ProbeScan)

def disarm : ProbeScan :=
  if scan.armed then { scan with armed := false, parserState := { scan.parserState with codexStep := 0 } } else scan

def pass (text : Units) : ProbeScan := { scan with cleaned := scan.cleaned ++ text }

def reply (answer : Units) : ProbeScan := { scan with replies := scan.replies ++ [answer] }

def hold (rest : Units) : ProbeScan := { scan with parserState := { scan.parserState with pending := rest } }

def consume (startup : TerminalStartupProbeResult × TerminalStartupProbeState) : ProbeScan :=
  { scan with
    parserState := startup.2
    cleaned := scan.cleaned ++ startup.1.cleaned
    replies := scan.replies ++ startup.1.replies }

def codexStartup (colors : TerminalStartupProbeColors) (sequence : Units) :
    Option (TerminalStartupProbeResult × TerminalStartupProbeState) :=
  if scan.armed then maybeConsumeCodexStartupStep sequence scan.parserState colors else none

def onCsi (colors : TerminalStartupProbeColors) (sequence : Units) : ProbeScan :=
  match scan.codexStartup colors sequence with
  | some startup => scan.consume startup
  | none => scan.disarm.pass sequence

def onString (colors : TerminalStartupProbeColors) (introducer : UInt16) (content terminator sequence : Units) : ProbeScan :=
  match scan.codexStartup colors sequence with
  | some startup => scan.consume startup
  | none =>
    if scan.armed ∧ 0 < scan.parserState.codexStep ∧ introducer = 0x5d ∧ matchesCodexTransparentSequence content then
      scan.pass sequence
    else if scan.armed ∧ scan.parserState.codexStep = 0 ∧ introducer = 0x5d ∧ content = units "11;?" ∧ terminator = [BEL] then
      match buildOsc11BackgroundReply colors.background with
      | some answer => scan.reply answer
      | none => scan.pass sequence
    else scan.disarm.pass sequence

end ProbeScan

def extractFrom (colors : TerminalStartupProbeColors) : Nat → Units → ProbeScan → ProbeScan
  | 0, _, scan => scan
  | _ + 1, [], scan => scan
  | fuel + 1, ch :: rest, scan =>
    if ch ≠ ESC then extractFrom colors fuel rest (scan.disarm.pass [ch])
    else
      match rest with
      | [] => scan.hold [ch]
      | introducer :: body =>
        if introducer = 0x5b then
          match findCsiSequenceTerminator body with
          | none => scan.hold (ch :: introducer :: body)
          | some stop =>
            extractFrom colors fuel (body.drop stop) (scan.onCsi colors (ch :: introducer :: body.take stop))
        else if introducer ≠ 0x5d ∧ introducer ≠ 0x50 ∧ introducer ≠ 0x5f then
          extractFrom colors fuel (introducer :: body) (scan.disarm.pass [ch])
        else
          match findStringSequenceTerminator body with
          | none => scan.hold (ch :: introducer :: body)
          | some found =>
            extractFrom colors fuel (body.drop found.stop)
              (scan.onString colors introducer (body.take found.start) found.terminator (ch :: introducer :: body.take found.stop))

/-- The result, and the state as the call leaves it. -/
def extractTerminalStartupProbes (chunk : Units) (state : TerminalStartupProbeState) (colors : TerminalStartupProbeColors) :
    TerminalStartupProbeResult × TerminalStartupProbeState :=
  let input := state.pending ++ chunk
  let scan := extractFrom colors input.length input ⟨{ state with pending := [] },state.armed,[],[]⟩
  (⟨scan.cleaned,scan.replies⟩,{ scan.parserState with armed := scan.armed })

end Freshell.Client
