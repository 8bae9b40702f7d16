/-!
The bell of a turn's end in the output of a terminal, and the Enter of a submit in its
input. A bell inside an escape sequence belongs to the sequence; a bell between visible
output is a tool's own.
-/
namespace Freshell.Activity

def turnCompleteSignal : Char := '\x07'
def esc : Char := '\x1b'
def c1St : Char := Char.ofNat 0x9c
def c1Csi : Char := Char.ofNat 0x9b
def c1Dcs : Char := Char.ofNat 0x90
def c1Osc : Char := Char.ofNat 0x9d

/-- Carried from chunk to chunk, for a sequence that is split between two reads. -/
structure ParserState where
  inOsc : Bool := false
  inCsi : Bool := false
  inDcs : Bool := false
  pendingEsc : Bool := false
deriving DecidableEq, Repr

def isSubmitInput (data : String) : Bool :=
  !data.toList.isEmpty && data.toList.all fun ch => ch == '\r' || ch == '\n'

/-- The `White_Space` property. -/
def isWhitespace (ch : Char) : Bool :=
  (0x9 ≤ ch.toNat && ch.toNat ≤ 0xd) || ch.toNat == 0x20 || ch.toNat == 0x85 || ch.toNat == 0xa0 ||
    ch.toNat == 0x1680 || (0x2000 ≤ ch.toNat && ch.toNat ≤ 0x200a) || ch.toNat == 0x2028 || ch.toNat == 0x2029 ||
    ch.toNat == 0x202f || ch.toNat == 0x205f || ch.toNat == 0x3000

def isControl (ch : Char) : Bool := ch.toNat ≤ 0x1f || (0x7f ≤ ch.toNat && ch.toNat ≤ 0x9f)

def isIgnorableLeadingChar (ch : Char) : Bool :=
  ch != turnCompleteSignal && (isWhitespace ch || ch.toNat == 0xfeff || isControl ch)

def isCsiFinal (ch : Char) : Bool := '@' ≤ ch && ch ≤ '~'

/-- What the character after an `ESC` opens or closes. -/
def ParserState.afterEsc (state : ParserState) (ch : Char) : ParserState :=
  if state.inOsc && ch == '\\' then { state with inOsc := false, pendingEsc := false }
  else if state.inDcs && ch == '\\' then { state with inDcs := false, pendingEsc := false }
  else if !state.inOsc && !state.inDcs && ch == ']' then { state with inOsc := true, pendingEsc := false }
  else if !state.inOsc && !state.inDcs && ch == '[' then { state with inCsi := true, pendingEsc := false }
  else if !state.inOsc && !state.inDcs && ch == 'P' then { state with inDcs := true, pendingEsc := false }
  else { state with pendingEsc := false }

structure Candidate where
  leadingEligible : Bool
  hasVisibleAfter : Bool
deriving DecidableEq, Repr

structure CandidateScan where
  parser : ParserState
  sawVisibleOutput : Bool := false
  candidates : List Candidate := []
deriving DecidableEq, Repr

def CandidateScan.read (scan : CandidateScan) (ch : Char) : CandidateScan :=
  let parser := scan.parser
  if parser.pendingEsc then { scan with parser := parser.afterEsc ch }
  else if ch == esc then { scan with parser := { parser with pendingEsc := true } }
  else if parser.inOsc then
    if ch == turnCompleteSignal || ch == c1St then { scan with parser := { parser with inOsc := false } } else scan
  else if parser.inDcs then
    if ch == c1St then { scan with parser := { parser with inDcs := false } } else scan
  else if parser.inCsi then
    if isCsiFinal ch then { scan with parser := { parser with inCsi := false } } else scan
  else if ch == c1Csi then { scan with parser := { parser with inCsi := true } }
  else if ch == c1Dcs then { scan with parser := { parser with inDcs := true } }
  else if ch == c1Osc then { scan with parser := { parser with inOsc := true } }
  else if ch == turnCompleteSignal then
    { scan with candidates := scan.candidates ++ [⟨!scan.sawVisibleOutput,false⟩] }
  else if isIgnorableLeadingChar ch then scan
  else
    { scan with
      sawVisibleOutput := true
      candidates := scan.candidates.map fun candidate => { candidate with hasVisibleAfter := true } }

def countTrackerTurnCompleteSignals (data : String) (state : ParserState) : Nat :=
  let scan := data.toList.foldl CandidateScan.read ⟨state,false,[]⟩
  (scan.candidates.filter fun candidate => candidate.leadingEligible || !candidate.hasVisibleAfter).length

def supportsTurnSignal (mode : String) : Bool := mode == "claude" || mode == "codex"

structure Extraction where
  parser : ParserState
  cleaned : String := ""
  count : Nat := 0
deriving DecidableEq, Repr

def Extraction.read (extraction : Extraction) (ch : Char) : Extraction :=
  let parser := extraction.parser
  let kept := extraction.cleaned.push ch
  if parser.pendingEsc then
    { extraction with parser := parser.afterEsc ch, cleaned := (extraction.cleaned.push esc).push ch }
  else if ch == esc then { extraction with parser := { parser with pendingEsc := true } }
  else if ch == c1Csi then { extraction with parser := { parser with inCsi := true }, cleaned := kept }
  else if ch == c1Dcs then { extraction with parser := { parser with inDcs := true }, cleaned := kept }
  else if ch == c1Osc then { extraction with parser := { parser with inOsc := true }, cleaned := kept }
  else if parser.inCsi then
    { extraction with parser := { parser with inCsi := parser.inCsi && !isCsiFinal ch }, cleaned := kept }
  else if ch == turnCompleteSignal then
    if parser.inOsc then { extraction with parser := { parser with inOsc := false }, cleaned := kept }
    else if parser.inDcs then { extraction with cleaned := kept }
    else { extraction with count := extraction.count + 1 }
  else if ch == c1St then
    if parser.inOsc then { extraction with parser := { parser with inOsc := false }, cleaned := kept }
    else if parser.inDcs then { extraction with parser := { parser with inDcs := false }, cleaned := kept }
    else { extraction with cleaned := kept }
  else { extraction with cleaned := kept }

/-- The cleaned output, the bells in it, and the parser for the next chunk. -/
def extractTurnCompleteSignals (data mode : String) (state : ParserState) : String × Nat × ParserState :=
  if supportsTurnSignal mode then
    let extraction := data.toList.foldl Extraction.read ⟨state,"",0⟩
    (extraction.cleaned,extraction.count,extraction.parser)
  else if state.pendingEsc then (String.singleton esc ++ data,0,{})
  else (data,0,state)

example : countTrackerTurnCompleteSignals "\x07done\x07more\x07" {} = 2 := by decide
example : (extractTurnCompleteSignals "\x1b]0;title\x07ok\x07" "codex" {}).2.1 = 1 := by decide

end Freshell.Activity
