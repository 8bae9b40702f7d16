import Freshell.Terminal.Wire

/-!
The scanner that tells which frames of a terminal's output can be merged into one
batch. It follows escape sequences across frames; a frame that holds anything but
text, tabs and line ends, or that begins inside a sequence, is a barrier, with the
most important of the reasons that its characters give.
-/
namespace Freshell.Terminal

def BarrierReason.priority : BarrierReason → Nat
  | .control => 1
  | .turnComplete => 2
  | .startupProbe => 3
  | .requestMode => 4
  | .osc52 => 5

structure ScannerState where
  mode : ScannerMode
deriving DecidableEq, Repr

structure BarrierClassification where
  barrier : Bool
  reason : Option BarrierReason
  ground : Bool
  stateBefore : ScannerState
  stateAfter : ScannerState
deriving DecidableEq, Repr

namespace Barriers

def ESC : Nat := 0x1b
def BEL : Nat := 0x07
def CSI : Nat := 0x9b
def OSC : Nat := 0x9d
def DCS : Nat := 0x90
def SOS : Nat := 0x98
def ST : Nat := 0x9c
def PM : Nat := 0x9e
def APC : Nat := 0x9f
def REPLACEMENT_CHARACTER : Nat := 0xfffd
def CSI_PAYLOAD_SUFFIX_LIMIT : Nat := 64

def isCsiFinalByte (cp : Nat) : Bool := 0x40 ≤ cp && cp ≤ 0x7e
def isEscIntermediateByte (cp : Nat) : Bool := 0x20 ≤ cp && cp ≤ 0x2f
def isEscFinalByte (cp : Nat) : Bool := 0x30 ≤ cp && cp ≤ 0x7e
def isTransparentGroundControl (cp : Nat) : Bool := cp == 0x09 || cp == 0x0a || cp == 0x0d

def isGroundControlBarrier (cp : Nat) : Bool :=
  if isTransparentGroundControl cp then false else cp < 0x20 || cp == 0x7f || (0x80 ≤ cp && cp ≤ 0x9f)

def defaultReasonForMode (mode : ScannerMode) : BarrierReason := if mode = .osc then .osc52 else .control

def classifyCsiFinal (payload : List Char) (finalChar : Char) : BarrierReason :=
  let normalized := payload.filter fun c => !(' ' ≤ c && c ≤ '/')
  if finalChar = 'n' ∧ normalized.getLast? = some '6' then .requestMode
  else if finalChar = 'c' then .startupProbe
  else .control

def mark (current : Option BarrierReason) (reason : BarrierReason) : Option BarrierReason :=
  match current with
  | some cur => if reason.priority ≤ cur.priority then current else some reason
  | none => some reason

end Barriers
open Barriers

structure BarrierScanner where
  mode : ScannerMode
  csiPayloadSuffix : List Char
  stringEscPending : Bool
deriving DecidableEq, Repr

namespace BarrierScanner

def new : BarrierScanner := ⟨.ground,[],false⟩
def isGround (s : BarrierScanner) : Bool := s.mode = .ground
def enterCsi (_ : BarrierScanner) : BarrierScanner := ⟨.csi,[],false⟩
def enterStringMode (_ : BarrierScanner) (next : ScannerMode) : BarrierScanner := ⟨next,[],false⟩
def enterEsc (_ : BarrierScanner) : BarrierScanner := ⟨.esc,[],false⟩
def enterGround (_ : BarrierScanner) : BarrierScanner := ⟨.ground,[],false⟩

def appendCsiPayload (s : BarrierScanner) (ch : Char) : BarrierScanner :=
  let payload := s.csiPayloadSuffix ++ [ch]
  { s with
    csiPayloadSuffix :=
      if CSI_PAYLOAD_SUFFIX_LIMIT < payload.length then payload.drop (payload.length - CSI_PAYLOAD_SUFFIX_LIMIT)
      else payload }

def processStringMode (s : BarrierScanner) (cp : Nat) (stringMode : ScannerMode) (reason : Option BarrierReason) :
    BarrierScanner × Option BarrierReason :=
  let marked := mark reason (defaultReasonForMode stringMode)
  let marked := if cp = REPLACEMENT_CHARACTER then mark marked .control else marked
  let next :=
    if s.stringEscPending then
      if cp = 0x5c then s.enterGround
      else if cp = ESC then { s with stringEscPending := true }
      else { s with stringEscPending := false }
    else if cp = ESC then { s with stringEscPending := true }
    else if cp = Barriers.ST then s.enterGround
    else if stringMode = .osc ∧ cp = BEL then s.enterGround
    else s
  (next,marked)

def scanGround (s : BarrierScanner) (cp : Nat) (reason : Option BarrierReason) : BarrierScanner × Option BarrierReason :=
  if cp = REPLACEMENT_CHARACTER then (s,mark reason .control)
  else if cp = BEL then (s,mark reason .turnComplete)
  else if cp = ESC then (s.enterEsc,mark reason .control)
  else if cp = CSI then (s.enterCsi,mark reason .control)
  else if cp = OSC then (s.enterStringMode .osc,mark reason .osc52)
  else if cp = DCS then (s.enterStringMode .dcs,mark reason .control)
  else if cp = SOS ∨ cp = PM then (s.enterStringMode .apc,mark reason .control)
  else if cp = APC then (s.enterStringMode .apc,mark reason .control)
  else if isGroundControlBarrier cp then (s,mark reason .control)
  else (s,reason)

def scanEsc (s : BarrierScanner) (cp : Nat) (reason : Option BarrierReason) : BarrierScanner × Option BarrierReason :=
  let marked := mark reason .control
  if cp = 0x5b then (s.enterCsi,marked)
  else if cp = 0x58 ∨ cp = 0x5e then (s.enterStringMode .apc,marked)
  else if cp = 0x5d then (s.enterStringMode .osc,mark marked .osc52)
  else if cp = 0x50 then (s.enterStringMode .dcs,marked)
  else if cp = 0x5f then (s.enterStringMode .apc,marked)
  else if cp = ESC then (s.enterEsc,marked)
  else if cp = CSI then (s.enterCsi,marked)
  else if cp = OSC then (s.enterStringMode .osc,mark marked .osc52)
  else if cp = DCS then (s.enterStringMode .dcs,marked)
  else if cp = SOS ∨ cp = PM then (s.enterStringMode .apc,marked)
  else if cp = APC then (s.enterStringMode .apc,marked)
  else if isEscIntermediateByte cp then (s,marked)
  else if isEscFinalByte cp then (s.enterGround,marked)
  else (s,marked)

def scanCsi (s : BarrierScanner) (ch : Char) (reason : Option BarrierReason) : BarrierScanner × Option BarrierReason :=
  let cp := ch.toNat
  let marked := mark reason .control
  if cp = REPLACEMENT_CHARACTER then (s,mark marked .control)
  else if cp = ESC then (s.enterEsc,marked)
  else if cp = BEL then (s,mark marked .turnComplete)
  else if cp = Barriers.ST then (s.enterGround,marked)
  else if isCsiFinalByte cp then (s.enterGround,mark marked (classifyCsiFinal s.csiPayloadSuffix ch))
  else (s.appendCsiPayload ch,marked)

/-- One character of the loop of `scan`, with the reason so far. -/
def scanChar (s : BarrierScanner) (reason : Option BarrierReason) (ch : Char) : BarrierScanner × Option BarrierReason :=
  match s.mode with
  | .ground => s.scanGround ch.toNat reason
  | .esc => s.scanEsc ch.toNat reason
  | .csi => s.scanCsi ch reason
  | .osc | .dcs | .apc => s.processStringMode ch.toNat s.mode reason

/-- What a frame that begins in a state is marked with before its first character. -/
def initialReason (s : BarrierScanner) : Option BarrierReason :=
  if s.mode ≠ .ground then some (defaultReasonForMode s.mode) else none

def scanChars (s : BarrierScanner) (reason : Option BarrierReason) (chars : List Char) :
    BarrierScanner × Option BarrierReason :=
  chars.foldl (fun (s,reason) ch => s.scanChar reason ch) (s,reason)

def scan (s : BarrierScanner) (data : String) : BarrierScanner × BarrierClassification :=
  let (after,reason) := s.scanChars s.initialReason data.toList
  (after,⟨reason.isSome,reason,after.mode = .ground,⟨s.mode⟩,⟨after.mode⟩⟩)

def rank (reason : Option BarrierReason) : Nat := reason.elim 0 BarrierReason.priority

def higher (first second : Option BarrierReason) : Option BarrierReason :=
  if rank second ≤ rank first then first else second

variable (reason : Option BarrierReason) (r : BarrierReason)

theorem mark_eq : mark reason r = higher reason (some r) := by
  cases reason with
  | none => cases r <;> rfl
  | some cur => rfl

theorem higher_assoc (a b c : Option BarrierReason) : higher (higher a b) c = higher a (higher b c) := by
  unfold higher
  split_ifs <;> first | rfl | omega

theorem higher_none (a : Option BarrierReason) : higher a none = a := if_pos (Nat.zero_le _)

theorem rank_higher (a b : Option BarrierReason) : rank (higher a b) = max (rank a) (rank b) := by
  unfold higher
  split_ifs <;> omega

variable (s : BarrierScanner)

theorem scanChar_higher (before reason : Option BarrierReason) (ch : Char) :
    s.scanChar (higher before reason) ch = (s.scanChar reason ch).map id (higher before) := by
  unfold scanChar
  cases s.mode with
  | ground =>
    simp only [scanGround,apply_ite (Prod.map id (higher before)),Prod.map_apply,id_eq,mark_eq,higher_assoc]
  | esc =>
    simp only [scanEsc,apply_ite (Prod.map id (higher before)),Prod.map_apply,id_eq,mark_eq,higher_assoc]
  | csi =>
    simp only [scanCsi,apply_ite (Prod.map id (higher before)),Prod.map_apply,id_eq,mark_eq,higher_assoc]
  | osc | dcs | apc =>
    simp only [processStringMode,Prod.map_apply,id_eq,apply_ite (higher before),mark_eq,higher_assoc]

theorem scanChars_higher (before reason : Option BarrierReason) (chars : List Char) :
    s.scanChars (higher before reason) chars = (s.scanChars reason chars).map id (higher before) := by
  induction chars generalizing s reason with
  | nil => rfl
  | cons ch chars ih =>
    simp only [scanChars,List.foldl_cons] at ih ⊢
    rw [scanChar_higher]
    exact ih _ _

theorem scanChars_append (reason : Option BarrierReason) (first second : List Char) :
    s.scanChars reason (first ++ second) =
      (s.scanChars reason first).1.scanChars (s.scanChars reason first).2 second := by
  simp [scanChars,List.foldl_append]

theorem rank_mark : rank (mark reason r) = max (rank reason) r.priority := by
  rw [mark_eq,rank_higher]
  rfl

theorem le_rank_mark : rank reason ≤ rank (mark reason r) := by
  rw [rank_mark]
  exact Nat.le_max_left _ _

theorem priority_le_rank_mark : r.priority ≤ rank (mark reason r) := by
  rw [rank_mark]
  exact Nat.le_max_right _ _

/-- The reason covers the mode: a frame that begins in it is marked with no more. -/
def Covers (scanned : BarrierScanner × Option BarrierReason) : Prop := rank scanned.1.initialReason ≤ rank scanned.2

theorem covers_ite {c : Prop} [Decidable c] {first second : BarrierScanner × Option BarrierReason}
    (left : Covers first) (right : Covers second) : Covers (if c then first else second) := by
  split_ifs
  · exact left
  · exact right

variable (cp : Nat) (mode : ScannerMode)

theorem processStringMode_mode (reason : Option BarrierReason) :
    (s.processStringMode cp mode reason).1.mode = s.mode ∨ (s.processStringMode cp mode reason).1.mode = .ground := by
  simp only [processStringMode]
  split_ifs <;> first | exact .inl rfl | exact .inr rfl

theorem le_rank_processStringMode (reason : Option BarrierReason) :
    rank reason ≤ rank (s.processStringMode cp mode reason).2 := by
  have first := le_rank_mark reason (defaultReasonForMode mode)
  simp only [processStringMode]
  split_ifs
  · exact Nat.le_trans first (le_rank_mark _ _)
  · exact first

theorem scanString_covers {s : BarrierScanner} {reason : Option BarrierReason} (covers : Covers (s,reason)) :
    Covers (s.processStringMode cp s.mode reason) := by
  unfold Covers initialReason
  rcases processStringMode_mode s cp s.mode reason with same | ground
  · rw [same]
    exact Nat.le_trans covers (le_rank_processStringMode s cp s.mode reason)
  · simp only [ground,ne_eq,not_true_eq_false,if_false]
    exact Nat.zero_le _

theorem scanChar_covers {s : BarrierScanner} {reason : Option BarrierReason} (ch : Char)
    (covers : Covers (s,reason)) : Covers (s.scanChar reason ch) := by
  -- leaving ground or a sequence is marked as a control at least, an OSC as itself
  have control : 1 ≤ rank (mark reason .control) := priority_le_rank_mark reason .control
  have kept : ∀ r, Covers (s,mark reason r) := fun r => Nat.le_trans covers (le_rank_mark reason r)
  have twice : ∀ r, Covers (s,mark (mark reason .control) r) := fun r => Nat.le_trans (kept .control) (le_rank_mark _ r)
  have osc : ∀ reason, Covers (s.enterStringMode .osc,mark reason .osc52) := fun reason => priority_le_rank_mark reason .osc52
  have ended : ∀ reason, Covers (s.enterGround,reason) := fun _ => Nat.zero_le _
  unfold scanChar
  cases mode : s.mode with
  | ground =>
    unfold scanGround
    repeat' refine covers_ite ?_ ?_
    all_goals first | exact kept _ | exact control | exact osc _ | exact covers
  | esc =>
    unfold scanEsc
    repeat' refine covers_ite ?_ ?_
    all_goals first | exact control | exact osc _ | exact kept _ | exact ended _
  | csi =>
    unfold scanCsi
    repeat' refine covers_ite ?_ ?_
    all_goals first | exact twice _ | exact control | exact ended _ | exact kept .control
  | osc | dcs | apc =>
    have string := scanString_covers ch.toNat covers
    rw [mode] at string
    exact string

variable (chars : List Char)

theorem scanChars_covers {s : BarrierScanner} {reason : Option BarrierReason} (covers : Covers (s,reason)) :
    Covers (s.scanChars reason chars) := by
  induction chars generalizing s reason with
  | nil => exact covers
  | cons ch chars ih => exact ih (scanChar_covers ch covers)

/-- Scanning a text in two parts: the scanner ends in the same state, and the reported
    reasons are together the one of the whole. -/
theorem scan_append (first second : String) : ((s.scan first).1.scan second).1 = (s.scan (first ++ second)).1 ∧
      (s.scan (first ++ second)).2.reason =
        higher (s.scan first).2.reason ((s.scan first).1.scan second).2.reason := by
  simp only [scan,String.toList_append,scanChars_append]
  generalize start : s.scanChars s.initialReason first.toList = middle
  have covers : Covers middle := by
    rw [← start]
    exact scanChars_covers first.toList (Nat.le_refl _)
  have absorbed : higher middle.2 middle.1.initialReason = middle.2 := if_pos covers
  have whole := scanChars_higher middle.1 middle.2 none second.toList
  have part := scanChars_higher middle.1 middle.1.initialReason none second.toList
  rw [higher_none] at whole part
  simp only [whole,part,Prod.map_fst,Prod.map_snd,id_eq]
  exact ⟨trivial,by rw [← higher_assoc,absorbed]⟩

/-- What a frame of text alone does not hold: the replacement character, and the control
    characters with the delete and those of C1, but for tabs and line ends. -/
def Disturbs (c : Char) : Prop :=
  c.toNat = REPLACEMENT_CHARACTER ∨ (c.toNat < 0x20 ∧ c.toNat ≠ 0x09 ∧ c.toNat ≠ 0x0a ∧ c.toNat ≠ 0x0d) ∨
    c.toNat = 0x7f ∨ (0x80 ≤ c.toNat ∧ c.toNat ≤ 0x9f)

theorem disturbs_iff (c : Char) :
    Disturbs c ↔ c.toNat = REPLACEMENT_CHARACTER ∨ isGroundControlBarrier c.toNat = true := by
  unfold Disturbs isGroundControlBarrier isTransparentGroundControl
  simp only [Bool.or_eq_true,beq_iff_eq]
  split_ifs <;> simp <;> omega

theorem scanGround_quiet {c : Char} (quiet : ¬Disturbs c) (s : BarrierScanner) (reason : Option BarrierReason) :
    s.scanGround c.toNat reason = (s,reason) := by
  rw [disturbs_iff,not_or] at quiet
  have other : ∀ cp, isGroundControlBarrier cp = true → c.toNat ≠ cp := by
    rintro cp barrier rfl
    exact quiet.2 barrier
  have neither : ¬(c.toNat = SOS ∨ c.toNat = PM) := by
    rintro (sos | pm)
    · exact other SOS (by decide) sos
    · exact other PM (by decide) pm
  simp only [scanGround,if_neg quiet.1,if_neg (other BEL (by decide)),if_neg (other ESC (by decide)),
    if_neg (other CSI (by decide)),if_neg (other OSC (by decide)),if_neg (other DCS (by decide)),if_neg neither,
    if_neg (other APC (by decide)),if_neg quiet.2]

theorem scanGround_marked {c : Char} (disturbs : Disturbs c) (s : BarrierScanner) (reason : Option BarrierReason) :
    0 < rank (s.scanGround c.toNat reason).2 := by
  have marked : ∀ r, 0 < rank (mark reason r) := by
    intro r
    have := priority_le_rank_mark reason r
    cases r <;> simp only [BarrierReason.priority] at this <;> omega
  rcases (disturbs_iff c).mp disturbs with artefact | control
  · rw [scanGround,if_pos artefact]
    exact marked _
  · unfold scanGround
    split_ifs <;> exact marked _

theorem rank_pos_scanChars {s : BarrierScanner} {reason : Option BarrierReason} (given : 0 < rank reason) :
    0 < rank (s.scanChars reason chars).2 := by
  have split := scanChars_higher s reason none chars
  rw [higher_none] at split
  rw [split,Prod.map_snd,rank_higher]
  exact Nat.lt_of_lt_of_le given (Nat.le_max_left _ _)

theorem scanChars_ground {s : BarrierScanner} (ground : s.mode = .ground) (chars : List Char) :
    ((∀ c ∈ chars, ¬Disturbs c) → s.scanChars none chars = (s,none)) ∧
      ((∃ c ∈ chars, Disturbs c) → 0 < rank (s.scanChars none chars).2) := by
  induction chars with
  | nil => simp [scanChars]
  | cons c chars ih =>
    have first : s.scanChar none c = s.scanGround c.toNat none := by rw [scanChar,ground]
    have next : s.scanChars none (c :: chars) = (s.scanChar none c).1.scanChars (s.scanChar none c).2 chars := rfl
    rw [next,first]
    constructor
    · intro quiet
      rw [scanGround_quiet (quiet c (by simp))]
      exact ih.1 fun other listed => quiet other (List.mem_cons_of_mem _ listed)
    · rintro ⟨d,listed,disturbs⟩
      by_cases here : Disturbs c
      · exact rank_pos_scanChars chars (scanGround_marked here s none)
      · rw [scanGround_quiet here]
        rcases List.mem_cons.mp listed with rfl | later
        · exact absurd disturbs here
        · exact ih.2 ⟨d,later,disturbs⟩

theorem rank_eq_zero {reason : Option BarrierReason} : rank reason = 0 ↔ reason = none := by
  cases reason with
  | none => simp [rank]
  | some r => cases r <;> simp [rank,BarrierReason.priority]

/-- A frame is no barrier, from ground to ground, exactly when the scanner stood in
    ground and the frame is text alone. -/
theorem plain_iff (data : String) :
    ((s.scan data).2.barrier = false ∧ (s.scan data).2.stateBefore.mode = .ground ∧ (s.scan data).2.ground = true) ↔
      s.mode = .ground ∧ ∀ c ∈ data.toList, ¬Disturbs c := by
  have reported : (s.scan data).2.barrier = false ↔ rank (s.scanChars s.initialReason data.toList).2 = 0 := by
    rw [rank_eq_zero]
    simp [scan]
  rw [reported]
  constructor
  · rintro ⟨none,ground,_⟩
    have initial : s.initialReason = .none := if_neg (not_not.mpr ground)
    rw [initial] at none
    refine ⟨ground,?_⟩
    intro c listed disturbs
    have := (scanChars_ground ground data.toList).2 ⟨c,listed,disturbs⟩
    omega
  · rintro ⟨ground,quiet⟩
    have initial : s.initialReason = none := if_neg (not_not.mpr ground)
    have scanned := (scanChars_ground ground data.toList).1 quiet
    refine ⟨?_,ground,?_⟩
    · rw [initial,scanned]
      rfl
    · simp [scan,initial,scanned,ground]

/-- Scanning in parts is scanning at once, and what is reported as text is exactly that. -/
theorem scanning_law (s : BarrierScanner) :
    (∀ first second : String, ((s.scan first).1.scan second).1 = (s.scan (first ++ second)).1 ∧
      (s.scan (first ++ second)).2.reason =
        higher (s.scan first).2.reason ((s.scan first).1.scan second).2.reason) ∧
    ∀ data, ((s.scan data).2.barrier = false ∧ (s.scan data).2.stateBefore.mode = .ground ∧
        (s.scan data).2.ground = true) ↔ s.mode = .ground ∧ ∀ c ∈ data.toList, ¬Disturbs c :=
  ⟨scan_append s,plain_iff s⟩

theorem delete_barrier : (new.scan "\x7f").2.barrier = true ∧
    ∀ c ∈ "\x7f".toList, ¬(c.toNat = ESC ∨ (0x80 ≤ c.toNat ∧ c.toNat ≤ 0x9f) ∨ c.toNat = REPLACEMENT_CHARACTER ∨
      (c.toNat < 0x20 ∧ c.toNat ≠ 0x09 ∧ c.toNat ≠ 0x0a ∧ c.toNat ≠ 0x0d)) := by
  constructor
  · decide
  · intro c listed
    have single : "\x7f".toList = [Char.ofNat 0x7f] := rfl
    rw [single,List.mem_singleton] at listed
    subst listed
    decide
end BarrierScanner
end Freshell.Terminal
