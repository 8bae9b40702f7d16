import Freshell.Library.Decimals
import Freshell.Library.IndexMaps
import Mathlib.Data.List.Sort

/-!
The tracker of the modes that a terminal's output arms. It follows control sequences
across chunks and keeps what an emulator would keep of them; the prelude it
synthesizes arms a fresh emulator the same way.
-/
namespace Freshell.Terminal
open Freshell.Library.IndexMaps

namespace Modes

def ESC : Char := '\x1b'
def CSI_C1 : Char := '\u009b'
def REPLACEMENT_CHARACTER : Char := '\uFFFD'
def PENDING_CARRY_LIMIT : Nat := 64
def FLAT_MAP_CAPACITY : Nat := 128
def MOUSE_PROTOCOL_FAMILY : List Nat := [9,1000,1002,1003]
def SGR_ENCODING_FAMILY : List Nat := [1006,1016]
def ALT_BUFFER_FAMILY : List Nat := [47,1047,1049]
def DECSTR_MODES : List Nat := [1,6,45,66,1004,2004,2026,25]
def CURSOR_VISIBILITY : Nat := 25
def SYNCHRONIZED_OUTPUT : Nat := 2026
def SEND_FOCUS : Nat := 1004
def WRAPAROUND : Nat := 7

inductive ScanState where
  | ground | esc | csi
deriving DecidableEq, Repr

def isCsiFinal (ch : Char) : Bool := 0x40 ≤ ch.toNat && ch.toNat ≤ 0x7e
def isParamList (params : List Char) : Bool := params.all fun c => c.isDigit || c = ';'

/-- `parse::<u32>` of digits. -/
def parseU32 (raw : List Char) : Option Nat :=
  if raw ≠ [] ∧ raw.all Char.isDigit ∧ Nat.ofDigitChars 10 raw 0 < 2 ^ 32 then some (Nat.ofDigitChars 10 raw 0) else none

def thenSome (set : Bool) (pm : Nat) : Option Nat := if set then some pm else none

def stripPrefix (mark : Char) : List Char → Option (List Char)
  | c :: rest => if c = mark then some rest else none
  | [] => none

end Modes
open Modes

structure ModeTracker where
  state : ScanState
  csiPayload : List Char
  mouseProtocol : Option Nat
  sgrEncoding : Option Nat
  altBuffer : Option Nat
  flat : IndexMap Nat Bool
  xtModifyKeys : IndexMap Nat Nat

namespace ModeTracker

def new : ModeTracker where
  state := .ground
  csiPayload := []
  mouseProtocol := none
  sgrEncoding := none
  altBuffer := none
  flat := .empty
  xtModifyKeys := .empty

def enterGround (t : ModeTracker) : ModeTracker := { t with state := .ground, csiPayload := [] }
def enterCsi (t : ModeTracker) : ModeTracker := { t with state := .csi, csiPayload := [] }
def enterEscFromCsi (t : ModeTracker) : ModeTracker := { t with state := .esc, csiPayload := [] }

/-- A mode outside the families; the oldest one makes room for one too many. -/
def applyFlat (t : ModeTracker) (pm : Nat) (set : Bool) : ModeTracker :=
  let room := if pm ∉ t.flat.keys ∧ FLAT_MAP_CAPACITY ≤ t.flat.size then t.flat.shiftRemoveFirst else t.flat
  { t with flat := room.insert pm set }

def applyDecPrivate (t : ModeTracker) (pm : Nat) (set : Bool) : ModeTracker :=
  if pm ∈ MOUSE_PROTOCOL_FAMILY then { t with mouseProtocol := thenSome set pm }
  else if pm ∈ SGR_ENCODING_FAMILY then { t with sgrEncoding := thenSome set pm }
  else if pm ∈ ALT_BUFFER_FAMILY then { t with altBuffer := thenSome set pm }
  else t.applyFlat pm set

def applyRis (t : ModeTracker) : ModeTracker :=
  { t with
    mouseProtocol := none
    sgrEncoding := none
    altBuffer := none
    xtModifyKeys := .empty
    flat := t.flat.retain fun pm => pm = CURSOR_VISIBILITY }

def applyDecstr (t : ModeTracker) : ModeTracker :=
  { t with flat := DECSTR_MODES.foldl (fun flat pm => flat.shiftRemove pm) t.flat }

/-- The elements of a parameter list; empty ones and those too large are skipped. -/
def applyParams (t : ModeTracker) (set : Bool) (params : List (List Char)) : ModeTracker :=
  params.foldl (fun t raw =>
    match parseU32 raw with
    | some pm => t.applyDecPrivate pm set
    | none => t) t

def applyModifyKeys (t : ModeTracker) (pm pv : Nat) : ModeTracker :=
  let room := if 128 ≤ t.xtModifyKeys.size ∧ pm ∉ t.xtModifyKeys.keys then t.xtModifyKeys.shiftRemoveFirst
    else t.xtModifyKeys
  { t with xtModifyKeys := room.insert pm pv }

def applyCsi (t : ModeTracker) (payload : List Char) (finalChar : Char) : ModeTracker :=
  if finalChar = 'h' ∨ finalChar = 'l' then
    match stripPrefix '?' payload with
    | none => t
    | some params => if isParamList params then t.applyParams (finalChar = 'h') (params.splitOn ';') else t
  else if finalChar = 'm' then
    match stripPrefix '>' payload with
    | none => t
    | some params =>
      if isParamList params then
        match params.splitOn ';' with
        | [] => t
        | first :: rest =>
          match parseU32 first with
          | none => t
          | some pm => t.applyModifyKeys pm ((rest.head?.bind parseU32).getD 0)
      else t
  else if finalChar = 'p' ∧ payload = ['!'] then t.applyDecstr
  else t

def step (t : ModeTracker) (ch : Char) : ModeTracker :=
  match t.state with
  | .ground =>
    if ch = ESC then { t with state := .esc }
    else if ch = CSI_C1 then t.enterCsi
    else t
  | .esc =>
    if ch = '[' then t.enterCsi
    else if ch = 'c' then t.applyRis.enterGround
    else if ch = ESC then t
    else if ch = CSI_C1 then t.enterCsi
    else t.enterGround
  | .csi =>
    if isCsiFinal ch then ( { t with csiPayload := [] }.applyCsi t.csiPayload ch).enterGround
    else if ch = ESC then t.enterEscFromCsi
    else if ch = CSI_C1 then t.enterCsi
    else if ch = REPLACEMENT_CHARACTER then t.enterGround
    else
      let payload := t.csiPayload ++ [ch]
      if PENDING_CARRY_LIMIT < payload.length then { t with csiPayload := payload }.enterGround
      else { t with csiPayload := payload }

def scan (t : ModeTracker) (data : String) : ModeTracker := data.toList.foldl step t

def flatOn (t : ModeTracker) : List Nat :=
  (t.flat.entries.filter fun (pm,on) => on && pm ≠ SYNCHRONIZED_OUTPUT && pm ≠ SEND_FOCUS).map Prod.fst

def enables (t : ModeTracker) : List Nat :=
  t.mouseProtocol.toList ++ t.sgrEncoding.toList ++ t.altBuffer.toList ++ t.flatOn

def wrapDisabled (t : ModeTracker) : Bool := t.flat.get WRAPAROUND = some false
def cursorHidden (t : ModeTracker) : Bool := t.flat.get CURSOR_VISIBILITY = some false

def enableText (pm : Nat) : List Char := [ESC,'[','?'] ++ Nat.toDigits 10 pm ++ ['h']

def disableText (pm : Nat) : List Char := [ESC,'[','?'] ++ Nat.toDigits 10 pm ++ ['l']

def synthesize (t : ModeTracker) : String :=
  String.ofList ((t.enables.insertionSort (· ≤ ·)).flatMap enableText ++
    (if t.wrapDisabled then disableText WRAPAROUND else []) ++
    if t.cursorHidden then disableText CURSOR_VISIBILITY else [])

/-! ## The invariant -/

/-- What the tracker holds is in its place: a family's leader is of the family, the
    flat map holds no member of one, and both maps keep their caps. -/
structure Tidy (t : ModeTracker) : Prop where
  mouse : ∀ pm ∈ t.mouseProtocol, pm ∈ MOUSE_PROTOCOL_FAMILY
  sgr : ∀ pm ∈ t.sgrEncoding, pm ∈ SGR_ENCODING_FAMILY
  alt : ∀ pm ∈ t.altBuffer, pm ∈ ALT_BUFFER_FAMILY
  flat : ∀ pm ∈ t.flat.keys, pm ∉ MOUSE_PROTOCOL_FAMILY ∧ pm ∉ SGR_ENCODING_FAMILY ∧ pm ∉ ALT_BUFFER_FAMILY ∧ pm < 2 ^ 32
  flatSize : t.flat.size ≤ FLAT_MAP_CAPACITY
  keysSize : t.xtModifyKeys.size ≤ 128

variable {t : ModeTracker}

theorem Tidy.new : Tidy new := by
  constructor <;> simp [ModeTracker.new,IndexMap.empty,IndexMap.keys,IndexMap.size]

theorem Tidy.fewer (tidy : t.Tidy) {flat : IndexMap Nat Bool} (keys : flat.keys ⊆ t.flat.keys)
    (size : flat.size ≤ t.flat.size) : Tidy { t with flat := flat } :=
  ⟨tidy.mouse,tidy.sgr,tidy.alt,fun pm listed => tidy.flat pm (keys listed),Nat.le_trans size tidy.flatSize,tidy.keysSize⟩

variable {pm : Nat}

theorem Tidy.applyFlat (tidy : t.Tidy) (set : Bool) (other : pm ∉ MOUSE_PROTOCOL_FAMILY ∧
    pm ∉ SGR_ENCODING_FAMILY ∧ pm ∉ ALT_BUFFER_FAMILY ∧ pm < 2 ^ 32) : Tidy (t.applyFlat pm set) := by
  unfold ModeTracker.applyFlat
  refine ⟨tidy.mouse,tidy.sgr,tidy.alt,?_,?_,tidy.keysSize⟩
  · intro key listed
    rcases IndexMap.mem_keys_insert listed with rfl | old
    · exact other
    · refine tidy.flat key ?_
      split_ifs at old
      · exact IndexMap.keys_shiftRemoveFirst old
      · exact old
  · have size := tidy.flatSize
    by_cases full : pm ∉ t.flat.keys ∧ FLAT_MAP_CAPACITY ≤ t.flat.size
    · rw [if_pos full]
      refine Nat.le_trans (IndexMap.size_insert_le _ _ _) ?_
      simp only [IndexMap.size,IndexMap.shiftRemoveFirst,List.length_tail,FLAT_MAP_CAPACITY] at size full ⊢
      omega
    · rw [if_neg full]
      by_cases present : pm ∈ t.flat.keys
      · rw [IndexMap.size_insert_old present]
        exact size
      · have room : t.flat.size < FLAT_MAP_CAPACITY := Nat.lt_of_not_le fun more => full ⟨present,more⟩
        exact Nat.le_trans (IndexMap.size_insert_le _ _ _) room

theorem Tidy.applyDecPrivate (tidy : t.Tidy) (small : pm < 2 ^ 32) (set : Bool) : Tidy (t.applyDecPrivate pm set) := by
  have leader : ∀ {family : List Nat}, pm ∈ family → ∀ other ∈ thenSome set pm, other ∈ family := by
    intro family member other chosen
    cases set with
    | true =>
      cases chosen
      exact member
    | false => cases chosen
  unfold ModeTracker.applyDecPrivate
  split_ifs with mouse sgr alt
  · exact ⟨leader mouse,tidy.sgr,tidy.alt,tidy.flat,tidy.flatSize,tidy.keysSize⟩
  · exact ⟨tidy.mouse,leader sgr,tidy.alt,tidy.flat,tidy.flatSize,tidy.keysSize⟩
  · exact ⟨tidy.mouse,tidy.sgr,leader alt,tidy.flat,tidy.flatSize,tidy.keysSize⟩
  · exact tidy.applyFlat set ⟨mouse,sgr,alt,small⟩

theorem parseU32_small {raw : List Char} (parsed : parseU32 raw = some pm) : pm < 2 ^ 32 := by
  unfold parseU32 at parsed
  split_ifs at parsed with digits
  cases parsed
  exact digits.2.2

theorem Tidy.applyParams (tidy : t.Tidy) (set : Bool) (params : List (List Char)) : Tidy (t.applyParams set params) := by
  unfold ModeTracker.applyParams
  induction params generalizing t with
  | nil => exact tidy
  | cons raw params ih =>
    rw [List.foldl_cons]
    cases parsed : parseU32 raw with
    | none => exact ih tidy
    | some pm => exact ih (tidy.applyDecPrivate (parseU32_small parsed) set)

theorem Tidy.applyModifyKeys (tidy : t.Tidy) (pm pv : Nat) : Tidy (t.applyModifyKeys pm pv) := by
  refine ⟨tidy.mouse,tidy.sgr,tidy.alt,tidy.flat,tidy.flatSize,?_⟩
  have size := tidy.keysSize
  unfold ModeTracker.applyModifyKeys
  by_cases full : 128 ≤ t.xtModifyKeys.size ∧ pm ∉ t.xtModifyKeys.keys
  · simp only [if_pos full]
    refine Nat.le_trans (IndexMap.size_insert_le _ _ _) ?_
    simp only [IndexMap.size,IndexMap.shiftRemoveFirst,List.length_tail] at size full ⊢
    omega
  · simp only [if_neg full]
    by_cases present : pm ∈ t.xtModifyKeys.keys
    · rw [IndexMap.size_insert_old present]
      exact size
    · have room : t.xtModifyKeys.size < 128 := Nat.lt_of_not_le fun more => full ⟨more,present⟩
      exact Nat.le_trans (IndexMap.size_insert_le _ _ _) room

theorem Tidy.applyRis (tidy : t.Tidy) : Tidy t.applyRis := by
  have fewer : (t.flat.retain fun pm => pm = CURSOR_VISIBILITY).keys ⊆ t.flat.keys := IndexMap.keys_retain
  have kept := tidy.fewer fewer (IndexMap.size_retain_le _ _)
  exact ⟨by simp [ModeTracker.applyRis],by simp [ModeTracker.applyRis],by simp [ModeTracker.applyRis],kept.flat,kept.flatSize,
    by simp [ModeTracker.applyRis,IndexMap.empty,IndexMap.size]⟩

theorem Tidy.applyDecstr (tidy : t.Tidy) : Tidy t.applyDecstr := by
  have fewer : ∀ (modes : List Nat) (flat : IndexMap Nat Bool),
      (modes.foldl (fun flat pm => flat.shiftRemove pm) flat).keys ⊆ flat.keys ∧
        (modes.foldl (fun flat pm => flat.shiftRemove pm) flat).size ≤ flat.size := by
    intro modes
    induction modes with
    | nil => exact fun flat => ⟨List.Subset.refl _,Nat.le_refl _⟩
    | cons pm modes ih =>
      intro flat
      obtain ⟨keys,size⟩ := ih (flat.shiftRemove pm)
      exact ⟨List.Subset.trans keys IndexMap.keys_retain,Nat.le_trans size (IndexMap.size_retain_le _ _)⟩
  exact tidy.fewer (fewer _ _).1 (fewer _ _).2

theorem Tidy.applyCsi (tidy : t.Tidy) (payload : List Char) (finalChar : Char) : Tidy (t.applyCsi payload finalChar) := by
  unfold ModeTracker.applyCsi
  split_ifs
  · split
    · exact tidy
    · split_ifs
      · exact tidy.applyParams _ _
      · exact tidy
  · split
    · exact tidy
    · split_ifs
      · split
        · exact tidy
        · split
          · exact tidy
          · exact tidy.applyModifyKeys _ _
      · exact tidy
  · exact tidy.applyDecstr
  · exact tidy

theorem Tidy.moved (tidy : t.Tidy) (state : ScanState) (payload : List Char) :
    Tidy { t with state := state, csiPayload := payload } :=
  ⟨tidy.mouse,tidy.sgr,tidy.alt,tidy.flat,tidy.flatSize,tidy.keysSize⟩

theorem Tidy.step (tidy : t.Tidy) (ch : Char) : Tidy (t.step ch) := by
  unfold ModeTracker.step
  cases t.state with
  | ground =>
    simp only
    split_ifs
    · exact tidy.moved .esc _
    · exact tidy.moved .csi []
    · exact tidy
  | esc =>
    simp only
    split_ifs
    · exact tidy.moved .csi []
    · exact tidy.applyRis.moved .ground []
    · exact tidy
    · exact tidy.moved .csi []
    · exact tidy.moved .ground []
  | csi =>
    simp only
    split_ifs
    · exact ((tidy.moved _ []).applyCsi _ _).moved .ground []
    · exact tidy.moved .esc []
    · exact tidy.moved .csi []
    · exact tidy.moved .ground []
    · exact tidy.moved .ground []
    · exact tidy.moved _ _

theorem Tidy.scan (tidy : t.Tidy) (data : String) : Tidy (t.scan data) := by
  unfold ModeTracker.scan
  generalize data.toList = chars
  induction chars generalizing t with
  | nil => exact tidy
  | cons ch chars ih => exact ih (tidy.step ch)

theorem scan_append (t : ModeTracker) (first second : String) : t.scan (first ++ second) = (t.scan first).scan second := by
  simp [scan,List.foldl_append]

theorem scan_join (t : ModeTracker) (chunks : List String) : chunks.foldl scan t = t.scan (String.join chunks) := by
  induction chunks generalizing t with
  | nil => simp [scan,String.join]
  | cons chunk chunks ih => rw [List.foldl_cons,ih,String.join_cons,scan_append]

/-! ## Reading the prelude -/

def Ground (t : ModeTracker) : Prop := t.state = .ground ∧ t.csiPayload = []

theorem Ground.enterGround (ground : t.Ground) : t.enterGround = t := by
  obtain ⟨state,payload⟩ := ground
  cases t
  simp only at state payload
  subst state payload
  rfl

theorem Ground.applyDecPrivate (ground : t.Ground) (pm : Nat) (set : Bool) : (t.applyDecPrivate pm set).Ground := by
  unfold ModeTracker.applyDecPrivate
  split_ifs <;> exact ground

theorem toNat_of_isDigit {c : Char} (digit : c.isDigit = true) : 0x30 ≤ c.toNat ∧ c.toNat ≤ 0x39 := by
  simp only [Char.isDigit,Bool.and_eq_true,decide_eq_true_eq,ge_iff_le,UInt32.le_iff_toNat_le] at digit
  exact digit

theorem foldl_digits {digits : List Char} (all : ∀ c ∈ digits, c.isDigit = true) {t : ModeTracker} (state : t.state = .csi)
    (room : t.csiPayload.length + digits.length ≤ PENDING_CARRY_LIMIT) :
    digits.foldl step t = { t with csiPayload := t.csiPayload ++ digits } := by
  induction digits generalizing t with
  | nil => simp
  | cons c digits ih =>
    have bounds := toNat_of_isDigit (all c (by simp))
    have other : ∀ {d : Char}, ¬(0x30 ≤ d.toNat ∧ d.toNat ≤ 0x39) → c ≠ d := by
      rintro d outside rfl
      exact outside bounds
    have open_ : isCsiFinal c = false := by
      simp [isCsiFinal]
      omega
    have pushed : t.step c = { t with csiPayload := t.csiPayload ++ [c] } := by
      rw [List.length_cons] at room
      unfold step
      rw [state]
      simp only [open_,Bool.false_eq_true,if_false]
      rw [if_neg (other (by decide)),if_neg (other (by decide)),if_neg (other (by decide)),if_neg (by simp; omega),← state]
    have shorter : (t.csiPayload ++ [c]).length + digits.length ≤ PENDING_CARRY_LIMIT := by
      simp only [List.length_cons,List.length_append,List.length_nil] at room ⊢
      omega
    rw [List.foldl_cons,pushed,ih (t := { t with csiPayload := t.csiPayload ++ [c] })
      (fun d listed => all d (List.mem_cons_of_mem _ listed)) state shorter]
    simp

theorem isDigit_toDigits {c : Char} (listed : c ∈ Nat.toDigits 10 pm) : c.isDigit = true :=
  Nat.isDigit_of_mem_toDigits (by decide) (by decide) listed

theorem parseU32_toDigits (small : pm < 2 ^ 32) : parseU32 (Nat.toDigits 10 pm) = some pm := by
  have digits : (Nat.toDigits 10 pm).all Char.isDigit = true := List.all_eq_true.mpr fun c listed => isDigit_toDigits listed
  unfold parseU32
  rw [Nat.ofDigitChars_ten_toDigits,if_pos ⟨Nat.toDigits_ne_nil,digits,small⟩]

theorem applyCsi_mode (small : pm < 2 ^ 32) (t : ModeTracker) (set : Bool) :
    t.applyCsi ('?' :: Nat.toDigits 10 pm) (if set then 'h' else 'l') = t.applyDecPrivate pm set := by
  have list : isParamList (Nat.toDigits 10 pm) = true :=
    List.all_eq_true.mpr fun c listed => by rw [isDigit_toDigits listed,Bool.true_or]
  have single : (Nat.toDigits 10 pm).splitOn ';' = [Nat.toDigits 10 pm] := by
    rw [List.splitOn_eq_splitOnP]
    apply List.splitOnP_eq_singleton
    intro c listed
    have digit := isDigit_toDigits listed
    by_contra semicolon
    rw [beq_iff_eq.mp (Bool.eq_true_of_not_eq_false semicolon)] at digit
    exact absurd digit (by decide)
  unfold applyCsi
  cases set
  all_goals simp [stripPrefix,list,single,applyParams,parseU32_toDigits small]

theorem foldl_mode (ground : t.Ground) {pm : Nat} (small : pm < 2 ^ 32) (set : Bool) :
    ([ESC,'[','?'] ++ Nat.toDigits 10 pm ++ [if set then 'h' else 'l']).foldl step t = t.applyDecPrivate pm set := by
  have short : (Nat.toDigits 10 pm).length ≤ 10 := (Nat.length_toDigits_le_iff (by decide) (by decide)).mpr (by omega)
  have opened : [ESC,'[','?'].foldl step t = { t with state := .csi, csiPayload := ['?'] } := by
    obtain ⟨state,payload⟩ := ground
    simp [step,state,enterCsi,isCsiFinal,ESC,CSI_C1,REPLACEMENT_CHARACTER,PENDING_CARRY_LIMIT]
  have closing : isCsiFinal (if set then 'h' else 'l') = true := by cases set <;> decide
  rw [List.foldl_append,List.foldl_append,opened,foldl_digits (fun c listed => isDigit_toDigits listed) rfl
    (by simp only [PENDING_CARRY_LIMIT,List.length_singleton]; omega)]
  simp only [List.foldl_cons,List.foldl_nil,step,closing,if_true,List.singleton_append,applyCsi_mode small]
  have moved : ∀ state payload, ( { t with state := state, csiPayload := payload }.applyDecPrivate pm set).enterGround =
      (t.applyDecPrivate pm set).enterGround := by
    intro state payload
    unfold applyDecPrivate applyFlat
    split_ifs <;> rfl
  rw [moved,(ground.applyDecPrivate pm set).enterGround]

def arm (t : ModeTracker) (modes : List Nat) : ModeTracker := modes.foldl (fun t pm => t.applyDecPrivate pm true) t

variable {modes : List Nat}

theorem foldl_enables (ground : t.Ground) (small : ∀ pm ∈ modes, pm < 2 ^ 32) :
    (modes.flatMap enableText).foldl step t = t.arm modes ∧ (t.arm modes).Ground := by
  induction modes generalizing t with
  | nil => exact ⟨rfl,ground⟩
  | cons pm modes ih =>
    have set := foldl_mode ground (small pm (by simp)) true
    rw [List.flatMap_cons,List.foldl_append]
    change (modes.flatMap enableText).foldl step ((enableText pm).foldl step t) = _ ∧ _
    have first : (enableText pm).foldl step t = t.applyDecPrivate pm true := set
    rw [first]
    exact ih (ground.applyDecPrivate pm true) fun other listed => small other (List.mem_cons_of_mem _ listed)

/-! ## What is armed again -/

def InFlat (pm : Nat) : Bool := pm ∉ MOUSE_PROTOCOL_FAMILY ∧ pm ∉ SGR_ENCODING_FAMILY ∧ pm ∉ ALT_BUFFER_FAMILY

theorem arm_leader {family : List Nat} {leader : ModeTracker → Option Nat}
    (sets : ∀ t pm, leader (t.applyDecPrivate pm true) = if pm ∈ family then some pm else leader t) (t : ModeTracker)
    (modes : List Nat) : leader (t.arm modes) = ((modes.filter (· ∈ family)).getLast?).or (leader t) := by
  unfold arm
  induction modes generalizing t with
  | nil => simp
  | cons pm modes ih =>
    rw [List.foldl_cons,ih,sets]
    by_cases member : pm ∈ family
    · rw [if_pos member,List.filter_cons_of_pos (by simpa using member),List.getLast?_cons]
      cases (modes.filter (· ∈ family)).getLast? <;> rfl
    · rw [if_neg member,List.filter_cons_of_neg (by simpa using member)]

theorem families_apart : (pm ∈ MOUSE_PROTOCOL_FAMILY → pm ∉ SGR_ENCODING_FAMILY ∧ pm ∉ ALT_BUFFER_FAMILY) ∧
    (pm ∈ SGR_ENCODING_FAMILY → pm ∉ ALT_BUFFER_FAMILY) := by
  constructor
  · intro member
    simp only [MOUSE_PROTOCOL_FAMILY,List.mem_cons,List.not_mem_nil,or_false] at member
    rcases member with rfl | rfl | rfl | rfl <;> decide
  · intro member
    simp only [SGR_ENCODING_FAMILY,List.mem_cons,List.not_mem_nil,or_false] at member
    rcases member with rfl | rfl <;> decide

theorem arm_mouse (modes : List Nat) :
    (t.arm modes).mouseProtocol = ((modes.filter (· ∈ MOUSE_PROTOCOL_FAMILY)).getLast?).or t.mouseProtocol := by
  apply arm_leader
  intro t pm
  unfold applyDecPrivate
  split_ifs <;> rfl

theorem arm_sgr (modes : List Nat) :
    (t.arm modes).sgrEncoding = ((modes.filter (· ∈ SGR_ENCODING_FAMILY)).getLast?).or t.sgrEncoding := by
  apply arm_leader
  intro t pm
  unfold applyDecPrivate
  split_ifs with mouse sgr
  · exact absurd sgr (families_apart.1 mouse).1
  all_goals rfl

theorem arm_alt (modes : List Nat) :
    (t.arm modes).altBuffer = ((modes.filter (· ∈ ALT_BUFFER_FAMILY)).getLast?).or t.altBuffer := by
  apply arm_leader
  intro t pm
  unfold applyDecPrivate
  split_ifs with mouse alt sgr alt'
  · exact absurd alt (families_apart.1 mouse).2
  · rfl
  · exact absurd alt' (families_apart.2 sgr)
  all_goals rfl

theorem applyDecPrivate_new (inFlat : InFlat pm = true) (fresh : pm ∉ t.flat.keys)
    (room : t.flat.size < FLAT_MAP_CAPACITY) (set : Bool) :
    (t.applyDecPrivate pm set).flat.entries = t.flat.entries ++ [(pm,set)] ∧
      (t.applyDecPrivate pm set).mouseProtocol = t.mouseProtocol ∧
      (t.applyDecPrivate pm set).sgrEncoding = t.sgrEncoding ∧ (t.applyDecPrivate pm set).altBuffer = t.altBuffer := by
  obtain ⟨mouse,sgr,alt⟩ := of_decide_eq_true inFlat
  have kept : ¬(pm ∉ t.flat.keys ∧ FLAT_MAP_CAPACITY ≤ t.flat.size) := fun full => by omega
  simp only [applyDecPrivate,if_neg mouse,if_neg sgr,if_neg alt,applyFlat,if_neg kept]
  exact ⟨IndexMap.entries_insert_new fresh set,trivial,trivial,trivial⟩

theorem applyDecPrivate_family (member : InFlat pm = false) (set : Bool) :
    (t.applyDecPrivate pm set).flat = t.flat := by
  unfold applyDecPrivate
  split_ifs with mouse sgr alt
  · rfl
  · rfl
  · rfl
  · exact absurd ⟨mouse,sgr,alt⟩ (of_decide_eq_false member)

theorem arm_flat (nodup : (modes.filter InFlat).Nodup) (fresh : ∀ pm ∈ modes, InFlat pm = true → pm ∉ t.flat.keys)
    (room : t.flat.size + (modes.filter InFlat).length ≤ FLAT_MAP_CAPACITY) :
    (t.arm modes).flat.entries = t.flat.entries ++ (modes.filter InFlat).map (·,true) := by
  unfold arm
  induction modes generalizing t with
  | nil => simp
  | cons pm modes ih =>
    rw [List.foldl_cons]
    cases inFlat : InFlat pm with
    | true =>
      rw [List.filter_cons_of_pos inFlat] at nodup room ⊢
      rw [List.length_cons] at room
      have entries := (applyDecPrivate_new inFlat (fresh pm (by simp) inFlat) (by omega) true).1
      have size : (t.applyDecPrivate pm true).flat.size = t.flat.size + 1 := by simp [IndexMap.size,entries]
      rw [ih (List.nodup_cons.mp nodup).2 ?_ (by omega),entries]
      · simp
      · intro other listed otherFlat old
        simp only [IndexMap.keys,entries,List.map_append,List.map_singleton,List.mem_append,List.mem_singleton] at old
        rcases old with old | rfl
        · exact fresh other (List.mem_cons_of_mem _ listed) otherFlat old
        · exact (List.nodup_cons.mp nodup).1 (List.mem_filter.mpr ⟨listed,inFlat⟩)
    | false =>
      rw [List.filter_cons_of_neg (by simp [inFlat])] at nodup room ⊢
      have flat := applyDecPrivate_family (t := t) inFlat true
      rw [ih nodup ?_ (by rw [flat]; exact room),flat]
      rw [flat]
      exact fun other listed => fresh other (List.mem_cons_of_mem _ listed)

/-! ## The families of the enabled modes -/

theorem mem_flatOn : pm ∈ t.flatOn ↔ (pm,true) ∈ t.flat.entries ∧ pm ≠ SYNCHRONIZED_OUTPUT ∧ pm ≠ SEND_FOCUS := by
  unfold flatOn
  simp only [List.mem_map,List.mem_filter,Prod.exists,exists_and_right,exists_eq_right]
  constructor
  · rintro ⟨on,listed,sent⟩
    simp only [Bool.and_eq_true,decide_eq_true_eq,ne_eq] at sent
    rw [sent.1.1] at listed
    exact ⟨listed,sent.1.2,sent.2⟩
  · rintro ⟨listed,sync,focus⟩
    exact ⟨true,listed,by simp [sync,focus]⟩

theorem flatOn_keys (listed : pm ∈ t.flatOn) : pm ∈ t.flat.keys :=
  List.mem_map.mpr ⟨_,(mem_flatOn.mp listed).1,rfl⟩

theorem flatOn_nodup : t.flatOn.Nodup := t.flat.nodup.sublist (List.filter_sublist.map Prod.fst)

theorem filter_part {test : Nat → Bool} {first second third fourth : List Nat} (one : ∀ pm ∈ first, test pm = false)
    (two : ∀ pm ∈ second, test pm = false) (three : ∀ pm ∈ third, test pm = false) (all : ∀ pm ∈ fourth, test pm = true) :
    (first ++ second ++ third ++ fourth).filter test = fourth ∧ (first ++ second ++ fourth ++ third).filter test = fourth ∧
      (first ++ fourth ++ second ++ third).filter test = fourth ∧
      (fourth ++ first ++ second ++ third).filter test = fourth := by
  have none : ∀ {part : List Nat}, (∀ pm ∈ part, test pm = false) → part.filter test = [] :=
    fun outside => List.filter_eq_nil_iff.mpr fun pm listed => by simp [outside pm listed]
  have whole : fourth.filter test = fourth := List.filter_eq_self.mpr all
  simp only [List.filter_append,none one,none two,none three,whole,List.nil_append,List.append_nil,and_self]

theorem Tidy.enables_filter (tidy : t.Tidy) :
    t.enables.filter (· ∈ MOUSE_PROTOCOL_FAMILY) = t.mouseProtocol.toList ∧
      t.enables.filter (· ∈ SGR_ENCODING_FAMILY) = t.sgrEncoding.toList ∧
      t.enables.filter (· ∈ ALT_BUFFER_FAMILY) = t.altBuffer.toList ∧ t.enables.filter InFlat = t.flatOn := by
  have mouse : ∀ pm ∈ t.mouseProtocol.toList, pm ∈ MOUSE_PROTOCOL_FAMILY :=
    fun pm listed => tidy.mouse pm (Option.mem_toList.mp listed)
  have sgr : ∀ pm ∈ t.sgrEncoding.toList, pm ∈ SGR_ENCODING_FAMILY :=
    fun pm listed => tidy.sgr pm (Option.mem_toList.mp listed)
  have alt : ∀ pm ∈ t.altBuffer.toList, pm ∈ ALT_BUFFER_FAMILY :=
    fun pm listed => tidy.alt pm (Option.mem_toList.mp listed)
  have flat : ∀ pm ∈ t.flatOn, pm ∉ MOUSE_PROTOCOL_FAMILY ∧ pm ∉ SGR_ENCODING_FAMILY ∧ pm ∉ ALT_BUFFER_FAMILY := by
    intro pm listed
    obtain ⟨a,b,c,_⟩ := tidy.flat pm (flatOn_keys listed)
    exact ⟨a,b,c⟩
  have sgrMouse : ∀ pm ∈ SGR_ENCODING_FAMILY, pm ∉ MOUSE_PROTOCOL_FAMILY := fun pm member other =>
    (families_apart.1 other).1 member
  have altMouse : ∀ pm ∈ ALT_BUFFER_FAMILY, pm ∉ MOUSE_PROTOCOL_FAMILY := fun pm member other =>
    (families_apart.1 other).2 member
  have altSgr : ∀ pm ∈ ALT_BUFFER_FAMILY, pm ∉ SGR_ENCODING_FAMILY := fun pm member other =>
    families_apart.2 other member
  unfold enables
  refine ⟨?_,?_,?_,?_⟩
  · exact (filter_part (fun pm l => decide_eq_false (sgrMouse pm (sgr pm l)))
      (fun pm l => decide_eq_false (altMouse pm (alt pm l))) (fun pm l => decide_eq_false (flat pm l).1)
      (fun pm l => decide_eq_true (mouse pm l))).2.2.2
  · exact (filter_part (fun pm l => decide_eq_false (families_apart.1 (mouse pm l)).1)
      (fun pm l => decide_eq_false (altSgr pm (alt pm l))) (fun pm l => decide_eq_false (flat pm l).2.1)
      (fun pm l => decide_eq_true (sgr pm l))).2.2.1
  · exact (filter_part (fun pm l => decide_eq_false (families_apart.1 (mouse pm l)).2)
      (fun pm l => decide_eq_false (families_apart.2 (sgr pm l))) (fun pm l => decide_eq_false (flat pm l).2.2)
      (fun pm l => decide_eq_true (alt pm l))).2.1
  · exact (filter_part (fun pm l => decide_eq_false fun out => out.1 (mouse pm l))
      (fun pm l => decide_eq_false fun out => out.2.1 (sgr pm l)) (fun pm l => decide_eq_false fun out => out.2.2 (alt pm l))
      (fun pm l => decide_eq_true (flat pm l))).1

/-! ## The prelude read back -/

def disables (t : ModeTracker) : List Nat :=
  (if t.wrapDisabled then [WRAPAROUND] else []) ++ if t.cursorHidden then [CURSOR_VISIBILITY] else []

theorem mem_disables (listed : pm ∈ t.disables) :
    (pm,false) ∈ t.flat.entries ∧ (pm = WRAPAROUND ∨ pm = CURSOR_VISIBILITY) := by
  unfold disables at listed
  rcases List.mem_append.mp listed with wrap | hidden
  · split_ifs at wrap with disabled
    · rw [List.mem_singleton.mp wrap]
      exact ⟨IndexMap.get_eq_some_iff.mp (of_decide_eq_true disabled),.inl rfl⟩
    · cases wrap
  · split_ifs at hidden with disabled
    · rw [List.mem_singleton.mp hidden]
      exact ⟨IndexMap.get_eq_some_iff.mp (of_decide_eq_true disabled),.inr rfl⟩
    · cases hidden

theorem disables_nodup : t.disables.Nodup := by
  unfold disables
  split_ifs <;> decide

theorem disables_inFlat (listed : pm ∈ t.disables) : InFlat pm = true ∧ pm < 2 ^ 32 := by
  rcases (mem_disables listed).2 with rfl | rfl <;> decide

theorem prelude_keys_nodup : (t.flatOn ++ t.disables).Nodup := by
  rw [List.nodup_append]
  refine ⟨flatOn_nodup,disables_nodup,?_⟩
  rintro pm on other off rfl
  have armed := IndexMap.get_eq_some_iff.mpr (mem_flatOn.mp on).1
  rw [IndexMap.get_eq_some_iff.mpr (mem_disables off).1] at armed
  cases armed

theorem prelude_keys_length : t.flatOn.length + t.disables.length ≤ t.flat.size := by
  rw [← List.length_append]
  have inside : t.flatOn ++ t.disables ⊆ t.flat.keys := by
    intro pm listed
    rcases List.mem_append.mp listed with on | off
    · exact flatOn_keys on
    · exact List.mem_map.mpr ⟨_,(mem_disables off).1,rfl⟩
  have short := (List.subperm_of_subset prelude_keys_nodup inside).length_le
  rwa [IndexMap.keys,List.length_map] at short

def disarm (t : ModeTracker) (modes : List Nat) : ModeTracker := modes.foldl (fun t pm => t.applyDecPrivate pm false) t

theorem foldl_disables (ground : t.Ground) (small : ∀ pm ∈ modes, pm < 2 ^ 32) :
    (modes.flatMap disableText).foldl step t = t.disarm modes := by
  induction modes generalizing t with
  | nil => rfl
  | cons pm modes ih =>
    have first : (disableText pm).foldl step t = t.applyDecPrivate pm false := foldl_mode ground (small pm (by simp)) false
    rw [List.flatMap_cons,List.foldl_append,first]
    exact ih (ground.applyDecPrivate pm false) fun other listed => small other (List.mem_cons_of_mem _ listed)

theorem disarm_flat (nodup : modes.Nodup) (inFlat : ∀ pm ∈ modes, InFlat pm = true)
    (fresh : ∀ pm ∈ modes, pm ∉ t.flat.keys) (room : t.flat.size + modes.length ≤ FLAT_MAP_CAPACITY) :
    (t.disarm modes).flat.entries = t.flat.entries ++ modes.map (·,false) ∧
      (t.disarm modes).mouseProtocol = t.mouseProtocol ∧ (t.disarm modes).sgrEncoding = t.sgrEncoding ∧
      (t.disarm modes).altBuffer = t.altBuffer := by
  unfold disarm
  induction modes generalizing t with
  | nil => simp
  | cons pm modes ih =>
    rw [List.length_cons] at room
    obtain ⟨entries,mouse,sgr,alt⟩ := applyDecPrivate_new (inFlat pm (by simp)) (fresh pm (by simp)) (by omega) false
    have size : (t.applyDecPrivate pm false).flat.size = t.flat.size + 1 := by simp [IndexMap.size,entries]
    have later : ∀ other ∈ modes, other ∉ (t.applyDecPrivate pm false).flat.keys := by
      intro other listed old
      simp only [IndexMap.keys,entries,List.map_append,List.map_singleton,List.mem_append,List.mem_singleton] at old
      rcases old with old | rfl
      · exact fresh other (List.mem_cons_of_mem _ listed) old
      · exact (List.nodup_cons.mp nodup).1 listed
    obtain ⟨allEntries,allMouse,allSgr,allAlt⟩ := ih (List.nodup_cons.mp nodup).2
      (fun other listed => inFlat other (List.mem_cons_of_mem _ listed)) later (by omega)
    rw [List.foldl_cons,allEntries,allMouse,allSgr,allAlt,entries]
    exact ⟨by simp,mouse,sgr,alt⟩

theorem synthesize_eq : t.synthesize =
    String.ofList ((t.enables.insertionSort (· ≤ ·)).flatMap enableText ++ t.disables.flatMap disableText) := by
  unfold synthesize disables
  congr 1
  rw [List.append_assoc,List.flatMap_append]
  congr 2
  · split_ifs <;> simp
  · split_ifs <;> simp

theorem Tidy.small (tidy : t.Tidy) (listed : pm ∈ t.enables) : pm < 2 ^ 32 := by
  unfold enables at listed
  simp only [List.mem_append,Option.mem_toList] at listed
  rcases listed with ((mouse | sgr) | alt) | flat
  · have member := tidy.mouse pm mouse
    simp only [MOUSE_PROTOCOL_FAMILY,List.mem_cons,List.not_mem_nil,or_false] at member
    omega
  · have member := tidy.sgr pm sgr
    simp only [SGR_ENCODING_FAMILY,List.mem_cons,List.not_mem_nil,or_false] at member
    omega
  · have member := tidy.alt pm alt
    simp only [ALT_BUFFER_FAMILY,List.mem_cons,List.not_mem_nil,or_false] at member
    omega
  · exact (tidy.flat pm (flatOn_keys flat)).2.2.2

theorem Tidy.scan_synthesize (tidy : t.Tidy) :
    ∃ armed : List Nat, armed.Perm t.flatOn ∧
      (ModeTracker.new.scan t.synthesize).flat.entries = armed.map (·,true) ++ t.disables.map (·,false) ∧
      (ModeTracker.new.scan t.synthesize).mouseProtocol = t.mouseProtocol ∧
      (ModeTracker.new.scan t.synthesize).sgrEncoding = t.sgrEncoding ∧
      (ModeTracker.new.scan t.synthesize).altBuffer = t.altBuffer := by
  obtain ⟨mouse,sgr,alt,flat⟩ := tidy.enables_filter
  have sorted := List.perm_insertionSort (· ≤ ·) t.enables
  generalize order : t.enables.insertionSort (· ≤ ·) = modes at sorted
  have ground : ModeTracker.new.Ground := ⟨rfl,rfl⟩
  obtain ⟨read,grounded⟩ := foldl_enables ground fun pm listed => tidy.small (sorted.mem_iff.mp listed)
  have armed : (modes.filter InFlat).Perm t.flatOn := flat ▸ sorted.filter _
  have length := prelude_keys_length (t := t)
  have size := tidy.flatSize
  have entries : (ModeTracker.new.arm modes).flat.entries = (modes.filter InFlat).map (·,true) := by
    rw [arm_flat (armed.nodup_iff.mpr flatOn_nodup) (by simp [ModeTracker.new,IndexMap.keys,IndexMap.empty])]
    · rfl
    · have := armed.length_eq
      simp only [ModeTracker.new,IndexMap.size,IndexMap.empty,List.length_nil] at size length ⊢
      omega
  obtain ⟨all,keptMouse,keptSgr,keptAlt⟩ := disarm_flat (t := ModeTracker.new.arm modes) disables_nodup
    (fun pm listed => (disables_inFlat listed).1)
    (by
      intro pm off on
      rw [IndexMap.keys,entries,List.map_map] at on
      simp only [List.mem_map,Function.comp_apply,exists_eq_right] at on
      exact (List.nodup_append.mp prelude_keys_nodup).2.2 pm (armed.mem_iff.mp on) pm off rfl)
    (by
      have := armed.length_eq
      simp only [IndexMap.size,entries,List.length_map] at size length ⊢
      omega)
  have ended : ModeTracker.new.scan t.synthesize = (ModeTracker.new.arm modes).disarm t.disables := by
    rw [synthesize_eq,order,ModeTracker.scan,String.toList_ofList,List.foldl_append,read]
    exact foldl_disables grounded fun pm listed => (disables_inFlat listed).2
  -- of each family the sorted list has the leader alone
  have single : ∀ {leader : Option Nat} {members : List Nat}, members.Perm leader.toList →
      members.getLast?.or none = leader := by
    intro leader members perm
    cases leader with
    | none => rw [List.perm_nil.mp perm]; rfl
    | some pm => rw [List.perm_singleton.mp perm]; rfl
  rw [ended,keptMouse,keptSgr,keptAlt,arm_mouse,arm_sgr,arm_alt]
  exact ⟨_,armed,by rw [all,entries],single (mouse ▸ sorted.filter _),single (sgr ▸ sorted.filter _),
    single (alt ▸ sorted.filter _)⟩

theorem Tidy.synthesize_fixed (tidy : t.Tidy) : (ModeTracker.new.scan t.synthesize).synthesize = t.synthesize := by
  obtain ⟨armed,perm,entries,mouse,sgr,alt⟩ := tidy.scan_synthesize
  generalize ModeTracker.new.scan t.synthesize = read at entries mouse sgr alt
  have flat : read.flatOn = armed := by
    have none : ∀ modes : List Nat, (modes.map (·,false)).filter
        (fun (pm,on) => on && pm ≠ SYNCHRONIZED_OUTPUT && pm ≠ SEND_FOCUS) = [] := by
      intro modes
      rw [List.filter_eq_nil_iff]
      simp
    have all : (armed.map (·,true)).filter
        (fun (pm,on) => on && pm ≠ SYNCHRONIZED_OUTPUT && pm ≠ SEND_FOCUS) = armed.map (·,true) := by
      rw [List.filter_eq_self]
      simp only [List.mem_map]
      rintro entry ⟨pm,listed,rfl⟩
      obtain ⟨_,sync,focus⟩ := mem_flatOn.mp (perm.mem_iff.mp listed)
      simp [sync,focus]
    rw [flatOn,entries,List.filter_append,all,none,List.append_nil,List.map_map]
    exact List.map_id _
  have enabled : read.enables.Perm t.enables := by
    unfold enables
    rw [mouse,sgr,alt,flat]
    exact perm.append_left _
  have same : read.enables.insertionSort (· ≤ ·) = t.enables.insertionSort (· ≤ ·) :=
    (((List.perm_insertionSort _ _).trans enabled).trans (List.perm_insertionSort _ _).symm).eq_of_pairwise'
      (List.pairwise_insertionSort _ _) (List.pairwise_insertionSort _ _)
  have off : ∀ pm, read.flat.get pm = some false ↔ pm ∈ t.disables := by
    intro pm
    rw [IndexMap.get_eq_some_iff,entries]
    simp
  have listed : ∀ pm, pm = WRAPAROUND ∨ pm = CURSOR_VISIBILITY → (pm ∈ t.disables ↔ t.flat.get pm = some false) := by
    rintro pm chosen
    constructor
    · exact fun off => IndexMap.get_eq_some_iff.mpr (mem_disables off).1
    · intro found
      unfold disables wrapDisabled cursorHidden
      rcases chosen with rfl | rfl <;> simp [found]
  have wrap : read.wrapDisabled = t.wrapDisabled := by
    unfold wrapDisabled
    rw [decide_eq_decide,off,listed _ (.inl rfl)]
  have hidden : read.cursorHidden = t.cursorHidden := by
    unfold cursorHidden
    rw [decide_eq_decide,off,listed _ (.inr rfl)]
  unfold synthesize
  rw [same,wrap,hidden]

/-- However the output is cut into chunks the tracker ends the same; a fresh tracker
    that reads its prelude gives the same prelude; of each family the prelude arms one
    member at most, and the tracker's maps keep their caps. -/
theorem prelude_law (chunks : List String) :
    chunks.foldl scan ModeTracker.new = ModeTracker.new.scan (String.join chunks) ∧
      let t := chunks.foldl scan ModeTracker.new
      (ModeTracker.new.scan t.synthesize).synthesize = t.synthesize ∧
        (t.enables.filter (· ∈ MOUSE_PROTOCOL_FAMILY)).length ≤ 1 ∧ (t.enables.filter (· ∈ SGR_ENCODING_FAMILY)).length ≤ 1 ∧
        (t.enables.filter (· ∈ ALT_BUFFER_FAMILY)).length ≤ 1 ∧
        t.flat.size ≤ FLAT_MAP_CAPACITY ∧ t.xtModifyKeys.size ≤ 128 := by
  have joined : chunks.foldl scan ModeTracker.new = ModeTracker.new.scan (String.join chunks) := scan_join .new chunks
  refine ⟨joined,?_⟩
  have tidy : (chunks.foldl scan ModeTracker.new).Tidy := joined ▸ Tidy.new.scan _
  intro t
  obtain ⟨mouse,sgr,alt,_⟩ := tidy.enables_filter
  have single : ∀ leader : Option Nat, leader.toList.length ≤ 1 := by rintro (_ | _) <;> simp
  exact ⟨tidy.synthesize_fixed,mouse ▸ single _,sgr ▸ single _,alt ▸ single _,tidy.flatSize,tidy.keysSize⟩
end ModeTracker
end Freshell.Terminal
