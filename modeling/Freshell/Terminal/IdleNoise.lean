import Mathlib.Algebra.GroupWithZero.Nat
/-!
The repaint-noise fingerprinter: a frame of output is new content when the hash
and the count of its significant characters differ from those of the recent
frames.
-/
namespace Freshell.Terminal

def RECENT_FINGERPRINTS : Nat := 32
def FNV_OFFSET_BASIS : UInt64 := 0xcbf29ce484222325
def FNV_PRIME : UInt64 := 0x00000100000001b3

/-- Where the escape consumption stands between two characters. -/
inductive NoiseMode where
  | ground | esc | csi | stringBody | stringEsc
deriving DecidableEq, Repr

structure Fingerprint where
  hash : UInt64
  count : Nat
deriving DecidableEq

structure NoiseScanner where
  mode : NoiseMode
  recent : List Fingerprint
deriving DecidableEq

/-- `char::is_whitespace`: the Unicode property `White_Space`. -/
def isWhitespace (ch : Char) : Bool :=
  let cp := ch.toNat
  (0x9 ≤ cp && cp ≤ 0xd) || cp == 0x20 || cp == 0x85 || cp == 0xa0 || cp == 0x1680 || (0x2000 ≤ cp && cp ≤ 0x200a) ||
    cp == 0x2028 || cp == 0x2029 || cp == 0x202f || cp == 0x205f || cp == 0x3000

/-- Spinner glyphs and separator bullets, which a repaint of one status line varies. -/
def spinnerGlyphs : List Char := "✻✽✳✢✶·•◦∗*|/-\\●○◐◓◑◒◴◵◶◷".toList

def isSignificant (ch : Char) : Bool :=
  if isWhitespace ch || ch.isDigit then false
  else if 0x2800 ≤ ch.toNat && ch.toNat ≤ 0x28ff then false
  else !spinnerGlyphs.contains ch

/-- One significant character more: its bytes are hashed and it is counted. -/
def Fingerprint.add (print : Fingerprint) (ch : Char) : Fingerprint where
  hash := (String.utf8EncodeChar ch).foldl (fun hash b => (hash ^^^ b.toUInt64) * FNV_PRIME) print.hash
  count := min (print.count + 1) (2 ^ 32 - 1)

/-- What one character does to the mode and to the fingerprint of the frame. -/
def NoiseMode.scan (mode : NoiseMode) (print : Fingerprint) (ch : Char) : NoiseMode × Fingerprint :=
  let cp := ch.toNat
  match mode with
  | .ground =>
    if cp = 0x1b then (.esc,print)
    else if cp < 0x20 ∨ cp = 0x7f ∨ 0x80 ≤ cp ∧ cp ≤ 0x9f then (.ground,print)
    else if isSignificant ch then (.ground,print.add ch)
    else (.ground,print)
  | .esc =>
    (if cp = 0x1b then .esc
    else if ch = '[' then .csi
    else if "]P_^X".toList.contains ch then .stringBody
    else .ground,print)
  | .csi => (if 0x40 ≤ cp ∧ cp ≤ 0x7e then .ground else .csi,print)
  | .stringBody => (if cp = 0x07 then .ground else if cp = 0x1b then .stringEsc else .stringBody,print)
  | .stringEsc => (if cp = 0x5c then .ground else if cp = 0x1b then .stringEsc else .stringBody,print)

namespace NoiseScanner

def new : NoiseScanner := ⟨.ground,[]⟩

/-- The mode that a frame leaves and its fingerprint. -/
def fingerprint (s : NoiseScanner) (data : String) : NoiseMode × Fingerprint :=
  data.toList.foldl (fun (mode,print) ch => mode.scan print ch) (s.mode,⟨FNV_OFFSET_BASIS,0⟩)

/-- Whether the frame carries new content, and the scanner that remembers it. -/
def observe (s : NoiseScanner) (data : String) : NoiseScanner × Bool :=
  let (mode,print) := s.fingerprint data
  if print.count = 0 then (⟨mode,s.recent⟩,false)
  else if print ∈ s.recent then (⟨mode,s.recent⟩,false)
  else (⟨mode,(if s.recent.length = RECENT_FINGERPRINTS then s.recent.tail else s.recent) ++ [print]⟩,true)

/-- The fingerprints are distinct, and no more than the ring holds. -/
structure Fresh (s : NoiseScanner) : Prop where
  bounded : s.recent.length ≤ RECENT_FINGERPRINTS
  distinct : s.recent.Nodup

end NoiseScanner
end Freshell.Terminal
