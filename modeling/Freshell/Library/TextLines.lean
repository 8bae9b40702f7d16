import Mathlib.Data.List.Induction
import Mathlib.Algebra.GroupWithZero.Nat

/-!
Text files line by line. A file is its bytes; its lines are what stands between
line feeds, the last one also without; and a line is text where its bytes are the
UTF-8 form of one. A printable text is read back as the line it was written as.
-/
namespace Freshell.Library.TextLines

def lineFeed : UInt8 := 10
def carriageReturn : UInt8 := 13

def utf8 (text : List Char) : List UInt8 := text.flatMap String.utf8EncodeChar

def utf8Text (bytes : List UInt8) : Option (List Char) := bytes.toByteArray.utf8Decode?.map Array.toList

def endLine (line : List UInt8) : List UInt8 :=
  if line.getLast? = some carriageReturn then line.dropLast else line

/-- The lines of the bytes, the first of which goes on from `line`. -/
def linesFrom (line : List UInt8) : List UInt8 → List (List UInt8)
  | [] => if line = [] then [] else [line]
  | byte :: rest => if byte = lineFeed then endLine line :: linesFrom [] rest else linesFrom (line ++ [byte]) rest

def lines (bytes : List UInt8) : List (List UInt8) := linesFrom [] bytes

/-- No control character: neither a line feed nor a carriage return among its bytes. -/
def Printable (text : List Char) : Prop := ∀ c ∈ text, 32 ≤ c.toNat

instance decidablePrintable (text : List Char) : Decidable (Printable text) :=
  decidable_of_iff (text.all fun c => decide (32 ≤ c.toNat)) (by simp [Printable])

theorem utf8Text_utf8 (text : List Char) : utf8Text (utf8 text) = some text := by
  show Option.map Array.toList text.utf8Encode.utf8Decode? = some text
  simp

theorem utf8_cons (c : Char) (rest : List Char) : utf8 (c :: rest) = String.utf8EncodeChar c ++ utf8 rest := rfl

theorem utf8_ne_nil {text : List Char} (some : text ≠ []) : utf8 text ≠ [] := by
  cases text with
  | nil => exact absurd rfl some
  | cons c rest => simp [utf8_cons,String.utf8EncodeChar_ne_nil]

theorem printable_char {c : Char} (printable : 32 ≤ c.toNat) : ∀ byte ∈ String.utf8EncodeChar c, 32 ≤ byte.toNat := by
  have low : 32 ≤ c.val.toNat := printable
  intro byte mem
  simp only [String.utf8EncodeChar] at mem
  split at mem
  · simp only [List.mem_singleton] at mem
    subst mem
    rw [UInt8.toNat_ofNat']
    omega
  all_goals
    try split at mem
    all_goals
      try split at mem
      all_goals
        simp only [List.mem_cons,List.not_mem_nil,or_false] at mem
        rcases mem with rfl | rfl | rfl | rfl <;> rw [UInt8.toNat_ofNat'] <;> omega

theorem printable_utf8 {text : List Char} (printable : Printable text) :
    lineFeed ∉ utf8 text ∧ carriageReturn ∉ utf8 text := by
  have above : ∀ byte ∈ utf8 text, 32 ≤ byte.toNat := by
    intro byte mem
    obtain ⟨c,inside,mem⟩ := List.mem_flatMap.mp mem
    exact printable_char (printable c inside) byte mem
  exact ⟨fun mem => absurd (above _ mem) (by decide),fun mem => absurd (above _ mem) (by decide)⟩

theorem linesFrom_line {line bytes : List UInt8} (rest : List UInt8) (unbroken : lineFeed ∉ bytes) :
    linesFrom line (bytes ++ lineFeed :: rest) = endLine (line ++ bytes) :: linesFrom [] rest := by
  induction bytes generalizing line with
  | nil => simp [linesFrom]
  | cons byte others ih =>
    obtain ⟨apart,later⟩ : byte ≠ lineFeed ∧ lineFeed ∉ others := by
      simpa [eq_comm] using unbroken
    simp [linesFrom,apart,ih later]

theorem linesFrom_last {line bytes : List UInt8} (unbroken : lineFeed ∉ bytes) :
    linesFrom line bytes = if line ++ bytes = [] then [] else [line ++ bytes] := by
  induction bytes generalizing line with
  | nil => simp [linesFrom]
  | cons byte others ih =>
    obtain ⟨apart,later⟩ : byte ≠ lineFeed ∧ lineFeed ∉ others := by
      simpa [eq_comm] using unbroken
    simp [linesFrom,apart,ih later]

theorem endLine_eq {line : List UInt8} (unbroken : carriageReturn ∉ line) : endLine line = line := by
  rw [endLine,if_neg]
  exact fun isLast => unbroken (List.mem_of_getLast? isLast)

def writeLines (texts : List (List Char)) : List UInt8 := texts.flatMap fun text => utf8 text ++ [lineFeed]

@[simp] theorem writeLines_nil : writeLines [] = [] := rfl

@[simp] theorem writeLines_cons (text : List Char) (rest : List (List Char)) :
    writeLines (text :: rest) = utf8 text ++ lineFeed :: writeLines rest := by
  simp [writeLines]

theorem writeLines_append (first second : List (List Char)) :
    writeLines (first ++ second) = writeLines first ++ writeLines second := by
  simp [writeLines]

/-- The file holds the texts as its lines, the last of them with or without its line feed. -/
def Holds (bytes : List UInt8) (texts : List (List Char)) : Prop :=
  bytes = writeLines texts ∨ bytes ++ [lineFeed] = writeLines texts

theorem lines_writeLines {texts : List (List Char)} (printable : ∀ text ∈ texts, Printable text) (tail : List UInt8) :
    lines (writeLines texts ++ tail) = texts.map utf8 ++ lines tail := by
  induction texts with
  | nil => rfl
  | cons text rest ih =>
    obtain ⟨noFeed,noReturn⟩ := printable_utf8 (printable text List.mem_cons_self)
    have later := ih fun text mem => printable text (List.mem_cons_of_mem _ mem)
    simp only [lines] at later
    rw [lines,writeLines_cons,List.append_assoc,List.cons_append,linesFrom_line _ noFeed,List.nil_append,
      endLine_eq noReturn,later,List.map_cons,List.cons_append]
    rfl

theorem lines_holds {bytes : List UInt8} {texts : List (List Char)} (holds : Holds bytes texts)
    (printable : ∀ text ∈ texts, Printable text) (some : ∀ text ∈ texts, text ≠ []) :
    lines bytes = texts.map utf8 := by
  rcases holds with rfl | unterminated
  · simpa [lines,linesFrom] using lines_writeLines printable []
  · induction texts using List.reverseRecOn with
    | nil => simp at unterminated
    | append_singleton earlier last _ =>
      have whole : bytes = writeLines earlier ++ utf8 last := by
        rw [writeLines_append,writeLines_cons,writeLines_nil,← List.append_assoc] at unterminated
        exact List.append_inj_left' unterminated rfl
      obtain ⟨noFeed,-⟩ := printable_utf8 (printable last (by simp))
      rw [whole,lines_writeLines (fun text mem => printable text (by simp [mem])),lines,linesFrom_last noFeed,
        List.nil_append,if_neg (utf8_ne_nil (some last (by simp))),List.map_append]
      rfl

end Freshell.Library.TextLines
