import Mathlib.Data.List.Basic

/-!
UTF-8 read from the front of a byte string. The first byte of a sequence says how
many follow it and what the next one may be, so that an overlong form, a surrogate
or a value above the last character shows at the second byte. Where the bytes break
off inside a sequence nothing is read, and more bytes behind them can complete it.
-/
namespace Freshell.Library.Utf8

/-- What a byte string begins with: a character with the bytes it takes, some bytes
    that belong to no character, or a beginning that the string breaks off in. -/
inductive Front where
  | scalar (c : Char) (len : Nat)
  | invalid (len : Nat)
  | incomplete
deriving DecidableEq, Repr

/-- The first bits of the value, how many bytes follow, and the bounds of the next one. -/
def lead (b : Nat) : Option (Nat × Nat × Nat × Nat) :=
  if b < 0x80 then some (b,0,0x80,0xBF)
  else if b < 0xC2 then none
  else if b < 0xE0 then some (b - 0xC0,1,0x80,0xBF)
  else if b = 0xE0 then some (0x0,2,0xA0,0xBF)
  else if b = 0xED then some (0xD,2,0x80,0x9F)
  else if b < 0xF0 then some (b - 0xE0,2,0x80,0xBF)
  else if b = 0xF0 then some (0x0,3,0x90,0xBF)
  else if b < 0xF4 then some (b - 0xF0,3,0x80,0xBF)
  else if b = 0xF4 then some (0x4,3,0x80,0x8F)
  else none

/-- The bytes that follow, when `seen` are read. -/
def scanTail (value seen : Nat) : Nat → Nat → Nat → List UInt8 → Front
  | 0, _, _, _ => .scalar (Char.ofNat value) seen
  | _ + 1, _, _, [] => .incomplete
  | n + 1, low, high, b :: rest =>
    if low ≤ b.toNat ∧ b.toNat ≤ high then scanTail (value * 64 + b.toNat % 64) (seen + 1) n 0x80 0xBF rest
    else .invalid seen

def front (b : UInt8) (rest : List UInt8) : Front :=
  match lead b.toNat with
  | none => .invalid 1
  | some (value,following,low,high) => scanTail value 1 following low high rest

def replacement : Char := '\uFFFD'

/-- The characters up to the end or up to a beginning that is broken off, which is
    what is left; what belongs to no character is replaced. -/
def decode : List UInt8 → List Char × List UInt8
  | [] => ([],[])
  | b :: rest =>
    match front b rest with
    | .scalar c len => (c :: (decode (rest.drop (len - 1))).1,(decode (rest.drop (len - 1))).2)
    | .invalid len => (replacement :: (decode (rest.drop (len - 1))).1,(decode (rest.drop (len - 1))).2)
    | .incomplete => ([],b :: rest)
termination_by bytes => bytes.length

theorem lead_following {b value following low high : Nat} (found : lead b = some (value,following,low,high)) :
    following ≤ 3 := by
  revert found
  unfold lead
  split_ifs <;> simp <;> omega

theorem scanTail_incomplete {value seen n low high : Nat} {bytes : List UInt8}
    (broken : scanTail value seen n low high bytes = .incomplete) : bytes.length < n := by
  induction n generalizing value seen low high bytes with
  | zero => simp [scanTail] at broken
  | succ n ih =>
    cases bytes with
    | nil => simp
    | cons b rest =>
      simp only [scanTail] at broken
      split at broken
      · have := ih broken
        simp only [List.length_cons]
        omega
      · cases broken

theorem scanTail_append {value seen n low high : Nat} {bytes : List UInt8} (more : List UInt8)
    (whole : scanTail value seen n low high bytes ≠ .incomplete) :
    scanTail value seen n low high (bytes ++ more) = scanTail value seen n low high bytes := by
  induction n generalizing value seen low high bytes with
  | zero => simp [scanTail]
  | succ n ih =>
    cases bytes with
    | nil => simp [scanTail] at whole
    | cons b rest =>
      simp only [List.cons_append,scanTail] at whole ⊢
      split
      · next within =>
        rw [if_pos within] at whole
        exact ih whole
      · rfl

theorem scanTail_scalar {value seen n low high len : Nat} {bytes : List UInt8} {c : Char}
    (read : scanTail value seen n low high bytes = .scalar c len) : len = seen + n ∧ n ≤ bytes.length := by
  induction n generalizing value seen low high bytes with
  | zero =>
    simp only [scanTail,Front.scalar.injEq] at read
    simp [read.2]
  | succ n ih =>
    cases bytes with
    | nil => simp [scanTail] at read
    | cons b rest =>
      simp only [scanTail] at read
      split at read
      · have := ih read
        simp only [List.length_cons]
        omega
      · cases read

theorem scanTail_invalid {value seen n low high len : Nat} {bytes : List UInt8}
    (read : scanTail value seen n low high bytes = .invalid len) : seen ≤ len ∧ len ≤ seen + bytes.length := by
  induction n generalizing value seen low high bytes with
  | zero => simp [scanTail] at read
  | succ n ih =>
    cases bytes with
    | nil => simp [scanTail] at read
    | cons b rest =>
      simp only [scanTail] at read
      split at read
      · have := ih read
        simp only [List.length_cons]
        omega
      · cases read
        simp

theorem front_append {b : UInt8} {rest : List UInt8} (more : List UInt8) (whole : front b rest ≠ .incomplete) :
    front b (rest ++ more) = front b rest := by
  unfold front at whole ⊢
  cases found : lead b.toNat with
  | none => rfl
  | some parts =>
    simp only [found] at whole
    exact scanTail_append more whole

theorem front_scalar {b : UInt8} {rest : List UInt8} {c : Char} {len : Nat} (read : front b rest = .scalar c len) :
    0 < len ∧ len ≤ rest.length + 1 := by
  unfold front at read
  cases found : lead b.toNat with
  | none => simp [found] at read
  | some parts =>
    simp only [found] at read
    have := scanTail_scalar read
    omega

theorem front_invalid {b : UInt8} {rest : List UInt8} {len : Nat} (read : front b rest = .invalid len) :
    0 < len ∧ len ≤ rest.length + 1 := by
  unfold front at read
  cases found : lead b.toNat with
  | none =>
    simp only [found,Front.invalid.injEq] at read
    omega
  | some parts =>
    simp only [found] at read
    have := scanTail_invalid read
    omega

theorem front_incomplete {b : UInt8} {rest : List UInt8} (broken : front b rest = .incomplete) : rest.length < 3 := by
  unfold front at broken
  cases found : lead b.toNat with
  | none => simp [found] at broken
  | some parts =>
    obtain ⟨value,following,low,high⟩ := parts
    simp only [found] at broken
    exact Nat.lt_of_lt_of_le (scanTail_incomplete broken) (lead_following found)

theorem front_take {b : UInt8} {rest : List UInt8} {c : Char} {len : Nat} (read : front b rest = .scalar c len) (k : Nat) :
    front b (rest.take (len - 1 + k)) = .scalar c len := by
  have whole : front b (rest.take (len - 1 + k)) ≠ .incomplete := by
    intro broken
    unfold front at read broken
    cases found : lead b.toNat with
    | none => simp [found] at read
    | some parts =>
      simp only [found] at read broken
      have short := scanTail_incomplete broken
      have := scanTail_scalar read
      rw [List.length_take] at short
      omega
  have same := front_append (rest.drop (len - 1 + k)) whole
  rw [List.take_append_drop,read] at same
  exact same.symm

theorem decode_scalar {b : UInt8} {rest : List UInt8} {c : Char} {len : Nat} (read : front b rest = .scalar c len) :
    decode (b :: rest) = (c :: (decode (rest.drop (len - 1))).1,(decode (rest.drop (len - 1))).2) := by
  rw [decode,read]

theorem decode_invalid {b : UInt8} {rest : List UInt8} {len : Nat} (read : front b rest = .invalid len) :
    decode (b :: rest) = (replacement :: (decode (rest.drop (len - 1))).1,(decode (rest.drop (len - 1))).2) := by
  rw [decode,read]

theorem decode_incomplete {b : UInt8} {rest : List UInt8} (read : front b rest = .incomplete) :
    decode (b :: rest) = ([],b :: rest) := by
  rw [decode,read]

theorem decode_rest (bytes : List UInt8) :
    (decode bytes).2 = [] ∨ ∃ b rest, (decode bytes).2 = b :: rest ∧ front b rest = .incomplete := by
  fun_induction decode bytes with
  | case1 => exact .inl rfl
  | case2 b rest c len read ih => exact ih
  | case3 b rest len read ih => exact ih
  | case4 b rest read => exact .inr ⟨b,rest,rfl,read⟩

theorem decode_rest_length (bytes : List UInt8) : (decode bytes).2.length ≤ 3 := by
  rcases decode_rest bytes with nothing | ⟨b,rest,left,broken⟩
  · simp [nothing]
  · have := front_incomplete broken
    rw [left,List.length_cons]
    omega

/-- Reading does not depend on where the string is cut: what the first part leaves
    is read again in front of the second. -/
theorem decode_append (first second : List UInt8) :
    decode (first ++ second) =
      ((decode first).1 ++ (decode ((decode first).2 ++ second)).1,(decode ((decode first).2 ++ second)).2) := by
  fun_induction decode first with
  | case1 => simp
  | case2 b rest c len read ih =>
    have whole : front b (rest ++ second) = .scalar c len := by
      rw [front_append second (by simp [read]),read]
    have fits := front_scalar read
    rw [List.cons_append,decode_scalar whole,List.drop_append_of_le_length (by omega),ih]
    simp
  | case3 b rest len read ih =>
    have whole : front b (rest ++ second) = .invalid len := by
      rw [front_append second (by simp [read]),read]
    have fits := front_invalid read
    rw [List.cons_append,decode_invalid whole,List.drop_append_of_le_length (by omega),ih]
    simp
  | case4 b rest read => simp

theorem toNat_cases (c : Char) : c.toNat < 0xD800 ∨ 0xDFFF < c.toNat ∧ c.toNat < 0x110000 := by
  have valid := c.valid
  simpa [UInt32.isValidChar,Nat.isValidChar] using valid

theorem toNat_byte {b : Nat} (small : b < 256) : (UInt8.ofNat b).toNat = b := by
  simp [UInt8.toNat_ofNat']
  omega

theorem scanTail_next {value seen n low high b : Nat} {rest : List UInt8} (small : b < 256) (least : low ≤ b)
    (most : b ≤ high) : scanTail value seen (n + 1) low high (UInt8.ofNat b :: rest) =
      scanTail (value * 64 + b % 64) (seen + 1) n 0x80 0xBF rest := by
  simp only [scanTail,toNat_byte small,if_pos (And.intro least most)]

theorem lead_two {v : Nat} (long : 0x7F < v) (short : v ≤ 0x7FF) :
    lead (v / 64 % 32 + 0xC0) = some (v / 64,1,0x80,0xBF) := by
  unfold lead
  rw [if_neg (by omega),if_neg (by omega),if_pos (by omega)]
  simp only [Option.some.injEq,Prod.mk.injEq,and_true]
  omega

/-- The first byte of three bounds the second one to what is no shorter form and no surrogate. -/
theorem lead_three {v : Nat} (long : 0x7FF < v) (short : v ≤ 0xFFFF) (character : v < 0xD800 ∨ 0xDFFF < v) :
    ∃ low high, lead (v / 4096 % 16 + 0xE0) = some (v / 4096,2,low,high) ∧
      low ≤ v / 64 % 64 + 0x80 ∧ v / 64 % 64 + 0x80 ≤ high := by
  unfold lead
  rw [if_neg (by omega),if_neg (by omega),if_neg (by omega)]
  split_ifs
  · exact ⟨0xA0,0xBF,by simp; omega,by omega,by omega⟩
  · exact ⟨0x80,0x9F,by simp; omega,by omega,by omega⟩
  · exact ⟨0x80,0xBF,by simp; omega,by omega,by omega⟩
  all_goals omega

theorem lead_four {v : Nat} (long : 0xFFFF < v) (character : v < 0x110000) :
    ∃ low high, lead (v / 262144 % 8 + 0xF0) = some (v / 262144,3,low,high) ∧
      low ≤ v / 4096 % 64 + 0x80 ∧ v / 4096 % 64 + 0x80 ≤ high := by
  unfold lead
  rw [if_neg (by omega),if_neg (by omega),if_neg (by omega),if_neg (by omega),if_neg (by omega),if_neg (by omega)]
  split_ifs
  · exact ⟨0x90,0xBF,by simp; omega,by omega,by omega⟩
  · exact ⟨0x80,0xBF,by simp; omega,by omega,by omega⟩
  · exact ⟨0x80,0x8F,by simp; omega,by omega,by omega⟩
  · omega

theorem front_encoded (c : Char) :
    ∃ b rest, String.utf8EncodeChar c = b :: rest ∧ front b rest = .scalar c (rest.length + 1) := by
  have character := toNat_cases c
  have back : Char.ofNat c.toNat = c := Char.ofNat_toNat c
  have val : c.val.toNat = c.toNat := rfl
  unfold String.utf8EncodeChar
  simp only [val]
  generalize c.toNat = v at character back
  by_cases one : v ≤ 0x7F
  · refine ⟨_,_,if_pos one,?_⟩
    have first : lead v = some (v,0,0x80,0xBF) := if_pos (by omega)
    simp only [front,toNat_byte (show v < 256 by omega),first,scanTail,back,List.length_nil]
  · rw [if_neg one]
    by_cases two : v ≤ 0x7FF
    · refine ⟨_,_,if_pos two,?_⟩
      simp only [front,toNat_byte (show v / 64 % 32 + 0xC0 < 256 by omega),lead_two (by omega) two]
      rw [scanTail_next (by omega) (by omega) (by omega)]
      have value : v / 64 * 64 + (v % 64 + 0x80) % 64 = v := by omega
      simp only [scanTail,value,back,List.length_cons,List.length_nil]
    · rw [if_neg two]
      by_cases three : v ≤ 0xFFFF
      · refine ⟨_,_,if_pos three,?_⟩
        obtain ⟨low,high,first,least,most⟩ := lead_three (by omega) three (by omega)
        simp only [front,toNat_byte (show v / 4096 % 16 + 0xE0 < 256 by omega),first]
        rw [scanTail_next (by omega) least most,scanTail_next (by omega) (by omega) (by omega)]
        have value : (v / 4096 * 64 + (v / 64 % 64 + 0x80) % 64) * 64 + (v % 64 + 0x80) % 64 = v := by omega
        simp only [scanTail,value,back,List.length_cons,List.length_nil]
      · refine ⟨_,_,if_neg three,?_⟩
        obtain ⟨low,high,first,least,most⟩ := lead_four (v := v) (by omega) (by omega)
        simp only [front,toNat_byte (show v / 262144 % 8 + 0xF0 < 256 by omega),first]
        rw [scanTail_next (by omega) least most,scanTail_next (by omega) (by omega) (by omega),
          scanTail_next (by omega) (by omega) (by omega)]
        have value : ((v / 262144 * 64 + (v / 4096 % 64 + 0x80) % 64) * 64 + (v / 64 % 64 + 0x80) % 64) * 64 +
            (v % 64 + 0x80) % 64 = v := by omega
        simp only [scanTail,value,back,List.length_cons,List.length_nil]

theorem decode_encoded (text : List Char) (more : List UInt8) :
    decode (text.flatMap String.utf8EncodeChar ++ more) = (text ++ (decode more).1,(decode more).2) := by
  induction text with
  | nil => rfl
  | cons c text ih =>
    obtain ⟨b,rest,bytes,read⟩ := front_encoded c
    have whole : front b (rest ++ (text.flatMap String.utf8EncodeChar ++ more)) = .scalar c (rest.length + 1) := by
      rw [front_append _ (by simp [read]),read]
    rw [List.flatMap_cons,bytes,List.append_assoc,List.cons_append,decode_scalar whole]
    simp [ih]
end Freshell.Library.Utf8
