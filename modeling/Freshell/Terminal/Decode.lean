import Freshell.Library.Utf8

/-!
The decoder between the bytes that a PTY reads and the text of the terminal's
frames. A read can end inside a character; the decoder keeps the beginning and
completes it with the next read, so that the text does not depend on where the
reads were cut.
-/
namespace Freshell.Terminal
open Freshell.Library.Utf8

structure Utf8Error where
  validUpTo : Nat
  /-- How many bytes are invalid; none when the bytes break off. -/
  errorLen : Option Nat
deriving DecidableEq, Repr

/-- `std::str::from_utf8` -/
def fromUtf8 : List UInt8 → Except Utf8Error String
  | [] => .ok ""
  | b :: rest =>
    match front b rest with
    | .invalid len => .error ⟨0,some len⟩
    | .incomplete => .error ⟨0,none⟩
    | .scalar c len =>
      match fromUtf8 (rest.drop (len - 1)) with
      | .ok text => .ok (c.toString ++ text)
      | .error err => .error { err with validUpTo := len + err.validUpTo }
termination_by bytes => bytes.length

/-- `String::from_utf8_lossy`: one replacement for each run of bytes that
    `from_utf8` would stop at, the last of them perhaps broken off. -/
def fromUtf8Lossy : List UInt8 → String
  | [] => ""
  | b :: rest =>
    match front b rest with
    | .scalar c len => c.toString ++ fromUtf8Lossy (rest.drop (len - 1))
    | .invalid len => "\uFFFD" ++ fromUtf8Lossy (rest.drop (len - 1))
    | .incomplete => "\uFFFD"
termination_by bytes => bytes.length

/-- What an error says of the bytes: the text before it, and what is read behind it. -/
theorem fromUtf8_error {bytes : List UInt8} {err : Utf8Error} (failed : fromUtf8 bytes = .error err) :
    ∃ text, fromUtf8 (bytes.take err.validUpTo) = .ok text ∧
      match err.errorLen with
      | none => decode bytes = (text.toList,bytes.drop err.validUpTo)
      | some badLen => 0 < badLen ∧ err.validUpTo + badLen ≤ bytes.length ∧
          decode bytes = (text.toList ++ replacement :: (decode (bytes.drop (err.validUpTo + badLen))).1,
            (decode (bytes.drop (err.validUpTo + badLen))).2) := by
  fun_induction fromUtf8 bytes generalizing err with
  | case1 => cases failed
  | case2 b rest len read =>
    cases failed
    have fits := front_invalid read
    refine ⟨"",by simp [fromUtf8],fits.1,by simp; omega,?_⟩
    rw [decode_invalid read]
    obtain ⟨len,rfl⟩ : ∃ k, len = k + 1 := ⟨len - 1,by omega⟩
    simp
  | case3 b rest read =>
    cases failed
    exact ⟨"",by simp [fromUtf8],by simp [decode_incomplete read]⟩
  | case4 b rest c len read text whole ih => cases failed
  | case5 b rest c len read behind stopped ih =>
    cases failed
    have fits := front_scalar read
    obtain ⟨text,before,after⟩ := ih stopped
    obtain ⟨len,rfl⟩ : ∃ k, len = k + 1 := ⟨len - 1,by omega⟩
    have front : fromUtf8 ((b :: rest).take (len + 1 + behind.validUpTo)) = .ok (c.toString ++ text) := by
      have taken : (b :: rest).take (len + 1 + behind.validUpTo) = b :: rest.take (len + behind.validUpTo) := by
        rw [Nat.add_right_comm]
        rfl
      have own := front_take read behind.validUpTo
      simp only [Nat.add_sub_cancel] at own before
      rw [taken,fromUtf8,own]
      simp only [Nat.add_sub_cancel]
      rw [List.drop_take,Nat.add_sub_cancel_left,before]
    refine ⟨c.toString ++ text,front,?_⟩
    simp only [Nat.add_sub_cancel,List.length_drop] at after
    have dropped : ∀ k, (b :: rest).drop (len + 1 + k) = (rest.drop len).drop k := by
      intro k
      rw [List.drop_drop,Nat.add_right_comm]
      rfl
    cases kind : behind.errorLen with
    | none =>
      simp only [kind] at after
      rw [decode_scalar read]
      simp [after,dropped]
    | some badLen =>
      simp only [kind] at after
      refine ⟨after.1,?_,?_⟩
      · simp only [List.length_cons]
        omega
      · rw [decode_scalar read,Nat.add_assoc (len + 1)]
        simp [after.2.2,dropped]

theorem fromUtf8_ok {bytes : List UInt8} {text : String} (whole : fromUtf8 bytes = .ok text) :
    decode bytes = (text.toList,[]) := by
  fun_induction fromUtf8 bytes generalizing text with
  | case1 =>
    cases whole
    simp [decode]
  | case2 | case3 | case5 => cases whole
  | case4 b rest c len read text all ih =>
    cases whole
    rw [decode_scalar read,ih all]
    simp

theorem fromUtf8Lossy_eq (bytes : List UInt8) :
    (fromUtf8Lossy bytes).toList = (decode bytes).1 ++ if (decode bytes).2 = [] then [] else [replacement] := by
  fun_induction fromUtf8Lossy bytes with
  | case1 => simp [decode]
  | case2 b rest c len read ih => simp [decode_scalar read,ih]
  | case3 b rest len read ih => simp [decode_invalid read,ih,replacement]
  | case4 b rest read => simp [decode_incomplete read,replacement]

structure Utf8StreamDecoder where
  /-- The bytes read that do not form a character yet. -/
  pending : List UInt8
deriving DecidableEq, Repr

def Utf8StreamDecoder.new : Utf8StreamDecoder := ⟨[]⟩

/-- The loop of `push`; nothing where the prefix that an error calls valid is not. -/
def pushLoop (pending : List UInt8) (out : String) : Option (List UInt8 × String) :=
  match checked : fromUtf8 pending with
  | .ok valid => some ([],out ++ valid)
  | .error err =>
    match fromUtf8 (pending.take err.validUpTo) with
    | .error _ => none
    | .ok valid =>
      match _len : err.errorLen with
      | none => some (pending.drop err.validUpTo,out ++ valid)
      | some badLen => pushLoop (pending.drop (err.validUpTo + badLen)) (out ++ valid ++ "\uFFFD")
termination_by pending.length
decreasing_by
  obtain ⟨text,_,rest⟩ := fromUtf8_error checked
  simp only [_len] at rest
  simp only [List.length_drop]
  omega

def Utf8StreamDecoder.push (decoder : Utf8StreamDecoder) (bytes : List UInt8) :
    Option (Utf8StreamDecoder × String) :=
  (pushLoop (decoder.pending ++ bytes) "").map fun (pending,out) => (⟨pending⟩,out)

def Utf8StreamDecoder.finish (decoder : Utf8StreamDecoder) : Utf8StreamDecoder × String :=
  if decoder.pending = [] then (decoder,"") else (⟨[]⟩,fromUtf8Lossy decoder.pending)

/-- The reads one after the other, with the text they give. -/
def Utf8StreamDecoder.pushAll (decoder : Utf8StreamDecoder) : List (List UInt8) → Option (Utf8StreamDecoder × String)
  | [] => some (decoder,"")
  | chunk :: chunks => do
    let (after,text) ← decoder.push chunk
    let (last,texts) ← after.pushAll chunks
    return (last,text ++ texts)

theorem pushLoop_eq (pending : List UInt8) (out : String) :
    pushLoop pending out = some ((decode pending).2,out ++ String.ofList (decode pending).1) := by
  fun_induction pushLoop pending out with
  | case1 pending out valid checked => simp [fromUtf8_ok checked]
  | case2 pending out err checked other refused =>
    obtain ⟨text,taken,_⟩ := fromUtf8_error checked
    rw [taken] at refused
    cases refused
  | case3 pending out err checked valid taken kind =>
    obtain ⟨text,same,rest⟩ := fromUtf8_error checked
    rw [same] at taken
    cases taken
    simp only [kind] at rest
    simp [rest]
  | case4 pending out err checked valid taken badLen kind ih =>
    obtain ⟨text,same,rest⟩ := fromUtf8_error checked
    rw [same] at taken
    cases taken
    simp only [kind] at rest
    rw [ih,rest.2.2]
    have joined : out ++ valid ++ "\uFFFD" ++ String.ofList (decode (pending.drop (err.validUpTo + badLen))).1 =
        out ++ String.ofList (valid.toList ++ replacement :: (decode (pending.drop (err.validUpTo + badLen))).1) := by
      apply String.toList_injective
      simp [replacement]
    rw [joined]

theorem push_eq (decoder : Utf8StreamDecoder) (bytes : List UInt8) :
    decoder.push bytes =
      some (⟨(decode (decoder.pending ++ bytes)).2⟩,String.ofList (decode (decoder.pending ++ bytes)).1) := by
  simp [Utf8StreamDecoder.push,pushLoop_eq]

theorem decode_kept (bytes : List UInt8) : decode (decode bytes).2 = ([],(decode bytes).2) := by
  rcases decode_rest bytes with nothing | ⟨b,rest,left,broken⟩
  · rw [nothing,decode]
  · rw [left,decode_incomplete broken]

theorem pushAll_eq {decoder : Utf8StreamDecoder} (kept : decode decoder.pending = ([],decoder.pending))
    (chunks : List (List UInt8)) :
    decoder.pushAll chunks =
      some (⟨(decode (decoder.pending ++ chunks.flatten)).2⟩,
        String.ofList (decode (decoder.pending ++ chunks.flatten)).1) := by
  induction chunks generalizing decoder with
  | nil => simp [Utf8StreamDecoder.pushAll,kept]
  | cons chunk chunks ih =>
    have later := @ih ⟨(decode (decoder.pending ++ chunk)).2⟩ (decode_kept _)
    simp only [Utf8StreamDecoder.pushAll,push_eq,later,Option.bind_eq_bind,Option.bind_some]
    rw [List.flatten_cons,← List.append_assoc,decode_append (decoder.pending ++ chunk)]
    simp [String.ofList_append]

/-- However the bytes are cut into reads, the decoder gives the text that they have
    as a whole, and never keeps more than three of them back. -/
theorem decoded_wholly (chunks : List (List UInt8)) :
    ∃ decoder text, Utf8StreamDecoder.new.pushAll chunks = some (decoder,text) ∧
      text ++ decoder.finish.2 = fromUtf8Lossy chunks.flatten ∧ decoder.pending.length ≤ 3 := by
  have nothing : decode Utf8StreamDecoder.new.pending = ([],Utf8StreamDecoder.new.pending) := by
    simp [Utf8StreamDecoder.new,decode]
  have pushed := pushAll_eq nothing chunks
  refine ⟨_,_,pushed,?_,decode_rest_length _⟩
  have same : (Utf8StreamDecoder.new.pending ++ chunks.flatten) = chunks.flatten := rfl
  rw [same]
  apply String.toList_injective
  rw [fromUtf8Lossy_eq,String.toList_append,String.toList_ofList]
  congr 1
  by_cases nothing : (decode chunks.flatten).2 = []
  · simp [Utf8StreamDecoder.finish,nothing]
  · simp only [Utf8StreamDecoder.finish,if_neg nothing,fromUtf8Lossy_eq,decode_kept,List.nil_append]

/-- The two bytes of a character in two reads, and a byte that belongs to none. -/
example : Utf8StreamDecoder.new.pushAll [[0x61,0xC3],[0xA9,0xFF]] = some (.new,"aé\uFFFD") := by
  simp [Utf8StreamDecoder.pushAll,push_eq,Utf8StreamDecoder.new,decode,front,lead,scanTail,replacement]
end Freshell.Terminal
