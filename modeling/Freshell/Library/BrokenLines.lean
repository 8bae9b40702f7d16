import Freshell.Library.TextLines

/-!
A file that is still being written, as the lines that are complete and the rest behind
the last line feed, and where its lines begin.
-/
namespace Freshell.Library.BrokenLines
open Freshell.Library.TextLines

structure Broken (bytes : List UInt8) (bodies : List (List UInt8)) (rest : List UInt8) : Prop where
  bytes_eq : bytes = (bodies.flatMap fun body => body ++ [lineFeed]) ++ rest
  unbroken : ∀ body ∈ bodies, lineFeed ∉ body
  unfinished : lineFeed ∉ rest

namespace Broken
variable {bytes rest more : List UInt8} {bodies later : List (List UInt8)}

theorem nil : Broken [] [] [] := ⟨rfl,by simp,by simp⟩

theorem unended (unbroken : lineFeed ∉ bytes) : Broken bytes [] bytes := ⟨rfl,by simp,unbroken⟩

theorem cons {body : List UInt8} (unbroken : lineFeed ∉ body) (broken : Broken bytes bodies rest) :
    Broken (body ++ lineFeed :: bytes) (body :: bodies) rest where
  bytes_eq := by simp [broken.bytes_eq]
  unbroken := by
    intro line listed
    obtain rfl | listed := List.mem_cons.mp listed
    · exact unbroken
    · exact broken.unbroken line listed
  unfinished := broken.unfinished

theorem first_line (bytes : List UInt8) :
    lineFeed ∉ bytes ∨ ∃ body after, bytes = body ++ lineFeed :: after ∧ lineFeed ∉ body := by
  by_cases listed : lineFeed ∈ bytes
  · obtain ⟨body,after,split,unbroken⟩ := List.eq_append_cons_of_mem listed
    exact .inr ⟨body,after,split,unbroken⟩
  · exact .inl listed

theorem of_bytes (bytes : List UInt8) : ∃ bodies rest, Broken bytes bodies rest := by
  induction hn : bytes.length using Nat.strongRecOn generalizing bytes with
  | ind n ih =>
    obtain unbroken | ⟨body,after,rfl,unbroken⟩ := first_line bytes
    · exact ⟨[],bytes,unended unbroken⟩
    · obtain ⟨bodies,rest,broken⟩ := ih after.length (by simp at hn; omega) after rfl
      exact ⟨body :: bodies,rest,cons unbroken broken⟩

theorem append {remaining : List UInt8} (broken : Broken bytes bodies rest) (next : Broken (rest ++ more) later remaining) :
    Broken (bytes ++ more) (bodies ++ later) remaining where
  bytes_eq := by
    rw [broken.bytes_eq,List.append_assoc,next.bytes_eq]
    simp
  unbroken body listed := (List.mem_append.mp listed).elim (broken.unbroken body) (next.unbroken body)
  unfinished := next.unfinished

end Broken

def placed : Nat → List (List UInt8) → List (Nat × List UInt8)
  | _,[] => []
  | start,body :: bodies => (start,body) :: placed (start + body.length + 1) bodies

/-- The bytes of the lines, with their line feeds. -/
def extent (bodies : List (List UInt8)) : Nat := (bodies.map fun body => body.length + 1).sum

theorem placed_append (start : Nat) (bodies later : List (List UInt8)) :
    placed start (bodies ++ later) = placed start bodies ++ placed (start + extent bodies) later := by
  induction bodies generalizing start with
  | nil => simp [placed,extent]
  | cons body rest ih =>
    simp only [List.cons_append,placed,ih,extent,List.map_cons,List.sum_cons]
    congr 3
    omega

theorem Broken.length_eq {bytes rest : List UInt8} {bodies : List (List UInt8)} (broken : Broken bytes bodies rest) :
    bytes.length = extent bodies + rest.length := by
  rw [broken.bytes_eq,List.length_append,List.length_flatMap]
  simp [extent]

/-- A placed line begins after the start, and its line feed stands within the lines. -/
theorem placed_within {start : Nat} {bodies : List (List UInt8)} {line : Nat × List UInt8}
    (listed : line ∈ placed start bodies) :
    start ≤ line.1 ∧ line.1 + line.2.length < start + extent bodies := by
  induction bodies generalizing start with
  | nil => cases listed
  | cons body rest ih =>
    simp only [extent,List.map_cons,List.sum_cons]
    obtain rfl | listed := List.mem_cons.mp listed
    · exact ⟨Nat.le_refl _,by simp only; omega⟩
    · obtain ⟨begins,ends⟩ := ih listed
      simp only [extent] at ends
      omega

@[simp] theorem map_snd_placed (start : Nat) (bodies : List (List UInt8)) : (placed start bodies).map Prod.snd = bodies := by
  induction bodies generalizing start with
  | nil => rfl
  | cons body rest ih => simp [placed,ih]

end Freshell.Library.BrokenLines
