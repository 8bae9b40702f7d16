/-!
Files behind operations that may fail before or after they took effect, and under a
process that may die on either side of each. What the process meets is given beforehand,
one entry for each operation.
-/
namespace Freshell.Library.Drives
universe u

inductive Fault where
  | smooth
  | refused
  | landed
  | cut
  | cutAfter
deriving DecidableEq, Repr

/-- What fails has no effect, and the process lives on. -/
def Fault.harmless : Fault → Bool
  | .smooth => true
  | .refused => true
  | _ => false

structure Drive (Files : Type u) where
  files : Files
  /-- Of the operations to come; past its end they are smooth. -/
  faults : List Fault := []
  dead : Bool := false

namespace Drive
variable {Files : Type u}

def upcoming (drive : Drive Files) : Fault := drive.faults.head?.getD .smooth

/-- One operation that changes the files, and whether it reports success. -/
def act (drive : Drive Files) (change : Files → Files) : Drive Files × Bool :=
  if drive.dead then (drive,false)
  else
    let faults := drive.faults.tail
    match drive.upcoming with
    | .smooth => ({ files := change drive.files, faults, dead := false },true)
    | .refused => ({ files := drive.files, faults, dead := false },false)
    | .landed => ({ files := change drive.files, faults, dead := false },false)
    | .cut => ({ files := drive.files, faults, dead := true },false)
    | .cutAfter => ({ files := change drive.files, faults, dead := true },false)

/-- One operation that only reads, and whether it succeeds. -/
def look (drive : Drive Files) : Drive Files × Bool := drive.act id

theorem act_cases (drive : Drive Files) (change : Files → Files) :
    (drive.dead = true ∧ drive.act change = (drive,false)) ∨
      (drive.dead = false ∧ (drive.act change).2 = true ∧ (drive.act change).1.dead = false ∧
        (drive.act change).1.files = change drive.files) ∨
      (drive.dead = false ∧ (drive.act change).2 = false ∧
        ((drive.act change).1.files = drive.files ∨ (drive.act change).1.files = change drive.files)) := by
  by_cases dead : drive.dead = true
  · exact .inl ⟨dead,if_pos dead⟩
  · have alive : drive.dead = false := by simpa using dead
    unfold act
    rw [if_neg dead]
    split <;> simp [alive]

theorem act_files (drive : Drive Files) (change : Files → Files) :
    (drive.act change).1.files = drive.files ∨ (drive.act change).1.files = change drive.files := by
  obtain ⟨_,same⟩ | ⟨_,_,_,changed⟩ | ⟨_,_,either⟩ := act_cases drive change
  · exact .inl (by rw [same])
  · exact .inr changed
  · exact either

theorem act_done {drive : Drive Files} {change : Files → Files} (done : (drive.act change).2 = true) :
    (drive.act change).1.files = change drive.files ∧ (drive.act change).1.dead = false ∧ drive.dead = false := by
  obtain ⟨_,same⟩ | ⟨alive,_,up,changed⟩ | ⟨_,failed,_⟩ := act_cases drive change
  · simp [same] at done
  · exact ⟨changed,up,alive⟩
  · simp [failed] at done

/-- The process is up, and nothing to come fails half-way. -/
def Harmless (drive : Drive Files) : Prop := drive.dead = false ∧ ∀ fault ∈ drive.faults, fault.harmless = true

def Smooth (drive : Drive Files) : Prop := drive.dead = false ∧ drive.faults = []

theorem Smooth.harmless {drive : Drive Files} (smooth : drive.Smooth) : drive.Harmless :=
  ⟨smooth.1,by simp [smooth.2]⟩

theorem Smooth.act {drive : Drive Files} (smooth : drive.Smooth) (change : Files → Files) :
    drive.act change = ({ files := change drive.files, faults := [], dead := false },true) := by
  obtain ⟨up,rest⟩ := smooth
  simp [Drive.act,up,upcoming,rest]

theorem Harmless.act {drive : Drive Files} (harmless : drive.Harmless) (change : Files → Files) :
    (drive.act change).1.Harmless ∧
      (((drive.act change).2 = true ∧ (drive.act change).1.files = change drive.files) ∨
        ((drive.act change).2 = false ∧ (drive.act change).1.files = drive.files)) := by
  obtain ⟨up,faults⟩ := harmless
  have later : ∀ fault ∈ drive.faults.tail, fault.harmless = true :=
    fun fault listed => faults fault (List.mem_of_mem_tail listed)
  have next : drive.upcoming = .smooth ∨ drive.upcoming = .refused := by
    unfold upcoming
    cases rest : drive.faults with
    | nil => exact .inl rfl
    | cons fault others =>
      have own := faults fault (by simp [rest])
      cases fault <;> simp_all [Fault.harmless]
  unfold Drive.act
  obtain smooth | refused := next
  · simp only [up,smooth]
    exact ⟨⟨rfl,later⟩,.inl ⟨rfl,rfl⟩⟩
  · simp only [up,refused]
    exact ⟨⟨rfl,later⟩,.inr ⟨rfl,rfl⟩⟩

end Drive
end Freshell.Library.Drives
