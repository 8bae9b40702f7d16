import Freshell.SessionHost.CommandJournal
import Freshell.Library.Runs

/-!
Input reaches a hosted terminal at most once. Bytes are handed over only after the file
says that they are under way, so that neither a retry nor a reopened journal finds their
request still queued.
-/
namespace Freshell.SessionHost.HostedTerminal
open Freshell.Library.Tables Freshell.Library.Runs

variable {digest : String → String}

structure AtMostOnce (digest : String → String) (host : HostedTerminal) (op : HostOp) : Prop where
  /-- The bytes of a request are handed over once at most. -/
  once : ∀ id, ((host.next digest op).handed.map Prod.fst).count id ≤ 1
  /-- An id that is on disk with another payload is refused, and nothing changes. -/
  conflict : ∀ id data faults file record first, op = .write id data faults → host.commands.isSome →
    host.disk = some file → file.lookup id = some record → record.payloadDigest = digest first → first ≠ data →
      host.writeInput digest id data faults = (host,.error HostedTerminal.conflict)
  completed : ∀ id data faults, op = .write id data faults →
    (host.writeInput digest id data faults).2 = .state .completed → id ∈ (host.next digest op).taken
  ambiguous : ∀ id data faults, op = .write id data faults → host.commands.isSome →
    (id,data) ∈ host.handed → id ∉ host.taken →
      host.writeInput digest id data faults = (host,.error HostedTerminal.ambiguous)
  /-- A request is dispatched only if its bytes were never handed over. -/
  dispatched : ∀ id data faults, op = .write id data faults → id ∈ host.handed.map Prod.fst →
    (host.next digest op).handed = host.handed

/-- What a copy of the journal says of the history. -/
structure Records (digest : String → String) (host : HostedTerminal) (file : JournalFile) : Prop where
  /-- Bytes that were handed over are past the queue. -/
  handed : ∀ id data, (id,data) ∈ host.handed →
    ∃ record, file.lookup id = some record ∧ record.payloadDigest = digest data ∧ record.state ≠ .queued
  completed : ∀ id record, file.lookup id = some record →
    JournalFile.disposition record.state = .completed → id ∈ host.taken

def Behind (disk : Option JournalFile) (file : JournalFile) : Prop :=
  ∀ old, disk = some old → ∀ id record, old.lookup id = some record →
    ∃ now, file.lookup id = some now ∧ now.payloadDigest = record.payloadDigest

structure Journaled (digest : String → String) (host : HostedTerminal) : Prop where
  once : ∀ id, (host.handed.map Prod.fst).count id ≤ 1
  disk : Records digest host (host.disk.getD ∅)
  memory : ∀ file, host.commands = some file → Records digest host file ∧ Behind host.disk file

theorem records_empty (file : JournalFile) (empty : file = ∅) : Records digest {} file where
  handed _ _ listed := by cases listed
  completed _ _ found := by simp [empty] at found

theorem journaled_new : Journaled digest {} where
  once _ := Nat.zero_le _
  disk := records_empty _ rfl
  memory _ up := by cases up

variable {host : HostedTerminal} {file : JournalFile} {id data : String} {record : CommandRecord}

theorem lookup_setState (file : JournalFile) (id other : String) (state : CommandState) :
    (file.setState id state).lookup other =
      (file.lookup other).map fun record => if other = id then { record with state := state } else record := by
  unfold JournalFile.setState
  cases found : file.lookup id with
  | none =>
    by_cases same : other = id
    · subst same
      simp [found]
    · simp [same]
  | some record =>
    rw [lookup_insert]
    by_cases same : other = id
    · subst same
      simp [found]
    · simp [same]

theorem Records.setState (records : Records digest host file) {state : CommandState} (begun : state ≠ .queued)
    (taken : JournalFile.disposition state = .completed → id ∈ host.taken) :
    Records digest host (file.setState id state) where
  handed other bytes listed := by
    obtain ⟨record,found,same,past⟩ := records.handed other bytes listed
    rw [lookup_setState,found]
    refine ⟨_,rfl,?_,?_⟩
    · split
      · exact same
      · exact same
    · split
      · exact begun
      · exact past
  completed other record found completed := by
    rw [lookup_setState] at found
    obtain ⟨held,listed,rfl⟩ := Option.map_eq_some_iff.mp found
    split at completed
    next same => exact same ▸ taken completed
    next => exact records.completed other held listed completed

theorem Behind.setState {disk : Option JournalFile} (behind : Behind disk file) (id : String) (state : CommandState) :
    Behind disk (file.setState id state) := by
  intro old held other record listed
  obtain ⟨now,found,same⟩ := behind old held other record listed
  rw [lookup_setState,found]
  refine ⟨_,rfl,?_⟩
  split
  · exact same
  · exact same

theorem behind_self (file : JournalFile) : Behind (some file) file := by
  intro old same id record listed
  obtain rfl := Option.some.inj same
  exact ⟨record,listed,rfl⟩

theorem Journaled.persist (journaled : Journaled digest host) (records : Records digest host file)
    (behind : Behind host.disk file) (outcome : Persist) : Journaled digest (host.persist file outcome) := by
  have disk := outcome.disk_cases host.disk file
  refine ⟨journaled.once,?_,fun held up => ?_⟩
  · show Records digest _ ((outcome.disk host.disk file).getD ∅)
    obtain new | old := disk
    · rw [new]
      exact ⟨records.handed,records.completed⟩
    · rw [old]
      exact ⟨journaled.disk.handed,journaled.disk.completed⟩
  · have same : file = held := by
      unfold HostedTerminal.persist at up
      cases outcome with
      | done => exact Option.some.inj up
      | failed replaced error => exact Option.some.inj up
      | crashed replaced => cases up
    subst same
    refine ⟨⟨records.handed,records.completed⟩,?_⟩
    show Behind (outcome.disk host.disk file) file
    obtain new | old := disk
    · rw [new]
      exact behind_self file
    · rw [old]
      exact behind

theorem Journaled.crash (journaled : Journaled digest host) : Journaled digest host.crash where
  once := journaled.once
  disk := ⟨journaled.disk.handed,journaled.disk.completed⟩
  memory _ up := by cases up

/-- What is kept of a call: the journal agrees with the history, and only what was taken
    is answered as completed. -/
def Keeps (digest : String → String) (id : String) (result : HostedTerminal × Reply) : Prop :=
  Journaled digest result.1 ∧ (result.2 = .state .completed → id ∈ result.1.taken)

theorem Journaled.afterPersist (journaled : Journaled digest host) (records : Records digest host file)
    (behind : Behind host.disk file) (outcome : Persist) {next : HostedTerminal → HostedTerminal × Reply}
    (goes : Journaled digest (host.persist file .done) → Keeps digest id (next (host.persist file .done))) :
    Keeps digest id (host.afterPersist file outcome next) := by
  have persisted := journaled.persist records behind outcome
  cases outcome with
  | done => exact goes persisted
  | failed replaced error => exact ⟨persisted,fun answer => nomatch answer⟩
  | crashed replaced => exact ⟨persisted,fun answer => nomatch answer⟩

theorem Journaled.handOver (journaled : Journaled digest host) (disk : host.disk = some file)
    (up : host.commands = some file) (found : file.lookup id = some ⟨digest data,.dispatching⟩)
    (first : ∀ bytes, (id,bytes) ∉ host.handed) (faults : Faults) :
    Keeps digest id (host.handOver file id data faults) := by
  have records := (journaled.memory file up).1
  have handed : Journaled digest { host with handed := host.handed ++ [(id,data)] } := by
    have both : Records digest { host with handed := host.handed ++ [(id,data)] } file := by
      refine ⟨fun other bytes listed => ?_,records.completed⟩
      obtain earlier | now := List.mem_append.mp listed
      · exact records.handed other bytes earlier
      · obtain ⟨rfl,rfl⟩ := Prod.mk.inj (List.mem_singleton.mp now)
        exact ⟨_,found,rfl,by simp⟩
    refine ⟨fun other => ?_,?_,fun held same => ?_⟩
    · rw [List.map_append,List.count_append]
      by_cases same : id = other
      · subst same
        have none_ : (host.handed.map Prod.fst).count id = 0 := by
          refine List.count_eq_zero.mpr fun listed => ?_
          obtain ⟨⟨_,bytes⟩,member,rfl⟩ := List.mem_map.mp listed
          exact first bytes member
        simp [none_]
      · simpa [same] using journaled.once other
    · have same : host.disk.getD ∅ = file := by rw [disk]; rfl
      show Records digest _ (host.disk.getD ∅)
      rw [same]
      exact both
    · have same : host.commands = some held := same
      rw [up] at same
      obtain rfl := Option.some.inj same
      exact ⟨both,by rw [disk]; exact behind_self _⟩
  unfold HostedTerminal.handOver
  dsimp only
  cases faults.handOver with
  | failed error => exact ⟨handed,fun answer => nomatch answer⟩
  | crashed => exact ⟨handed.crash,fun answer => nomatch answer⟩
  | done =>
    have taken : Journaled digest
        { host with handed := host.handed ++ [(id,data)], taken := host.taken ++ [id] } := by
      refine ⟨handed.once,⟨handed.disk.handed,fun other record listed done => ?_⟩,fun held same => ?_⟩
      · exact List.mem_append_left _ (handed.disk.completed other record listed done)
      · obtain ⟨records,behind⟩ := handed.memory held same
        exact ⟨⟨records.handed,fun other record listed done =>
          List.mem_append_left _ (records.completed other record listed done)⟩,behind⟩
    obtain ⟨records,behind⟩ := taken.memory file up
    exact taken.afterPersist (records.setState (by simp) fun _ => by simp) (behind.setState id .completed)
      faults.completed fun persisted => ⟨persisted,fun _ => by simp [HostedTerminal.persist]⟩

theorem Journaled.dispatch (journaled : Journaled digest host) (up : host.commands = some file)
    (found : file.lookup id = some ⟨digest data,.queued⟩) (faults : Faults) :
    Keeps digest id (host.dispatch file id data faults) := by
  obtain ⟨records,behind⟩ := journaled.memory file up
  have first (bytes : String) : (id,bytes) ∉ host.handed := by
    intro listed
    obtain ⟨record,held,-,past⟩ := records.handed id bytes listed
    obtain rfl := Option.some.inj (found.symm.trans held)
    exact past rfl
  refine journaled.afterPersist (records.setState (by simp) (by simp [JournalFile.disposition]))
    (behind.setState id .dispatching) faults.dispatching fun persisted => ?_
  exact persisted.handOver rfl rfl (by rw [lookup_setState,found]; simp) first faults

theorem Journaled.write (journaled : Journaled digest host) (id data : String) (faults : Faults) :
    Keeps digest id (host.writeInput digest id data faults) := by
  unfold HostedTerminal.writeInput
  cases up : host.commands with
  | none => exact ⟨journaled,fun answer => nomatch answer⟩
  | some file =>
    obtain ⟨records,behind⟩ := journaled.memory file up
    dsimp only
    cases found : file.lookup id with
    | some record =>
      dsimp only
      split
      · exact ⟨journaled,fun answer => nomatch answer⟩
      next same =>
        cases disposition : JournalFile.disposition record.state with
        | completed => exact ⟨journaled,fun _ => records.completed id record found disposition⟩
        | ambiguous => exact ⟨journaled,fun answer => nomatch answer⟩
        | dispatch =>
          have queued : record = ⟨digest data,.queued⟩ := by
            obtain ⟨payload,state⟩ := record
            cases state <;> simp_all [JournalFile.disposition]
          exact journaled.dispatch up (queued ▸ found) faults
    | none =>
      have begun : Records digest host (file.insert id ⟨digest data,.queued⟩) := by
        refine ⟨fun other bytes listed => ?_,fun other record listed completed => ?_⟩
        · obtain ⟨record,held,rest⟩ := records.handed other bytes listed
          have different : other ≠ id := by
            rintro rfl
            rw [found] at held
            cases held
          exact ⟨record,by rw [lookup_insert,if_neg different]; exact held,rest⟩
        · rw [lookup_insert] at listed
          split at listed
          · obtain rfl := Option.some.inj listed
            cases completed
          · exact records.completed other record listed completed
      have stillBehind : Behind host.disk (file.insert id ⟨digest data,.queued⟩) := by
        intro old held other record listed
        obtain ⟨now,here,same⟩ := behind old held other record listed
        have different : other ≠ id := by
          rintro rfl
          rw [found] at here
          cases here
        exact ⟨now,by rw [lookup_insert,if_neg different]; exact here,same⟩
      refine journaled.afterPersist begun stillBehind faults.begun fun persisted => ?_
      exact persisted.dispatch rfl (by simp) faults

theorem lookup_recover (file : JournalFile) (id : String) :
    file.recover.lookup id = (file.lookup id).map JournalFile.interrupted :=
  lookup_mapValues _ file id

@[simp] theorem disposition_interrupted (record : CommandRecord) :
    JournalFile.disposition (JournalFile.interrupted record).state = JournalFile.disposition record.state := by
  obtain ⟨payload,state⟩ := record
  cases state <;> rfl

theorem Records.recover (records : Records digest host file) : Records digest host file.recover where
  handed id data listed := by
    obtain ⟨record,found,same,past⟩ := records.handed id data listed
    refine ⟨JournalFile.interrupted record,by rw [lookup_recover,found]; rfl,?_,?_⟩
    · unfold JournalFile.interrupted
      split
      · exact same
      · exact same
    · unfold JournalFile.interrupted
      split
      · simp
      · exact past
  completed id record found completed := by
    rw [lookup_recover] at found
    obtain ⟨held,listed,rfl⟩ := Option.map_eq_some_iff.mp found
    exact records.completed id held listed (by simpa using completed)

theorem behind_recover {disk : Option JournalFile} : Behind disk (disk.getD ∅).recover := by
  intro old same id record listed
  subst same
  refine ⟨JournalFile.interrupted record,?_,?_⟩
  · show old.recover.lookup id = _
    rw [lookup_recover,listed]
    rfl
  · unfold JournalFile.interrupted
    split
    · rfl
    · rfl

/-- A journal that is opened knows what is on disk, with what was under way as ambiguous. -/
theorem Journaled.openJournal (journaled : Journaled digest host) (down : host.commands = none) (outcome : Persist) :
    Journaled digest (host.openJournal outcome) := by
  have records := journaled.disk.recover
  have behind : Behind host.disk (host.disk.getD ∅).recover := behind_recover
  unfold HostedTerminal.openJournal
  dsimp only
  split
  next same =>
    rw [same] at records behind
    refine ⟨journaled.once,⟨journaled.disk.handed,journaled.disk.completed⟩,fun file up => ?_⟩
    obtain rfl : host.disk.getD ∅ = file := Option.some.inj up
    exact ⟨⟨records.handed,records.completed⟩,behind⟩
  next =>
    have persisted := journaled.persist records behind outcome
    cases outcome with
    | done => exact persisted
    | crashed replaced => exact persisted
    | failed replaced error =>
      refine ⟨journaled.once,⟨persisted.disk.handed,persisted.disk.completed⟩,fun file up => ?_⟩
      have up : host.commands = some file := up
      rw [down] at up
      cases up

theorem Journaled.next (journaled : Journaled digest host) (op : HostOp) : Journaled digest (host.next digest op) := by
  cases op with
  | write id data faults => exact (journaled.write id data faults).1
  | crash => exact journaled.crash
  | openJournal outcome =>
    simp only [HostedTerminal.next]
    split
    next down => exact journaled.openJournal (Option.isNone_iff_eq_none.mp down) outcome
    · exact journaled

theorem Journaled.writeHanded (journaled : Journaled digest host) (listed : id ∈ host.handed.map Prod.fst)
    (data : String) (faults : Faults) : (host.writeInput digest id data faults).1 = host := by
  obtain ⟨⟨_,bytes⟩,member,rfl⟩ := List.mem_map.mp listed
  unfold HostedTerminal.writeInput
  cases up : host.commands with
  | none => rfl
  | some file =>
    obtain ⟨record,found,-,past⟩ := (journaled.memory file up).1.handed _ bytes member
    have notDispatched : JournalFile.disposition record.state ≠ .dispatch := by
      obtain ⟨payload,state⟩ := record
      cases state <;> simp_all [JournalFile.disposition]
    dsimp only
    rw [found]
    dsimp only
    split
    · rfl
    · split
      · rfl
      · rfl
      · contradiction

theorem Journaled.atMostOnce (distinct : Function.Injective digest) (journaled : Journaled digest host) (op : HostOp) :
    AtMostOnce digest host op where
  once := (journaled.next op).once
  conflict id data faults file record first isWrite up held found same different := by
    obtain ⟨memory,up⟩ := Option.isSome_iff_exists.mp up
    obtain ⟨now,here,agrees⟩ := (journaled.memory memory up).2 file held id record found
    have differs : now.payloadDigest ≠ digest data := by
      rw [agrees,same]
      exact fun equal => different (distinct equal)
    simp [HostedTerminal.writeInput,up,here,differs]
  completed id data faults isWrite answer := by
    subst isWrite
    exact (journaled.write id data faults).2 answer
  ambiguous id data faults isWrite up listed untaken := by
    obtain ⟨file,up⟩ := Option.isSome_iff_exists.mp up
    have records := (journaled.memory file up).1
    obtain ⟨record,found,same,past⟩ := records.handed id data listed
    have disposition : JournalFile.disposition record.state = .ambiguous := by
      have uncompleted := fun completed => untaken (records.completed id record found completed)
      obtain ⟨payload,state⟩ := record
      cases state <;> simp_all [JournalFile.disposition]
    simp [HostedTerminal.writeInput,up,found,same,disposition]
  dispatched id data faults isWrite listed := by
    subst isWrite
    show (host.writeInput digest id data faults).1.handed = _
    rw [journaled.writeHanded listed]

/-- **Input is written at most once.** In every run of inputs, crashes and reopenings,
    whichever replacements and writes fail, each call is as `AtMostOnce` says. -/
theorem writesOnce_run (digest : String → String) (distinct : Function.Injective digest) (ops : List HostOp) :
    Along (HostedTerminal.next digest) (AtMostOnce digest) {} ops := by
  have from_ (start : HostedTerminal) (journaled : Journaled digest start) :
      Along (HostedTerminal.next digest) (AtMostOnce digest) start ops := by
    induction ops generalizing start with
    | nil => trivial
    | cons op rest ih => exact ⟨journaled.atMostOnce distinct op,ih _ (journaled.next op)⟩
  exact from_ {} journaled_new

/-- The host goes down with a write under way, and the retry is refused. -/
theorem writesOnce_crash :
    Along (HostedTerminal.next fun payload => payload) (AtMostOnce fun payload => payload) {}
      [.openJournal .done,.write "r" "ls" { handOver := .crashed },.openJournal .done,.write "r" "ls" {}] :=
  writesOnce_run (fun payload => payload) (fun _ _ same => same) _

end Freshell.SessionHost.HostedTerminal
