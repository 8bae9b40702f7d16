import Freshell.Registry.Claims
import Freshell.Library.Runs

/-!
The leases of session references against the answers that granted them: a ledger
of every `Acquired`, of those that no step has ended yet, and of those that a
completion has consumed.
-/
namespace Freshell.Registry
open Freshell.Library.Tables
set_option linter.unusedSimpArgs false

/-- What the answers of the run have granted, bound and consumed. A grant is
    known by its place in `granted`. -/
structure Ledger where
  granted : List Claimant
  outstanding : List (String × Nat)
  consumed : List Nat
  bound : List (String × String)

namespace Ledger

def new : Ledger := ⟨[],[],[],[]⟩

def keeps (l : Ledger) (kept : String × Nat → Bool) : Ledger := { l with outstanding := l.outstanding.filter kept }

def grants (l : Ledger) (claimant : Claimant) : Ledger :=
  { l with granted := l.granted ++ [claimant], outstanding := l.outstanding ++ [(claimant.key,l.granted.length)] }

/-- The grants that the completion of the reference takes. -/
def taken (l : Ledger) (key : String) : List Nat := (l.outstanding.filter (·.1 = key)).map Prod.snd

def binds (l : Ledger) (key terminalId : String) : Ledger :=
  { l.keeps (·.1 ≠ key) with consumed := l.consumed ++ l.taken key, bound := (key,terminalId) :: l.bound }

/-- The keys whose leases a dead connection gives up: those with no child to kill. -/
def freed (leases : List (SessionLocator × Option UInt32)) : List String :=
  (leases.filter (·.2 = none)).map (sessionRefKey ·.1)

def note (l : Ledger) : Op → Reply → Ledger
  | .claimStep _, .answered claimant .acquired => l.grants claimant
  | .complete locator _ terminalId, .completed true => l.binds (sessionRefKey locator) terminalId
  | .fail locator request, _ =>
    l.keeps fun entry => ¬(entry.1 = sessionRefKey locator ∧ (l.granted[entry.2]?.map (·.createRequestId)) = some request)
  | .releaseForConn _, .released leases => l.keeps (·.1 ∉ freed leases)
  | .forceRelease locator, _ => l.keeps (·.1 ≠ sessionRefKey locator)
  | _, _ => l

/-- The lease is the one that the answer granted. -/
structure Holds (claimant : Claimant) (key : String) (lease : SessionRefLease) : Prop where
  reference : claimant.key = key
  locator : sessionRefKey lease.locator = key
  request : lease.holderCreateRequestId = claimant.createRequestId
  conn : lease.holderConn = claimant.conn

/-- The outstanding grants are the leases that the registry holds, one a reference. -/
structure Synced (l : Ledger) (leases : Leases) : Prop where
  held : ∀ entry ∈ l.outstanding, ∃ lease claimant, leases.lookup entry.1 = some lease ∧
    l.granted[entry.2]? = some claimant ∧ Holds claimant entry.1 lease
  known : ∀ key lease, leases.lookup key = some lease → ∃ token, (key,token) ∈ l.outstanding
  single : (l.outstanding.map Prod.fst).Nodup
  distinct : (l.outstanding.map Prod.snd ++ l.consumed).Nodup
  earlier : ∀ token ∈ l.consumed, token < l.granted.length

namespace Synced
variable {l : Ledger} {leases after : Leases}

theorem empty : Synced new ∅ where
  held _ listed := nomatch listed
  known _ _ found := nomatch found
  single := .nil
  distinct := .nil
  earlier _ listed := nomatch listed

theorem keeps (synced : l.Synced leases) (drop : String → Prop) [DecidablePred drop] {kept : String × Nat → Bool}
    (lookup : ∀ key, after.lookup key = if drop key then none else leases.lookup key)
    (filter : ∀ entry ∈ l.outstanding, kept entry = true ↔ ¬drop entry.1) : (l.keeps kept).Synced after where
  held entry listed := by
    obtain ⟨was,keep⟩ := List.mem_filter.mp listed
    obtain ⟨lease,claimant,found,granted,holds⟩ := synced.held entry was
    refine ⟨lease,claimant,?_,granted,holds⟩
    rw [lookup,if_neg ((filter entry was).mp keep),found]
  known key lease found := by
    rw [lookup] at found
    split at found
    · cases found
    · next keep =>
      obtain ⟨token,listed⟩ := synced.known key lease found
      exact ⟨token,List.mem_filter.mpr ⟨listed,(filter _ listed).mpr keep⟩⟩
  single := synced.single.sublist (List.filter_sublist.map Prod.fst)
  distinct := synced.distinct.sublist ((List.filter_sublist.map Prod.snd).append_right l.consumed)
  earlier := synced.earlier

theorem replaces (synced : l.Synced leases) {key : String} {lease changed : SessionRefLease}
    (found : leases.lookup key = some lease) (locator : changed.locator = lease.locator)
    (request : changed.holderCreateRequestId = lease.holderCreateRequestId)
    (conn : changed.holderConn = lease.holderConn) : l.Synced (leases.insert key changed) where
  held entry listed := by
    obtain ⟨was,claimant,before,granted,holds⟩ := synced.held entry listed
    rw [lookup_insert]
    by_cases same : entry.1 = key
    · rw [same,found] at before
      obtain rfl := Option.some.inj before
      rw [if_pos same]
      exact ⟨changed,claimant,rfl,granted,holds.reference,locator ▸ holds.locator,request.trans holds.request,
        conn.trans holds.conn⟩
    · rw [if_neg same]
      exact ⟨was,claimant,before,granted,holds⟩
  known other held listed := by
    rw [lookup_insert] at listed
    split at listed
    · next same =>
      subst same
      exact synced.known other lease found
    · exact synced.known other held listed
  single := synced.single
  distinct := synced.distinct
  earlier := synced.earlier

theorem token_lt (synced : l.Synced leases) {entry : String × Nat} (listed : entry ∈ l.outstanding) :
    entry.2 < l.granted.length := by
  obtain ⟨_,_,_,granted,_⟩ := synced.held entry listed
  exact (List.getElem?_eq_some_iff.mp granted).1

theorem grants (synced : l.Synced leases) {claimant : Claimant} (free : leases.lookup claimant.key = none) :
    (l.grants claimant).Synced (leases.insert claimant.key claimant.lease) where
  held entry listed := by
    rcases List.mem_append.mp listed with was | now
    · obtain ⟨lease,holder,found,granted,holds⟩ := synced.held entry was
      have distinct : entry.1 ≠ claimant.key := by
        intro same
        rw [same,free] at found
        cases found
      refine ⟨lease,holder,?_,?_,holds⟩
      · rw [lookup_insert,if_neg distinct,found]
      · exact (List.getElem?_append_left (synced.token_lt was)).trans granted
    · obtain rfl := List.mem_singleton.mp now
      refine ⟨claimant.lease,claimant,?_,List.getElem?_concat_length,⟨rfl,rfl,rfl,rfl⟩⟩
      rw [lookup_insert,if_pos rfl]
  known key lease found := by
    rw [lookup_insert] at found
    split at found
    · next same =>
      exact ⟨l.granted.length,List.mem_append_right _ (List.mem_singleton.mpr (by rw [same]))⟩
    · obtain ⟨token,listed⟩ := synced.known key lease found
      exact ⟨token,List.mem_append_left _ listed⟩
  single := by
    show ((l.outstanding ++ [(claimant.key,l.granted.length)]).map Prod.fst).Nodup
    rw [List.map_append,List.nodup_append]
    refine ⟨synced.single,List.nodup_singleton _,?_⟩
    rintro key listed other single rfl
    obtain ⟨entry,was,rfl⟩ := List.mem_map.mp listed
    obtain ⟨lease,_,found,_⟩ := synced.held entry was
    rw [List.mem_singleton.mp single,free] at found
    cases found
  distinct := by
    show ((l.outstanding ++ [(claimant.key,l.granted.length)]).map Prod.snd ++ l.consumed).Nodup
    have fresh : l.granted.length ∉ l.outstanding.map Prod.snd ++ l.consumed := by
      intro listed
      rcases List.mem_append.mp listed with held | used
      · obtain ⟨entry,was,same⟩ := List.mem_map.mp held
        have bound := synced.token_lt was
        omega
      · have bound := synced.earlier _ used
        omega
    rw [List.map_append,List.append_assoc]
    exact (List.perm_middle.nodup_iff).mpr (List.nodup_cons.mpr ⟨fresh,synced.distinct⟩)
  earlier token used := by
    have bound := synced.earlier token used
    show token < (l.granted ++ [claimant]).length
    rw [List.length_append]
    omega

theorem filter_key {entries : List (String × Nat)} {key : String} {token : Nat} (single : (entries.map Prod.fst).Nodup)
    (listed : (key,token) ∈ entries) : entries.filter (·.1 = key) = [(key,token)] := by
  induction entries with
  | nil => cases listed
  | cons entry rest ih =>
    obtain ⟨alone,others⟩ := List.nodup_cons.mp single
    rcases List.mem_cons.mp listed with rfl | later
    · have none : rest.filter (·.1 = key) = [] := by
        rw [List.filter_eq_nil_iff]
        intro other member same
        exact alone (List.mem_map.mpr ⟨other,member,of_decide_eq_true same⟩)
      rw [List.filter_cons_of_pos (by simp),none]
    · have other : entry.1 ≠ key := by
        rintro rfl
        exact alone (List.mem_map.mpr ⟨_,later,rfl⟩)
      rw [List.filter_cons_of_neg (by simpa using other)]
      exact ih others later

theorem taken (synced : l.Synced leases) {key : String} {lease : SessionRefLease} (found : leases.lookup key = some lease) :
    ∃ token claimant, l.taken key = [token] ∧ (key,token) ∈ l.outstanding ∧ l.granted[token]? = some claimant ∧
      Holds claimant key lease ∧ token ∉ l.consumed := by
  obtain ⟨token,listed⟩ := synced.known key lease found
  obtain ⟨held,claimant,same,granted,holds⟩ := synced.held _ listed
  obtain rfl := Option.some.inj (found.symm.trans same)
  refine ⟨token,claimant,?_,listed,granted,holds,?_⟩
  · rw [Ledger.taken,filter_key synced.single listed]
    rfl
  · intro used
    exact (List.nodup_append.mp synced.distinct).2.2 token (List.mem_map.mpr ⟨_,listed,rfl⟩) token used rfl

theorem binds (synced : l.Synced leases) {key : String} {lease : SessionRefLease} (found : leases.lookup key = some lease)
    (terminalId : String) : (l.binds key terminalId).Synced (leases.erase key) := by
  obtain ⟨token,claimant,only,listed,granted,_,unused⟩ := synced.taken found
  have kept : (l.keeps (·.1 ≠ key)).Synced (leases.erase key) := by
    apply synced.keeps (fun other => other = key) (fun other => lookup_erase leases key other)
    intro entry _
    simp
  refine ⟨kept.held,kept.known,kept.single,?_,?_⟩
  · show ((l.outstanding.filter (·.1 ≠ key)).map Prod.snd ++ (l.consumed ++ l.taken key)).Nodup
    have absent : token ∉ (l.outstanding.filter (·.1 ≠ key)).map Prod.snd := by
      intro member
      obtain ⟨entry,still,same⟩ := List.mem_map.mp member
      obtain ⟨was,other⟩ := List.mem_filter.mp still
      have tokens : (l.outstanding.map Prod.snd).Nodup := (List.nodup_append.mp synced.distinct).1
      have equal : entry = (key,token) := List.inj_on_of_nodup_map tokens was listed same
      rw [equal] at other
      simp at other
    have without : (l.outstanding.filter (·.1 ≠ key)).map Prod.snd ++ l.consumed |>.Nodup := kept.distinct
    rw [only,← List.append_assoc,List.nodup_append]
    refine ⟨without,List.nodup_singleton _,?_⟩
    rintro other member last single rfl
    obtain rfl := List.mem_singleton.mp single
    rcases List.mem_append.mp member with outstanding | used
    · exact absent outstanding
    · exact unused used
  · intro other member
    rcases List.mem_append.mp member with used | last
    · exact synced.earlier other used
    · rw [only,List.mem_singleton] at last
      rw [last]
      exact synced.token_lt listed

theorem fails (synced : l.Synced leases) (locator : SessionLocator) (request : String) :
    (l.note (.fail locator request) .done).Synced (failClaim leases locator request) := by
  apply synced.keeps (fun key => key = sessionRefKey locator ∧
    (leases.lookup key).map (·.holderCreateRequestId) = some request)
  · intro key
    unfold failClaim
    rcases found : leases.lookup (sessionRefKey locator) with _ | lease
    · simp only
      split
      · next both => rw [both.1,found]
      · rfl
    · by_cases holder : lease.holderCreateRequestId = request
      · simp only [if_pos holder,lookup_erase]
        by_cases same : key = sessionRefKey locator
        · rw [if_pos same,if_pos ⟨same,by rw [same,found,← holder]; rfl⟩]
        · rw [if_neg same,if_neg fun both => same both.1]
      · simp only [if_neg holder]
        rw [if_neg]
        rintro ⟨rfl,held⟩
        rw [found] at held
        exact holder (Option.some.inj held)
  · intro entry listed
    obtain ⟨lease,claimant,found,granted,holds⟩ := synced.held entry listed
    simp only [found,granted,holds.request,Option.map_some,Option.some.injEq,decide_eq_true_eq]

theorem releases (synced : l.Synced leases) (conn : ConnId) :
    (l.note (.releaseForConn conn) (.released (leasesOfConn leases conn))).Synced (releaseForConn leases conn) := by
  apply synced.keeps (fun key => (leases.lookup key).any fun lease => lease.holderConn = conn ∧ lease.pid = none)
  · intro key
    rw [releaseForConn,lookup_retain]
    rcases found : leases.lookup key with _ | lease
    · rfl
    · simp only [Option.any_some,Option.filter_some]
      by_cases holder : lease.holderConn = conn
      · by_cases child : lease.pid = none
        · simp [holder,child]
        · simp [holder,child,Option.isSome_iff_ne_none]
      · simp [holder]
  · intro entry listed
    obtain ⟨lease,claimant,found,granted,holds⟩ := synced.held entry listed
    have freed : entry.1 ∈ freed (leasesOfConn leases conn) ↔ lease.holderConn = conn ∧ lease.pid = none := by
      constructor
      · intro member
        obtain ⟨pair,reported,same⟩ := List.mem_map.mp member
        obtain ⟨listed,childless⟩ := List.mem_filter.mp reported
        obtain ⟨⟨key,other⟩,held,rfl⟩ := List.mem_map.mp listed
        obtain ⟨mapped,holder⟩ := List.mem_filter.mp held
        have recorded : leases.lookup key = some other := AList.mem_lookup_iff.mpr mapped
        obtain ⟨token,outstanding⟩ := synced.known key other recorded
        obtain ⟨_,_,also,_,named⟩ := synced.held _ outstanding
        obtain rfl := Option.some.inj (recorded.symm.trans also)
        have here : key = entry.1 := named.locator.symm.trans same
        rw [here,found] at recorded
        obtain rfl := Option.some.inj recorded
        exact ⟨of_decide_eq_true holder,of_decide_eq_true childless⟩
      · rintro ⟨holder,childless⟩
        have mapped := AList.mem_lookup_iff.mp found
        refine List.mem_map.mpr ⟨(lease.locator,lease.pid),List.mem_filter.mpr ⟨?_,by simp [childless]⟩,holds.locator⟩
        exact List.mem_map.mpr ⟨_,List.mem_filter.mpr ⟨mapped,by simp [holder]⟩,rfl⟩
    simp only [freed,found,Option.any_some,decide_eq_true_eq]

theorem setLeasePid (synced : l.Synced leases) (locator : SessionLocator) (request : String) (pid : UInt32) :
    l.Synced (Registry.setLeasePid leases locator request pid) := by
  unfold Registry.setLeasePid
  split
  · next lease found =>
    split
    · exact synced.replaces found rfl rfl rfl
    · exact synced
  · exact synced

end Synced
end Ledger
end Freshell.Registry
