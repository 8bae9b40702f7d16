import Freshell.PaneLedger.FileSteps

/-!
The closes of panes whose sessions go on, and what takes them back. A record names its panes
in two places; the first that names a pane speaks for it. A pane that opens again is taken
out of every such record and out of nothing else.
-/
namespace Freshell.PaneLedger
open Freshell.Library.Tables

variable {Payload : Type}

def CloseEnvelopeRecord.linkage (record : CloseEnvelopeRecord) (createRequestId : String) : Option PaneCloseLinkage :=
  (detachLinkages record).find? (·.createRequestId = createRequestId)

theorem find_linkages (panes seen : List PaneCloseLinkage) (createRequestId : String) :
    (panes.foldl (fun seen linkage =>
      if linkage.createRequestId = "" ∨ seen.any (·.createRequestId = linkage.createRequestId) then seen
      else seen ++ [linkage]) seen).find? (·.createRequestId = createRequestId) =
      (seen.find? (·.createRequestId = createRequestId)).or
        (if createRequestId = "" then none else panes.find? (·.createRequestId = createRequestId)) := by
  induction panes generalizing seen with
  | nil => simp
  | cons pane rest ih =>
    rw [List.foldl_cons,ih]
    by_cases own : pane.createRequestId = createRequestId
    · subst own
      by_cases empty : pane.createRequestId = ""
      · simp [empty]
      · cases found : seen.find? (·.createRequestId = pane.createRequestId) with
        | some earlier =>
          have listed : seen.any (·.createRequestId = pane.createRequestId) = true :=
            List.any_eq_true.mpr ⟨earlier,List.mem_of_find?_eq_some found,by simpa using List.find?_some found⟩
          simp [listed,found]
        | none =>
          have absent : seen.any (·.createRequestId = pane.createRequestId) = false := by
            simpa using found
          simp [empty,absent,found,List.find?_append]
    · have kept : (if pane.createRequestId = "" ∨ seen.any (·.createRequestId = pane.createRequestId) then seen
          else seen ++ [pane]).find? (·.createRequestId = createRequestId) =
            seen.find? (·.createRequestId = createRequestId) := by
        split
        · rfl
        · simp [List.find?_append,own]
      rw [kept,List.find?_cons_of_neg (by simpa using own)]

theorem linkage_eq (record : CloseEnvelopeRecord) (createRequestId : String) : record.linkage createRequestId =
    if createRequestId = "" then none
    else if record.createRequestId = some createRequestId then
      some { createRequestId, terminalId := record.terminalId }
    else record.panes.find? (·.createRequestId = createRequestId) := by
  unfold CloseEnvelopeRecord.linkage detachLinkages
  rw [find_linkages]
  cases top : record.createRequestId with
  | none => by_cases empty : createRequestId = "" <;> simp [empty]
  | some crid =>
    by_cases own : crid = createRequestId
    · subst own
      by_cases empty : crid = "" <;> simp [empty]
    · by_cases empty : crid = "" <;> by_cases void : createRequestId = "" <;> simp_all

theorem mem_detachLinkages (record : CloseEnvelopeRecord) (pane : PaneCloseLinkage) :
    pane ∈ detachLinkages record ↔ record.linkage pane.createRequestId = some pane := by
  have once : ∀ (panes seen : List PaneCloseLinkage), (seen.map (·.createRequestId)).Nodup →
      ((panes.foldl (fun seen linkage =>
        if linkage.createRequestId = "" ∨ seen.any (·.createRequestId = linkage.createRequestId) then seen
        else seen ++ [linkage]) seen).map (·.createRequestId)).Nodup := by
    intro panes
    induction panes with
    | nil => exact fun seen distinct => distinct
    | cons first rest ih =>
      intro seen distinct
      refine ih _ ?_
      beta_reduce
      split
      · exact distinct
      · next fresh =>
        have absent : first.createRequestId ∉ seen.map (·.createRequestId) := by simpa using (not_or.mp fresh).2
        rw [List.map_append,List.map_singleton]
        exact distinct.append (List.nodup_singleton _) (by simpa using absent)
  have distinct : ((detachLinkages record).map (·.createRequestId)).Nodup := by
    refine once record.panes _ ?_
    split
    · split <;> simp
    · simp
  constructor
  · intro listed
    obtain ⟨found,held⟩ := Option.isSome_iff_exists.mp (List.find?_isSome (p := fun other : PaneCloseLinkage =>
      decide (other.createRequestId = pane.createRequestId)) |>.mpr ⟨pane,listed,by simp⟩)
    have same := List.inj_on_of_nodup_map distinct (List.mem_of_find?_eq_some held) listed (by simpa using List.find?_some held)
    exact held.trans (congrArg some same)
  · exact List.mem_of_find?_eq_some

theorem withoutPane_cases (record : CloseEnvelopeRecord) (createRequestId : String) :
    (record.withoutPane createRequestId = none ∧ record.createRequestId.all (· = createRequestId) ∧
      record.panes.filter (·.createRequestId ≠ createRequestId) = [] ∧ record.kills = []) ∨
      ∃ kept, record.withoutPane createRequestId = some kept ∧ kept.kills = record.kills ∧
        kept.panes = record.panes.filter (·.createRequestId ≠ createRequestId) ∧
        (record.createRequestId = some createRequestId ∧ kept.createRequestId = none ∨
          record.createRequestId ≠ some createRequestId ∧ kept.createRequestId = record.createRequestId ∧
            kept.terminalId = record.terminalId) := by
  unfold CloseEnvelopeRecord.withoutPane
  simp only
  split
  · next own =>
    split
    · next last => exact .inl ⟨rfl,by simp [own],last.2.1,last.2.2⟩
    · exact .inr ⟨_,rfl,rfl,rfl,.inl ⟨own,rfl⟩⟩
  · next own =>
    split
    · next last => exact .inl ⟨rfl,by simp [show record.createRequestId = none from last.1],last.2.1,last.2.2⟩
    · exact .inr ⟨_,rfl,rfl,rfl,.inr ⟨own,rfl,rfl⟩⟩

theorem linkage_withoutPane (record : CloseEnvelopeRecord) (createRequestId other : String) :
    ((record.withoutPane createRequestId).bind (·.linkage other)) =
      if other = createRequestId then none else record.linkage other := by
  have panes : ∀ other, (record.panes.filter (·.createRequestId ≠ createRequestId)).find? (·.createRequestId = other) =
      if other = createRequestId then none else record.panes.find? (·.createRequestId = other) := by
    intro other
    rw [List.find?_filter]
    split
    · next same => exact List.find?_eq_none.mpr fun pane _ => by simp [same]
    · next distinct =>
      refine congrArg (List.find? · record.panes) (funext fun pane => ?_)
      by_cases own : pane.createRequestId = other
      · simp [own,distinct]
      · simp [own]
  obtain ⟨gone,top,none_,_⟩ | ⟨kept,less,_,list,top⟩ := withoutPane_cases record createRequestId
  · rw [gone]
    split
    · rfl
    · next distinct =>
      have absent := panes other
      rw [none_,if_neg distinct] at absent
      have another : record.createRequestId ≠ some other := by
        intro own
        simp [own,distinct] at top
      rw [linkage_eq,if_neg another,← absent]
      simp
  · rw [less,Option.bind_some,linkage_eq,linkage_eq,list,panes]
    obtain ⟨own,bare⟩ | ⟨own,same,terminal⟩ := top
    · rw [own,bare]
      by_cases distinct : other = createRequestId
      · simp [distinct]
      · simp [distinct,Ne.symm distinct]
    · rw [same,terminal]
      by_cases distinct : other = createRequestId
      · simp [distinct,own]
      · simp [distinct]

theorem kills_withoutPane (record : CloseEnvelopeRecord) (createRequestId : String) :
    ((record.withoutPane createRequestId).map (·.kills)).getD [] = record.kills := by
  obtain ⟨gone,_,_,none_⟩ | ⟨kept,less,same,_⟩ := withoutPane_cases record createRequestId
  · rw [gone,none_]
    rfl
  · rw [less]
    exact same

namespace Ledger

def linkage (ledger : Ledger Payload) (key createRequestId : String) : Option PaneCloseLinkage :=
  (ledger.index.closeEnvelopes.lookup key).bind (·.linkage createRequestId)

def listPaneDetachCloses (ledger : Ledger Payload) (order : Order) : List PaneCloseLinkage :=
  ((listed order.envelopes ledger.index.closeEnvelopes).filter fun entry => isDetachCloseKey entry.1).flatMap
    fun entry => detachLinkages entry.2

theorem mem_listPaneDetachCloses {ledger : Ledger Payload} {order : Order} {pane : PaneCloseLinkage} :
    pane ∈ ledger.listPaneDetachCloses order ↔
      ∃ key, isDetachCloseKey key = true ∧ ledger.linkage key pane.createRequestId = some pane := by
  simp only [listPaneDetachCloses,List.mem_flatMap,List.mem_filter,Prod.exists,mem_listed,mem_detachLinkages]
  constructor
  · rintro ⟨key,record,⟨found,detach⟩,own⟩
    exact ⟨key,detach,by rw [linkage,found]; exact own⟩
  · rintro ⟨key,detach,own⟩
    obtain ⟨record,found,own⟩ := Option.bind_eq_some_iff.mp own
    exact ⟨key,record,⟨found,detach⟩,own⟩

def killsAt (ledger : Ledger Payload) (key : String) : List PaneCloseKill :=
  ((ledger.index.closeEnvelopes.lookup key).map (·.kills)).getD []

/-- What taking a pane out of records leaves: of the pane no more than before, of the others
    the same, and every kill and fence. -/
structure Reopened (createRequestId : String) (before after : Ledger Payload) : Prop where
  own : ∀ key, after.linkage key createRequestId = before.linkage key createRequestId ∨
    after.linkage key createRequestId = none
  others : ∀ key other, other ≠ createRequestId → after.linkage key other = before.linkage key other
  kills : ∀ key, after.killsAt key = before.killsAt key
  fences : after.index.killTombstones = before.index.killTombstones

theorem Reopened.refl (createRequestId : String) (ledger : Ledger Payload) : Reopened createRequestId ledger ledger :=
  ⟨fun _ => .inl rfl,fun _ _ _ => rfl,fun _ => rfl,rfl⟩

theorem Reopened.trans {createRequestId : String} {first second third : Ledger Payload}
    (one : Reopened createRequestId first second) (two : Reopened createRequestId second third) :
    Reopened createRequestId first third where
  own key := by
    obtain same | gone := two.own key
    · rw [same]
      exact one.own key
    · exact .inr gone
  others key other distinct := (two.others key other distinct).trans (one.others key other distinct)
  kills key := (two.kills key).trans (one.kills key)
  fences := two.fences.trans one.fences

theorem reopened_of_kept (createRequestId : String) {before after : Ledger Payload}
    (envelopes : after.index.closeEnvelopes = before.index.closeEnvelopes)
    (fences : after.index.killTombstones = before.index.killTombstones) : Reopened createRequestId before after where
  own key := .inl (by simp only [linkage,envelopes])
  others key other _ := by simp only [linkage,envelopes]
  kills key := by simp only [killsAt,envelopes]
  fences := fences

section
variable (createRequestId : String) (state : Ledger Payload × Bool)

theorem reopened_consume (key : String) : Reopened createRequestId state.1 (consumeLinkage createRequestId state key).1 ∧
    ((consumeLinkage createRequestId state key).2 = true →
      state.2 = true ∧ (consumeLinkage createRequestId state key).1.linkage key createRequestId = none) := by
  unfold consumeLinkage
  cases found : state.1.index.closeEnvelopes.lookup key with
  | none => exact ⟨.refl _ _,fun good => ⟨good,by simp [linkage,found]⟩⟩
  | some record =>
    have replaced : ((state.1.replaceEnvelope key (record.withoutPane createRequestId)).2 = false ∧
        (state.1.replaceEnvelope key (record.withoutPane createRequestId)).1.index = state.1.index) ∨
        ((state.1.replaceEnvelope key (record.withoutPane createRequestId)).2 = true ∧
          (state.1.replaceEnvelope key (record.withoutPane createRequestId)).1.index.killTombstones =
            state.1.index.killTombstones ∧
          ∀ other, (state.1.replaceEnvelope key (record.withoutPane createRequestId)).1.index.closeEnvelopes.lookup other =
            if other = key then record.withoutPane createRequestId
            else state.1.index.closeEnvelopes.lookup other) := by
      cases less : record.withoutPane createRequestId with
      | none =>
        obtain failed | ⟨done,index⟩ := state.1.operate_index
          (fun files => { files with closeEnvelopes := files.closeEnvelopes.erase key })
          fun index => { index with closeEnvelopes := index.closeEnvelopes.erase key }
        · exact .inl failed
        · refine .inr ⟨done,congrArg (·.killTombstones) index,fun other => ?_⟩
          exact (congrArg (·.closeEnvelopes.lookup other) index).trans (lookup_erase _ _ _)
      | some kept =>
        obtain failed | ⟨done,index⟩ := state.1.operate_index
          (fun files => { files with closeEnvelopes := files.closeEnvelopes.insert key kept })
          fun index => { index with closeEnvelopes := index.closeEnvelopes.insert key kept }
        · exact .inl failed
        · refine .inr ⟨done,congrArg (·.killTombstones) index,fun other => ?_⟩
          exact (congrArg (·.closeEnvelopes.lookup other) index).trans (lookup_insert _ _ _ _)
    simp only
    generalize state.1.replaceEnvelope key (record.withoutPane createRequestId) = result at *
    obtain ⟨failed,same⟩ | ⟨done,fences,lookup⟩ := replaced
    · refine ⟨reopened_of_kept _ (by rw [same]) (by rw [same]),fun good => ?_⟩
      simp [failed] at good
    · -- The record that was under the key is the one without the pane; all others stand.
      have linkages : ∀ at_ other, result.1.linkage at_ other =
          if at_ = key ∧ other = createRequestId then none else state.1.linkage at_ other := by
        intro at_ other
        unfold linkage
        rw [lookup]
        by_cases own : at_ = key
        · subst own
          rw [if_pos rfl,linkage_withoutPane,found]
          by_cases same : other = createRequestId <;> simp [same]
        · simp [own]
      refine ⟨⟨fun at_ => ?_,fun at_ other distinct => ?_,fun at_ => ?_,fences⟩,fun good => ⟨?_,?_⟩⟩
      · rw [linkages]
        split
        · exact .inr rfl
        · exact .inl rfl
      · rw [linkages,if_neg fun both => distinct both.2]
      · unfold killsAt
        rw [lookup]
        split
        · next own =>
          rw [kills_withoutPane,own,found]
          rfl
        · rfl
      · exact (Bool.and_eq_true_iff.mp good).1
      · rw [linkages,if_pos ⟨rfl,rfl⟩]

theorem reopened_consumes (keys : List String) :
    Reopened createRequestId state.1 (keys.foldl (consumeLinkage createRequestId) state).1 ∧
      ((keys.foldl (consumeLinkage createRequestId) state).2 = true →
        state.2 = true ∧
          ∀ key ∈ keys, (keys.foldl (consumeLinkage createRequestId) state).1.linkage key createRequestId = none) := by
  induction keys generalizing state with
  | nil => exact ⟨.refl _ _,fun good => ⟨good,fun _ listed => nomatch listed⟩⟩
  | cons key rest ih =>
    rw [List.foldl_cons]
    obtain ⟨first,out⟩ := reopened_consume createRequestId state key
    obtain ⟨later,others⟩ := ih (consumeLinkage createRequestId state key)
    refine ⟨first.trans later,fun good => ?_⟩
    obtain ⟨good,gone⟩ := others good
    refine ⟨(out good).1,fun at_ listed => ?_⟩
    cases listed with
    | head =>
      obtain same | none_ := later.own key
      · exact same.trans (out good).2
      · exact none_
    | tail _ listed => exact gone at_ listed

variable (provenance : ProvenancePolicy) (nowMs : Int)

theorem consumeLinkages_apart {keys : List String} {other : String} (apart : other ∉ keys) :
    (keys.foldl (consumeLinkage createRequestId) state).1.index.closeEnvelopes.lookup other =
      state.1.index.closeEnvelopes.lookup other := by
  induction keys generalizing state with
  | nil => rfl
  | cons key rest ih =>
    obtain ⟨distinct,apart⟩ := not_or.mp (List.mem_cons.not.mp apart)
    rw [List.foldl_cons,ih _ apart]
    unfold consumeLinkage
    cases found : state.1.index.closeEnvelopes.lookup key with
    | none => rfl
    | some record =>
      simp only
      unfold replaceEnvelope
      split
      · refine state.1.operate_kept (·.closeEnvelopes.lookup other) _ ?_
        exact (lookup_erase _ _ _).trans (if_neg distinct)
      · refine state.1.operate_kept (·.closeEnvelopes.lookup other) _ ?_
        exact (lookup_insert _ _ _ _).trans (if_neg distinct)

variable (provenance : ProvenancePolicy) (nowMs : Int)

theorem reassertRows_kept (keys : List SessionKey) :
    (keys.foldl (reassertRow provenance nowMs) state).1.index.closeEnvelopes = state.1.index.closeEnvelopes ∧
      (keys.foldl (reassertRow provenance nowMs) state).1.index.killTombstones = state.1.index.killTombstones ∧
      ((keys.foldl (reassertRow provenance nowMs) state).2 = true → state.2 = true) := by
  induction keys generalizing state with
  | nil => exact ⟨rfl,rfl,id⟩
  | cons key rest ih =>
    have one : (reassertRow provenance nowMs state key).1.index.closeEnvelopes = state.1.index.closeEnvelopes ∧
        (reassertRow provenance nowMs state key).1.index.killTombstones = state.1.index.killTombstones ∧
        ((reassertRow provenance nowMs state key).2 = true → state.2 = true) := by
      unfold reassertRow
      split
      · exact ⟨rfl,rfl,id⟩
      simp only
      split
      · exact ⟨rfl,rfl,id⟩
      · have kept : ∀ row, (state.1.writeBinding row).1.index.closeEnvelopes = state.1.index.closeEnvelopes ∧
            (state.1.writeBinding row).1.index.killTombstones = state.1.index.killTombstones := by
          intro row
          obtain ⟨_,same⟩ | ⟨_,put⟩ := state.1.writeBinding_cases row
          · rw [same]
            exact ⟨rfl,rfl⟩
          · rw [put]
            exact ⟨rfl,rfl⟩
        exact ⟨(kept _).1,(kept _).2,fun both => (Bool.and_eq_true_iff.mp both).1⟩
    obtain ⟨envelopes,fences,good⟩ := ih (reassertRow provenance nowMs state key)
    rw [List.foldl_cons]
    exact ⟨envelopes.trans one.1,fences.trans one.2.1,fun both => one.2.2 (good both)⟩

end

section
variable (ledger : Ledger Payload) (order : Order) (createRequestId : String) (provenance : ProvenancePolicy) (nowMs : Int)

theorem notePaneOpened_reopened :
    Reopened createRequestId ledger (ledger.notePaneOpened order createRequestId provenance nowMs).1 ∧
      ((ledger.notePaneOpened order createRequestId provenance nowMs).2 = .ok () → ∀ key, isDetachCloseKey key = true →
        (ledger.notePaneOpened order createRequestId provenance nowMs).1.linkage key createRequestId = none) ∧
      ∀ key, isDetachCloseKey key = false ∨ ledger.linkage key createRequestId = none →
        (ledger.notePaneOpened order createRequestId provenance nowMs).1.index.closeEnvelopes.lookup key =
          ledger.index.closeEnvelopes.lookup key := by
  -- The records that carry the pane are just those that are rewritten.
  have carrying : ∀ key, key ∈ ((listed order.envelopes ledger.index.closeEnvelopes).filter fun entry =>
      isDetachCloseKey entry.1 && (detachLinkages entry.2).any (·.createRequestId = createRequestId)).map Prod.fst ↔
      isDetachCloseKey key = true ∧ ledger.linkage key createRequestId ≠ none := by
    intro key
    simp only [List.mem_map,List.mem_filter,Prod.exists,exists_and_right,exists_eq_right,mem_listed]
    unfold linkage
    cases found : ledger.index.closeEnvelopes.lookup key with
    | none => simp
    | some record => simp [CloseEnvelopeRecord.linkage]
  unfold notePaneOpened
  simp only [answer]
  generalize ((listed order.envelopes ledger.index.closeEnvelopes).filter _).map Prod.fst = keys at carrying ⊢
  obtain ⟨shed,gone⟩ := reopened_consumes createRequestId (ledger,true) keys
  have apart := fun key => @consumeLinkages_apart _ createRequestId (ledger,true) keys key
  generalize keys.foldl (consumeLinkage createRequestId) (ledger,true) = consumed at *
  obtain ⟨envelopes,fences,good⟩ := reassertRows_kept consumed provenance nowMs _
  refine ⟨shed.trans (reopened_of_kept _ envelopes fences),fun ok key detach => ?_,fun key stands => ?_⟩
  · split at ok
    · next both =>
      obtain ⟨_,gone⟩ := gone (good both)
      by_cases carries : key ∈ keys
      · simpa only [linkage,envelopes] using gone key carries
      · have none_ : ledger.linkage key createRequestId = none := by
          by_contra some_
          exact carries ((carrying key).mpr ⟨detach,some_⟩)
        simpa only [linkage,envelopes,apart key carries] using none_
    · cases ok
  · rw [envelopes]
    refine apart key fun carries => ?_
    obtain ⟨detach,some_⟩ := (carrying key).mp carries
    obtain other | none_ := stands
    · simp [other] at detach
    · exact some_ none_

/-- Only bound rows of the pane change, and only in their attribution. -/
def Reattributed (before : Ledger Payload) (createRequestId : String) (after : Ledger Payload) : Prop :=
  ∀ key, after.index.bindings.lookup key = before.index.bindings.lookup key ∨
    ∃ row attribution, before.index.bindings.lookup key = some row ∧ row.state = .bound ∧
      (row.createRequestId = some createRequestId ∨ row.originCreateRequestId = some createRequestId) ∧
      after.index.bindings.lookup key = some (row.attributed attribution)

theorem notePaneOpened_reattributed :
    ledger.Reattributed createRequestId (ledger.notePaneOpened order createRequestId provenance nowMs).1 := by
  refine (path_perform ledger (.notePaneOpened order createRequestId provenance nowMs)).invariant
    (ledger.Reattributed createRequestId) (fun before after step holds key => ?_) fun key => .inl rfl
  obtain same | ⟨row,writes,rfl,found⟩ | ⟨drops,_⟩ := step.lookup key
  · rw [same]
    exact holds key
  · rw [found]
    cases writes with
    | recorded w writes => simp [recordedWrite] at writes
    | agent w writes => cases writes
    | over_ old row stands change =>
      cases change with
      | attributed at_ crid provenance nowMs writes bound first keyed =>
        cases writes
        exact .inr ⟨old,_,first,bound,keyed,rfl⟩
      | superseded _ _ links => cases links
      | closed _ closes => cases closes
      | dominated _ sweeps => cases sweeps
      | expired _ sweeps => cases sweeps
      | consulted _ writes | missing _ _ _ writes | failed _ _ _ _ _ _ writes | reattached _ writes
      | stamped _ _ _ _ _ writes | revived _ _ _ _ _ _ writes | seen _ _ _ _ _ _ writes => cases writes
  · cases drops

end

inductive DetachClose where
  | pane (createRequestId : String) (terminalId : Option String)
  | batch (tabId : String) (panes : List PaneCloseLinkage)

def closeDetached (ledger : Ledger Payload) (nowMs : Int) : DetachClose → Ledger Payload × Except CloseEnvelopeError Unit
  | .pane createRequestId terminalId => ledger.closePaneDetached createRequestId terminalId nowMs
  | .batch tabId panes => ledger.closePanesDetached tabId panes nowMs

def DetachClose.names : DetachClose → List String
  | .pane createRequestId _ => [createRequestId]
  | .batch _ panes => panes.map (·.createRequestId)

theorem find_modifyFirst {Entry : Type} {test found : Entry → Bool} {change : Entry → Entry} (entries : List Entry)
    (apart : ∀ entry, test entry = true → found entry = false ∧ found (change entry) = false) :
    (modifyFirst test change entries).find? found = entries.find? found := by
  induction entries with
  | nil => rfl
  | cons entry rest ih =>
    unfold modifyFirst
    split
    · next passes =>
      obtain ⟨old,new⟩ := apart entry passes
      rw [List.find?_cons_of_neg (by simp [new]),List.find?_cons_of_neg (by simp [old])]
    · simp only [List.find?_cons,ih]

theorem find_mergeLinkages {panes : List PaneCloseLinkage} {other : String}
    (apart : other ∉ panes.map (·.createRequestId)) (held : List PaneCloseLinkage) :
    (panes.foldl mergeLinkage held).find? (·.createRequestId = other) = held.find? (·.createRequestId = other) := by
  induction panes generalizing held with
  | nil => rfl
  | cons pane rest ih =>
    obtain ⟨distinct,apart⟩ := not_or.mp (List.mem_cons.not.mp apart)
    rw [List.foldl_cons,ih apart]
    unfold mergeLinkage
    split
    · refine find_modifyFirst held fun entry own => ?_
      have own : entry.createRequestId = pane.createRequestId := by simpa using own
      simp [own,Ne.symm distinct]
    · rw [List.find?_append]
      simp [Ne.symm distinct]

/-- The record of a close has of the panes that the close does not name what it had of them. -/
theorem linkage_record {close : CloseSet} {prior : Option CloseEnvelopeRecord} {nowMs : Int} {other : String}
    (top : close.createRequestId ≠ some other) (apart : other ∉ close.panes.map (·.createRequestId)) :
    (close.record prior nowMs).linkage other = prior.bind (·.linkage other) := by
  unfold CloseSet.record
  rw [linkage_eq]
  simp only
  rw [find_mergeLinkages apart]
  cases prior with
  | none => simp [top]
  | some record =>
    rw [Option.bind_some,linkage_eq]
    cases held : record.createRequestId with
    | none => simp [held,top]
    | some crid => simp [held]

theorem closeEnvelope_done {ledger closed : Ledger Payload} {key : String} {close : CloseSet} {nowMs : Int}
    (nobody : close.identities = []) (done : ledger.closeEnvelope key close nowMs = (closed,.ok ())) :
    closed.index = feedCloseEnvelope ledger.index key (close.record (ledger.index.closeEnvelopes.lookup key) nowMs) := by
  have probes : ∀ (failed : Ledger Payload) record, (failed.probeOutcome key record).2 ≠ .ok () := by
    intro failed record
    unfold probeOutcome
    split
    · split <;> simp
    · simp
  have persisted : ∀ record hadPrior (after : Ledger Payload),
      ledger.persistCloseEnvelope key record hadPrior = (after,.ok ()) →
        after.index = feedCloseEnvelope ledger.index key record := by
    intro record hadPrior after ok
    unfold persistCloseEnvelope at ok
    split at ok
    · next written wrote =>
      cases ok
      obtain ⟨failed,_⟩ | ⟨_,fed⟩ := ledger.operate_index
        (fun files => { files with closeEnvelopes := files.closeEnvelopes.insert key record })
        fun index => feedCloseEnvelope index key record
      · exact absurd (congrArg Prod.snd wrote) (by rw [show (ledger.putEnvelope key record _).2 = false from failed]; simp)
      · rw [← fed]
        exact congrArg (·.1.index) wrote.symm
    · split at ok
      · exact absurd (congrArg Prod.snd ok) (probes _ _)
      · split at ok
        · cases ok
        · exact absurd (congrArg Prod.snd ok) (probes _ _)
  unfold closeEnvelope at done
  simp only at done
  split at done
  · cases done
  · next after outcome _ made =>
    rw [nobody] at done
    cases done
    exact persisted _ _ _ made

theorem linkage_closeDetached {ledger closed : Ledger Payload} {close : DetachClose} {nowMs : Int}
    (done : ledger.closeDetached nowMs close = (closed,.ok ())) {other : String} (apart : other ∉ close.names)
    (key : String) : closed.linkage key other = ledger.linkage key other := by
  have merged : ∀ at_ (set : CloseSet), set.identities = [] → ledger.closeEnvelope at_ set nowMs = (closed,.ok ()) →
      set.createRequestId ≠ some other → other ∉ set.panes.map (·.createRequestId) →
        closed.linkage key other = ledger.linkage key other := by
    intro at_ set nobody done top apart
    unfold linkage
    rw [closeEnvelope_done nobody done]
    unfold feedCloseEnvelope
    simp only [lookup_insert]
    split
    · next own => rw [Option.bind_some,linkage_record top apart,own]
    · rfl
  cases close with
  | pane createRequestId terminalId =>
    refine merged _ _ rfl done ?_ (by simp)
    simpa [DetachClose.names,eq_comm] using apart
  | batch tabId panes => exact merged _ _ rfl done (by simp) apart

/-- A pane that opens again, where the call reports success, is in no record of a detach any
    more; all other panes of all records stay, with every other record, every kill and every
    fence, and only the attribution of its own bound rows may change. After a close and a new
    opening of a pane the panes that the close does not name are as they were before both, and
    the others that it names as the close left them. -/
theorem reopening_exact (ledger : Ledger Payload) (createRequestId : String) :
    (∀ order provenance nowMs after, ledger.notePaneOpened order createRequestId provenance nowMs = (after,.ok ()) →
      (∀ order pane, pane ∈ after.listPaneDetachCloses order ↔
        pane ∈ ledger.listPaneDetachCloses order ∧ pane.createRequestId ≠ createRequestId) ∧
        (∀ key other, other ≠ createRequestId → after.linkage key other = ledger.linkage key other) ∧
        (∀ key, isDetachCloseKey key = false ∨ ledger.linkage key createRequestId = none →
          after.index.closeEnvelopes.lookup key = ledger.index.closeEnvelopes.lookup key) ∧
        (∀ key, after.killsAt key = ledger.killsAt key) ∧
        after.index.killTombstones = ledger.index.killTombstones ∧ ledger.Reattributed createRequestId after) ∧
      ∀ close closedMs closed order provenance openedMs reopened, createRequestId ∈ DetachClose.names close →
        ledger.closeDetached closedMs close = (closed,.ok ()) →
        closed.notePaneOpened order createRequestId provenance openedMs = (reopened,.ok ()) →
        ∀ key other, other ≠ createRequestId → reopened.linkage key other =
          if other ∈ DetachClose.names close then closed.linkage key other else ledger.linkage key other := by
  constructor
  · intro order provenance nowMs after opened
    obtain ⟨reopened,gone,apart⟩ := notePaneOpened_reopened ledger order createRequestId provenance nowMs
    have rows := notePaneOpened_reattributed ledger order createRequestId provenance nowMs
    rw [opened] at reopened gone apart rows
    refine ⟨fun order pane => ?_,reopened.others,apart,reopened.kills,reopened.fences,rows⟩
    rw [mem_listPaneDetachCloses,mem_listPaneDetachCloses]
    by_cases own : pane.createRequestId = createRequestId
    · simp only [own,ne_eq,not_true,and_false,iff_false]
      rintro ⟨key,detach,held⟩
      rw [gone rfl key detach] at held
      cases held
    · simp only [reopened.others _ _ own,ne_eq,own,not_false_eq_true,and_true]
  · intro close closedMs closed order provenance openedMs reopened named done opened key other distinct
    obtain ⟨leaves,_⟩ := notePaneOpened_reopened closed order createRequestId provenance openedMs
    rw [opened] at leaves
    rw [leaves.others key other distinct]
    split
    · rfl
    · next apart => exact linkage_closeDetached done apart key

/-- The close of a tab with two panes, of which one opens again. -/
def twoPanes : List PaneCloseLinkage :=
  [{ createRequestId := "c", terminalId := none },{ createRequestId := "d", terminalId := none }]

/-- The other pane of the tab is covered, which it was not before. -/
theorem tab_staysClosed :
    ¬ ∀ (ledger : Ledger Unit) (close : DetachClose), "c" ∈ close.names → (ledger.closeDetached 1 close).2 = .ok () →
      ((ledger.closeDetached 1 close).1.notePaneOpened {} "c" .inherit 2).2 = .ok () →
      ∀ pane : PaneCloseLinkage, pane.createRequestId ≠ "c" →
        (pane ∈ ((ledger.closeDetached 1 close).1.notePaneOpened {} "c" .inherit 2).1.listPaneDetachCloses {} ↔
          pane ∈ ledger.listPaneDetachCloses {}) := by
  intro claim
  have covered := (claim { index := {}, drive := { files := {} } } (.batch "tab" twoPanes) (by decide) (by rfl) (by decide +kernel)
    { createRequestId := "d", terminalId := none } (by decide)).mp (by decide +kernel)
  exact absurd covered (by decide +kernel)

end Ledger
end Freshell.PaneLedger
