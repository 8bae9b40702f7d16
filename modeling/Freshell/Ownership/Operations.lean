import Freshell.Library.Runs
import Freshell.Ownership.Attaches

/-!
The operations of the registry as the labels of one system. Its state holds the
registry and every attach guard that was armed; a guard's disarm and its drop
are one operation, since whichever comes first closes the window.
-/
namespace Freshell.Ownership

/-- One call on the registry, with every argument and wall-clock reading. The
    attach window of `beginStart` is `none` for a plain begin. -/
inductive Op where
  | beginStart (key : SessionKey) (kind : RuntimeOwnerKind) (operationId : String) (observed : Option ObservedFence)
      (initiator : String) (nowMs : Nat) (attachWindowOperationId : Option String)
  | beginHandoff (key : SessionKey) (toKind : RuntimeOwnerKind) (operationId : String)
      (observed : Option ObservedFence) (initiator : String) (nowMs : Nat)
  | beginHandoffAcknowledged (key : SessionKey) (toKind : RuntimeOwnerKind) (operationId : String)
      (observed : ObservedFence) (initiator : String) (nowMs : Nat)
  | commitLive (key : SessionKey) (operationId : String) (generation : Nat) (owner : OwnerIdentity) (clock : Nat)
  | commitLiveRekey (provider oldSessionId newSessionId operationId : String) (generation : Nat)
      (owner : OwnerIdentity) (clock : Nat)
  | rekeyStarting (provider oldSessionId newSessionId operationId : String) (generation : Nat)
  | rekeyLive (provider oldSessionId newSessionId expectedLiveSessionKey : String) (newOwner : OwnerIdentity)
      (clock : Nat)
  | commitLiveRekeyFromTerminal (provider newSessionId operationId : String) (generation : Nat)
      (oldSessionId expectedTerminalId : String) (owner : OwnerIdentity) (clock : Nat)
  | aliasVacantKey (provider fromSessionId toSessionId : String)
  | fail (key : SessionKey) (operationId : String) (generation : Nat) (priorConfirmedLive : Bool) (clock : Nat)
  | fenceUnconfirmedHandoff (key : SessionKey) (operationId : String) (generation : Nat) (reason : FenceReason)
      (unconfirmed : Option (OwnerIdentity × Nat)) (clock : Nat)
  | fenceUnconfirmedStop (key : SessionKey) (operationId : String) (generation : Nat) (reason : FenceReason)
      (clock : Nat)
  | fenceUnconfirmedLive (key : SessionKey) (operationId : String) (generation : Nat)
      (expectedRuntime : OwnerIdentity) (reason : FenceReason) (clock : Nat)
  | releaseFenced (key : SessionKey) (operationId : String) (generation : Nat)
  | forceReleasePlatformLimited (key : SessionKey) (observed : ObservedFence) (initiator : String) (clock : Nat)
  | beginStop (key : SessionKey) (operationId : String) (claim : StopClaim) (initiator : String) (nowMs : Nat)
  | commitStop (key : SessionKey) (operationId : String) (generation : Nat)
  | abortStop (key : SessionKey) (operationId : String) (generation clock : Nat)
  | release (key : SessionKey) (claim : ReleaseClaim)
  | forceReleaseForConfirmedKill (key : SessionKey) (claim : ReleaseClaim)
  | registerStartCancellation (key : SessionKey) (operationId : String) (generation : Nat) (abort settle : Handle)
      (settleFired : Option Flag)
  | registerStopSettlement (key : SessionKey) (operationId : String) (generation : Nat) (flag : Flag)
  | registerPartialRuntime (key : SessionKey) (operationId : String) (generation : Nat) (owner : OwnerIdentity)
  | recoverStaleStarts (nowMs maxAgeMs : Nat) (fired : Flag → Bool)
  | recoverStaleStoppings (nowMs maxAgeMs : Nat) (fired : Flag → Bool)
  | beginAttachGuard (key : SessionKey) (operationId : String) (observedGeneration : Option Nat)
      (initiator : String) (clock : Nat)
  | beginAdoptGuard (key : SessionKey) (operationId : String) (expected : OwnerIdentity) (observed : ObservedFence)
      (initiator : String) (clock : Nat)
  | closeGuard (index : Nat)

/-- The drop of a ticket that was not disarmed fails its operation and does not
    confirm the prior. -/
def Op.dropTicket (key : SessionKey) (operationId : String) (generation clock : Nat) : Op :=
  .fail key operationId generation false clock

inductive Reply where
  | begin (outcome : BeginOutcome)
  | acknowledged (outcome : AcknowledgedStartOutcome)
  | commit (outcome : CommitOutcome)
  | fail (outcome : FailOutcome)
  | fence (outcome : FenceOutcome)
  | forceRelease (outcome : ForceReleaseOutcome)
  | stop (outcome : StopOutcome)
  | abort (outcome : AbortStopOutcome)
  | accepted (outcome : Bool)
  | starts (recovered : List RecoveredStart)
  | stoppings (fenced : List StaleStopping)
  | guard (outcome : AttachGuardOutcome)
  | done

structure World where
  registry : Registry
  guards : List AttachGuard

namespace World

def mint (epoch : Nat) : World := ⟨.withEpoch epoch,[]⟩

def armedGuard : AttachGuardOutcome → List AttachGuard
  | .armed guard => [guard]
  | _ => []

def closeGuard (world : World) (index : Nat) : World :=
  match world.guards[index]? with
  | none => world
  | some guard =>
    if guard.disarmed then world
    else ⟨world.registry.releaseWindow guard,world.guards.set index { guard with disarmed := true }⟩

def call (world : World) : Op → Reply × World
  | .beginStart key kind operationId observed initiator nowMs window =>
    let answer := world.registry.beginStartInner key kind operationId observed initiator nowMs window
    (.begin answer.1,{ world with registry := answer.2 })
  | .beginHandoff key toKind operationId observed initiator nowMs =>
    let answer := world.registry.beginHandoff key toKind operationId observed initiator nowMs
    (.begin answer.1,{ world with registry := answer.2 })
  | .beginHandoffAcknowledged key toKind operationId observed initiator nowMs =>
    let answer := world.registry.beginHandoffAcknowledgedClearedUnverified key toKind operationId observed initiator
      nowMs
    (.acknowledged answer.1,{ world with registry := answer.2 })
  | .commitLive key operationId generation owner clock =>
    let answer := world.registry.commitLive key operationId generation owner clock
    (.commit answer.1,{ world with registry := answer.2 })
  | .commitLiveRekey provider old new operationId generation owner clock =>
    let answer := world.registry.commitLiveRekey provider old new operationId generation owner clock
    (.commit answer.1,{ world with registry := answer.2 })
  | .rekeyStarting provider old new operationId generation =>
    let answer := world.registry.rekeyStarting provider old new operationId generation
    (.commit answer.1,{ world with registry := answer.2 })
  | .rekeyLive provider old new expectedLiveSessionKey newOwner clock =>
    let answer := world.registry.rekeyLive provider old new expectedLiveSessionKey newOwner clock
    (.commit answer.1,{ world with registry := answer.2 })
  | .commitLiveRekeyFromTerminal provider new operationId generation old expectedTerminalId owner clock =>
    let answer := world.registry.commitLiveRekeyFromTerminal provider new operationId generation old
      expectedTerminalId owner clock
    (.commit answer.1,{ world with registry := answer.2 })
  | .aliasVacantKey provider fromId toId =>
    let answer := world.registry.aliasVacantKey provider fromId toId
    (.commit answer.1,{ world with registry := answer.2 })
  | .fail key operationId generation priorConfirmedLive clock =>
    let answer := world.registry.fail key operationId generation priorConfirmedLive clock
    (.fail answer.1,{ world with registry := answer.2 })
  | .fenceUnconfirmedHandoff key operationId generation reason unconfirmed clock =>
    let answer := world.registry.fenceUnconfirmedHandoffWithPrior key operationId generation reason unconfirmed clock
    (.fence answer.1,{ world with registry := answer.2 })
  | .fenceUnconfirmedStop key operationId generation reason clock =>
    let answer := world.registry.fenceUnconfirmedStop key operationId generation reason clock
    (.fence answer.1,{ world with registry := answer.2 })
  | .fenceUnconfirmedLive key operationId generation expectedRuntime reason clock =>
    let answer := world.registry.fenceUnconfirmedLive key operationId generation expectedRuntime reason clock
    (.fence answer.1,{ world with registry := answer.2 })
  | .releaseFenced key operationId generation =>
    let answer := world.registry.releaseFenced key operationId generation
    (.commit answer.1,{ world with registry := answer.2 })
  | .forceReleasePlatformLimited key observed initiator clock =>
    let answer := world.registry.forceReleasePlatformLimited key observed initiator clock
    (.forceRelease answer.1,{ world with registry := answer.2 })
  | .beginStop key operationId claim initiator nowMs =>
    let answer := world.registry.beginStop key operationId claim initiator nowMs
    (.stop answer.1,{ world with registry := answer.2 })
  | .commitStop key operationId generation =>
    let answer := world.registry.commitStop key operationId generation
    (.commit answer.1,{ world with registry := answer.2 })
  | .abortStop key operationId generation clock =>
    let answer := world.registry.abortStop key operationId generation clock
    (.abort answer.1,{ world with registry := answer.2 })
  | .release key claim =>
    let answer := world.registry.release key claim
    (.accepted answer.1,{ world with registry := answer.2 })
  | .forceReleaseForConfirmedKill key claim =>
    (.done,{ world with registry := world.registry.forceReleaseForConfirmedKill key claim })
  | .registerStartCancellation key operationId generation abort settle settleFired =>
    let answer := world.registry.registerStartCancellation key operationId generation abort settle settleFired
    (.accepted answer.1,{ world with registry := answer.2 })
  | .registerStopSettlement key operationId generation flag =>
    let answer := world.registry.registerStopSettlement key operationId generation flag
    (.accepted answer.1,{ world with registry := answer.2 })
  | .registerPartialRuntime key operationId generation owner =>
    (.done,{ world with registry := world.registry.registerPartialRuntime key operationId generation owner })
  | .recoverStaleStarts nowMs maxAgeMs fired =>
    let answer := world.registry.recoverStaleStarts nowMs maxAgeMs fired
    (.starts answer.1,{ world with registry := answer.2 })
  | .recoverStaleStoppings nowMs maxAgeMs fired =>
    let answer := world.registry.recoverStaleStoppings nowMs maxAgeMs fired
    (.stoppings answer.1,{ world with registry := answer.2 })
  | .beginAttachGuard key operationId observedGeneration initiator clock =>
    let answer := world.registry.beginAttachGuard key operationId observedGeneration initiator clock
    (.guard answer.1,⟨answer.2,world.guards ++ armedGuard answer.1⟩)
  | .beginAdoptGuard key operationId expected observed initiator clock =>
    let answer := world.registry.beginAdoptGuard key operationId expected observed initiator clock
    (.guard answer.1,⟨answer.2,world.guards ++ armedGuard answer.1⟩)
  | .closeGuard index => (.done,world.closeGuard index)

def reply (world : World) (op : Op) : Reply := (world.call op).1

def step (world : World) (op : Op) : World := (world.call op).2

end World
end Freshell.Ownership
