import Relayer.Evm.NonceHealth

/-!
# Calls on the nonce counter

A health run raises the counter to the nonce of the chain and lowers it again over slots
that no stored transaction occupies.
-/

namespace Relayer.EvmNonceCounter

open Relayer.Transaction Relayer.Interaction

/-! ## Jobs -/

inductive Request where
  | get
  | syncFloor (floor : ℕ)
  | setIfEquals (expected value : ℕ)
  | getNonceOccupancy (relayerId : String) (fromNonce toNonce : ℕ)
  | getTransactionCount
  deriving DecidableEq

@[reducible]
def Answer : Request → Type
  | .get => Except RepositoryError (Option ℕ)
  | .syncFloor _ => Except RepositoryError ℕ
  | .setIfEquals _ _ => Except RepositoryError Bool
  | .getNonceOccupancy _ _ _ => Except RepositoryError (List (ℕ × Option TransactionStatus))
  | .getTransactionCount => Except String ℕ

/-- Every call succeeds; the counter stands at `current` and the chain at `onChainNonce`. -/
def sampleAnswers (current onChainNonce : ℕ) (slots : ℕ → Option TransactionStatus) :
    (request : Request) → Answer request
  | .get => .ok (some current)
  | .syncFloor floor => .ok (max current floor)
  | .setIfEquals _ _ => .ok true
  | .getNonceOccupancy _ fromNonce toNonce => .ok (NonceIndex.occupancy slots fromNonce toNonce)
  | .getTransactionCount => .ok onChainNonce

section Jobs

open Task

abbrev Step (A : Type) := Task Request Answer RelayerError A

/-- The error of the counter service. -/
def counterError (e : RepositoryError) : RelayerError :=
  .transactionSequenceError s!"Counter not found for {e.toText}"

def getOnChainNonce : Step ℕ := do
  match ← ask Request.getTransactionCount with
  | .error e => throw (.providerError e)
  | .ok nonce => return nonce

def syncFloor (floor : ℕ) : Step ℕ := do
  let raised ← ask (Request.syncFloor floor)
  Task.ofExcept (raised.mapError counterError)

def ofRewindCall : EvmNonceHealth.Request → Request
  | .getNonceOccupancy relayerId fromNonce toNonce =>
      .getNonceOccupancy relayerId fromNonce toNonce
  | .setIfEquals expected value => .setIfEquals expected value

def toRewindAnswer :
    (call : EvmNonceHealth.Request) → Answer (ofRewindCall call) → EvmNonceHealth.Answer call
  | .getNonceOccupancy _ _ _, answer => answer
  | .setIfEquals _ _, answer => answer

def ofRewind {A : Type} (task : EvmNonceHealth.Step A) : Step A :=
  ExceptT.mk (task.run.embed ofRewindCall toRewindAnswer)

end Jobs

end Relayer.EvmNonceCounter
