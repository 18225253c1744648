import Relayer.Core.Protocol
import Relayer.Evm.Calls

/-!
# What status checks and resubmissions write

`make_noop` turns the data of a transaction into a NOOP, `is_noop` recognises one, a
resubmission gives it new prices and a new signature, and a status check decides whether a
transaction is to be replaced by one.

A job works on the record that it has loaded last.  Whatever it is told meanwhile, it
writes nothing about the call, the same call again, or a NOOP in the place of a call that
was none.
-/

namespace Relayer.EvmNoopStability

open Relayer.Transaction Relayer.Interaction Relayer.EvmPricing Relayer.EvmLifecycle

/-! ## Data -/

/-- What `is_noop` reads, and where the transaction belongs. -/
structure Content where
  «from» : String
  «to» : Option String
  value : ℕ
  data : Option String
  speed : Option Speed
  nonce : Option ℕ
  chainId : ℕ

def contentOf (data : EvmTransactionData) : Content :=
  ⟨data.«from», data.«to», data.value, data.data, data.speed, data.nonce, data.chainId⟩

variable {data later : EvmTransactionData}

theorem isNoop_of_content (hcontent : contentOf later = contentOf data) :
    isNoop later = isNoop data := by
  obtain ⟨hfrom, hto, hvalue, hdata, hspeed, -, -⟩ := Content.mk.inj hcontent
  rw [isNoop, isNoop, hfrom, hto, hvalue, hdata, hspeed]

/-- What a status check or a resubmission that works on `tx` may write: nothing about the
call, the same call, or a NOOP in the place of a call that was none. -/
inductive Harmless (tx : TransactionRepoModel) : TransactionUpdateRequest → Prop
  | elsewhere {update : TransactionUpdateRequest} (hdata : update.networkData = none)
      (hcount : update.noopCount = none) : Harmless tx update
  | restated {update : TransactionUpdateRequest} {data : EvmTransactionData}
      (hdata : tx.networkData = .evm data) (later : EvmTransactionData)
      (hlater : update.networkData = some (.evm later))
      (hcontent : contentOf later = contentOf data) (hcount : update.noopCount = none) :
      Harmless tx update
  | converted {update : TransactionUpdateRequest} {later : EvmTransactionData}
      (hopen : isNoopTx tx = false) (hlater : update.networkData = some (.evm later))
      (hnoop : isNoop later = true)
      (hcount : update.noopCount = some (tx.noopCount.getD 0 + 1)) : Harmless tx update

def Permitted (tx : TransactionRepoModel) : Request → Prop
  | .getTransaction => False
  | .partialUpdate update => Harmless tx update
  | .updateNetworkData _ => False
  | .acknowledge => False
  | _ => True

theorem isNoopTx_of_data {tx : TransactionRepoModel} (hdata : tx.networkData = .evm data) :
    isNoopTx tx = isNoop data := by
  rw [isNoopTx, hdata]
  rfl

section Writes

open Task

variable {tx : TransactionRepoModel} {A B : Type}

end Writes

/-! ## Jobs -/

/-- The record that a job has loaded last is the one it works on. -/
def reading : Protocol Request Answer (Option TransactionRepoModel) where
  allowed memory request :=
    request = .getTransaction ∨ request = .acknowledge ∨ ∃ tx ∈ memory, Permitted tx request
  possible _ _ _ := True
  remember memory request answer :=
    match request, answer with
    | .getTransaction, .ok tx => some tx
    | _, _ => memory

section Jobs

open Task

variable {tx : TransactionRepoModel} {A B : Type}

end Jobs

/-- Status checks and resubmissions. -/
def watched : Job → Bool
  | .status _ => true
  | .resubmit => true
  | _ => false

end Relayer.EvmNoopStability
