import Relayer.Evm.Status

/-!
# The calls of the EVM jobs

Most steps of a job neither touch the record nor sign or send anything.  These are named
here.
-/

namespace Relayer.EvmLifecycle

open Relayer.Transaction Relayer.EvmPricing Relayer.Interaction
open Relayer.EvmReplacement (NetworkTransactionData)

/-- Calls that leave the record alone, and neither load it nor sign or send a payload nor
look for a receipt. -/
def Plain : Request → Prop
  | .partialUpdate _ => False
  | .getTransaction => False
  | .getTransactionReceipt _ => False
  | .updateNetworkData _ => False
  | .signTransaction _ => False
  | .sendRawTransaction _ => False
  | .acknowledge => False
  | _ => True

section PlainTasks

open Task

theorem plain_notify : notify.run.CallsOnly Plain :=
  callsOnly_ask_bind trivial fun _ => trivial

theorem callsOnly_storeUpdate {allowed : Request → Prop} {update : TransactionUpdateRequest}
    (hupdate : allowed (.partialUpdate update)) :
    (storeUpdate update).run.CallsOnly allowed :=
  callsOnly_ask_bind hupdate fun _ => callsOnly_ofExcept

theorem callsOnly_storeAndNotify {allowed : Request → Prop} {update : TransactionUpdateRequest}
    (hplain : ∀ request, Plain request → allowed request)
    (hupdate : allowed (.partialUpdate update)) :
    (storeAndNotify update).run.CallsOnly allowed :=
  callsOnly_bind (callsOnly_storeUpdate hupdate) fun _ =>
    callsOnly_bind (plain_notify.mono hplain) fun _ => trivial

end PlainTasks

/-! ## Submission -/

section Submission

open Task

variable {tx : TransactionRepoModel}

theorem getEvmTransactionData_ok {networkData : NetworkTransactionData}
    {data : EvmTransactionData} (hdata : networkData.getEvmTransactionData = .ok data) :
    networkData = .evm data := by
  cases networkData with
  | evm stored =>
      cases hdata
      rfl
  | solana => cases hdata
  | stellar => cases hdata

/-- A step that reads the data of a record goes on with it. -/
theorem callsOnly_data_bind {A : Type} {allowed : Request → Prop}
    {next : EvmTransactionData → Step A}
    (hnext : ∀ data, tx.networkData = .evm data → (next data).run.CallsOnly allowed) :
    (Task.ofExcept tx.networkData.getEvmTransactionData >>= next).run.CallsOnly allowed := by
  cases hdata : tx.networkData.getEvmTransactionData with
  | error e => trivial
  | ok data => exact hnext data (getEvmTransactionData_ok hdata)

end Submission

/-! ## NOOPs -/

section Noop

open Task

variable {tx : TransactionRepoModel}

theorem plain_getNetwork (chainId : ℕ) : (getNetwork chainId).run.CallsOnly Plain := by
  apply callsOnly_ask_bind trivial
  intro answer
  split <;> trivial

end Noop

/-! ## Ages and gaps -/

section Ages

open Task

variable (platform : Platform) (tx : TransactionRepoModel)

end Ages

end Relayer.EvmLifecycle
