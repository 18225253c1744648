import Relayer.Core.Ledger
import Relayer.Solana.Validation

/-!
# Fee payments by users

In user fee mode the transaction that the relayer signs must pay the relayer.
The check looks for a transfer to the relayer that covers the fee.  Whether the
relayer is better off depends on all transfers of the transaction, by holder.
-/

namespace Relayer.SolanaFeePayment

open Relayer.Checks Relayer.Ledger Relayer.SolanaMessage Relayer.SolanaPrograms
open Relayer.SolanaValidation

inductive SolanaRpcError where
  | invalidParams (message : String)
  | unsupportedFeeToken (message : String)
  | estimation (message : String)
  | insufficientFunds (message : String)
  | solanaTransactionValidation (error : SolanaTransactionValidationError)
  | encoding (message : String)
  | provider (message : String)
  | token (message : String)
  | internal (message : String)
  deriving DecidableEq, Repr

abbrev Rpc := Except (Fault SolanaRpcError)

def fail {A : Type} (error : SolanaRpcError) : Rpc A := .error (.returned error)

def defaultConversionSlippagePercentage : Float32 := 1.0

def amountToUiAmount (amount : UInt64) (decimals : UInt8) : Float :=
  amount.toFloat / 10.0 ^ decimals.toFloat

/-- The amount for display is kept as a number. -/
structure FeeQuote where
  feeInSpl : UInt64
  feeInSplUi : Float
  feeInLamports : UInt64
  conversionRate : Float

inductive Asset where
  | lamports
  | token (mint : Pubkey)
  deriving DecidableEq, Repr

/-- A token account as the token program itself accepts it. -/
def chainTokenAccount (spl : TokenInterfaces) (services : SolanaServices)
    (programId key : Pubkey) : Option TokenAccount :=
  match services.getAccountFromPubkey key with
  | .error _ => none
  | .ok account =>
      if account.owner = programId then (unpackAccount spl programId account).toOption
      else none

/-- Tokens move from the owner of one account to the owner of another of the same
mint. -/
def tokenMovement (spl : TokenInterfaces) (services : SolanaServices) (message : Message)
    (programId : Pubkey) (ix : CompiledInstruction) (destPosition : ℕ) (amount : UInt64) :
    Option (Movement Pubkey Asset) :=
  match (message.accountAt ix 0).bind (chainTokenAccount spl services programId),
      (message.accountAt ix destPosition).bind (chainTokenAccount spl services programId) with
  | some source, some destination =>
      if source.mint = destination.mint then
        some ⟨.token destination.mint, source.owner, destination.owner, amount.toNat⟩
      else none
  | _, _ => none

def lamportMovement (message : Message) (ix : CompiledInstruction) (lamports : UInt64) :
    Option (Movement Pubkey Asset) :=
  match message.accountAt ix 0, message.accountAt ix 1 with
  | some source, some destination =>
      some ⟨.lamports, source, destination, lamports.toNat⟩
  | _, _ => none

/-- The program, the amount and the position of the destination of a token transfer. -/
def tokenTransfer (spl : TokenInterfaces) (message : Message) (ix : CompiledInstruction) :
    Option (Pubkey × UInt64 × ℕ) :=
  (message.programId ix).bind fun programId =>
    match unpackInstruction spl programId ix.data with
    | .ok (.transfer amount) => some (programId, amount, 1)
    | .ok (.transferChecked amount _) => some (programId, amount, 2)
    | _ => none

/-- What a top-level instruction moves, by the holders that control the accounts. -/
def movement (spl : TokenInterfaces) (services : SolanaServices) (message : Message)
    (ix : CompiledInstruction) : Option (Movement Pubkey Asset) :=
  match systemInstruction message ix with
  | some (.transfer lamports) => lamportMovement message ix lamports
  | _ => (tokenTransfer spl message ix).bind fun (programId, amount, destPosition) =>
      tokenMovement spl services message programId ix destPosition amount

def movements (spl : TokenInterfaces) (services : SolanaServices) (message : Message) :
    List (Movement Pubkey Asset) :=
  message.instructions.filterMap (movement spl services message)

section Inflow

variable {spl : TokenInterfaces} {services : SolanaServices} {message : Message}
  {ix : CompiledInstruction} {tx : SolanaTransaction} {moved : Movement Pubkey Asset}
  {asset : Asset} {policy : RelayerSolanaPolicy}
  {allowedTokens : List SolanaAllowedTokensPolicy} {relayer programId mint : Pubkey}
  {fee amount paid : UInt64} {destPosition : ℕ}

end Inflow

end Relayer.SolanaFeePayment
