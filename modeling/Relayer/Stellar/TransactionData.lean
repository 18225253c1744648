import Relayer.Stellar.Fees
import Relayer.Stellar.Operations

/-!
# Stellar transaction data

The network data of a stored Stellar transaction and the steps that every
preparation shares: building an envelope, taking a sequence number from the
counter, updating sequence and fee of an envelope, and signing.  Encoded envelopes
are represented by what they decode to, so an input is an envelope or a decoding
error.
-/

namespace Relayer.StellarData

open Relayer.Transaction Relayer.Xdr Relayer.StellarFees Relayer.StellarOperations

abbrev Processing := Except TransactionError

def reject {A : Type} (message : String) : Processing A :=
  .error (.validationError message)

inductive TransactionInput where
  | operations (specs : List OperationSpec)
  | unsignedXdr (xdr : Decoded TransactionEnvelope)
  | signedXdr (xdr : Decoded TransactionEnvelope) (maxFee : Int64)
  | sorobanGasAbstraction (xdr : Decoded TransactionEnvelope)
      (signedAuthEntry : Decoded SorobanAuthorizationEntry)

structure StellarTransactionData where
  sourceAccount : String
  fee : Option UInt32
  sequenceNumber : Option Int64
  memo : Option MemoSpec
  validUntil : Option String
  networkPassphrase : String
  signatures : List DecoratedSignature
  hash : Option String
  simulationTransactionData : Option (Decoded SorobanTransactionData)
  transactionInput : TransactionInput
  signedEnvelopeXdr : Option (Decoded TransactionEnvelope)
  transactionResultXdr : Option String

def StellarTransactionData.withSequenceNumber (data : StellarTransactionData)
    (sequence : Int64) : StellarTransactionData :=
  { data with sequenceNumber := some sequence }

/-! ## Envelopes of stored data -/

/-- `str::parse::<u64>`: decimal digits, possibly after a plus sign. -/
def parseU64 (text : String) : Option UInt64 :=
  let digits : List Char := match text.toList with
    | '+' :: rest => rest
    | chars => chars
  let value := digits.foldl (fun value char => value * 10 + (char.toNat - '0'.toNat)) 0
  if digits ≠ [] ∧ digits.all Char.isDigit ∧ value < 2 ^ 64 then some (UInt64.ofNat value)
  else none

/-- Reads a calendar date as seconds since the epoch. -/
abbrev DateParser := String → Option Int64

/-- A deadline in seconds or as a date; other text sets no bound. -/
def validUntilToTimeBounds (parseDate : DateParser) (validUntil : Option String) :
    Option TimeBounds :=
  validUntil.bind fun expiry =>
    match parseU64 expiry with
    | some seconds => some ⟨0, seconds⟩
    | none => (parseDate expiry).map fun seconds => ⟨0, seconds.toUInt64⟩

/-- The extension that a simulation asked for; data that does not decode is ignored. -/
def simulationExt : Option (Decoded SorobanTransactionData) → TransactionExt
  | some (.ok data) => .v1 data
  | some (.error _) | none => .v0

/-- The transaction of data whose input is the given list of operations. -/
def operationsTransaction (parseDate : DateParser) (data : StellarTransactionData)
    (specs : List OperationSpec) : Conversion Transaction := do
  let operations ← specs.mapM convertOperation
  if stellarMaxOperations < operations.length then .error "op count > 100"
  else do
    let cond := match validUntilToTimeBounds parseDate data.validUntil with
      | none => Preconditions.none
      | some bounds => .time bounds
    let memo ← convertMemo (data.memo.getD .none)
    let sourceAccount ← (stringToMuxedAccount data.sourceAccount).mapError fun e =>
      s!"Invalid source account: {e}"
    return {
      sourceAccount := sourceAccount
      fee := data.fee.getD 100
      seqNum := data.sequenceNumber.getD 0
      cond := cond
      memo := memo
      operations := operations
      ext := simulationExt data.simulationTransactionData }

def parseXdrEnvelope (xdr : Decoded TransactionEnvelope) : Conversion TransactionEnvelope :=
  xdr.mapError fun e => s!"Invalid XDR: {e}"

/-- The envelope without signatures; an encoded input is returned as it is. -/
def buildUnsignedEnvelope (parseDate : DateParser) (data : StellarTransactionData) :
    Conversion TransactionEnvelope :=
  match data.transactionInput with
  | .operations specs => do
      let tx ← operationsTransaction parseDate data specs
      return .tx ⟨tx, []⟩
  | .unsignedXdr xdr | .signedXdr xdr _ | .sorobanGasAbstraction xdr _ =>
      parseXdrEnvelope xdr

/-- `i64::try_from`. -/
def i64FromU64 (value : UInt64) : Except String Int64 :=
  if value.toNat < 2 ^ 63 then .ok value.toInt64
  else .error "Provider error: u64→i64 overflow"

/-- Takes the next sequence number of the relayer from the counter. -/
def getNextSequence (services : StellarServices) (relayerId relayerAddress : String) :
    Except TransactionError Int64 :=
  match services.getAndIncrement relayerId relayerAddress with
  | .error e => .error (.unexpectedError e)
  | .ok sequence => (i64FromU64 sequence).mapError fun e =>
      .validationError s!"Sequence conversion error for {sequence}: {e}"

/-- Only V1 envelopes take a new sequence number. -/
def updateEnvelopeSequence (envelope : TransactionEnvelope) (sequence : Int64) :
    Except String TransactionEnvelope :=
  match envelope with
  | .tx v1 => .ok (.tx { v1 with tx := { v1.tx with seqNum := sequence } })
  | .txV0 _ => .error "V0 transactions are not supported"
  | .txFeeBump _ => .error "Cannot update sequence number on fee bump transaction"

def envelopeFeeInStroops : TransactionEnvelope → Except String UInt64
  | .tx v1 => .ok v1.tx.fee.toUInt64
  | _ => .error "Invalid transaction format: Expected V1 transaction envelope"

/-! ## Updating and signing an envelope -/

/-- V0 and V1 envelopes take a new sequence number and fee. -/
def mapTransaction (envelope : TransactionEnvelope) (v0 : TransactionV0 → TransactionV0)
    (v1 : Transaction → Transaction) : Option TransactionEnvelope :=
  match envelope with
  | .txV0 e => some (.txV0 { e with tx := v0 e.tx })
  | .tx e => some (.tx { e with tx := v1 e.tx })
  | .txFeeBump _ => none

def applySequence (envelope : TransactionEnvelope) (sequence : Int64) :
    Processing TransactionEnvelope :=
  match mapTransaction envelope (fun tx => { tx with seqNum := sequence })
    (fun tx => { tx with seqNum := sequence }) with
  | some updated => .ok updated
  | none => reject
      "Failed to update sequence: Cannot set sequence number on fee-bump transaction"

/-- At least 100 stroops for each operation. -/
def minimumFee (operations : List Operation) : UInt32 :=
  100 * UInt32.ofNat operations.length

def ensureMinimumFee (envelope : TransactionEnvelope) : Processing TransactionEnvelope :=
  match mapTransaction envelope
    (fun tx => { tx with fee := max tx.fee (minimumFee tx.operations) })
    (fun tx => { tx with fee := max tx.fee (minimumFee tx.operations) }) with
  | some updated => .ok updated
  | none => reject "Unexpected envelope type for fee validation"

def simulateIfNeeded (services : StellarServices) (envelope : TransactionEnvelope) :
    Processing (Option SimulateTransactionResponse) :=
  if xdrNeedsSimulation envelope then
    match services.simulateTransactionEnvelope envelope with
    | .error e => .error (.underlyingProvider e)
    | .ok response =>
        match response.error with
        | some message => .error (.simulationFailed message)
        | none => .ok (some response)
  else .ok none

/-- A signer returns a signature, another network's response, or fails. -/
abbrev StellarSigner :=
  StellarTransactionData → Except TransactionError (Option DecoratedSignature)

def attachSignatures (signatures : List DecoratedSignature) :
    TransactionEnvelope → Except String TransactionEnvelope
  | .txV0 e => .ok (.txV0 { e with signatures := signatures })
  | .tx e => .ok (.tx { e with signatures := signatures })
  | .txFeeBump _ => .error "Cannot attach signatures to fee-bump transaction directly"

/-- The signed envelope of data whose input is the given unsigned envelope.  An
envelope that was signed before is returned as it is. -/
def signedEnvelope (data : StellarTransactionData) (envelope : TransactionEnvelope) :
    Except String TransactionEnvelope :=
  match data.signedEnvelopeXdr with
  | some cached => cached.mapError fun e => s!"Invalid XDR: {e}"
  | none =>
      if 20 < data.signatures.length then .error "too many signatures"
      else attachSignatures data.signatures envelope

/-- Signs data whose input is the given unsigned envelope. -/
def signUnsignedEnvelope (signer : StellarSigner) (data : StellarTransactionData)
    (envelope : TransactionEnvelope) : Processing StellarTransactionData := do
  match ← signer data with
  | none => .error (.invalidType "Expected Stellar signature")
  | some signature =>
      let data := { data with signatures := data.signatures ++ [signature] }
      let signed ← (signedEnvelope data envelope).mapError fun e =>
        .signerError s!"Failed to build signed envelope: Transaction conversion error: {e}"
      return { data with signedEnvelopeXdr := some (.ok signed) }

/-- The envelope ready for submission. -/
def buildSignedEnvelope (parseDate : DateParser) (data : StellarTransactionData) :
    Conversion TransactionEnvelope :=
  match data.transactionInput with
  | .unsignedXdr xdr | .sorobanGasAbstraction xdr _ =>
      match data.signedEnvelopeXdr with
      | some cached => parseXdrEnvelope cached
      | none => do
          let envelope ← parseXdrEnvelope xdr
          signedEnvelope data envelope
  | .operations specs =>
      match data.signedEnvelopeXdr with
      | some cached => parseXdrEnvelope cached
      | none => do
          let tx ← operationsTransaction parseDate data specs
          signedEnvelope data (.tx ⟨tx, []⟩)
  | .signedXdr xdr _ => parseXdrEnvelope (data.signedEnvelopeXdr.getD xdr)

/-- Signs data of any input and stores the signed envelope. -/
def signStellarTransaction (parseDate : DateParser) (signer : StellarSigner)
    (data : StellarTransactionData) : Processing StellarTransactionData := do
  match ← signer data with
  | none => .error (.invalidType "Expected Stellar signature")
  | some signature =>
      let data := { data with signatures := data.signatures ++ [signature] }
      let signed ← (buildSignedEnvelope parseDate data).mapError fun e =>
        .signerError s!"Failed to build signed envelope: Transaction conversion error: {e}"
      return { data with signedEnvelopeXdr := some (.ok signed) }

end Relayer.StellarData
