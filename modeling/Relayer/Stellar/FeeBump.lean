import Relayer.Stellar.TransactionData
import Relayer.Stellar.Validation

/-!
# Fee bumps

The relayer wraps an envelope that the user has signed into a fee-bump envelope
and pays its fee.  The bid has to cover the inner fee rate for one operation more
than the inner transaction has; what is bid is the maximum the request names.
When users pay the fees, the inner envelope has to pass the gasless validation
first.
-/

namespace Relayer.FeeBump

open Relayer.Transaction Relayer.Xdr Relayer.StellarFees Relayer.StellarData
open Relayer.StellarOperations Relayer.StellarValidation Relayer.Checks

/-! ## The inner envelope -/

def isSigned : TransactionEnvelope → Bool
  | .txV0 envelope => !envelope.signatures.isEmpty
  | .tx envelope => !envelope.signatures.isEmpty
  | .txFeeBump envelope => !envelope.signatures.isEmpty

def parseTransactionXdr (xdr : Decoded TransactionEnvelope) (expectSigned : Bool) :
    Except String TransactionEnvelope := do
  let envelope ← xdr.mapError fun e => s!"Invalid XDR: {e}"
  if expectSigned && !isSigned envelope then
    .error "Expected signed XDR but received unsigned XDR"
  else return envelope

def extractInnerTransaction (data : StellarTransactionData) :
    Processing (TransactionEnvelope × Int64) :=
  match data.transactionInput with
  | .signedXdr xdr maxFee =>
      if maxFee ≤ 0 then StellarData.reject "max_fee must be greater than 0 for signed XDR"
      else do
        let envelope ← (parseTransactionXdr xdr true).mapError fun e =>
          .validationError s!"Invalid XDR: Invalid inner transaction: {e}"
        return (envelope, maxFee)
  | _ => StellarData.reject "Fee-bump requires SignedXdr input"

/-! ## The fee to bid -/

def extractInnerTransactionFee : TransactionEnvelope → ℤ
  | .txV0 envelope => envelope.tx.fee.toNat
  | .tx envelope => envelope.tx.fee.toNat
  | .txFeeBump envelope => envelope.tx.innerTx.tx.fee.toNat

def TransactionExt.resourceFee : TransactionExt → Option ℤ
  | .v1 data => if 0 < data.resourceFee then some data.resourceFee.toInt else none
  | .v0 => none

/-- The resource fee an envelope was simulated for, if it is positive. -/
def extractSorobanResourceFee : TransactionEnvelope → Option ℤ
  | .txV0 _ => none
  | .tx envelope => TransactionExt.resourceFee envelope.tx.ext
  | .txFeeBump envelope => TransactionExt.resourceFee envelope.tx.innerTx.tx.ext

def ceilDiv (value divisor : ℤ) : ℤ := (value + divisor - 1).tdiv divisor

/-- A result of checked 64-bit arithmetic. -/
def checkedI64 (value : ℤ) (message : String) : Processing ℤ :=
  if -2 ^ 63 ≤ value ∧ value < 2 ^ 63 then .ok value else StellarData.reject message

/-- The inner inclusion fee rate, at least 100 stroops, for one operation more, and
the resource fee once. -/
def calculateFeeBumpFee (innerTxFee resourceFee innerNumOps feeBumpNumOps : ℤ) :
    Processing ℤ := do
  if innerNumOps ≤ 0 ∨ feeBumpNumOps ≤ 0 then
    StellarData.reject (s!"Invalid operation counts: inner_num_ops={innerNumOps}, " ++
      s!"fee_bump_num_ops={feeBumpNumOps}")
  else if innerTxFee < 0 ∨ resourceFee < 0 then
    StellarData.reject s!"Invalid fee inputs: inner_tx_fee={innerTxFee}, resource_fee={resourceFee}"
  else do
    let innerFeeRate := max (ceilDiv (innerTxFee - resourceFee) innerNumOps) 100
    let baseFee ← checkedI64 (innerFeeRate * feeBumpNumOps)
      s!"Fee overflow computing fee-bump base fee for {innerFeeRate} * {feeBumpNumOps}"
    checkedI64 (baseFee + resourceFee)
      s!"Fee overflow adding resource fee ({resourceFee}) to fee-bump fee"

/-- The bid is the maximum fee itself once it reaches the required fee. -/
def validatedMaxFeeAsU32 (maxFee : Int64) (requiredFee : ℤ) : Processing UInt32 :=
  if maxFee.toInt < requiredFee then
    StellarData.reject s!"max_fee ({maxFee}) is insufficient. Required fee-bump fee: {requiredFee}"
  else if maxFee.toInt < 0 ∨ 2 ^ 32 ≤ maxFee.toInt then
    StellarData.reject s!"Fee conversion overflow: max_fee ({maxFee}) exceeds u32::MAX"
  else .ok (UInt32.ofNat maxFee.toInt.toNat)

/-- The resource fee found by simulating an envelope that carries none. -/
def simulatedResourceFee (services : StellarServices) (inner : TransactionEnvelope) :
    Processing ℤ := do
  match ← simulateIfNeeded services inner with
  | none => return 0
  | some response =>
      let minResourceFee := response.minResourceFee
      if 2 ^ 63 ≤ minResourceFee.toNat then
        StellarData.reject (s!"Resource fee conversion overflow: min_resource_fee " ++
          s!"({minResourceFee}) exceeds i64::MAX")
      else return minResourceFee.toNat

/-- An envelope that was simulated before it was signed is not simulated again. -/
def feeBumpResourceFee (services : StellarServices) (inner : TransactionEnvelope) :
    Processing ℤ :=
  match extractSorobanResourceFee inner with
  | some existing => .ok existing
  | none => simulatedResourceFee services inner

def calculateFeeBumpRequiredFee (services : StellarServices) (inner : TransactionEnvelope)
    (maxFee : Int64) : Processing UInt32 := do
  let innerNumOps : ℤ := max (extractOperations inner).length 1
  let resourceFee ← feeBumpResourceFee services inner
  let requiredFee ← calculateFeeBumpFee (extractInnerTransactionFee inner) resourceFee
    innerNumOps (innerNumOps + 1)
  validatedMaxFeeAsU32 maxFee requiredFee

/-! ## The fee-bump envelope -/

/-- Fee bumps carry V1 transactions only. -/
def convertV0ToV1Envelope (envelope : TransactionV0Envelope) : TransactionV1Envelope where
  tx := {
    sourceAccount := .ed25519 envelope.tx.sourceAccountEd25519
    fee := envelope.tx.fee
    seqNum := envelope.tx.seqNum
    cond := match envelope.tx.timeBounds with
      | some bounds => .time bounds
      | none => .none
    memo := envelope.tx.memo
    operations := envelope.tx.operations
    ext := .v0 }
  signatures := envelope.signatures

/-- V0 and V1 envelopes as V1 envelopes. -/
def asV1 : TransactionEnvelope → Option TransactionV1Envelope
  | .txV0 envelope => some (convertV0ToV1Envelope envelope)
  | .tx envelope => some envelope
  | .txFeeBump _ => none

def buildFeeBumpEnvelope (inner : TransactionEnvelope) (feeSource : String) (maxFee : Int64) :
    Except String FeeBumpTransactionEnvelope := do
  if !isSigned inner then .error "Inner transaction must be signed before fee-bumping"
  else if extractSourceAccount inner == feeSource then
    .error "Fee-bump source cannot be the same as inner transaction source"
  else do
    let feeSource ← stringToMuxedAccount feeSource
    match inner with
    | .txV0 envelope => return ⟨⟨feeSource, maxFee, convertV0ToV1Envelope envelope⟩, []⟩
    | .tx envelope => return ⟨⟨feeSource, maxFee, envelope⟩, []⟩
    | .txFeeBump _ => .error "Cannot fee-bump a fee-bump transaction"

/-- The data that the signer is given for an envelope. -/
def createSigningData (sourceAccount : String) (envelope : TransactionEnvelope)
    (networkPassphrase : String) : StellarTransactionData where
  sourceAccount := sourceAccount
  fee := none
  sequenceNumber := none
  memo := none
  validUntil := none
  networkPassphrase := networkPassphrase
  signatures := []
  hash := none
  simulationTransactionData := none
  transactionInput := .unsignedXdr (.ok envelope)
  signedEnvelopeXdr := none
  transactionResultXdr := none

def signFeeBumpTransaction (signer : StellarSigner) (data : StellarTransactionData)
    (bump : FeeBumpTransactionEnvelope) (relayerAddress : String) :
    Processing StellarTransactionData := do
  match ← signer (createSigningData relayerAddress (.txFeeBump bump)
    data.networkPassphrase) with
  | none => .error (.invalidType "Expected Stellar signature")
  | some signature =>
      return { data with
        signatures := data.signatures ++ [signature]
        signedEnvelopeXdr := some (.ok (.txFeeBump { bump with signatures := [signature] })) }

/-- Users who pay the fees have to include their payment. -/
def validateUserPayment (services : StellarServices) (inner : TransactionEnvelope)
    (relayerAddress : String) (policy : Option RelayerStellarPolicy) : Processing Unit :=
  match policy with
  | some policy =>
      if policy.isUserFeePayment then
        (validateUserFeePaymentTransaction services inner relayerAddress policy none).mapError
          fun e => .validationError e.toText
      else .ok ()
  | none => .ok ()

def processFeeBump (services : StellarServices) (signer : StellarSigner)
    (relayerAddress : String) (data : StellarTransactionData)
    (policy : Option RelayerStellarPolicy) : Processing StellarTransactionData := do
  let (inner, maxFee) ← extractInnerTransaction data
  validateUserPayment services inner relayerAddress policy
  let requiredFee ← calculateFeeBumpRequiredFee services inner maxFee
  let bump ← (buildFeeBumpEnvelope inner relayerAddress requiredFee.toUInt64.toInt64).mapError
    fun e => .validationError s!"Cannot create fee-bump envelope: {e}"
  let signed ← signFeeBumpTransaction signer data bump relayerAddress
  return { signed with fee := some requiredFee }

/-! ## What a successful fee bump signs -/

variable {services : StellarServices} {inner : TransactionEnvelope} {relayerAddress : String}
  {maxFee : Int64} {resourceFee innerFee operations bid : ℤ}

theorem extractInnerTransaction_eq_ok {data : StellarTransactionData}
    (hok : extractInnerTransaction data = .ok (inner, maxFee)) :
    data.transactionInput = .signedXdr (.ok inner) maxFee := by
  unfold extractInnerTransaction at hok
  split at hok
  · next xdr fee hinput =>
      split_ifs at hok
      · cases hok
      · obtain ⟨envelope, hparse, hdone⟩ := bind_eq_ok.mp hok
        cases hdone
        obtain ⟨decoded, hdecoded, hsigned⟩ := bind_eq_ok.mp (ok_of_mapError hparse)
        split_ifs at hsigned
        cases hsigned
        rw [hinput, ok_of_mapError hdecoded]
  · cases hok

theorem validatedMaxFeeAsU32_eq_ok {required : ℤ} {bid : UInt32}
    (hok : validatedMaxFeeAsU32 maxFee required = .ok bid) :
    bid.toNat = maxFee.toInt ∧ required ≤ bid.toNat := by
  unfold validatedMaxFeeAsU32 at hok
  split_ifs at hok with hless hrange
  · cases hok
  · cases hok
  · cases hok
    rw [UInt32.toNat_ofNat']
    omega

theorem calculateFeeBumpRequiredFee_eq_ok {requiredFee : UInt32}
    (hok : calculateFeeBumpRequiredFee services inner maxFee = .ok requiredFee) :
    requiredFee.toNat = maxFee.toInt := by
  obtain ⟨resourceFee, -, hok⟩ := bind_eq_ok.mp hok
  obtain ⟨required, -, hok⟩ := bind_eq_ok.mp hok
  exact (validatedMaxFeeAsU32_eq_ok hok).1

/-! ## The bid suffices -/

/-- The operations that the fee is computed for: a transaction without any counts as one. -/
def countedOperations (inner : TransactionEnvelope) : ℤ := max (extractOperations inner).length 1

/-- The rule for fee bumps: at least 100 stroops for each operation and one more, and at least
the inner inclusion fee rate, compared without division. -/
def Sufficient (innerFee resourceFee operations bid : ℤ) : Prop :=
  100 * (operations + 1) ≤ bid - resourceFee ∧
    (innerFee - resourceFee) * (operations + 1) ≤ (bid - resourceFee) * operations

/-- What is computed for the bid, step by step. -/
def feeBumpSteps (innerFee resourceFee operations : ℤ) : List ℤ :=
  let included := innerFee - resourceFee
  let rate := max (ceilDiv included operations) 100
  [included, included + operations, included + operations - 1, rate, rate * (operations + 1),
    rate * (operations + 1) + resourceFee]

theorem le_ceilDiv_mul {value divisor : ℤ} (hdivisor : 0 < divisor) (hvalue : 0 ≤ value) :
    value ≤ ceilDiv value divisor * divisor := by
  rw [ceilDiv, Int.tdiv_eq_ediv_of_nonneg (by omega)]
  have hmod := Int.emod_lt_of_pos (value + divisor - 1) hdivisor
  have hdiv := Int.ediv_mul_add_emod (value + divisor - 1) divisor
  omega

theorem checkedI64_eq_ok {value result : ℤ} {message : String}
    (hok : checkedI64 value message = .ok result) :
    result = value ∧ -2 ^ 63 ≤ value ∧ value < 2 ^ 63 := by
  unfold checkedI64 at hok
  split_ifs at hok with hrange
  · cases hok
    exact ⟨rfl, hrange⟩
  · cases hok

theorem calculateFeeBumpFee_eq_ok
    (hok : calculateFeeBumpFee innerFee resourceFee operations (operations + 1) = .ok bid) :
    0 < operations ∧ 0 ≤ innerFee ∧ 0 ≤ resourceFee ∧
      (let rate := max (ceilDiv (innerFee - resourceFee) operations) 100
       rate * (operations + 1) < 2 ^ 63 ∧ bid = rate * (operations + 1) + resourceFee ∧
        bid < 2 ^ 63) := by
  unfold calculateFeeBumpFee at hok
  split_ifs at hok with hcounts hfees
  · cases hok
  · cases hok
  obtain ⟨base, hbase, hok⟩ := bind_eq_ok.mp hok
  obtain ⟨rfl, -, hproduct⟩ := checkedI64_eq_ok hbase
  obtain ⟨rfl, -, hsum⟩ := checkedI64_eq_ok hok
  exact ⟨by omega, by omega, by omega, hproduct, rfl, hsum⟩

theorem sufficient_of_calculateFeeBumpFee
    (hok : calculateFeeBumpFee innerFee resourceFee operations (operations + 1) = .ok bid) :
    Sufficient innerFee resourceFee operations bid := by
  obtain ⟨hoperations, -, -, -, rfl, -⟩ := calculateFeeBumpFee_eq_ok hok
  set rate := max (ceilDiv (innerFee - resourceFee) operations) 100 with hrate
  have hminimum : 100 ≤ rate := le_max_right _ _
  have hcovers : innerFee - resourceFee ≤ rate * operations := by
    by_cases hincluded : 0 ≤ innerFee - resourceFee
    · calc innerFee - resourceFee
          ≤ ceilDiv (innerFee - resourceFee) operations * operations :=
            le_ceilDiv_mul hoperations hincluded
        _ ≤ rate * operations :=
            mul_le_mul_of_nonneg_right (le_max_left _ _) hoperations.le
    · have hpositive : 0 ≤ rate * operations := mul_nonneg (by omega) hoperations.le
      omega
  refine ⟨?_, ?_⟩
  · rw [add_sub_cancel_right]
    exact mul_le_mul_of_nonneg_right hminimum (by omega)
  · calc (innerFee - resourceFee) * (operations + 1)
        ≤ rate * operations * (operations + 1) :=
          mul_le_mul_of_nonneg_right hcovers (by omega)
      _ = (rate * (operations + 1) + resourceFee - resourceFee) * operations := by ring

/-- No step leaves the range of 64-bit integers. -/
theorem steps_fit (hinner : innerFee < 2 ^ 32) (hcount : operations ≤ 100)
    (hok : calculateFeeBumpFee innerFee resourceFee operations (operations + 1) = .ok bid) :
    ∀ value ∈ feeBumpSteps innerFee resourceFee operations, -2 ^ 63 ≤ value ∧ value < 2 ^ 63 := by
  obtain ⟨hoperations, hfee, hresource, hproduct, hbid, hsum⟩ := calculateFeeBumpFee_eq_ok hok
  have hminimum : 100 ≤ max (ceilDiv (innerFee - resourceFee) operations) 100 := le_max_right _ _
  dsimp only [feeBumpSteps] at hproduct hbid ⊢
  generalize max (ceilDiv (innerFee - resourceFee) operations) 100 = rate at *
  have hle : rate * 1 ≤ rate * (operations + 1) :=
    mul_le_mul_of_nonneg_left (by omega) (by omega)
  have hbound : resourceFee < 2 ^ 63 := by omega
  intro value hmem
  simp only [List.mem_cons, List.not_mem_nil, or_false] at hmem
  rcases hmem with rfl | rfl | rfl | rfl | rfl | rfl <;> constructor <;> omega

theorem extractInnerTransactionFee_lt (inner : TransactionEnvelope) :
    extractInnerTransactionFee inner < 2 ^ 32 := by
  have hlt : ∀ fee : UInt32, (fee.toNat : ℤ) < 2 ^ 32 := fun fee => by
    exact_mod_cast fee.toNat_lt
  cases inner with
  | txV0 envelope => exact hlt _
  | tx envelope => exact hlt _
  | txFeeBump envelope => exact hlt _

theorem bid_of_calculateFeeBumpRequiredFee {required : ℤ} {bid : UInt32}
    (hresource : feeBumpResourceFee services inner = .ok resourceFee)
    (hok : calculateFeeBumpFee (extractInnerTransactionFee inner) resourceFee
      (countedOperations inner) (countedOperations inner + 1) = .ok required)
    (hbid : calculateFeeBumpRequiredFee services inner maxFee = .ok bid) :
    bid.toNat = maxFee.toInt ∧ required ≤ bid.toNat := by
  obtain ⟨_, hother, hbid⟩ := bind_eq_ok.mp hbid
  cases hresource.symm.trans hother
  obtain ⟨_, hother, hbid⟩ := bind_eq_ok.mp hbid
  cases hok.symm.trans hother
  exact validatedMaxFeeAsU32_eq_ok hbid

/-- The fee that is computed for an inner transaction, with its resource fee, covers one
operation more at the inner rate; no step of the computation overflows; and a bid is the
maximum fee, which then is at least the computed fee. -/
theorem fee_bump_fee_sufficient (services : StellarServices) (inner : TransactionEnvelope)
    (hcount : (extractOperations inner).length ≤ stellarMaxOperations) (resourceFee required : ℤ)
    (hresource : feeBumpResourceFee services inner = .ok resourceFee)
    (hok : calculateFeeBumpFee (extractInnerTransactionFee inner) resourceFee
      (countedOperations inner) (countedOperations inner + 1) = .ok required) :
    Sufficient (extractInnerTransactionFee inner) resourceFee (countedOperations inner)
        required ∧
      (∀ value ∈ feeBumpSteps (extractInnerTransactionFee inner) resourceFee
        (countedOperations inner), -2 ^ 63 ≤ value ∧ value < 2 ^ 63) ∧
      ∀ maxFee bid, calculateFeeBumpRequiredFee services inner maxFee = .ok bid →
        bid.toNat = maxFee.toInt ∧ required ≤ bid.toNat ∧
          Sufficient (extractInnerTransactionFee inner) resourceFee (countedOperations inner)
            bid.toNat := by
  have hsufficient := sufficient_of_calculateFeeBumpFee hok
  have hoperations := (calculateFeeBumpFee_eq_ok hok).1
  refine ⟨hsufficient, steps_fit (extractInnerTransactionFee_lt inner) ?_ hok,
    fun maxFee bid hbid => ?_⟩
  · have hmaximum : (extractOperations inner).length ≤ 100 := hcount
    rw [countedOperations]
    omega
  · obtain ⟨hsame, hreaches⟩ := bid_of_calculateFeeBumpRequiredFee hresource hok hbid
    refine ⟨hsame, hreaches, ?_, ?_⟩
    · exact hsufficient.1.trans (by omega)
    · exact hsufficient.2.trans (mul_le_mul_of_nonneg_right (by omega) hoperations.le)

theorem buildFeeBumpEnvelope_eq_ok_iff {feeSource : String} {bump : FeeBumpTransactionEnvelope} :
    buildFeeBumpEnvelope inner feeSource maxFee = .ok bump ↔
      isSigned inner = true ∧ extractSourceAccount inner ≠ feeSource ∧
        ∃ account v1, stringToMuxedAccount feeSource = .ok account ∧ asV1 inner = some v1 ∧
          bump = ⟨⟨account, maxFee, v1⟩, []⟩ := by
  constructor
  · intro hok
    unfold buildFeeBumpEnvelope at hok
    split_ifs at hok with hsigned hsource
    obtain ⟨account, haccount, hok⟩ := bind_eq_ok.mp hok
    refine ⟨by simpa using hsigned, by simpa using hsource, account, ?_⟩
    split at hok
    · cases hok
      exact ⟨_, haccount, rfl, rfl⟩
    · cases hok
      exact ⟨_, haccount, rfl, rfl⟩
    · cases hok
  · rintro ⟨hsigned, hsource, account, v1, haccount, hv1, rfl⟩
    rw [buildFeeBumpEnvelope, if_neg (by simp [hsigned]), if_neg (by simp [hsource]), haccount]
    cases inner <;> cases hv1 <;> rfl

theorem toInt_toInt64_toUInt64 (fee : UInt32) : fee.toUInt64.toInt64.toInt = fee.toNat := by
  have hlt : 2 * fee.toUInt64.toBitVec.toNat < 2 ^ 64 := by
    have hfee := fee.toNat_lt
    rw [UInt64.toNat_toBitVec, UInt32.toNat_toUInt64]
    omega
  change fee.toUInt64.toBitVec.toInt = fee.toNat
  rw [BitVec.toInt_eq_toNat_of_lt hlt, UInt64.toNat_toBitVec, UInt32.toNat_toUInt64]

/-- A successful fee bump signs the maximum fee of the request, whatever fee was
required or paid for. -/
theorem processFeeBump_eq_ok {signer : StellarSigner} {data out : StellarTransactionData}
    {policy : Option RelayerStellarPolicy}
    (hok : processFeeBump services signer relayerAddress data policy = .ok out) :
    ∃ inner maxFee bump, data.transactionInput = .signedXdr (.ok inner) maxFee ∧
      validateUserPayment services inner relayerAddress policy = .ok () ∧
      out.signedEnvelopeXdr = some (.ok (.txFeeBump bump)) ∧
      bump.tx.fee.toInt = maxFee.toInt := by
  obtain ⟨⟨inner, maxFee⟩, hinner, hok⟩ := bind_eq_ok.mp hok
  obtain ⟨⟨⟩, hpaid, hok⟩ := bind_eq_ok.mp hok
  obtain ⟨requiredFee, hrequired, hok⟩ := bind_eq_ok.mp hok
  obtain ⟨bump, hbump, hok⟩ := bind_eq_ok.mp hok
  obtain ⟨signed, hsigned, hdone⟩ := bind_eq_ok.mp hok
  obtain ⟨response, -, hsigned⟩ := bind_eq_ok.mp hsigned
  cases hdone
  cases response with
  | none => cases hsigned
  | some signature =>
      cases hsigned
      refine ⟨inner, maxFee, _, extractInnerTransaction_eq_ok hinner, hpaid, rfl, ?_⟩
      obtain ⟨-, -, account, v1, -, -, rfl⟩ :=
        buildFeeBumpEnvelope_eq_ok_iff.mp (ok_of_mapError hbump)
      rw [toInt_toInt64_toUInt64, calculateFeeBumpRequiredFee_eq_ok hrequired]

/-! ## The fee that the payment was validated for -/

/-- The quote that the user's payment has to reach, with the fee in stroops it is for. -/
def validatedQuote (services : StellarServices) (policy : RelayerStellarPolicy)
    (inner : TransactionEnvelope) (assetId : String) :
    Except StellarTransactionUtilsError FeeQuote :=
  (estimateFee services inner none).bind fun estimated =>
    convertXlmFeeToToken services policy
      (if xdrNeedsSimulation inner then estimated
        else estimated + stellarDefaultTransactionFee) assetId

/-- An accepted payment is at least the quote. -/
theorem validateFeePayment_eq_ok {policy : RelayerStellarPolicy} {assetId : String}
    {amount : UInt64} (hok : validateFeePayment services policy inner assetId amount = .ok ()) :
    ∃ quote, validatedQuote services policy inner assetId = .ok quote ∧
      quote.feeInToken ≤ amount := by
  obtain ⟨_, -, hok⟩ := bind_eq_ok.mp hok
  obtain ⟨_, -, hok⟩ := bind_eq_ok.mp hok
  obtain ⟨estimated, hestimated, hok⟩ := bind_eq_ok.mp hok
  obtain ⟨quote, hquote, hok⟩ := bind_eq_ok.mp hok
  refine ⟨quote, ?_, ?_⟩
  · rw [validatedQuote, ok_of_mapError hestimated]
    exact ok_of_mapError hquote
  · by_contra hless
    rw [if_pos (UInt64.not_le.mp hless)] at hok
    cases hok

/-- An accepted envelope holds one payment to the relayer, and it reaches its quote. -/
theorem validateUserFeePaymentAmounts_eq_ok {policy : RelayerStellarPolicy}
    (hok : validateUserFeePaymentAmounts services inner relayerAddress policy = .ok ()) :
    ∃ assetId amount quote,
      extractRelayerPayments relayerAddress (extractOperations inner) =
        .ok [(assetId, amount)] ∧
      validatedQuote services policy inner assetId = .ok quote ∧
      quote.feeInToken ≤ amount := by
  obtain ⟨payments, hpayments, hok⟩ := bind_eq_ok.mp hok
  split at hok
  · cases hok
  · next assetId amount =>
      obtain ⟨quote, hquote, hle⟩ := validateFeePayment_eq_ok hok
      exact ⟨assetId, amount, quote, hpayments, hquote, hle⟩
  · cases hok

/-- The fee in terms of the envelope: 100 stroops for every operation and one more,
or 100 stroops and the simulated resource fee, with the policy's margin. -/
def coveredFee (services : StellarServices) (policy : RelayerStellarPolicy)
    (inner : TransactionEnvelope) : UInt64 :=
  bufferedFee policy <|
    if xdrNeedsSimulation inner then
      match services.simulateTransactionEnvelope inner with
      | .ok response => stellarDefaultTransactionFee + response.minResourceFee
      | .error _ => 0
    else UInt64.ofNat (100 * ((extractOperations inner).length + 1))

theorem operations_pos_of_gasless {envelope : TransactionEnvelope}
    {maxValidityDuration : Option ℤ}
    (hok : gaslessTransactionValidation services envelope relayerAddress
      maxValidityDuration = .ok ()) :
    0 < (extractOperations envelope).length := by
  obtain ⟨_, -, hok⟩ := bind_eq_ok.mp hok
  obtain ⟨_, -, hok⟩ := bind_eq_ok.mp hok
  obtain ⟨_, -, hok⟩ := bind_eq_ok.mp hok
  obtain ⟨_, hcount, -⟩ := bind_eq_ok.mp hok
  simp only [validateOperationsCount] at hcount
  split_ifs at hcount with hzero
  · cases hcount
  · exact Nat.pos_of_ne_zero hzero
  · exact Nat.pos_of_ne_zero hzero

theorem estimateBaseFee_add {count : ℕ} (hpositive : 0 < count) :
    estimateBaseFee count + stellarDefaultTransactionFee =
      UInt64.ofNat (100 * (count + 1)) := by
  have hmax : max count 1 = count := max_eq_left hpositive
  rw [estimateBaseFee, hmax, stellarDefaultTransactionFee, mul_add, UInt64.ofNat_add,
    UInt64.ofNat_mul, UInt64.mul_comm]
  rfl

theorem convertXlmFeeToToken_feeInStroops {policy : RelayerStellarPolicy} {xlmFee : UInt64}
    {assetId : String} {quote : FeeQuote}
    (hquote : convertXlmFeeToToken services policy xlmFee assetId = .ok quote) :
    quote.feeInStroops = bufferedFee policy xlmFee := by
  dsimp only [convertXlmFeeToToken] at hquote
  split at hquote
  · cases hquote
    rfl
  · split at hquote
    · cases hquote
    · cases hquote
      rfl

theorem validatedQuote_feeInStroops {policy : RelayerStellarPolicy} {assetId : String}
    {quote : FeeQuote} (hpositive : 0 < (extractOperations inner).length)
    (hquote : validatedQuote services policy inner assetId = .ok quote) :
    quote.feeInStroops = coveredFee services policy inner := by
  obtain ⟨estimated, hestimated, hquote⟩ := bind_eq_ok.mp hquote
  rw [convertXlmFeeToToken_feeInStroops hquote, coveredFee]
  congr 1
  rw [estimateFee] at hestimated
  split_ifs at hestimated ⊢ with hsimulation
  · split at hestimated
    · cases hestimated
    · next response hresponse =>
        split_ifs at hestimated
        rw [hresponse, ← Except.ok.inj hestimated]
  · rw [← Except.ok.inj hestimated]
    exact estimateBaseFee_add hpositive

/-- The signed fee stays within the fee that the user's payment was validated for
exactly when the request's maximum fee does: nothing relates the two. -/
theorem processFeeBump_covered_iff (services : StellarServices) (signer : StellarSigner)
    (relayerAddress : String) (data out : StellarTransactionData)
    (policy : RelayerStellarPolicy) (huser : policy.isUserFeePayment = true)
    (hok : processFeeBump services signer relayerAddress data (some policy) = .ok out) :
    ∃ inner maxFee bump assetId amount quote,
      data.transactionInput = .signedXdr (.ok inner) maxFee ∧
      out.signedEnvelopeXdr = some (.ok (.txFeeBump bump)) ∧
      extractRelayerPayments relayerAddress (extractOperations inner) =
        .ok [(assetId, amount)] ∧
      validatedQuote services policy inner assetId = .ok quote ∧ quote.feeInToken ≤ amount ∧
      (bump.tx.fee.toInt ≤ quote.feeInStroops.toNat ↔
        maxFee.toInt ≤ (coveredFee services policy inner).toNat) := by
  obtain ⟨inner, maxFee, bump, hinput, hpaid, hout, hfee⟩ := processFeeBump_eq_ok hok
  rw [validateUserPayment, if_pos huser] at hpaid
  obtain ⟨_, hgasless, hamounts⟩ := bind_eq_ok.mp (ok_of_mapError hpaid)
  obtain ⟨assetId, amount, quote, hpayments, hquote, hle⟩ :=
    validateUserFeePaymentAmounts_eq_ok hamounts
  have hpositive := operations_pos_of_gasless hgasless
  refine ⟨inner, maxFee, bump, assetId, amount, quote, hinput, hout, hpayments, hquote, hle, ?_⟩
  rw [hfee, validatedQuote_feeInStroops hpositive hquote]

def sampleSigner : StellarSigner := fun _ => .ok (some ⟨[1], [2]⟩)

/-- The user's payment of 1000 stroops to the relayer, signed. -/
def sampleInner : TransactionEnvelope :=
  .tx ⟨⟨.ed25519 sampleUser.key, 100, 1, .none, [], [samplePayment none sampleRelayer], .v0⟩,
    [⟨[2], [3]⟩]⟩

def sampleData (maxFee : Int64) : StellarTransactionData :=
  { createSigningData sampleRelayer.toText sampleInner "Test SDF Network ; September 2015" with
    transactionInput := .signedXdr (.ok sampleInner) maxFee }

/-- The payment needs a bid of 200 stroops; a maximum of 250 is bid as it is. -/
theorem fee_bump_fee_sufficient_payment :
    (extractOperations sampleInner).length ≤ stellarMaxOperations ∧
      feeBumpResourceFee sampleServices sampleInner = .ok 0 ∧
      calculateFeeBumpFee (extractInnerTransactionFee sampleInner) 0
        (countedOperations sampleInner) (countedOperations sampleInner + 1) = .ok 200 ∧
      Sufficient 100 0 1 200 ∧
      ((250 : UInt32).toNat : ℤ) = (250 : Int64).toInt ∧ Sufficient 100 0 1 250 := by
  have hresource : feeBumpResourceFee sampleServices sampleInner = .ok 0 := rfl
  have hrequired : calculateFeeBumpFee (extractInnerTransactionFee sampleInner) 0
      (countedOperations sampleInner) (countedOperations sampleInner + 1) = .ok 200 := rfl
  have hbid : calculateFeeBumpRequiredFee sampleServices sampleInner 250 = .ok 250 := rfl
  obtain ⟨hsufficient, -, hbids⟩ :=
    fee_bump_fee_sufficient sampleServices sampleInner (by decide) 0 200 hresource hrequired
  obtain ⟨hsame, -, hcovered⟩ := hbids 250 250 hbid
  exact ⟨by decide, hresource, hrequired, hsufficient, hsame, hcovered⟩

/-- A maximum fee of 200 stroops is what the payment was validated for. -/
theorem processFeeBump_covered_minimum :
    ∃ out bump quote, processFeeBump sampleServices sampleSigner sampleRelayer.toText
        (sampleData 200) (some samplePolicy) = .ok out ∧
      out.signedEnvelopeXdr = some (.ok (.txFeeBump bump)) ∧
      validatedQuote sampleServices samplePolicy sampleInner "native" = .ok quote ∧
      bump.tx.fee.toInt ≤ quote.feeInStroops.toNat := by
  obtain ⟨out, hok⟩ := exists_of_isOk (show (processFeeBump sampleServices sampleSigner
    sampleRelayer.toText (sampleData 200) (some samplePolicy)).isOk = true by decide +kernel)
  obtain ⟨inner, maxFee, bump, assetId, amount, quote, hinput, hout, hpayments, hquote, -, hiff⟩ :=
    processFeeBump_covered_iff sampleServices sampleSigner sampleRelayer.toText
      (sampleData 200) out samplePolicy rfl hok
  cases hinput
  have hnative : extractRelayerPayments sampleRelayer.toText (extractOperations sampleInner) =
      .ok [("native", 1000)] := by
    decide +kernel
  cases hnative.symm.trans hpayments
  exact ⟨out, bump, quote, hok, hout, hquote, hiff.mpr (by decide)⟩

/-- With the default maximum fee the relayer signs a bid of 1000000 stroops for a
payment that was validated for 200. -/
theorem processFeeBump_exceeds_payment :
    ∃ out bump quote, processFeeBump sampleServices sampleSigner sampleRelayer.toText
        (sampleData 1000000) (some samplePolicy) = .ok out ∧
      out.signedEnvelopeXdr = some (.ok (.txFeeBump bump)) ∧
      validatedQuote sampleServices samplePolicy sampleInner "native" = .ok quote ∧
      ¬ (bump.tx.fee.toInt ≤ quote.feeInStroops.toNat) := by
  obtain ⟨out, hok⟩ := exists_of_isOk (show (processFeeBump sampleServices sampleSigner
    sampleRelayer.toText (sampleData 1000000) (some samplePolicy)).isOk = true by
      decide +kernel)
  obtain ⟨inner, maxFee, bump, hinput, -, hout, hfee⟩ := processFeeBump_eq_ok hok
  cases hinput
  obtain ⟨quote, hquote, hstroops⟩ : ∃ quote, validatedQuote sampleServices samplePolicy
      sampleInner "native" = .ok quote ∧ quote.feeInStroops = 200 :=
    exists_of_map_eq_ok rfl
  refine ⟨out, bump, quote, hok, hout, hquote, ?_⟩
  rw [hfee, hstroops]
  decide

end Relayer.FeeBump
