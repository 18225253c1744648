import Relayer.Stellar.FeeBump

/-!
# Building sponsored transactions

A user asks for a transaction whose fee the relayer will pay.  The builder takes
the user's envelope or operations, quotes the fee in a token, appends a payment of
that amount to the relayer and gives the user two minutes to sign.  The result
is meant to pass the gasless validation when the user sends it back.
-/

namespace Relayer.SponsoredBuild

open Relayer.Transaction Relayer.Xdr Relayer.StellarFees Relayer.StellarData
open Relayer.StellarOperations Relayer.StellarValidation Relayer.FeeBump Relayer.Checks

abbrev Building := Except RelayerError

structure PrepareTransactionRequestParams where
  transactionXdr : Option (Decoded TransactionEnvelope)
  operations : Option (List OperationSpec)
  sourceAccount : Option String
  feeToken : String

/-- The deadline is kept in nanoseconds instead of as a date. -/
structure PrepareTransactionResult where
  transaction : TransactionEnvelope
  feeInToken : String
  feeInTokenUi : String
  feeInStroops : String
  feeToken : String
  validUntil : ℕ
  userAuthEntry : Option String
  maxFeeInToken : Option String
  maxFeeInTokenUi : Option String

/-! ## The requested envelope -/

def missingInput : String :=
  "Must provide either transaction_xdr or operations in the request"

/-- The data that the operations of a user are built from. -/
def userTransactionData (sourceAccount networkPassphrase : String) (sequence : Int64)
    (specs : List OperationSpec) : StellarTransactionData where
  sourceAccount := sourceAccount
  fee := none
  sequenceNumber := some sequence
  memo := none
  validUntil := none
  networkPassphrase := networkPassphrase
  signatures := []
  hash := none
  simulationTransactionData := none
  transactionInput := .operations specs
  signedEnvelopeXdr := none
  transactionResultXdr := none

/-- Operations take the user's next sequence number. -/
def buildEnvelopeFromRequest (services : StellarServices) (parseDate : DateParser)
    (networkPassphrase : String) (params : PrepareTransactionRequestParams) :
    Building TransactionEnvelope :=
  match params.transactionXdr, params.operations with
  | some xdr, _ =>
      (parseTransactionXdr xdr false).mapError fun e => .internal s!"Failed to parse XDR: {e}"
  | none, some specs =>
      match params.sourceAccount with
      | none => .error (.validationError "source_account is required when providing operations")
      | some sourceAccount => do
          let sequence ← (services.getAccountSequence sourceAccount).mapError fun e =>
            .internal s!"Failed to fetch account sequence number for {sourceAccount}: {e}"
          (buildUnsignedEnvelope parseDate
            (userTransactionData sourceAccount networkPassphrase (sequence + 1) specs)).mapError
              fun e => .internal s!"Failed to build envelope from operations: {e}"
  | none, none => .error (.validationError missingInput)

/-! ## The fee payment -/

/-- The asset that a token identifier names: `native`, nothing, or `CODE:ISSUER`. -/
def feeTokenAsset (assetId : String) : Except StellarTransactionUtilsError AssetSpec :=
  if assetId == "native" || assetId.isEmpty then .ok .native
  else
    let code := String.ofList (assetId.toList.takeWhile (· != ':'))
    match assetId.toList.dropWhile (· != ':') with
    | [] => .error (.invalidAssetFormat
        s!"Invalid asset identifier format. Expected 'native' or 'CODE:ISSUER', got: {assetId}")
    | _ :: issuer =>
        if code.utf8ByteSize ≤ 4 then .ok (.credit4 code (String.ofList issuer))
        else if code.utf8ByteSize ≤ 12 then .ok (.credit12 code (String.ofList issuer))
        else .error (.assetCodeTooLong 12 code)

def createFeePaymentOperation (destination assetId : String) (amount : Int64) :
    Except StellarTransactionUtilsError OperationSpec := do
  let asset ← feeTokenAsset assetId
  return .payment destination amount asset

/-- The envelope with other operations and 100 stroops of fee for each of them. -/
def replaceOperations (envelope : TransactionEnvelope) (operations : List Operation) :
    Option TransactionEnvelope :=
  let fee := minimumFee operations
  mapTransaction envelope (fun tx => { tx with operations, fee })
    (fun tx => { tx with operations, fee })

def addOperationToEnvelope (envelope : TransactionEnvelope) (operation : Operation) :
    Except StellarTransactionUtilsError TransactionEnvelope :=
  let operations := extractOperations envelope ++ [operation]
  match replaceOperations envelope operations with
  | some extended =>
      if stellarMaxOperations < operations.length then
        .error (.tooManyOperations stellarMaxOperations)
      else .ok extended
  | none => .error .cannotModifyFeeBump

def addFeePaymentOperation (envelope : TransactionEnvelope) (feeToken : String)
    (feeAmount : Int64) (relayerAddress : String) : Building TransactionEnvelope := do
  let spec ← (createFeePaymentOperation relayerAddress feeToken feeAmount).mapError
    StellarTransactionUtilsError.toRelayerError
  let operation ← (convertOperation spec).mapError fun e =>
    .internal s!"Failed to convert payment operation: {e}"
  (addOperationToEnvelope envelope operation).mapError
    StellarTransactionUtilsError.toRelayerError

/-- Contract calls stand alone in their transaction and get no payment. -/
def addPaymentOperationToEnvelope (envelope : TransactionEnvelope) (feeQuote : FeeQuote)
    (feeToken relayerAddress : String) : Building TransactionEnvelope := do
  let feeAmount ← (i64FromU64 feeQuote.feeInToken).mapError fun _ =>
    .internal "Fee amount too large for payment operation (exceeds i64::MAX)"
  if xdrNeedsSimulation envelope then return envelope
  else addFeePaymentOperation envelope feeToken feeAmount relayerAddress

/-! ## Time bounds -/

/-- `get_stellar_sponsored_transaction_validity_duration`, in nanoseconds. -/
def sponsoredValidityDuration : ℕ := 120 * nanosPerSecond

/-- The deadline of a transaction that is built now.  Adding to a date beyond the
calendar ends the request. -/
def sponsoredDeadline (now : ℕ) : Building ℕ :=
  if isCalendarTimestamp ((now + sponsoredValidityDuration) / nanosPerSecond : ℕ) then
    .ok (now + sponsoredValidityDuration)
  else .error (.internal "DateTime + TimeDelta overflowed")

def timeBoundsUntil (validUntil : ℕ) : TimeBounds :=
  ⟨0, UInt64.ofNat (validUntil / nanosPerSecond)⟩

def setTimeBounds (envelope : TransactionEnvelope) (validUntil : ℕ) :
    Except StellarTransactionUtilsError TransactionEnvelope :=
  match mapTransaction envelope
    (fun tx => { tx with timeBounds := some (timeBoundsUntil validUntil) })
    (fun tx => { tx with cond := .time (timeBoundsUntil validUntil) }) with
  | some bounded => .ok bounded
  | none => .error .cannotSetTimeBoundsOnFeeBump

/-! ## The builder -/

/-- The payment and the fee bump cost one operation each. -/
def sponsoredXlmFee (envelope : TransactionEnvelope) (innerTxFee : UInt64) : UInt64 :=
  if xdrNeedsSimulation envelope then innerTxFee
  else innerTxFee + 2 * stellarDefaultTransactionFee

/-- The user can pay what the policy allows to be charged. -/
def validateFeeQuote (services : StellarServices) (policy : RelayerStellarPolicy)
    (envelope : TransactionEnvelope) (feeToken : String) (feeQuote : FeeQuote) :
    Validation Unit := do
  validateMaxFee feeQuote.feeInStroops policy
  validateTokenMaxFee feeToken feeQuote.feeInToken policy
  validateUserTokenBalance services envelope feeToken feeQuote.feeInToken

def buildClassicSponsored (services : StellarServices) (parseDate : DateParser)
    (networkPassphrase relayerAddress : String) (policy : RelayerStellarPolicy)
    (params : PrepareTransactionRequestParams) : Building PrepareTransactionResult := do
  (validateAllowedToken params.feeToken policy).mapError fun e => .validationError e.toText
  if params.transactionXdr.isNone && params.operations.isNone then
    .error (.validationError missingInput)
  else do
    let envelope ← buildEnvelopeFromRequest services parseDate networkPassphrase params
    (gaslessTransactionValidation services envelope relayerAddress none).mapError fun e =>
      let message := e.toText
      .validationError s!"Failed to validate gasless transaction: {message}"
    let innerTxFee ← (estimateFee services envelope none).mapError
      StellarTransactionUtilsError.toRelayerError
    let feeQuote ← (convertXlmFeeToToken services policy
      (sponsoredXlmFee envelope innerTxFee) params.feeToken).mapError
        StellarTransactionUtilsError.toRelayerError
    (validateFeeQuote services policy envelope params.feeToken feeQuote).mapError fun e =>
      .validationError e.toText
    let extended ← addPaymentOperationToEnvelope envelope feeQuote params.feeToken
      relayerAddress
    let validUntil ← sponsoredDeadline (services.clock 1)
    let transaction ← (setTimeBounds extended validUntil).mapError
      StellarTransactionUtilsError.toRelayerError
    return {
      transaction := transaction
      feeInToken := toString feeQuote.feeInToken
      feeInTokenUi := feeQuote.feeInTokenUi
      feeInStroops := toString feeQuote.feeInStroops
      feeToken := params.feeToken
      validUntil := validUntil
      userAuthEntry := none
      maxFeeInToken := none
      maxFeeInTokenUi := none }

/-! ## What was requested -/

def requestedOperations (params : PrepareTransactionRequestParams) : List Operation :=
  match params.transactionXdr with
  | some xdr => (xdr.toOption.map extractOperations).getD []
  | none => (params.operations.getD []).filterMap fun spec =>
      (convertOperation spec).toOption

def requestedSource (params : PrepareTransactionRequestParams) : Option String :=
  match params.transactionXdr with
  | some xdr => xdr.toOption.map extractSourceAccount
  | none => params.sourceAccount.bind fun source =>
      (stringToMuxedAccount source).toOption.map muxedAccountToString

/-- A classic request calls no contract. -/
def isClassic (params : PrepareTransactionRequestParams) : Bool :=
  (requestedOperations params).all fun op => !op.body.isInvokeHostFunction

theorem buildEnvelopeFromRequest_eq_ok {services : StellarServices} {parseDate : DateParser}
    {networkPassphrase : String} {params : PrepareTransactionRequestParams}
    {envelope : TransactionEnvelope}
    (hok : buildEnvelopeFromRequest services parseDate networkPassphrase params =
      .ok envelope) :
    extractOperations envelope = requestedOperations params ∧
      some (extractSourceAccount envelope) = requestedSource params := by
  unfold buildEnvelopeFromRequest at hok
  unfold requestedOperations requestedSource
  split at hok
  · next xdr _ hxdr =>
      obtain ⟨decoded, hdecoded, hdone⟩ := bind_eq_ok.mp (ok_of_mapError hok)
      cases hdone
      rw [hxdr, ok_of_mapError hdecoded]
      exact ⟨rfl, rfl⟩
  · next specs hxdr hspecs =>
      rw [hxdr, hspecs]
      split at hok
      · cases hok
      · next source hsource =>
          obtain ⟨sequence, -, hok⟩ := bind_eq_ok.mp hok
          obtain ⟨tx, htx, hdone⟩ := bind_eq_ok.mp (ok_of_mapError hok)
          cases hdone
          obtain ⟨operations, hoperations, htx⟩ := bind_eq_ok.mp htx
          split_ifs at htx
          obtain ⟨memo, -, htx⟩ := bind_eq_ok.mp htx
          obtain ⟨account, haccount, hdone⟩ := bind_eq_ok.mp htx
          cases hdone
          rw [hsource, Option.bind_some]
          have haccount := ok_of_mapError haccount
          simp only [userTransactionData] at haccount
          rw [haccount]
          exact ⟨(filterMap_of_mapM_eq_ok hoperations).symm, rfl⟩
  · cases hok

/-! ## What the user signs -/

def StellarServices.withClock (services : StellarServices) (clock : ℕ → ℕ) :
    StellarServices :=
  { services with clock := clock }

/-- The result with any signatures passes the validation from now on until its time
bounds expire, with the same answers of every service but the clock. -/
def ValidatesUntilExpiry (services : StellarServices) (relayerAddress : String)
    (policy : RelayerStellarPolicy) (result : PrepareTransactionResult) : Prop :=
  ∀ signatures signed clock (maxValidityDuration : Option ℤ),
    attachSignatures signatures result.transaction = .ok signed →
    clock 0 / nanosPerSecond ≤ result.validUntil / nanosPerSecond →
    result.validUntil ≤ clock 1 + sponsoredValidityDuration →
    (∀ maxDuration ∈ maxValidityDuration, (sponsoredValidityDuration : ℤ) ≤ maxDuration) →
    validateUserFeePaymentTransaction (StellarServices.withClock services clock) signed
      relayerAddress policy maxValidityDuration = .ok ()

/-- The fee for the given number of requested operations, the payment and the fee
bump. -/
def sponsoredFee (count : ℕ) : UInt64 :=
  estimateBaseFee count + 2 * stellarDefaultTransactionFee

/-- The name under which the validator knows the token that a request names.  They
differ for the empty name of the native asset and for codes with a null character. -/
def tokenIdentifier (feeToken : String) : String :=
  match feeTokenAsset feeToken with
  | .ok asset => asset.identifier
  | .error _ => feeToken

/-- The amount quoted for one name of a token settles the fee under another name. -/
def SettlesAs (services : StellarServices) (policy : RelayerStellarPolicy)
    (source feeToken identifier : String) (fee : UInt64) : Prop :=
  ∃ charged required balance,
    convertXlmFeeToToken services policy fee feeToken = .ok charged ∧
    convertXlmFeeToToken services policy fee identifier = .ok required ∧
    validateAllowedToken identifier policy = .ok () ∧
    validateTokenMaxFee identifier charged.feeInToken policy = .ok () ∧
    services.getTokenBalance source identifier = .ok balance ∧
    required.feeInToken ≤ charged.feeInToken ∧
    required.feeInToken ≤ balance

/-! ## The sponsored envelope -/

/-- What the builder and the user's signature change: the envelope gains the payment
and the time bounds and keeps its source and its sequence number. -/
structure Sponsors (envelope signed : TransactionEnvelope) (payment : Operation)
    (validUntil : ℕ) : Prop where
  operations : extractOperations signed = extractOperations envelope ++ [payment]
  count : (extractOperations signed).length ≤ stellarMaxOperations
  source : extractSourceAccount signed = extractSourceAccount envelope
  sequence : envelopeSequence signed = envelopeSequence envelope
  bounds : extractTimeBounds signed = some (timeBoundsUntil validUntil)
  plain : validateTransactionType signed = .ok ()

section Envelopes

variable {envelope extended built signed : TransactionEnvelope} {payment : Operation}
  {validUntil : ℕ}

theorem addOperationToEnvelope_eq_ok
    (hadd : addOperationToEnvelope envelope payment = .ok extended) :
    (extractOperations envelope ++ [payment]).length ≤ stellarMaxOperations ∧
      replaceOperations envelope (extractOperations envelope ++ [payment]) =
        some extended := by
  simp only [addOperationToEnvelope] at hadd
  split at hadd
  · next updated hupdated =>
      by_cases hmany : stellarMaxOperations < (extractOperations envelope ++ [payment]).length
      · rw [if_pos hmany] at hadd
        cases hadd
      · rw [if_neg hmany] at hadd
        exact ⟨not_lt.mp hmany, hupdated.trans (congrArg some (Except.ok.inj hadd))⟩
  · cases hadd

theorem sponsors_of_built {signatures : List DecoratedSignature}
    (hadd : addOperationToEnvelope envelope payment = .ok extended)
    (hbounds : setTimeBounds extended validUntil = .ok built)
    (hsigned : attachSignatures signatures built = .ok signed) :
    Sponsors envelope signed payment validUntil := by
  obtain ⟨hcount, hextended⟩ := addOperationToEnvelope_eq_ok hadd
  cases envelope with
  | txV0 e =>
      cases hextended
      cases hbounds
      cases hsigned
      exact ⟨rfl, hcount, rfl, rfl, rfl, rfl⟩
  | tx e =>
      cases hextended
      cases hbounds
      cases hsigned
      exact ⟨rfl, hcount, rfl, rfl, rfl, rfl⟩
  | txFeeBump e => cases hextended

/-- Every envelope with time bounds set can be signed. -/
theorem exists_signed (hbounds : setTimeBounds extended validUntil = .ok built) :
    ∃ signed, attachSignatures [] built = .ok signed := by
  cases built with
  | txV0 e => exact ⟨_, rfl⟩
  | tx e => exact ⟨_, rfl⟩
  | txFeeBump e => cases extended <;> cases hbounds

end Envelopes

/-! ## The gasless checks -/

section Gasless

variable {services : StellarServices} {envelope signed : TransactionEnvelope}
  {relayerAddress : String} {destination : MuxedAccount} {asset : Asset} {amount : Int64}
  {source : Option MuxedAccount} {validUntil : ℕ} {clock : ℕ → ℕ}

theorem timeBoundsUntil_maxTime (hcalendar :
      isCalendarTimestamp (validUntil / nanosPerSecond : ℕ) = true) :
    (timeBoundsUntil validUntil).maxTime.toNat = validUntil / nanosPerSecond ∧
      (timeBoundsUntil validUntil).maxTime.toInt64.toInt =
        (validUntil / nanosPerSecond : ℕ) := by
  simp only [isCalendarTimestamp, Bool.and_eq_true, decide_eq_true_eq] at hcalendar
  have hnat : (timeBoundsUntil validUntil).maxTime.toNat = validUntil / nanosPerSecond := by
    rw [timeBoundsUntil, UInt64.toNat_ofNat', Nat.mod_eq_of_lt]
    omega
  refine ⟨hnat, ?_⟩
  change (timeBoundsUntil validUntil).maxTime.toBitVec.toInt = _
  rw [BitVec.toInt_eq_toNat_of_lt, UInt64.toNat_toBitVec, hnat]
  rw [UInt64.toNat_toBitVec, hnat]
  omega

theorem validateTimeBoundsNotExpired_sponsored
    (hsponsors : Sponsors envelope signed ⟨source, .payment ⟨destination, asset, amount⟩⟩
      validUntil)
    (hcalendar : isCalendarTimestamp (validUntil / nanosPerSecond : ℕ) = true)
    (hclock : clock 0 / nanosPerSecond ≤ validUntil / nanosPerSecond) :
    validateTimeBoundsNotExpired (StellarServices.withClock services clock) signed =
      .ok () := by
  obtain ⟨hnat, -⟩ := timeBoundsUntil_maxTime hcalendar
  have hzero : (timeBoundsUntil validUntil).minTime.toNat = 0 := rfl
  simp only [validateTimeBoundsNotExpired, hsponsors.bounds, hnat, hzero,
    StellarServices.withClock]
  rw [if_neg (fun h => absurd h.2 (not_lt.mpr hclock)), if_neg (fun h => absurd h.1 (lt_irrefl 0))]

theorem validateTransactionValidityDuration_sponsored
    (hsponsors : Sponsors envelope signed ⟨source, .payment ⟨destination, asset, amount⟩⟩
      validUntil)
    (hcalendar : isCalendarTimestamp (validUntil / nanosPerSecond : ℕ) = true)
    (hpositive : 0 < validUntil / nanosPerSecond)
    (hclock : validUntil ≤ clock 1 + sponsoredValidityDuration) {maxDuration : ℤ}
    (hmax : (sponsoredValidityDuration : ℤ) ≤ maxDuration) :
    validateTransactionValidityDuration (StellarServices.withClock services clock) signed
      maxDuration = .ok () := by
  obtain ⟨hnat, hint⟩ := timeBoundsUntil_maxTime hcalendar
  have hbounded : ¬ (timeBoundsUntil validUntil).maxTime = 0 := by
    intro hzero
    rw [hzero] at hnat
    exact absurd hnat.symm (Nat.pos_iff_ne_zero.mp hpositive)
  have hfloor : validUntil / nanosPerSecond * nanosPerSecond ≤ validUntil :=
    Nat.div_mul_le_self validUntil nanosPerSecond
  have hduration : ¬ maxDuration <
      ((validUntil / nanosPerSecond : ℕ) : ℤ) * nanosPerSecond - clock 1 := by
    rw [← Nat.cast_mul]
    omega
  simp only [validateTransactionValidityDuration, hsponsors.bounds, hint,
    StellarServices.withClock]
  rw [if_neg hbounded, hcalendar, if_neg (by decide), if_neg hduration]

theorem gaslessTransactionValidation_sponsored
    (hsponsors : Sponsors envelope signed ⟨source, .payment ⟨destination, asset, amount⟩⟩
      validUntil)
    (hcalendar : isCalendarTimestamp (validUntil / nanosPerSecond : ℕ) = true)
    (hpositive : 0 < validUntil / nanosPerSecond)
    (hnow : clock 0 / nanosPerSecond ≤ validUntil / nanosPerSecond)
    (hlater : validUntil ≤ clock 1 + sponsoredValidityDuration)
    {maxValidityDuration : Option ℤ}
    (hmax : ∀ maxDuration ∈ maxValidityDuration,
      (sponsoredValidityDuration : ℤ) ≤ maxDuration)
    (hok : gaslessTransactionValidation services envelope relayerAddress none = .ok ()) :
    gaslessTransactionValidation (StellarServices.withClock services clock) signed
      relayerAddress maxValidityDuration = .ok () := by
  obtain ⟨⟨⟩, hsource, hok⟩ := bind_eq_ok.mp hok
  obtain ⟨⟨⟩, -, hok⟩ := bind_eq_ok.mp hok
  obtain ⟨⟨⟩, htargets, hok⟩ := bind_eq_ok.mp hok
  obtain ⟨⟨⟩, -, hok⟩ := bind_eq_ok.mp hok
  obtain ⟨⟨⟩, htypes, hok⟩ := bind_eq_ok.mp hok
  obtain ⟨⟨⟩, hsequence, -⟩ := bind_eq_ok.mp hok
  have hsource' : validateSourceAccountNotRelayer signed relayerAddress = .ok () := by
    rw [validateSourceAccountNotRelayer, hsponsors.source]
    exact hsource
  have htargets' : validateOperationsNotTargetingRelayer signed relayerAddress = .ok () := by
    rw [validateOperationsNotTargetingRelayer, checkAll_eq_ok_iff] at htargets ⊢
    intro op hop
    rw [hsponsors.operations, List.mem_append, List.mem_singleton] at hop
    rcases hop with hop | rfl
    · exact htargets op hop
    · rfl
  have hcount' : validateOperationsCount signed = .ok () := by
    have hnonzero : ¬ (extractOperations signed).length = 0 := by
      rw [hsponsors.operations, List.length_append, List.length_singleton]
      exact Nat.succ_ne_zero _
    simp only [validateOperationsCount]
    rw [if_neg hnonzero, if_neg (not_lt.mpr hsponsors.count)]
  have htypes' : validateOperationTypes signed relayerAddress = .ok () := by
    rw [validateOperationTypes, checkAll_eq_ok_iff] at htypes ⊢
    intro indexed hmem
    rw [hsponsors.operations, List.zipIdx_append, List.mem_append] at hmem
    rcases hmem with hmem | hmem
    · exact htypes indexed hmem
    · obtain rfl := List.mem_singleton.mp hmem
      rfl
  have hsequence' : validateSequenceNumber (StellarServices.withClock services clock) signed =
      .ok () := by
    rw [validateSequenceNumber, hsponsors.source, hsponsors.sequence]
    exact hsequence
  have htime : validateTimeBoundsNotExpired (StellarServices.withClock services clock)
      signed = .ok () := validateTimeBoundsNotExpired_sponsored hsponsors hcalendar hnow
  unfold gaslessTransactionValidation
  rw [hsource', hsponsors.plain, htargets', hcount', htypes', hsequence', htime]
  cases maxValidityDuration with
  | none => rfl
  | some maxDuration =>
      exact validateTransactionValidityDuration_sponsored hsponsors hcalendar hpositive hlater
        (hmax maxDuration rfl)

end Gasless

/-! ## The payment -/

theorem extractRelayerPayments_append {relayerAddress : String} {ops rest : List Operation}
    (hnone : ∀ op ∈ ops, paysRelayer relayerAddress op = false) :
    extractRelayerPayments relayerAddress (ops ++ rest) =
      extractRelayerPayments relayerAddress rest := by
  induction ops with
  | nil => rfl
  | cons op ops ih =>
      rw [List.forall_mem_cons] at hnone
      rw [List.cons_append, extractRelayerPayments]
      split
      · next payment hbody =>
          have hother : ¬ (muxedAccountToString payment.destination == relayerAddress) = true := by
            simpa [paysRelayer, hbody] using hnone.1
          rw [if_neg hother, ih hnone.2]
      · exact ih hnone.2

/-- The payment that the builder appends. -/
def feePayment (relayer : AccountId) (asset : Asset) (amount : Int64) : Operation :=
  ⟨none, .payment ⟨.ed25519 relayer.key, asset, amount⟩⟩

theorem relayerPayment_eq_ok {payment : PaymentOp} {identifier : String}
    (hid : assetToAssetId payment.asset = .ok identifier) (hamount : ¬ payment.amount < 0) :
    relayerPayment payment = .ok (identifier, payment.amount.toUInt64) := by
  rw [relayerPayment, hid]
  change (if payment.amount < 0 then _ else _) = _
  rw [if_neg hamount]
  rfl

theorem extractRelayerPayments_feePayment {relayer : AccountId} {asset : Asset}
    {amount : Int64} {identifier : String} (hid : assetToAssetId asset = .ok identifier)
    (hamount : ¬ amount < 0) :
    extractRelayerPayments relayer.toText [feePayment relayer asset amount] =
      .ok [(identifier, amount.toUInt64)] := by
  have hdestination :
      (muxedAccountToString (.ed25519 relayer.key) == relayer.toText) = true :=
    beq_self_eq_true relayer.toText
  have hpayment : relayerPayment ⟨.ed25519 relayer.key, asset, amount⟩ =
      .ok (identifier, amount.toUInt64) := relayerPayment_eq_ok hid hamount
  simp only [extractRelayerPayments, feePayment]
  rw [if_pos hdestination, hpayment]
  rfl

/-- The validator asks for the fee that the builder quoted. -/
theorem estimateBaseFee_succ {count : ℕ} (hpositive : 0 < count) :
    estimateBaseFee (count + 1) + stellarDefaultTransactionFee = sponsoredFee count := by
  have hmax : max count 1 = count := max_eq_left hpositive
  have hmax' : max (count + 1) 1 = count + 1 := max_eq_left (Nat.succ_pos count)
  rw [sponsoredFee, estimateBaseFee, estimateBaseFee, hmax, hmax', stellarDefaultTransactionFee,
    UInt64.ofNat_add]
  grind

theorem validateUserTokenBalance_eq_ok_iff {services : StellarServices}
    {envelope : TransactionEnvelope} {token : String} {required : UInt64} :
    validateUserTokenBalance services envelope token required = .ok () ↔
      ∃ balance, services.getTokenBalance (extractSourceAccount envelope) token = .ok balance ∧
        required ≤ balance := by
  rw [validateUserTokenBalance, bind_eq_ok]
  apply exists_congr
  intro balance
  constructor
  · rintro ⟨hbalance, hcheck⟩
    refine ⟨ok_of_mapError hbalance, ?_⟩
    by_contra hless
    rw [if_pos (UInt64.not_le.mp hless)] at hcheck
    cases hcheck
  · rintro ⟨hbalance, hle⟩
    rw [hbalance, if_neg (UInt64.not_lt.mpr hle)]
    exact ⟨rfl, rfl⟩

/-- The validator accepts the quoted amount exactly when it settles the fee under
the name that the validator gives the token. -/
theorem validateFeePayment_sponsored_iff {services : StellarServices}
    {policy : RelayerStellarPolicy} {signed : TransactionEnvelope} {clock : ℕ → ℕ}
    {feeToken identifier : String} {quote : FeeQuote} {count : ℕ}
    (hclassic : xdrNeedsSimulation signed = false)
    (hcount : (extractOperations signed).length = count + 1) (hpositive : 0 < count)
    (hquote : convertXlmFeeToToken services policy (sponsoredFee count) feeToken =
      .ok quote) :
    validateFeePayment (StellarServices.withClock services clock) policy signed identifier
        quote.feeInToken = .ok () ↔
      SettlesAs services policy (extractSourceAccount signed) feeToken identifier
        (sponsoredFee count) := by
  have hestimate : estimateFee (StellarServices.withClock services clock) signed none =
      .ok (estimateBaseFee (count + 1)) := by
    rw [estimateFee, hclassic, if_neg Bool.false_ne_true, Option.getD_none, hcount]
  have hconvert : ∀ token, convertXlmFeeToToken (StellarServices.withClock services clock)
      policy (estimateBaseFee (count + 1) + stellarDefaultTransactionFee) token =
        convertXlmFeeToToken services policy (sponsoredFee count) token := by
    intro token
    rw [estimateBaseFee_succ hpositive]
    rfl
  constructor
  · intro hok
    obtain ⟨⟨⟩, hallowed, hok⟩ := bind_eq_ok.mp hok
    obtain ⟨⟨⟩, hcap, hok⟩ := bind_eq_ok.mp hok
    obtain ⟨estimated, hestimated, hok⟩ := bind_eq_ok.mp hok
    obtain rfl := Except.ok.inj (hestimate.symm.trans (ok_of_mapError hestimated))
    simp only [hclassic, Bool.false_eq_true, if_false, hconvert] at hok
    obtain ⟨required, hrequired, hok⟩ := bind_eq_ok.mp hok
    by_cases hless : quote.feeInToken < required.feeInToken
    · rw [if_pos hless] at hok
      cases hok
    rw [if_neg hless] at hok
    obtain ⟨balance, hbalance, hfunds⟩ := validateUserTokenBalance_eq_ok_iff.mp hok
    exact ⟨quote, required, balance, hquote, ok_of_mapError hrequired, hallowed, hcap, hbalance,
      UInt64.not_lt.mp hless, hfunds⟩
  · rintro ⟨charged, required, balance, hcharged, hrequired, hallowed, hcap, hbalance, hle,
      hfunds⟩
    obtain rfl := Except.ok.inj (hquote.symm.trans hcharged)
    have hbalanced : validateUserTokenBalance (StellarServices.withClock services clock)
        signed identifier required.feeInToken = .ok () :=
      validateUserTokenBalance_eq_ok_iff.mpr ⟨balance, hbalance, hfunds⟩
    simp only [validateFeePayment, hallowed, hcap, hestimate, Except.mapError, hclassic,
      Bool.false_eq_true, if_false]
    change ((convertXlmFeeToToken _ policy _ identifier).mapError _ >>= _) = _
    rw [hconvert, hrequired]
    change (if quote.feeInToken < required.feeInToken then _ else _) = _
    rw [if_neg (UInt64.not_lt.mpr hle), hbalanced]

/-! ## The builder and the validator -/

theorem i64FromU64_eq_ok {value : UInt64} {amount : Int64} (hok : i64FromU64 value = .ok amount) :
    ¬ amount < 0 ∧ amount.toUInt64 = value := by
  rw [i64FromU64] at hok
  split_ifs at hok with hsmall
  cases hok
  refine ⟨?_, UInt64.toUInt64_toInt64 value⟩
  rw [Int64.not_lt, Int64.le_iff_toInt_le]
  change 0 ≤ value.toBitVec.toInt
  rw [BitVec.toInt_eq_toNat_of_lt]
  · exact Int.natCast_nonneg _
  · rw [UInt64.toNat_toBitVec]
    omega

theorem addFeePaymentOperation_eq_ok {envelope extended : TransactionEnvelope}
    {feeToken : String} {amount : Int64} {relayer : AccountId}
    (hok : addFeePaymentOperation envelope feeToken amount relayer.toText = .ok extended) :
    ∃ asset, assetToAssetId asset = .ok (tokenIdentifier feeToken) ∧
      addOperationToEnvelope envelope (feePayment relayer asset amount) = .ok extended := by
  obtain ⟨spec, hspec, hok⟩ := bind_eq_ok.mp hok
  obtain ⟨operation, hoperation, hadd⟩ := bind_eq_ok.mp hok
  obtain ⟨named, hnamed, hdone⟩ := bind_eq_ok.mp (ok_of_mapError hspec)
  cases hdone
  obtain ⟨destination, hdestination, hpayment⟩ := bind_eq_ok.mp (ok_of_mapError hoperation)
  obtain ⟨asset, hasset, hdone⟩ := bind_eq_ok.mp hpayment
  cases hdone
  have haccount := ok_of_mapError hdestination
  rw [parseMuxedAccount_toText] at haccount
  cases haccount
  refine ⟨asset, ?_, ok_of_mapError hadd⟩
  rw [tokenIdentifier, hnamed]
  exact assetToAssetId_of_convertAsset hasset

/-- What a successful build of a classic request went through. -/
structure Built (services : StellarServices) (parseDate : DateParser)
    (networkPassphrase : String) (relayer : AccountId) (policy : RelayerStellarPolicy)
    (params : PrepareTransactionRequestParams) (result : PrepareTransactionResult)
    (envelope extended : TransactionEnvelope) (quote : FeeQuote) (asset : Asset)
    (amount : Int64) : Prop where
  requested : buildEnvelopeFromRequest services parseDate networkPassphrase params =
    .ok envelope
  gasless : gaslessTransactionValidation services envelope relayer.toText none = .ok ()
  quoted : convertXlmFeeToToken services policy
    (sponsoredFee (requestedOperations params).length) params.feeToken = .ok quote
  allowed : validateAllowedToken params.feeToken policy = .ok ()
  capped : validateTokenMaxFee params.feeToken quote.feeInToken policy = .ok ()
  funded : validateUserTokenBalance services envelope params.feeToken quote.feeInToken =
    .ok ()
  named : assetToAssetId asset = .ok (tokenIdentifier params.feeToken)
  positive : ¬ amount < 0
  charged : amount.toUInt64 = quote.feeInToken
  paid : addOperationToEnvelope envelope (feePayment relayer asset amount) = .ok extended
  bounded : setTimeBounds extended result.validUntil = .ok result.transaction
  calendar : isCalendarTimestamp (result.validUntil / nanosPerSecond : ℕ) = true
  deadline : result.validUntil = services.clock 1 + sponsoredValidityDuration

theorem classic_of_requested {services : StellarServices} {parseDate : DateParser}
    {networkPassphrase : String} {params : PrepareTransactionRequestParams}
    {envelope : TransactionEnvelope} (hclassic : isClassic params = true)
    (hok : buildEnvelopeFromRequest services parseDate networkPassphrase params =
      .ok envelope) : xdrNeedsSimulation envelope = false := by
  rw [xdrNeedsSimulation, (buildEnvelopeFromRequest_eq_ok hok).1, List.any_eq_false]
  intro op hop
  rw [isClassic, List.all_eq_true] at hclassic
  simpa using hclassic op hop

theorem buildClassicSponsored_eq_ok {services : StellarServices} {parseDate : DateParser}
    {networkPassphrase : String} {relayer : AccountId} {policy : RelayerStellarPolicy}
    {params : PrepareTransactionRequestParams} {result : PrepareTransactionResult}
    (hclassic : isClassic params = true)
    (hok : buildClassicSponsored services parseDate networkPassphrase relayer.toText policy
      params = .ok result) :
    ∃ envelope extended quote asset amount, Built services parseDate networkPassphrase relayer
      policy params result envelope extended quote asset amount := by
  obtain ⟨⟨⟩, hallowed, hok⟩ := bind_eq_ok.mp hok
  by_cases hmissing : (params.transactionXdr.isNone && params.operations.isNone) = true
  · rw [if_pos hmissing] at hok
    cases hok
  rw [if_neg hmissing] at hok
  obtain ⟨envelope, henvelope, hok⟩ := bind_eq_ok.mp hok
  obtain ⟨⟨⟩, hgasless, hok⟩ := bind_eq_ok.mp hok
  obtain ⟨innerTxFee, hestimate, hok⟩ := bind_eq_ok.mp hok
  obtain ⟨quote, hquote, hok⟩ := bind_eq_ok.mp hok
  obtain ⟨⟨⟩, hcheck, hok⟩ := bind_eq_ok.mp hok
  obtain ⟨extended, hextended, hok⟩ := bind_eq_ok.mp hok
  obtain ⟨validUntil, hdeadline, hok⟩ := bind_eq_ok.mp hok
  obtain ⟨transaction, hbounded, hdone⟩ := bind_eq_ok.mp hok
  cases hdone
  have hsimulation := classic_of_requested hclassic henvelope
  have hlength := congrArg List.length (buildEnvelopeFromRequest_eq_ok henvelope).1
  have hquoted := ok_of_mapError hquote
  have hestimated := ok_of_mapError hestimate
  rw [estimateFee, hsimulation, if_neg Bool.false_ne_true, Option.getD_none, hlength]
    at hestimated
  rw [sponsoredXlmFee, hsimulation, if_neg Bool.false_ne_true,
    ← Except.ok.inj hestimated] at hquoted
  obtain ⟨⟨⟩, -, hcheck⟩ := bind_eq_ok.mp (ok_of_mapError hcheck)
  obtain ⟨⟨⟩, hcapped, hfunded⟩ := bind_eq_ok.mp hcheck
  obtain ⟨amount, hamount, hextended⟩ := bind_eq_ok.mp hextended
  rw [hsimulation, if_neg Bool.false_ne_true] at hextended
  obtain ⟨asset, hnamed, hpaid⟩ := addFeePaymentOperation_eq_ok hextended
  obtain ⟨hpositive, hcharged⟩ := i64FromU64_eq_ok (ok_of_mapError hamount)
  rw [sponsoredDeadline] at hdeadline
  split_ifs at hdeadline with hcalendar
  obtain rfl := Except.ok.inj hdeadline
  exact ⟨envelope, extended, quote, asset, amount, henvelope, ok_of_mapError hgasless, hquoted,
    ok_of_mapError hallowed, hcapped, hfunded, hnamed, hpositive, hcharged, hpaid,
    ok_of_mapError hbounded, hcalendar, rfl⟩

section Built

variable {services : StellarServices} {parseDate : DateParser} {networkPassphrase : String}
  {relayer : AccountId} {policy : RelayerStellarPolicy}
  {params : PrepareTransactionRequestParams} {result : PrepareTransactionResult}
  {envelope extended signed : TransactionEnvelope} {quote : FeeQuote} {asset : Asset}
  {amount : Int64} {clock : ℕ → ℕ}

/-- A request that does not pay the relayer is validated for the appended payment. -/
theorem Built.amounts_iff (hbuilt : Built services parseDate networkPassphrase relayer policy
      params result envelope extended quote asset amount)
    (hclassic : isClassic params = true)
    (hsponsors : Sponsors envelope signed (feePayment relayer asset amount) result.validUntil)
    (hnone : ∀ op ∈ requestedOperations params, paysRelayer relayer.toText op = false) :
    validateUserFeePaymentAmounts (StellarServices.withClock services clock) signed
        relayer.toText policy = .ok () ↔
      SettlesAs services policy (extractSourceAccount envelope) params.feeToken
        (tokenIdentifier params.feeToken)
        (sponsoredFee (requestedOperations params).length) := by
  obtain ⟨hoperations, -⟩ := buildEnvelopeFromRequest_eq_ok hbuilt.requested
  have hpayments : extractRelayerPayments relayer.toText (extractOperations signed) =
      .ok [(tokenIdentifier params.feeToken, quote.feeInToken)] := by
    rw [hsponsors.operations, hoperations, extractRelayerPayments_append hnone,
      extractRelayerPayments_feePayment hbuilt.named hbuilt.positive, hbuilt.charged]
  have hsimulation : xdrNeedsSimulation signed = false := by
    have hrequested := classic_of_requested hclassic hbuilt.requested
    rw [xdrNeedsSimulation] at hrequested ⊢
    rw [hsponsors.operations, List.any_append, hrequested]
    rfl
  have hlength : (extractOperations signed).length =
      (requestedOperations params).length + 1 := by
    rw [hsponsors.operations, hoperations, List.length_append, List.length_singleton]
  have hpositive : 0 < (requestedOperations params).length :=
    hoperations ▸ operations_pos_of_gasless hbuilt.gasless
  rw [validateUserFeePaymentAmounts, hpayments, ← hsponsors.source]
  exact validateFeePayment_sponsored_iff hsimulation hlength hpositive hbuilt.quoted

/-- Under its own name, the token settles the fee that it was quoted for. -/
theorem Built.settles (hbuilt : Built services parseDate networkPassphrase relayer policy
      params result envelope extended quote asset amount) :
    SettlesAs services policy (extractSourceAccount envelope) params.feeToken params.feeToken
      (sponsoredFee (requestedOperations params).length) := by
  obtain ⟨balance, hbalance, hfunds⟩ := validateUserTokenBalance_eq_ok_iff.mp hbuilt.funded
  exact ⟨quote, quote, balance, hbuilt.quoted, hbuilt.quoted, hbuilt.allowed, hbuilt.capped,
    hbalance, UInt64.le_refl _, hfunds⟩

end Built

/-- A built transaction validates until it expires exactly when the request does not
pay the relayer itself, which would make the appended payment a second one, and the
payment settles the fee under the name that the validator gives the token. -/
theorem buildClassicSponsored_validates_iff (services : StellarServices)
    (parseDate : DateParser) (networkPassphrase : String) (relayer : AccountId)
    (policy : RelayerStellarPolicy) (params : PrepareTransactionRequestParams)
    (result : PrepareTransactionResult) (hclassic : isClassic params = true)
    (hok : buildClassicSponsored services parseDate networkPassphrase relayer.toText policy
      params = .ok result) :
    ValidatesUntilExpiry services relayer.toText policy result ↔
      (∀ op ∈ requestedOperations params, paysRelayer relayer.toText op = false) ∧
      (tokenIdentifier params.feeToken = params.feeToken ∨
        ∃ source ∈ requestedSource params, SettlesAs services policy source params.feeToken
          (tokenIdentifier params.feeToken)
          (sponsoredFee (requestedOperations params).length)) := by
  obtain ⟨envelope, extended, quote, asset, amount, hbuilt⟩ :=
    buildClassicSponsored_eq_ok hclassic hok
  obtain ⟨hoperations, hsource⟩ := buildEnvelopeFromRequest_eq_ok hbuilt.requested
  constructor
  · intro hvalidates
    obtain ⟨signed, hsigned⟩ := exists_signed hbuilt.bounded
    have hsponsors := sponsors_of_built hbuilt.paid hbuilt.bounded hsigned
    have hnow : services.clock 1 / nanosPerSecond ≤ result.validUntil / nanosPerSecond := by
      rw [hbuilt.deadline]
      exact Nat.div_le_div_right (Nat.le_add_right _ _)
    obtain ⟨⟨⟩, -, hamounts⟩ := bind_eq_ok.mp (hvalidates [] signed (fun _ => services.clock 1)
      none hsigned hnow hbuilt.deadline.le (fun _ hmem => nomatch hmem))
    have hnone : ∀ op ∈ requestedOperations params, paysRelayer relayer.toText op = false := by
      obtain ⟨only, hunique⟩ := validateUserFeePaymentAmounts_unique hamounts
      rw [hsponsors.operations, hoperations, List.filter_append] at hunique
      have hpays : paysRelayer relayer.toText (feePayment relayer asset amount) = true :=
        beq_self_eq_true relayer.toText
      rw [List.filter_cons_of_pos hpays, List.filter_nil] at hunique
      have hempty : (requestedOperations params).filter (paysRelayer relayer.toText) = [] := by
        have hlength := congrArg List.length hunique
        rw [List.length_append, List.length_singleton, List.length_singleton] at hlength
        exact List.length_eq_zero_iff.mp (Nat.succ.inj hlength)
      intro op hop
      simpa using List.filter_eq_nil_iff.mp hempty op hop
    exact ⟨hnone, Or.inr ⟨_, hsource.symm,
      (hbuilt.amounts_iff hclassic hsponsors hnone).mp hamounts⟩⟩
  · rintro ⟨hnone, hname⟩ signatures signed clock maxValidityDuration hsigned hnow hlater hmax
    have hsponsors := sponsors_of_built hbuilt.paid hbuilt.bounded hsigned
    have hsettles : SettlesAs services policy (extractSourceAccount envelope) params.feeToken
        (tokenIdentifier params.feeToken)
        (sponsoredFee (requestedOperations params).length) := by
      rcases hname with hsame | ⟨source, hmem, hsettles⟩
      · rw [hsame]
        exact hbuilt.settles
      · rw [← hsource] at hmem
        rw [Option.some.inj hmem]
        exact hsettles
    have hpositive : 0 < result.validUntil / nanosPerSecond := by
      rw [hbuilt.deadline]
      apply Nat.div_pos _ (by decide)
      calc nanosPerSecond ≤ sponsoredValidityDuration := by decide
        _ ≤ services.clock 1 + sponsoredValidityDuration := Nat.le_add_left _ _
    have hgasless : gaslessTransactionValidation (StellarServices.withClock services clock)
        signed relayer.toText maxValidityDuration = .ok () :=
      gaslessTransactionValidation_sponsored hsponsors hbuilt.calendar hpositive hnow hlater
        hmax hbuilt.gasless
    rw [validateUserFeePaymentTransaction, hgasless]
    exact (hbuilt.amounts_iff hclassic hsponsors hnone).mpr hsettles

/-- A request of the user for one payment, with the fee to be paid in XLM. -/
def sampleRequest (destination : AccountId) : PrepareTransactionRequestParams where
  transactionXdr := some (.ok (sampleEnvelope [samplePayment none destination]))
  operations := none
  sourceAccount := none
  feeToken := "native"

/-- The transaction built for a payment to another account validates. -/
theorem buildClassicSponsored_validates_other :
    ∃ result, buildClassicSponsored sampleServices (fun _ => none)
        "Test SDF Network ; September 2015" sampleRelayer.toText samplePolicy
        (sampleRequest ⟨3⟩) = .ok result ∧
      ValidatesUntilExpiry sampleServices sampleRelayer.toText samplePolicy result := by
  obtain ⟨result, hok⟩ := exists_of_isOk (show (buildClassicSponsored sampleServices
    (fun _ => none) "Test SDF Network ; September 2015" sampleRelayer.toText samplePolicy
    (sampleRequest ⟨3⟩)).isOk = true by decide +kernel)
  refine ⟨result, hok, (buildClassicSponsored_validates_iff sampleServices (fun _ => none)
    "Test SDF Network ; September 2015" sampleRelayer samplePolicy (sampleRequest ⟨3⟩) result
    (by decide) hok).mpr ⟨?_, Or.inl (by decide)⟩⟩
  decide +kernel

/-- A payment to the relayer is built into a transaction with two such payments,
which the validator refuses while its time bounds last. -/
theorem buildClassicSponsored_pays_twice :
    ∃ result signed, buildClassicSponsored sampleServices (fun _ => none)
        "Test SDF Network ; September 2015" sampleRelayer.toText samplePolicy
        (sampleRequest sampleRelayer) = .ok result ∧
      attachSignatures [⟨[1], [2]⟩] result.transaction = .ok signed ∧
      sampleServices.clock 0 / nanosPerSecond ≤ result.validUntil / nanosPerSecond ∧
      validateUserFeePaymentTransaction sampleServices signed sampleRelayer.toText
        samplePolicy none ≠ .ok () := by
  have hrun : (buildClassicSponsored sampleServices (fun _ => none)
      "Test SDF Network ; September 2015" sampleRelayer.toText samplePolicy
      (sampleRequest sampleRelayer)).toOption.bind (fun result =>
        (attachSignatures [⟨[1], [2]⟩] result.transaction).toOption.map fun signed =>
          (result.validUntil, (validateUserFeePaymentTransaction sampleServices signed
            sampleRelayer.toText samplePolicy none).isOk)) = some (120000000000, false) := by
    decide +kernel
  obtain ⟨result, hbuilt, hrun⟩ := Option.bind_eq_some_iff.mp hrun
  obtain ⟨signed, hsigned, hrun⟩ := Option.map_eq_some_iff.mp hrun
  obtain ⟨huntil, hrefused⟩ := Prod.mk.inj hrun
  refine ⟨result, signed, ok_of_toOption hbuilt, ok_of_toOption hsigned,
    ?_, ?_⟩
  · rw [huntil]
    decide
  · intro haccepted
    rw [haccepted] at hrefused
    cases hrefused

end Relayer.SponsoredBuild
