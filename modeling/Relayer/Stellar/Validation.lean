import Relayer.Core.Checks
import Relayer.Stellar.Fees

/-!
# Gasless transaction validation

A user pays the relayer inside the transaction that the relayer will fee-bump
and sign.  Before that, the envelope passes the checks below: its source, its
operations, their authorization entries, its sequence number and time bounds,
and finally the payment that covers the fee.
-/

namespace Relayer.StellarValidation

open Relayer.Transaction Relayer.Xdr Relayer.StellarFees Relayer.Checks

abbrev Validation := Except StellarTransactionValidationError

def reject {A : Type} (message : String) : Validation A :=
  .error (.validationError message)

/-! ## Payments to the relayer -/

/-- The asset and amount of an operation that pays the relayer. -/
def relayerPayment (payment : PaymentOp) : Validation (String × UInt64) := do
  let assetId ← (assetToAssetId payment.asset).mapError fun e =>
    .invalidAssetIdentifier s!"Failed to convert asset to asset_id: {e}"
  if payment.amount < 0 then reject "Negative payment amount"
  else return (assetId, payment.amount.toUInt64)

def paysRelayer (relayerAddress : String) (op : Operation) : Bool :=
  match op.body with
  | .payment payment => muxedAccountToString payment.destination == relayerAddress
  | _ => false

def extractRelayerPayments (relayerAddress : String) :
    List Operation → Validation (List (String × UInt64))
  | [] => .ok []
  | op :: rest =>
      match op.body with
      | .payment payment =>
          if muxedAccountToString payment.destination == relayerAddress then do
            let first ← relayerPayment payment
            let others ← extractRelayerPayments relayerAddress rest
            return first :: others
          else extractRelayerPayments relayerAddress rest
      | _ => extractRelayerPayments relayerAddress rest

/-! ## Structure of the envelope -/

def validateSourceAccountNotRelayer (envelope : TransactionEnvelope)
    (relayerAddress : String) : Validation Unit :=
  if extractSourceAccount envelope == relayerAddress then
    reject ("Transaction source account cannot be the relayer address. " ++
      "This is a security measure to prevent relayer fund drainage.")
  else .ok ()

def validateTransactionType : TransactionEnvelope → Validation Unit
  | .txFeeBump _ =>
      reject "Fee-bump transactions are not supported for gasless transactions"
  | _ => .ok ()

/-- Payments to the relayer pass; merging an account into the relayer does not. -/
def validateOperationTarget (relayerAddress : String) (op : Operation) :
    Validation Unit :=
  match op.body with
  | .accountMerge destination =>
      if muxedAccountToString destination == relayerAddress then
        reject "Account merge operations targeting the relayer are not allowed"
      else .ok ()
  | _ => .ok ()

def validateOperationsNotTargetingRelayer (envelope : TransactionEnvelope)
    (relayerAddress : String) : Validation Unit :=
  checkAll (validateOperationTarget relayerAddress) (extractOperations envelope)

def validateOperationsCount (envelope : TransactionEnvelope) : Validation Unit :=
  let count := (extractOperations envelope).length
  if count = 0 then reject "Transaction must contain at least one operation"
  else if stellarMaxOperations < count then
    reject s!"Transaction contains too many operations: {count} (maximum is {stellarMaxOperations})"
  else .ok ()

/-! ## Contract invocations -/

/-- The account that signs for an authorization address, if it is one. -/
def authAddressAccount : ScAddress → Option String
  | .account id => some id.toText
  | .muxedAccount _ key => some (AccountId.toText ⟨key⟩)
  | .contract _ | .muxedContract _ | .claimableBalance _ | .liquidityPool _ => none

def ensureAuthAddressIsNotRelayer (address : ScAddress) (opIdx entryIdx : ℕ)
    (relayerAddress : String) : Validation Unit :=
  if authAddressAccount address == some relayerAddress then
    reject (s!"Op {opIdx}: Soroban auth entry {entryIdx} requires relayer " ++
      s!"({relayerAddress}). Forbidden.")
  else .ok ()

mutual

def ensureDelegateIsNotRelayer (opIdx entryIdx : ℕ) (relayerAddress : String) :
    SorobanDelegateSignature → Validation Unit
  | .mk address _ nestedDelegates => do
      ensureAuthAddressIsNotRelayer address opIdx entryIdx relayerAddress
      ensureDelegatesAreNotRelayer opIdx entryIdx relayerAddress nestedDelegates

def ensureDelegatesAreNotRelayer (opIdx entryIdx : ℕ) (relayerAddress : String) :
    List SorobanDelegateSignature → Validation Unit
  | [] => .ok ()
  | delegate :: rest => do
      ensureDelegateIsNotRelayer opIdx entryIdx relayerAddress delegate
      ensureDelegatesAreNotRelayer opIdx entryIdx relayerAddress rest

end

def validateAuthEntry (opIdx : ℕ) (relayerAddress : String)
    (indexed : SorobanAuthorizationEntry × ℕ) : Validation Unit :=
  let (entry, entryIdx) := indexed
  match entry.credentials with
  -- the source account was checked before
  | .sourceAccount => .ok ()
  | .address credentials | .addressV2 credentials =>
      ensureAuthAddressIsNotRelayer credentials.address opIdx entryIdx relayerAddress
  | .addressWithDelegates credentials delegates => do
      ensureDelegatesAreNotRelayer opIdx entryIdx relayerAddress delegates
      ensureAuthAddressIsNotRelayer credentials.address opIdx entryIdx relayerAddress

def validateHostFunction (opIdx : ℕ) : HostFunction → Validation Unit
  | .invokeContract _ => .ok ()
  | .createContract _ =>
      reject s!"Op {opIdx}: CreateContract not allowed for gasless transactions"
  | .uploadContractWasm _ =>
      reject s!"Op {opIdx}: UploadContractWasm not allowed for gasless transactions"
  | .createContractV2 _ => reject s!"Op {opIdx}: Unsupported host function"

def validateContractInvocation (invoke : InvokeHostFunctionOp) (opIdx : ℕ)
    (relayerAddress : String) : Validation Unit := do
  validateHostFunction opIdx invoke.hostFunction
  checkAll (validateAuthEntry opIdx relayerAddress) invoke.auth.zipIdx

def validateOperationType (relayerAddress : String) (indexed : Operation × ℕ) :
    Validation Unit :=
  let (op, idx) := indexed
  match op.body with
  | .accountMerge _ => reject s!"Operation {idx}: AccountMerge operations are not allowed"
  | .setOptions _ => reject s!"Operation {idx}: SetOptions operations are not allowed"
  | .invokeHostFunction invoke => validateContractInvocation invoke idx relayerAddress
  | .createAccount _ | .allowTrust _ =>
      reject s!"Operation {idx}: Deprecated operation type not allowed"
  | _ => .ok ()

def validateOperationTypes (envelope : TransactionEnvelope) (relayerAddress : String) :
    Validation Unit :=
  checkAll (validateOperationType relayerAddress) (extractOperations envelope).zipIdx

/-! ## Sequence number and time bounds -/

def envelopeSequence : TransactionEnvelope → Validation Int64
  | .txV0 envelope => .ok envelope.tx.seqNum
  | .tx envelope => .ok envelope.tx.seqNum
  | .txFeeBump _ =>
      reject "Fee-bump transactions are not supported for gasless transactions"

def validateSequenceNumber (services : StellarServices)
    (envelope : TransactionEnvelope) : Validation Unit := do
  let accountSeqNum ←
    (services.getAccountSequence (extractSourceAccount envelope)).mapError fun e =>
      .validationError s!"Failed to get account sequence: {e}"
  let txSeqNum ← envelopeSequence envelope
  if txSeqNum ≤ accountSeqNum then
    reject (s!"Transaction sequence number {txSeqNum} is invalid. " ++
      s!"Account's current sequence is {accountSeqNum}. " ++
      "The transaction sequence must be strictly greater than the account's current sequence.")
  else .ok ()

def nanosPerSecond : ℕ := 1000000000

def validateTimeBoundsNotExpired (services : StellarServices)
    (envelope : TransactionEnvelope) : Validation Unit :=
  match extractTimeBounds envelope with
  | none => .ok ()
  | some bounds =>
      let now := services.clock 0 / nanosPerSecond
      let minTime := bounds.minTime.toNat
      let maxTime := bounds.maxTime.toNat
      if maxTime ≠ 0 ∧ maxTime < now then
        reject s!"Transaction has expired: max_time={maxTime}, current_time={now}"
      else if 0 < minTime ∧ now < minTime then
        reject s!"Transaction is not yet valid: min_time={minTime}, current_time={now}"
      else .ok ()

/-- The seconds a calendar date can represent. -/
def isCalendarTimestamp (seconds : ℤ) : Bool :=
  -8334601228800 ≤ seconds && seconds ≤ 8210266876799

/-- `maxDuration` is in nanoseconds. -/
def validateTransactionValidityDuration (services : StellarServices)
    (envelope : TransactionEnvelope) (maxDuration : ℤ) : Validation Unit :=
  match extractTimeBounds envelope with
  | none => reject "Transaction must have time bounds set"
  | some bounds =>
      let maxTime := bounds.maxTime.toInt64.toInt
      if bounds.maxTime = 0 then
        reject "Transaction has unbounded validity (max_time=0), but bounded validity is required"
      else if !isCalendarTimestamp maxTime then
        reject "Invalid max_time in time bounds"
      else
        let duration := maxTime * nanosPerSecond - services.clock 1
        if maxDuration < duration then
          reject (s!"Transaction validity duration ({duration}) exceeds maximum allowed " ++
            s!"duration ({maxDuration})")
        else .ok ()

def gaslessTransactionValidation (services : StellarServices)
    (envelope : TransactionEnvelope) (relayerAddress : String)
    (maxValidityDuration : Option ℤ) : Validation Unit := do
  validateSourceAccountNotRelayer envelope relayerAddress
  validateTransactionType envelope
  validateOperationsNotTargetingRelayer envelope relayerAddress
  validateOperationsCount envelope
  validateOperationTypes envelope relayerAddress
  validateSequenceNumber services envelope
  validateTimeBoundsNotExpired services envelope
  match maxValidityDuration with
  | some maxDuration => validateTransactionValidityDuration services envelope maxDuration
  | none => .ok ()

/-! ## The fee payment -/

def validateUserTokenBalance (services : StellarServices)
    (envelope : TransactionEnvelope) (feeToken : String) (requiredFeeAmount : UInt64) :
    Validation Unit := do
  let userBalance ←
    (services.getTokenBalance (extractSourceAccount envelope) feeToken).mapError fun e =>
      .validationError s!"Failed to fetch user balance for token {feeToken}: {e}"
  if userBalance < requiredFeeAmount then
    reject (s!"Insufficient balance: user has {userBalance} {feeToken} " ++
      s!"but needs {requiredFeeAmount} {feeToken} for transaction fee")
  else .ok ()

/-- Checks one payment against the fee the relayer will have to pay. -/
def validateFeePayment (services : StellarServices) (policy : RelayerStellarPolicy)
    (envelope : TransactionEnvelope) (assetId : String) (amount : UInt64) :
    Validation Unit := do
  validateAllowedToken assetId policy
  validateTokenMaxFee assetId amount policy
  let estimated ← (estimateFee services envelope none).mapError fun e =>
    .validationError s!"Failed to estimate fee: {e}"
  let requiredXlmFee :=
    if xdrNeedsSimulation envelope then estimated
    -- the fee-bump pays the base fee of one more operation
    else estimated + stellarDefaultTransactionFee
  let feeQuote ←
    (convertXlmFeeToToken services policy requiredXlmFee assetId).mapError fun e =>
      .validationError s!"Failed to convert XLM fee to token {assetId}: {e}"
  if amount < feeQuote.feeInToken then
    .error (.insufficientTokenPayment feeQuote.feeInToken amount)
  else validateUserTokenBalance services envelope assetId feeQuote.feeInToken

def validateUserFeePaymentAmounts (services : StellarServices)
    (envelope : TransactionEnvelope) (relayerAddress : String)
    (policy : RelayerStellarPolicy) : Validation Unit := do
  match ← extractRelayerPayments relayerAddress (extractOperations envelope) with
  | [] => reject "Gasless transactions must include a fee payment operation to the relayer"
  | [(assetId, amount)] => validateFeePayment services policy envelope assetId amount
  | payments =>
      let count := payments.length
      reject (s!"Gasless transactions must include exactly one fee payment operation " ++
        s!"to the relayer, found {count}")

def validateUserFeePaymentTransaction (services : StellarServices)
    (envelope : TransactionEnvelope) (relayerAddress : String)
    (policy : RelayerStellarPolicy) (maxValidityDuration : Option ℤ) :
    Validation Unit := do
  gaslessTransactionValidation services envelope relayerAddress maxValidityDuration
  validateUserFeePaymentAmounts services envelope relayerAddress policy

/-! ## Who authorizes a contract call -/

/-- An address is an account with the given text, plain or muxed. -/
def IsAccount (text : String) (address : ScAddress) : Prop :=
  ∃ account : AccountId, account.toText = text ∧
    (address = .account account ∨ ∃ id, address = .muxedAccount id account.key)

/-- An address signs somewhere among delegates, at any depth. -/
inductive DelegatesTo (address : ScAddress) : List SorobanDelegateSignature → Prop where
  | direct {delegates nested : List SorobanDelegateSignature} {signature : ScVal}
      (hmem : .mk address signature nested ∈ delegates) : DelegatesTo address delegates
  | nested {delegates nested : List SorobanDelegateSignature} {other : ScAddress}
      {signature : ScVal} (hmem : .mk other signature nested ∈ delegates)
      (hdeep : DelegatesTo address nested) : DelegatesTo address delegates

/-- The addresses whose signatures an entry asks for. -/
def RequiresAddress (address : ScAddress) : SorobanCredentials → Prop
  | .sourceAccount => False
  | .address credentials | .addressV2 credentials => credentials.address = address
  | .addressWithDelegates credentials delegates =>
      credentials.address = address ∨ DelegatesTo address delegates

theorem DelegatesTo.mono {address : ScAddress} {delegates others : List SorobanDelegateSignature}
    (hsubset : delegates ⊆ others) (hdelegate : DelegatesTo address delegates) :
    DelegatesTo address others := by
  cases hdelegate with
  | direct hmem => exact .direct (hsubset hmem)
  | nested hmem hdeep => exact .nested (hsubset hmem) hdeep

section Authorization

variable {opIdx entryIdx : ℕ} {relayerAddress : String}

theorem ensureAuthAddressIsNotRelayer_eq_ok_iff {address : ScAddress} :
    ensureAuthAddressIsNotRelayer address opIdx entryIdx relayerAddress = .ok () ↔
      ¬ IsAccount relayerAddress address := by
  have haccount : authAddressAccount address = some relayerAddress ↔
      IsAccount relayerAddress address := by
    unfold IsAccount
    cases address with
    | account id => simp [authAddressAccount]
    | muxedAccount id key =>
        constructor
        · intro htext
          exact ⟨⟨key⟩, Option.some.inj htext, .inr ⟨id, rfl⟩⟩
        · rintro ⟨account, htext, heq | ⟨_, heq⟩⟩
          · cases heq
          · cases heq
            exact congrArg some htext
    | contract => simp [authAddressAccount]
    | muxedContract => simp [authAddressAccount]
    | claimableBalance => simp [authAddressAccount]
    | liquidityPool => simp [authAddressAccount]
  rw [ensureAuthAddressIsNotRelayer, ← haccount]
  split_ifs with hrelayer
  · simp [reject, beq_iff_eq.mp hrelayer]
  · simpa using hrelayer

theorem ensureDelegatesAreNotRelayer_eq_checkAll (delegates : List SorobanDelegateSignature) :
    ensureDelegatesAreNotRelayer opIdx entryIdx relayerAddress delegates =
      checkAll (ensureDelegateIsNotRelayer opIdx entryIdx relayerAddress) delegates := by
  induction delegates with
  | nil => rfl
  | cons delegate rest ih => rw [ensureDelegatesAreNotRelayer, checkAll, ih]

theorem not_isAccount_of_delegatesTo {address : ScAddress}
    {delegates : List SorobanDelegateSignature} (hdelegate : DelegatesTo address delegates)
    (hok : ensureDelegatesAreNotRelayer opIdx entryIdx relayerAddress delegates = .ok ()) :
    ¬ IsAccount relayerAddress address := by
  rw [ensureDelegatesAreNotRelayer_eq_checkAll, checkAll_eq_ok_iff] at hok
  induction hdelegate with
  | direct hmem =>
      obtain ⟨_, haddress, -⟩ := bind_eq_ok.mp (hok _ hmem)
      exact ensureAuthAddressIsNotRelayer_eq_ok_iff.mp haddress
  | nested hmem _ ih =>
      obtain ⟨_, -, hnested⟩ := bind_eq_ok.mp (hok _ hmem)
      rw [ensureDelegatesAreNotRelayer_eq_checkAll, checkAll_eq_ok_iff] at hnested
      exact ih hnested

mutual

theorem ensureDelegateIsNotRelayer_eq_ok :
    ∀ delegate : SorobanDelegateSignature,
      (∀ address, DelegatesTo address [delegate] → ¬ IsAccount relayerAddress address) →
      ensureDelegateIsNotRelayer opIdx entryIdx relayerAddress delegate = .ok ()
  | .mk address _ nested, hfree => by
      refine bind_eq_ok.mpr ⟨(), ?_, ?_⟩
      · exact ensureAuthAddressIsNotRelayer_eq_ok_iff.mpr
          (hfree address (.direct (List.mem_singleton_self _)))
      · exact ensureDelegatesAreNotRelayer_eq_ok nested fun other hother =>
          hfree other (.nested (List.mem_singleton_self _) hother)

theorem ensureDelegatesAreNotRelayer_eq_ok :
    ∀ delegates : List SorobanDelegateSignature,
      (∀ address, DelegatesTo address delegates → ¬ IsAccount relayerAddress address) →
      ensureDelegatesAreNotRelayer opIdx entryIdx relayerAddress delegates = .ok ()
  | [], _ => rfl
  | delegate :: rest, hfree => by
      refine bind_eq_ok.mpr ⟨(), ?_, ?_⟩
      · exact ensureDelegateIsNotRelayer_eq_ok delegate fun address hdelegate =>
          hfree address (hdelegate.mono (List.cons_subset_cons _ (List.nil_subset _)))
      · exact ensureDelegatesAreNotRelayer_eq_ok rest fun address hdelegate =>
          hfree address (hdelegate.mono (List.subset_cons_self _ _))

end

theorem validateAuthEntry_eq_ok_iff {entry : SorobanAuthorizationEntry} :
    validateAuthEntry opIdx relayerAddress (entry, entryIdx) = .ok () ↔
      ∀ address, RequiresAddress address entry.credentials →
        ¬ IsAccount relayerAddress address := by
  obtain ⟨credentials, invocation⟩ := entry
  cases credentials with
  | sourceAccount => simp [validateAuthEntry, RequiresAddress]
  | address credentials =>
      simp [validateAuthEntry, RequiresAddress, ensureAuthAddressIsNotRelayer_eq_ok_iff]
  | addressV2 credentials =>
      simp [validateAuthEntry, RequiresAddress, ensureAuthAddressIsNotRelayer_eq_ok_iff]
  | addressWithDelegates credentials delegates =>
      constructor
      · intro hok
        obtain ⟨_, hdelegates, haddress⟩ := bind_eq_ok.mp hok
        rintro address (rfl | hdelegate)
        · exact ensureAuthAddressIsNotRelayer_eq_ok_iff.mp haddress
        · exact not_isAccount_of_delegatesTo hdelegate hdelegates
      · intro hfree
        refine bind_eq_ok.mpr ⟨(), ?_, ?_⟩
        · exact ensureDelegatesAreNotRelayer_eq_ok delegates fun address hdelegate =>
            hfree address (.inr hdelegate)
        · exact ensureAuthAddressIsNotRelayer_eq_ok_iff.mpr (hfree _ (.inl rfl))

theorem validateHostFunction_eq_ok_iff (opIdx : ℕ) (function : HostFunction) :
    validateHostFunction opIdx function = .ok () ↔ ∃ args, function = .invokeContract args := by
  cases function <;> simp [validateHostFunction, reject]

end Authorization

/-- Accepted are exactly the contract calls whose authorization entries, with their delegates at
any depth, ask for no signature of the relayer's account. -/
theorem validateContractInvocation_accepts_iff (invoke : InvokeHostFunctionOp) (opIdx : ℕ)
    (relayerAddress : String) :
    validateContractInvocation invoke opIdx relayerAddress = .ok () ↔
      (∃ args, invoke.hostFunction = .invokeContract args) ∧
        ∀ entry ∈ invoke.auth, ∀ address, RequiresAddress address entry.credentials →
          ¬ IsAccount relayerAddress address := by
  have hentries : checkAll (validateAuthEntry opIdx relayerAddress) invoke.auth.zipIdx = .ok () ↔
      ∀ entry ∈ invoke.auth, ∀ address, RequiresAddress address entry.credentials →
        ¬ IsAccount relayerAddress address := by
    rw [checkAll_eq_ok_iff, List.forall_mem_zipIdx', List.forall_mem_iff_getElem]
    simp only [validateAuthEntry_eq_ok_iff]
  rw [← validateHostFunction_eq_ok_iff opIdx invoke.hostFunction, ← hentries]
  constructor
  · intro hok
    obtain ⟨_, hfunction, hauth⟩ := bind_eq_ok.mp hok
    exact ⟨hfunction, hauth⟩
  · rintro ⟨hfunction, hauth⟩
    exact bind_eq_ok.mpr ⟨(), hfunction, hauth⟩

/-! ## Who the operations act for -/

/-- An operation names the relayer's account as its own source. -/
def NamesRelayer (relayerAddress : String) (op : Operation) : Prop :=
  ∃ source, op.sourceAccount = some source ∧ muxedAccountToString source = relayerAddress

/-- No operation acts on the relayer's account, and the one payment that counts
as the fee comes from somewhere else. -/
def ProtectsRelayer (envelope : TransactionEnvelope) (relayerAddress : String) : Prop :=
  (∀ op ∈ extractOperations envelope, effectiveSource envelope op ≠ relayerAddress) ∧
  ∃ op, (extractOperations envelope).filter (paysRelayer relayerAddress) = [op] ∧
    effectiveSource envelope op ≠ relayerAddress

theorem extractRelayerPayments_length {relayerAddress : String} {ops : List Operation}
    {payments : List (String × UInt64)}
    (hok : extractRelayerPayments relayerAddress ops = .ok payments) :
    (ops.filter (paysRelayer relayerAddress)).length = payments.length := by
  induction ops generalizing payments with
  | nil =>
      cases hok
      rfl
  | cons op rest ih =>
      rw [extractRelayerPayments] at hok
      split at hok
      · next payment hbody =>
          by_cases hdest : muxedAccountToString payment.destination = relayerAddress
          · have hpays : paysRelayer relayerAddress op = true := by
              simp [paysRelayer, hbody, hdest]
            rw [if_pos (by simpa using hdest)] at hok
            obtain ⟨first, -, hrest⟩ := bind_eq_ok.mp hok
            obtain ⟨others, hothers, hdone⟩ := bind_eq_ok.mp hrest
            cases hdone
            rw [List.filter_cons_of_pos hpays, List.length_cons, List.length_cons,
              ih hothers]
          · have hpays : ¬ paysRelayer relayerAddress op = true := by
              simp [paysRelayer, hbody, hdest]
            rw [if_neg (by simpa using hdest)] at hok
            rw [List.filter_cons_of_neg hpays, ih hok]
      · next hother =>
          have hpays : ¬ paysRelayer relayerAddress op = true := by
            simp only [paysRelayer, Bool.false_eq_true, not_false_eq_true]
          rw [List.filter_cons_of_neg hpays, ih hok]

theorem validateUserFeePaymentAmounts_unique {services : StellarServices}
    {envelope : TransactionEnvelope} {relayerAddress : String}
    {policy : RelayerStellarPolicy}
    (hok : validateUserFeePaymentAmounts services envelope relayerAddress policy = .ok ()) :
    ∃ op, (extractOperations envelope).filter (paysRelayer relayerAddress) = [op] := by
  obtain ⟨payments, hpayments, hcheck⟩ := bind_eq_ok.mp hok
  have hlength := extractRelayerPayments_length hpayments
  apply List.length_eq_one_iff.mp
  rw [hlength]
  split at hcheck
  · cases hcheck
  · rfl
  · cases hcheck

theorem gaslessTransactionValidation_source {services : StellarServices}
    {envelope : TransactionEnvelope} {relayerAddress : String}
    {maxValidityDuration : Option ℤ}
    (hok : gaslessTransactionValidation services envelope relayerAddress
      maxValidityDuration = .ok ()) :
    extractSourceAccount envelope ≠ relayerAddress := by
  obtain ⟨_, hsource, -⟩ := bind_eq_ok.mp hok
  intro heq
  simp [validateSourceAccountNotRelayer, heq, reject] at hsource

/-- The validation looks at the source of the transaction and never at the source
of an operation: an accepted envelope protects the relayer exactly when no
operation names the relayer as its own source. -/
theorem validateUserFeePaymentTransaction_protects_iff (services : StellarServices)
    (envelope : TransactionEnvelope) (relayerAddress : String)
    (policy : RelayerStellarPolicy) (maxValidityDuration : Option ℤ)
    (hok : validateUserFeePaymentTransaction services envelope relayerAddress policy
      maxValidityDuration = .ok ()) :
    ProtectsRelayer envelope relayerAddress ↔
      ∀ op ∈ extractOperations envelope, ¬ NamesRelayer relayerAddress op := by
  obtain ⟨_, hgasless, hamounts⟩ := bind_eq_ok.mp hok
  have hsource := gaslessTransactionValidation_source hgasless
  constructor
  · rintro ⟨heffective, -⟩ op hop ⟨source, hsome, hrelayer⟩
    apply heffective op hop
    simpa only [effectiveSource, hsome] using hrelayer
  · intro hnamed
    have heffective : ∀ op ∈ extractOperations envelope,
        effectiveSource envelope op ≠ relayerAddress := by
      intro op hop
      simp only [effectiveSource]
      split
      · next source hsome => exact fun heq => hnamed op hop ⟨source, hsome, heq⟩
      · exact hsource
    obtain ⟨op, hunique⟩ := validateUserFeePaymentAmounts_unique hamounts
    have hmem : op ∈ extractOperations envelope :=
      List.mem_of_mem_filter (hunique ▸ List.mem_singleton_self op)
    exact ⟨heffective, op, hunique, heffective op hmem⟩

def sampleRelayer : AccountId := ⟨1⟩
def sampleUser : AccountId := ⟨2⟩

def samplePolicy : RelayerStellarPolicy := ⟨none, none, some .user, none, none⟩

def sampleServices : StellarServices where
  getAccountSequence _ := .ok 0
  simulateTransactionEnvelope _ := .error "unreachable"
  getTokenBalance _ _ := .ok 1000000
  getXlmToTokenQuote _ _ _ _ := .error "unreachable"
  getAndIncrement _ _ := .ok 1
  clock _ := 0

def samplePayment (source : Option MuxedAccount) (destination : AccountId) : Operation where
  sourceAccount := source
  body := .payment ⟨.ed25519 destination.key, .native, 1000⟩

/-- A transaction of the user with the given operations. -/
def sampleEnvelope (operations : List Operation) : TransactionEnvelope :=
  .tx ⟨⟨.ed25519 sampleUser.key, 100, 1, .none, [], operations, .v0⟩, []⟩

/-- The user's own payments, of the fee and to an account of their own, are accepted and protect
the relayer. -/
theorem validateUserFeePaymentTransaction_protects_sample :
    ProtectsRelayer (sampleEnvelope [samplePayment none sampleRelayer,
      samplePayment (some (.muxedEd25519 7 sampleUser.key)) sampleUser])
      sampleRelayer.toText := by
  refine (validateUserFeePaymentTransaction_protects_iff sampleServices _ _ samplePolicy
    none (by decide +kernel)).mpr ?_
  rintro op hop ⟨source, hsome, hrelayer⟩
  rcases List.mem_pair.mp hop with rfl | rfl
  · cases hsome
  · cases hsome
    exact absurd hrelayer (by decide +kernel)

/-- A fee payment by the user together with a payment out of the relayer's own
account, named as the source of the second operation, is accepted. -/
theorem validateUserFeePaymentTransaction_accepts_relayer_source :
    validateUserFeePaymentTransaction sampleServices
        (sampleEnvelope [samplePayment none sampleRelayer,
          samplePayment (some (.muxedEd25519 7 sampleRelayer.key)) sampleUser])
        sampleRelayer.toText samplePolicy none = .ok () ∧
      ¬ ProtectsRelayer
        (sampleEnvelope [samplePayment none sampleRelayer,
          samplePayment (some (.muxedEd25519 7 sampleRelayer.key)) sampleUser])
        sampleRelayer.toText := by
  refine ⟨by decide +kernel, ?_⟩
  intro hprotects
  exact hprotects.1 _ (List.mem_cons_of_mem _ (List.mem_singleton_self _)) rfl

end Relayer.StellarValidation
