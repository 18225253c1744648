import Relayer.Core.Checks
import Relayer.Stellar.TransactionData

/-!
# Unsigned envelopes in user fee mode

When users pay the fees, an unsigned envelope that the relayer signs as its own
is allowed in two exceptional cases: new trustlines for allowed tokens, and swaps
of an allowed token into the native asset.  This file models the exceptions and
the preparation around them.
-/

namespace Relayer.UnsignedXdr

open Relayer.Transaction Relayer.Xdr Relayer.StellarFees Relayer.StellarData
open Relayer.Checks Relayer.Strkey

/-! ## The trustline exception -/

def isChangeTrust (op : Operation) : Bool :=
  match op.body with
  | .changeTrust _ => true
  | _ => false

/-- Every token is allowed and has no trustline yet; a failing balance query
counts as a missing trustline. -/
def trustlinesAreNew (services : StellarServices) (relayerAddress : String)
    (policy : RelayerStellarPolicy) : List Operation → Processing Bool
  | [] => .ok true
  | op :: rest =>
      match op.body with
      | .changeTrust changeTrust => do
          let assetId ← (changeTrustAssetToAssetId changeTrust.line).mapError fun e =>
            .validationError s!"Failed to convert ChangeTrust asset to asset_id: {e}"
          match assetId with
          | none => .ok false
          | some assetId => do
              (validateAllowedToken assetId policy).mapError fun e =>
                let text := e.toText
                .validationError
                  s!"ChangeTrust asset {assetId} is not in allowed_tokens list: {text}"
              match services.getTokenBalance relayerAddress assetId with
              | .ok _ => .ok false
              | .error _ => trustlinesAreNew services relayerAddress policy rest
      | _ => trustlinesAreNew services relayerAddress policy rest

def isChangeTrustForAllowedTokenWithoutTrustline (services : StellarServices)
    (envelope : TransactionEnvelope) (relayerAddress : String)
    (policy : RelayerStellarPolicy) : Processing Bool :=
  let operations := extractOperations envelope
  if operations.isEmpty then .ok false
  else if !operations.all isChangeTrust then .ok false
  else trustlinesAreNew services relayerAddress policy operations

/-! ## The swap exceptions -/

def isValidOrderbookSwap (payment : PathPaymentStrictSendOp) (relayerAddress : String)
    (policy : RelayerStellarPolicy) : Processing Bool := do
  let sourceAssetId ← (assetToAssetId payment.sendAsset).mapError fun e =>
    .validationError s!"Failed to convert source asset to asset_id: {e}"
  if sourceAssetId == "native" then .ok false
  else do
    (validateAllowedToken sourceAssetId policy).mapError fun e =>
      let text := e.toText
      .validationError s!"Swap source asset {sourceAssetId} is not in allowed_tokens list: {text}"
    let destAssetId ← (assetToAssetId payment.destAsset).mapError fun e =>
      .validationError s!"Failed to convert destination asset to asset_id: {e}"
    if destAssetId != "native" then .ok false
    else .ok (muxedAccountToString payment.destination == relayerAddress)

def swapFunctionName : String := "swap_exact_tokens_for_tokens"

/-- `swap_exact_tokens_for_tokens(amount_in, amount_out_min, path, to, deadline)`:
only the name, the number of arguments and `to` are looked at. -/
def isValidSoroswapSwap (hostFunction : HostFunction) (relayerAddress : String) : Bool :=
  match hostFunction with
  | .invokeContract call =>
      call.functionName == swapFunctionName &&
        match call.args with
        | [_, _, _, .address (.account recipient), _] => recipient.toText == relayerAddress
        | _ => false
  | _ => false

def isValidSwapTransaction (envelope : TransactionEnvelope) (relayerAddress : String)
    (policy : RelayerStellarPolicy) : Processing Bool :=
  match extractOperations envelope with
  | [op] =>
      match op.body with
      | .pathPaymentStrictSend payment =>
          isValidOrderbookSwap payment relayerAddress policy
      | .invokeHostFunction invoke =>
          .ok (isValidSoroswapSwap invoke.hostFunction relayerAddress)
      | _ => .ok false
  | _ => .ok false

/-! ## Preparation -/

/-- In user fee mode one of the exceptions must apply. -/
def checkUserFeeException (services : StellarServices) (envelope : TransactionEnvelope)
    (relayerAddress : String) (policy : Option RelayerStellarPolicy) : Processing Unit :=
  match policy with
  | none => .ok ()
  | some policy =>
      if policy.isUserFeePayment then do
        let isChangeTrustException ←
          (isChangeTrustForAllowedTokenWithoutTrustline services envelope relayerAddress
            policy).mapError fun e =>
              let text := e.toText
              .validationError s!"Failed to validate ChangeTrust exception: {text}"
        let isSwapException ←
          (isValidSwapTransaction envelope relayerAddress policy).mapError fun e =>
            let text := e.toText
            .validationError s!"Failed to validate swap transaction exception: {text}"
        if !isChangeTrustException && !isSwapException then
          reject ("Gasless transactions (User fee payment strategy) are not supported via " ++
            "unsigned_xdr path. Please use fee_bump path (SignedXdr) for gasless transactions.")
        else .ok ()
      else .ok ()

def setAuth (auth : List SorobanAuthorizationEntry) (op : Operation) : Operation :=
  match op.body with
  | .invokeHostFunction invoke =>
      { op with body := .invokeHostFunction { invoke with auth := auth } }
  | _ => op

/-- The authorization entries of the first result, when all results decode and
there are any. -/
def simulatedAuth (response : SimulateTransactionResponse) :
    Option (List SorobanAuthorizationEntry) :=
  match response.results.mapM id with
  | .ok (auth :: _) => if auth.isEmpty then none else some auth
  | _ => none

def applySimulatedAuth (response : SimulateTransactionResponse)
    (operations : List Operation) : List Operation :=
  match simulatedAuth response with
  | some auth => operations.map (setAuth auth)
  | none => operations

/-- Inclusion fee for every operation plus the resource fee, in 64 bits. -/
def simulatedFee (operations : List Operation) (minResourceFee : UInt64) : UInt64 :=
  UInt64.ofNat operations.length * stellarDefaultTransactionFee + minResourceFee

def applySimulation (response : SimulateTransactionResponse) (data : SorobanTransactionData)
    (tx : Transaction) : Transaction :=
  let fee := simulatedFee tx.operations response.minResourceFee
  { tx with
    ext := .v1 data
    operations := applySimulatedAuth response tx.operations
    fee := max (if fee.toNat < 2 ^ 32 then fee.toUInt32 else 2 ^ 32 - 1) 100 }

/-- The simulated data and envelope; fees above 32 bits are refused here. -/
def withSimulation (response : SimulateTransactionResponse) (data : StellarTransactionData)
    (envelope : TransactionEnvelope) :
    Processing (StellarTransactionData × TransactionEnvelope) := do
  let sorobanData ← response.transactionData.mapError fun e =>
    .validationError s!"Failed to parse simulation transaction_data: {e}"
  match envelope with
  | .tx v1 =>
      let fee := simulatedFee v1.tx.operations response.minResourceFee
      let envelope := .tx { v1 with tx := applySimulation response sorobanData v1.tx }
      if fee.toNat < 2 ^ 32 then
        .ok ({ data with
          fee := some (max fee.toUInt32 100)
          simulationTransactionData := some response.transactionData
          transactionInput := .unsignedXdr (.ok envelope) }, envelope)
      else
        reject "Failed to apply simulation data: Transaction conversion error: Fee too high"
  | _ => reject "Expected V1 transaction envelope for Soroban simulation"

def envelopeFee : TransactionEnvelope → UInt32
  | .txV0 e => e.tx.fee
  | .tx e => e.tx.fee
  | .txFeeBump _ => 100

/-- The data and envelope after the optional simulation. -/
def simulate (services : StellarServices) (data : StellarTransactionData)
    (envelope : TransactionEnvelope) :
    Processing (StellarTransactionData × TransactionEnvelope) := do
  match ← simulateIfNeeded services envelope with
  | some response => withSimulation response data envelope
  | none => .ok ({ data with fee := some (envelopeFee envelope) }, envelope)

def processUnsignedXdr (services : StellarServices) (signer : StellarSigner)
    (relayerId relayerAddress : String) (data : StellarTransactionData)
    (policy : Option RelayerStellarPolicy) : Processing StellarTransactionData :=
  match data.transactionInput with
  | .unsignedXdr xdr => do
      let envelope ← xdr.mapError fun e => .validationError s!"Invalid XDR: {e}"
      let sourceAccount := extractSourceAccount envelope
      checkUserFeeException services envelope relayerAddress policy
      if sourceAccount != relayerAddress then
        reject (s!"XDR source account {sourceAccount} does not match relayer account " ++
          s!"{relayerAddress}")
      else do
        let sequence ← getNextSequence services relayerId relayerAddress
        let sequenced ← applySequence envelope sequence
        let priced ← ensureMinimumFee sequenced
        let (data, prepared) ← simulate services
          { data with
            sequenceNumber := some sequence
            transactionInput := .unsignedXdr (.ok priced) } priced
        signUnsignedEnvelope signer data prepared
  | _ => .error (.unexpectedError "Expected UnsignedXdr input")

/-! ## What the exceptions are for -/

/-- The contracts of the configured exchange. -/
structure SoroswapConfig where
  router : Uint256
  nativeWrapper : Uint256

/-- The operation acts on the relayer's account. -/
def OwnSource (relayerAddress : String) (op : Operation) : Prop :=
  ∀ source ∈ op.sourceAccount, muxedAccountToString source = relayerAddress

def AddsListedTrustline (policy : RelayerStellarPolicy) (op : Operation) : Prop :=
  ∃ changeTrust assetId, op.body = .changeTrust changeTrust ∧
    changeTrustAssetToAssetId changeTrust.line = .ok (some assetId) ∧
    ListsToken policy assetId

/-- A classic swap of a listed token into native XLM for the relayer. -/
def OrderbookSwap (policy : RelayerStellarPolicy) (relayerAddress : String)
    (op : Operation) : Prop :=
  ∃ payment assetId, op.body = .pathPaymentStrictSend payment ∧
    assetToAssetId payment.sendAsset = .ok assetId ∧ ListsToken policy assetId ∧
    payment.destAsset = .native ∧
    muxedAccountToString payment.destination = relayerAddress

/-- The path starts at the contract of a listed token and ends at native XLM. -/
def PathIntoNative (config : SoroswapConfig) (policy : RelayerStellarPolicy) (path : ScVal) :
    Prop :=
  ∃ hops token, path = .vec (some hops) ∧
    hops.head? = some (.address (.contract token)) ∧
    ListsToken policy (contractToText token) ∧
    hops.getLast? = some (.address (.contract config.nativeWrapper))

/-- The swap function of the configured router, along such a path, for the relayer. -/
def SoroswapSwap (config : SoroswapConfig) (policy : RelayerStellarPolicy)
    (relayerAddress : String) (op : Operation) : Prop :=
  ∃ invoke amountIn amountOutMin path recipient deadline,
    op.body = .invokeHostFunction invoke ∧
    invoke.hostFunction = .invokeContract ⟨.contract config.router, swapFunctionName,
      [amountIn, amountOutMin, path, .address (.account recipient), deadline]⟩ ∧
    recipient.toText = relayerAddress ∧ PathIntoNative config policy path

/-- The operations are trustlines for listed tokens, or one swap of a listed token
into native XLM, all on the relayer's account. -/
structure LimitedToExceptions (config : SoroswapConfig) (policy : RelayerStellarPolicy)
    (relayerAddress : String) (operations : List Operation) : Prop where
  ownSources : ∀ op ∈ operations, OwnSource relayerAddress op
  exception : (operations ≠ [] ∧ ∀ op ∈ operations, AddsListedTrustline policy op) ∨
    ∃ op, operations = [op] ∧
      (OrderbookSwap policy relayerAddress op ∨
        SoroswapSwap config policy relayerAddress op)

/-- The call is made to the configured router along a path into native XLM. -/
def RoutesIntoNative (config : SoroswapConfig) (policy : RelayerStellarPolicy) :
    HostFunction → Prop
  | .invokeContract call => call.contractAddress = .contract config.router ∧
      ∃ path ∈ call.args[2]?, PathIntoNative config policy path
  | _ => False

/-- What the code leaves to whoever submits the envelope. -/
structure SubmitsRealException (config : SoroswapConfig) (policy : RelayerStellarPolicy)
    (relayerAddress : String) (envelope : TransactionEnvelope) : Prop where
  ownSources : ∀ op ∈ extractOperations envelope, OwnSource relayerAddress op
  tokensListed : xdrNeedsSimulation envelope = false → policy.getAllowedTokens ≠ []
  callsRouter : ∀ op ∈ extractOperations envelope, ∀ invoke,
    op.body = .invokeHostFunction invoke → RoutesIntoNative config policy invoke.hostFunction

/-! ## What the exception checks establish -/

section Exceptions

variable {services : StellarServices} {signer : StellarSigner} {config : SoroswapConfig}
  {policy : RelayerStellarPolicy} {relayerAddress : String}
  {envelope priced sequenced : TransactionEnvelope} {data out : StellarTransactionData}
  {response : SimulateTransactionResponse} {auth : List SorobanAuthorizationEntry}
  {op : Operation} {operations : List Operation}

theorem trustlinesAreNew_eq_true (hall : ∀ op ∈ operations, isChangeTrust op = true)
    (hnew : trustlinesAreNew services relayerAddress policy operations = .ok true) :
    ∀ op ∈ operations, ∃ changeTrust assetId, op.body = .changeTrust changeTrust ∧
      changeTrustAssetToAssetId changeTrust.line = .ok (some assetId) ∧
      validateAllowedToken assetId policy = .ok () := by
  induction operations with
  | nil => simp
  | cons head tail ih =>
      rw [List.forall_mem_cons] at hall ⊢
      rw [trustlinesAreNew] at hnew
      split at hnew
      · next changeTrust hbody =>
          obtain ⟨assetId, hid, hnew⟩ := bind_eq_ok.mp hnew
          cases assetId with
          | none => cases hnew
          | some assetId =>
              obtain ⟨⟨⟩, hallowed, hnew⟩ := bind_eq_ok.mp hnew
              refine ⟨⟨changeTrust, assetId, hbody, ok_of_mapError hid,
                ok_of_mapError hallowed⟩, ?_⟩
              cases hbalance : services.getTokenBalance relayerAddress assetId with
              | ok balance =>
                  rw [hbalance] at hnew
                  cases hnew
              | error e =>
                  rw [hbalance] at hnew
                  exact ih hall.2 hnew
      · next hother =>
          have hhead := hall.1
          rw [isChangeTrust] at hhead
          split at hhead
          · next changeTrust hbody => exact (hother changeTrust hbody).elim
          · cases hhead

theorem isChangeTrustForAllowedToken_eq_true
    (hok : isChangeTrustForAllowedTokenWithoutTrustline services envelope relayerAddress
      policy = .ok true) :
    extractOperations envelope ≠ [] ∧
    ∀ op ∈ extractOperations envelope, ∃ changeTrust assetId,
      op.body = .changeTrust changeTrust ∧
      changeTrustAssetToAssetId changeTrust.line = .ok (some assetId) ∧
      validateAllowedToken assetId policy = .ok () := by
  rw [isChangeTrustForAllowedTokenWithoutTrustline] at hok
  by_cases hempty : (extractOperations envelope).isEmpty = true
  · rw [if_pos hempty] at hok
    cases hok
  rw [if_neg hempty] at hok
  by_cases hall : (extractOperations envelope).all isChangeTrust = true
  · rw [hall, Bool.not_true, if_neg Bool.false_ne_true] at hok
    exact ⟨by simpa using hempty, trustlinesAreNew_eq_true (List.all_eq_true.mp hall) hok⟩
  · rw [if_pos (by simpa using hall)] at hok
    cases hok

theorem isValidOrderbookSwap_eq_true {payment : PathPaymentStrictSendOp}
    (hok : isValidOrderbookSwap payment relayerAddress policy = .ok true) :
    ∃ assetId, assetToAssetId payment.sendAsset = .ok assetId ∧ assetId ≠ "native" ∧
      validateAllowedToken assetId policy = .ok () ∧ payment.destAsset = .native ∧
      muxedAccountToString payment.destination = relayerAddress := by
  obtain ⟨sourceAssetId, hsource, hok⟩ := bind_eq_ok.mp hok
  by_cases hnative : (sourceAssetId == "native") = true
  · rw [if_pos hnative] at hok
    cases hok
  rw [if_neg hnative] at hok
  obtain ⟨⟨⟩, hallowed, hok⟩ := bind_eq_ok.mp hok
  obtain ⟨destAssetId, hdest, hok⟩ := bind_eq_ok.mp hok
  by_cases hdestNative : (destAssetId != "native") = true
  · rw [if_pos hdestNative] at hok
    cases hok
  rw [if_neg hdestNative] at hok
  have hdestId : destAssetId = "native" := by simpa using hdestNative
  refine ⟨sourceAssetId, ok_of_mapError hsource, by simpa using hnative,
    ok_of_mapError hallowed, ?_, ?_⟩
  · apply assetToAssetId_eq_native
    rw [← hdestId]
    exact ok_of_mapError hdest
  · simpa using hok

theorem isValidSoroswapSwap_eq_true {hostFunction : HostFunction}
    (hvalid : isValidSoroswapSwap hostFunction relayerAddress = true) :
    ∃ contractAddress amountIn amountOutMin path recipient deadline,
      hostFunction = .invokeContract ⟨contractAddress, swapFunctionName,
        [amountIn, amountOutMin, path, .address (.account recipient), deadline]⟩ ∧
      recipient.toText = relayerAddress := by
  cases hostFunction with
  | invokeContract call =>
      obtain ⟨contractAddress, functionName, args⟩ := call
      simp only [isValidSoroswapSwap, Bool.and_eq_true, beq_iff_eq] at hvalid
      obtain ⟨rfl, hargs⟩ := hvalid
      split at hargs
      · next amountIn amountOutMin path recipient deadline =>
          exact ⟨contractAddress, amountIn, amountOutMin, path, recipient, deadline, rfl,
            beq_iff_eq.mp hargs⟩
      · cases hargs
  | createContract value => cases hvalid
  | uploadContractWasm wasm => cases hvalid
  | createContractV2 value => cases hvalid

/-- In user fee mode one of the two exceptions was found. -/
theorem checkUserFeeException_eq_ok (huser : policy.isUserFeePayment = true)
    (hok : checkUserFeeException services envelope relayerAddress (some policy) = .ok ()) :
    isChangeTrustForAllowedTokenWithoutTrustline services envelope relayerAddress policy =
        .ok true ∨
      isValidSwapTransaction envelope relayerAddress policy = .ok true := by
  simp only [checkUserFeeException] at hok
  rw [if_pos huser] at hok
  obtain ⟨isChangeTrustException, htrust, hok⟩ := bind_eq_ok.mp hok
  obtain ⟨isSwapException, hswap, hok⟩ := bind_eq_ok.mp hok
  cases isChangeTrustException with
  | true => exact .inl (ok_of_mapError htrust)
  | false =>
      cases isSwapException with
      | true => exact .inr (ok_of_mapError hswap)
      | false => cases hok

/-! ## The operations survive the preparation -/

theorem setAuth_sourceAccount (auth : List SorobanAuthorizationEntry) (op : Operation) :
    (setAuth auth op).sourceAccount = op.sourceAccount := by
  rw [setAuth]
  split <;> rfl

/-- Only the authorization entries of a host function call change. -/
theorem setAuth_body (auth : List SorobanAuthorizationEntry) (op : Operation) :
    (∃ invoke, op.body = .invokeHostFunction invoke ∧
      (setAuth auth op).body = .invokeHostFunction ⟨invoke.hostFunction, auth⟩) ∨
    (∀ invoke, op.body ≠ .invokeHostFunction invoke) ∧ (setAuth auth op).body = op.body := by
  rw [setAuth]
  split
  · next invoke hbody => exact .inl ⟨invoke, hbody, rfl⟩
  · next hother => exact .inr ⟨hother, rfl⟩

theorem ownSource_setAuth :
    OwnSource relayerAddress (setAuth auth op) ↔ OwnSource relayerAddress op := by
  rw [OwnSource, OwnSource, setAuth_sourceAccount]

theorem addsListedTrustline_setAuth :
    AddsListedTrustline policy (setAuth auth op) ↔ AddsListedTrustline policy op := by
  rw [AddsListedTrustline, AddsListedTrustline]
  rcases setAuth_body auth op with ⟨invoke, hbody, hset⟩ | ⟨-, hset⟩
  · simp [hbody, hset]
  · rw [hset]

theorem orderbookSwap_setAuth :
    OrderbookSwap policy relayerAddress (setAuth auth op) ↔
      OrderbookSwap policy relayerAddress op := by
  rw [OrderbookSwap, OrderbookSwap]
  rcases setAuth_body auth op with ⟨invoke, hbody, hset⟩ | ⟨-, hset⟩
  · simp [hbody, hset]
  · rw [hset]

theorem soroswapSwap_setAuth :
    SoroswapSwap config policy relayerAddress (setAuth auth op) ↔
      SoroswapSwap config policy relayerAddress op := by
  rw [SoroswapSwap, SoroswapSwap]
  rcases setAuth_body auth op with ⟨invoke, hbody, hset⟩ | ⟨-, hset⟩
  · simp [hbody, hset]
  · rw [hset]

theorem limitedToExceptions_applySimulatedAuth :
    LimitedToExceptions config policy relayerAddress
        (applySimulatedAuth response operations) ↔
      LimitedToExceptions config policy relayerAddress operations := by
  rw [applySimulatedAuth]
  cases simulatedAuth response with
  | none => rfl
  | some auth =>
      have hsingle : (∃ op, operations.map (setAuth auth) = [op] ∧
            (OrderbookSwap policy relayerAddress op ∨
              SoroswapSwap config policy relayerAddress op)) ↔
          ∃ op, operations = [op] ∧
            (OrderbookSwap policy relayerAddress op ∨
              SoroswapSwap config policy relayerAddress op) := by
        constructor
        · rintro ⟨_, hops, hswap⟩
          obtain ⟨op, rfl, rfl⟩ := List.map_eq_singleton_iff.mp hops
          rw [orderbookSwap_setAuth, soroswapSwap_setAuth] at hswap
          exact ⟨op, rfl, hswap⟩
        · rintro ⟨op, rfl, hswap⟩
          rw [← orderbookSwap_setAuth, ← soroswapSwap_setAuth] at hswap
          exact ⟨setAuth auth op, rfl, hswap⟩
      have htrust : (∀ op ∈ operations.map (setAuth auth), AddsListedTrustline policy op) ↔
          ∀ op ∈ operations, AddsListedTrustline policy op := by
        rw [List.forall_mem_map]
        simp only [addsListedTrustline_setAuth]
      have hown : (∀ op ∈ operations.map (setAuth auth), OwnSource relayerAddress op) ↔
          ∀ op ∈ operations, OwnSource relayerAddress op := by
        rw [List.forall_mem_map]
        simp only [ownSource_setAuth]
      have hempty : operations.map (setAuth auth) ≠ [] ↔ operations ≠ [] := by
        rw [Ne, List.map_eq_nil_iff]
      constructor
      · rintro ⟨howned, hexception⟩
        rw [hempty, htrust, hsingle] at hexception
        exact ⟨hown.mp howned, hexception⟩
      · rintro ⟨howned, hexception⟩
        rw [← hempty, ← htrust, ← hsingle] at hexception
        exact ⟨hown.mpr howned, hexception⟩

theorem applySequence_operations {sequence : Int64}
    (hok : applySequence envelope sequence = .ok sequenced) :
    extractOperations sequenced = extractOperations envelope := by
  cases envelope with
  | txV0 e => cases hok; rfl
  | tx e => cases hok; rfl
  | txFeeBump e => cases hok

theorem ensureMinimumFee_operations (hok : ensureMinimumFee envelope = .ok priced) :
    extractOperations priced = extractOperations envelope := by
  cases envelope with
  | txV0 e => cases hok; rfl
  | tx e => cases hok; rfl
  | txFeeBump e => cases hok

theorem withSimulation_eq_ok {prepared : TransactionEnvelope}
    (hok : withSimulation response data envelope = .ok (out, prepared)) :
    out.transactionInput = .unsignedXdr (.ok prepared) ∧
    extractOperations prepared =
      applySimulatedAuth response (extractOperations envelope) := by
  obtain ⟨sorobanData, -, hok⟩ := bind_eq_ok.mp hok
  cases envelope with
  | tx v1 =>
      dsimp only at hok
      split_ifs at hok
      · cases hok
        exact ⟨rfl, rfl⟩
      · cases hok
  | txV0 e => cases hok
  | txFeeBump e => cases hok

/-- The simulation stores the envelope it returns, with the same operations up to
authorization entries. -/
theorem simulate_eq_ok {prepared : TransactionEnvelope}
    (hinput : data.transactionInput = .unsignedXdr (.ok envelope))
    (hok : simulate services data envelope = .ok (out, prepared)) :
    out.transactionInput = .unsignedXdr (.ok prepared) ∧
    (extractOperations prepared = extractOperations envelope ∨
      ∃ response, extractOperations prepared =
        applySimulatedAuth response (extractOperations envelope)) := by
  obtain ⟨answer, -, hok⟩ := bind_eq_ok.mp hok
  cases answer with
  | none =>
      cases hok
      exact ⟨hinput, .inl rfl⟩
  | some response =>
      obtain ⟨hout, hops⟩ := withSimulation_eq_ok hok
      exact ⟨hout, .inr ⟨response, hops⟩⟩

theorem signUnsignedEnvelope_transactionInput
    (hok : signUnsignedEnvelope signer data envelope = .ok out) :
    out.transactionInput = data.transactionInput := by
  obtain ⟨signature, -, hok⟩ := bind_eq_ok.mp hok
  cases signature with
  | none => cases hok
  | some signature =>
      obtain ⟨signed, -, hok⟩ := bind_eq_ok.mp hok
      cases hok
      rfl

/-- A successful preparation has passed the exception check, and the envelope it
leaves for signing has the submitted operations up to authorization entries. -/
theorem processUnsignedXdr_eq_ok {relayerId : String} {policy : Option RelayerStellarPolicy}
    (hinput : data.transactionInput = .unsignedXdr (.ok envelope))
    (hok : processUnsignedXdr services signer relayerId relayerAddress data policy = .ok out) :
    checkUserFeeException services envelope relayerAddress policy = .ok () ∧
    extractSourceAccount envelope = relayerAddress ∧
    ∃ prepared, out.transactionInput = .unsignedXdr (.ok prepared) ∧
      (extractOperations prepared = extractOperations envelope ∨
        ∃ response, extractOperations prepared =
          applySimulatedAuth response (extractOperations envelope)) := by
  simp only [processUnsignedXdr, hinput] at hok
  obtain ⟨parsed, hparsed, hok⟩ := bind_eq_ok.mp hok
  cases hparsed
  obtain ⟨⟨⟩, hcheck, hok⟩ := bind_eq_ok.mp hok
  by_cases hsource : (extractSourceAccount envelope != relayerAddress) = true
  · rw [if_pos hsource] at hok
    cases hok
  rw [if_neg hsource] at hok
  obtain ⟨sequence, -, hok⟩ := bind_eq_ok.mp hok
  obtain ⟨sequenced, hsequenced, hok⟩ := bind_eq_ok.mp hok
  obtain ⟨priced, hpriced, hok⟩ := bind_eq_ok.mp hok
  obtain ⟨⟨simulated, prepared⟩, hsimulate, hsign⟩ := bind_eq_ok.mp hok
  obtain ⟨hstored, hops⟩ := simulate_eq_ok rfl hsimulate
  rw [ensureMinimumFee_operations hpriced, applySequence_operations hsequenced] at hops
  refine ⟨hcheck, by simpa using hsource, prepared, ?_, hops⟩
  exact (signUnsignedEnvelope_transactionInput hsign).trans hstored

/-! ## What reaches the signer -/

/-- Operations within the exceptions meet every demand on the submitted envelope. -/
theorem LimitedToExceptions.submitsRealException
    (hlimited : LimitedToExceptions config policy relayerAddress (extractOperations envelope)) :
    SubmitsRealException config policy relayerAddress envelope := by
  have listed_ne_nil : ∀ {asset : String}, ListsToken policy asset →
      policy.getAllowedTokens ≠ [] := by
    rintro asset ⟨token, hmem, -⟩
    exact List.ne_nil_of_mem hmem
  rcases hlimited.exception with ⟨hne, htrust⟩ | ⟨op, hops, hswap⟩
  · refine ⟨hlimited.ownSources, ?_, ?_⟩
    · intro _
      obtain ⟨op, hop⟩ := List.exists_mem_of_ne_nil _ hne
      obtain ⟨changeTrust, assetId, -, -, hlisted⟩ := htrust op hop
      exact listed_ne_nil hlisted
    · intro op hop invoke hbody
      obtain ⟨changeTrust, assetId, htrustBody, -⟩ := htrust op hop
      rw [htrustBody] at hbody
      cases hbody
  · refine ⟨hlimited.ownSources, ?_, ?_⟩
    · intro hclassic
      rcases hswap with ⟨payment, assetId, -, -, hlisted, -⟩ |
        ⟨invoke, _, _, _, _, _, hbody, -⟩
      · exact listed_ne_nil hlisted
      · rw [xdrNeedsSimulation, hops, List.any_cons, hbody] at hclassic
        cases hclassic
    · rw [hops, List.forall_mem_singleton]
      intro invoke hbody
      rcases hswap with ⟨payment, assetId, hpayment, -⟩ |
        ⟨invoke', _, _, path, _, _, hinvoke, hcall, -, hpath⟩
      · rw [hpayment] at hbody
        cases hbody
      · rw [hinvoke] at hbody
        cases hbody
        rw [hcall]
        exact ⟨rfl, path, rfl, hpath⟩

theorem allowedTokens_ne_nil
    (hreal : SubmitsRealException config policy relayerAddress envelope)
    (hclassic : ∀ op ∈ extractOperations envelope,
      ∀ invoke, op.body ≠ .invokeHostFunction invoke) :
    policy.getAllowedTokens ≠ [] := by
  apply hreal.tokensListed
  rw [xdrNeedsSimulation, List.any_eq_false]
  intro op hop hinvoke
  obtain ⟨invoke, hbody⟩ := OperationBody.isInvokeHostFunction_iff.mp hinvoke
  exact hclassic op hop invoke hbody

/-- A trustline exception whose tokens are listed. -/
theorem limitedToExceptions_of_trustlines
    (htrust : isChangeTrustForAllowedTokenWithoutTrustline services envelope
      relayerAddress policy = .ok true)
    (hreal : SubmitsRealException config policy relayerAddress envelope) :
    LimitedToExceptions config policy relayerAddress (extractOperations envelope) := by
  obtain ⟨hne, hall⟩ := isChangeTrustForAllowedToken_eq_true htrust
  have hlist : policy.getAllowedTokens ≠ [] := by
    apply allowedTokens_ne_nil hreal
    intro op hop invoke hbody
    obtain ⟨changeTrust, assetId, htrustBody, -⟩ := hall op hop
    rw [htrustBody] at hbody
    cases hbody
  refine ⟨hreal.ownSources, .inl ⟨hne, ?_⟩⟩
  intro op hop
  obtain ⟨changeTrust, assetId, hbody, hid, hallowed⟩ := hall op hop
  exact ⟨changeTrust, assetId, hbody, hid, listsToken_of_validateAllowedToken
    (colon_mem_of_changeTrustAssetToAssetId hid) hlist hallowed⟩

/-- A swap exception whose token is listed, or whose call and path are the
router's. -/
theorem limitedToExceptions_of_swap
    (hswap : isValidSwapTransaction envelope relayerAddress policy = .ok true)
    (hreal : SubmitsRealException config policy relayerAddress envelope) :
    LimitedToExceptions config policy relayerAddress (extractOperations envelope) := by
  rw [isValidSwapTransaction] at hswap
  split at hswap
  · next op hops =>
      refine ⟨hreal.ownSources, .inr ⟨op, hops, ?_⟩⟩
      split at hswap
      · next payment hbody =>
          obtain ⟨assetId, hid, hnative, hallowed, hdest, hrecipient⟩ :=
            isValidOrderbookSwap_eq_true hswap
          have hlist : policy.getAllowedTokens ≠ [] := by
            apply allowedTokens_ne_nil hreal
            rw [hops, List.forall_mem_singleton, hbody]
            exact fun _ hsame => nomatch hsame
          exact .inl ⟨payment, assetId, hbody, hid, listsToken_of_validateAllowedToken
            (colon_mem_of_assetToAssetId hid hnative) hlist hallowed, hdest, hrecipient⟩
      · next invoke hbody =>
          obtain ⟨contractAddress, amountIn, amountOutMin, path, recipient, deadline, hcall,
            hrecipient⟩ := isValidSoroswapSwap_eq_true (Except.ok.inj hswap)
          have hroutes := hreal.callsRouter op (by rw [hops]; exact List.mem_singleton_self op)
            invoke hbody
          rw [hcall] at hroutes
          obtain ⟨hrouter, path', hmem, hpath⟩ := hroutes
          cases hmem
          dsimp only at hrouter
          rw [hrouter] at hcall
          exact .inr ⟨invoke, amountIn, amountOutMin, path, recipient, deadline, hbody, hcall,
            hrecipient, hpath⟩
      · cases hswap
  · cases hswap

end Exceptions

/-- In user fee mode, what the relayer signs is limited to trustlines and real
swaps exactly when the submitted envelope names no foreign operation source, a
classic envelope meets a policy that lists tokens, and a contract call goes to
the router along a path into native XLM. -/
theorem processUnsignedXdr_limits_iff (config : SoroswapConfig) (services : StellarServices)
    (signer : StellarSigner) (relayerId relayerAddress : String)
    (data out : StellarTransactionData) (policy : RelayerStellarPolicy)
    (envelope : TransactionEnvelope) (huser : policy.isUserFeePayment = true)
    (hinput : data.transactionInput = .unsignedXdr (.ok envelope))
    (hok : processUnsignedXdr services signer relayerId relayerAddress data (some policy) =
      .ok out) :
    ∃ prepared, out.transactionInput = .unsignedXdr (.ok prepared) ∧
      (LimitedToExceptions config policy relayerAddress (extractOperations prepared) ↔
        SubmitsRealException config policy relayerAddress envelope) := by
  obtain ⟨hcheck, -, prepared, hout, hops⟩ := processUnsignedXdr_eq_ok hinput hok
  refine ⟨prepared, hout, ?_⟩
  have hsame : LimitedToExceptions config policy relayerAddress
        (extractOperations prepared) ↔
      LimitedToExceptions config policy relayerAddress (extractOperations envelope) := by
    rcases hops with hops | ⟨response, hops⟩
    · rw [hops]
    · rw [hops]
      exact limitedToExceptions_applySimulatedAuth
  rw [hsame]
  constructor
  · exact LimitedToExceptions.submitsRealException
  · intro hreal
    rcases checkUserFeeException_eq_ok huser hcheck with htrust | hswap
    · exact limitedToExceptions_of_trustlines htrust hreal
    · exact limitedToExceptions_of_swap hswap hreal

def sampleServices : StellarServices where
  getAccountSequence _ := .ok 0
  simulateTransactionEnvelope _ := .ok ⟨none, .ok ⟨[], ⟨[], 1, 1, 1⟩, 100⟩, 100, []⟩
  getTokenBalance _ _ := .error "Trustline not found"
  getXlmToTokenQuote _ _ _ _ := .ok 300
  getAndIncrement _ _ := .ok 5
  clock _ := 0

def sampleSigner : StellarSigner := fun _ => .ok (some ⟨[], []⟩)

def sampleConfig : SoroswapConfig := ⟨20, 21⟩

/-- The policy lists the token contract 11. -/
def samplePolicy : RelayerStellarPolicy :=
  ⟨none, some [⟨contractToText 11, none, none, none⟩], some .user, none, none⟩

/-- A swap call of a contract, from token 11 into the native wrapper. -/
def sampleSwap (contract : Uint256) : InvokeContractArgs :=
  ⟨.contract contract, swapFunctionName, [.i128 ⟨0, 1000⟩, .i128 ⟨0, 900⟩,
    .vec (some [.address (.contract 11), .address (.contract 21)]),
    .address (.account ⟨1⟩), .u64 500]⟩

def sampleEnvelope (call : InvokeContractArgs) : TransactionEnvelope :=
  .tx ⟨⟨.ed25519 1, 100, 0, .none, [],
    [⟨none, .invokeHostFunction ⟨.invokeContract call, []⟩⟩], .v0⟩, []⟩

def sampleInput (call : InvokeContractArgs) : StellarTransactionData where
  sourceAccount := AccountId.toText ⟨1⟩
  fee := none
  sequenceNumber := none
  memo := none
  validUntil := none
  networkPassphrase := "Test SDF Network ; September 2015"
  signatures := []
  hash := none
  simulationTransactionData := none
  transactionInput := .unsignedXdr (.ok (sampleEnvelope call))
  signedEnvelopeXdr := none
  transactionResultXdr := none

theorem sampleEnvelope_submitsRealException :
    SubmitsRealException sampleConfig samplePolicy (AccountId.toText ⟨1⟩)
      (sampleEnvelope (sampleSwap 20)) := by
  refine ⟨?_, nofun, ?_⟩
  · intro op hop
    cases List.mem_singleton.mp hop
    exact nofun
  · intro op hop invoke hbody
    cases List.mem_singleton.mp hop
    cases hbody
    exact ⟨rfl, _, rfl, _, 11, rfl, rfl, ⟨_, List.mem_singleton_self _, rfl⟩, rfl⟩

/-- A swap on the router is prepared as such. -/
theorem processUnsignedXdr_limits_router_swap :
    ∃ out prepared, processUnsignedXdr sampleServices sampleSigner "relayer"
        (AccountId.toText ⟨1⟩) (sampleInput (sampleSwap 20)) (some samplePolicy) = .ok out ∧
      out.transactionInput = .unsignedXdr (.ok prepared) ∧
      LimitedToExceptions sampleConfig samplePolicy (AccountId.toText ⟨1⟩)
        (extractOperations prepared) := by
  obtain ⟨out, hok⟩ := exists_of_isOk (show (processUnsignedXdr sampleServices sampleSigner
    "relayer" (AccountId.toText ⟨1⟩) (sampleInput (sampleSwap 20))
    (some samplePolicy)).isOk = true by decide +kernel)
  obtain ⟨prepared, hout, hiff⟩ := processUnsignedXdr_limits_iff sampleConfig sampleServices
    sampleSigner "relayer" (AccountId.toText ⟨1⟩) (sampleInput (sampleSwap 20)) out
    samplePolicy (sampleEnvelope (sampleSwap 20)) rfl rfl hok
  exact ⟨out, prepared, hok, hout, hiff.mpr sampleEnvelope_submitsRealException⟩

/-- A contract other than the router that has a function of the same name is
called with the relayer's signature. -/
theorem processUnsignedXdr_accepts_other_contract :
    ∃ out prepared, processUnsignedXdr sampleServices sampleSigner "relayer"
        (AccountId.toText ⟨1⟩) (sampleInput (sampleSwap 99)) (some samplePolicy) = .ok out ∧
      out.transactionInput = .unsignedXdr (.ok prepared) ∧
      ¬ LimitedToExceptions sampleConfig samplePolicy (AccountId.toText ⟨1⟩)
        (extractOperations prepared) := by
  obtain ⟨out, hok⟩ := exists_of_isOk (show (processUnsignedXdr sampleServices sampleSigner
    "relayer" (AccountId.toText ⟨1⟩) (sampleInput (sampleSwap 99))
    (some samplePolicy)).isOk = true by decide +kernel)
  obtain ⟨-, -, prepared, hout, hops⟩ := processUnsignedXdr_eq_ok rfl hok
  refine ⟨out, prepared, hok, hout, ?_⟩
  have hnot : ¬ LimitedToExceptions sampleConfig samplePolicy (AccountId.toText ⟨1⟩)
      (extractOperations (sampleEnvelope (sampleSwap 99))) := by
    intro hlimited
    have hroutes := hlimited.submitsRealException.callsRouter _ (List.mem_singleton_self _)
      _ rfl
    cases hroutes.1
  rcases hops with hops | ⟨response, hops⟩
  · rw [hops]
    exact hnot
  · rw [hops, limitedToExceptions_applySimulatedAuth]
    exact hnot

end Relayer.UnsignedXdr
