import Relayer.Core.Checks
import Relayer.Stellar.TransactionData

/-!
# Soroban gas abstraction

The user signs an authorization entry for `FeeForwarder.forward`, which pays the
relayer in tokens; the relayer injects that entry into the transaction and signs
it.  What the relayer checks is the authorization entry; what it signs is the
host function of the submitted envelope.
-/

namespace Relayer.GasAbstraction

open Relayer.Transaction Relayer.Xdr Relayer.StellarFees Relayer.StellarData
open Relayer.Checks Relayer.Strkey

/-! ## Injecting the authorization entries -/

/-- The user's signed entry comes first, and the second entry, the relayer's, is
covered by the signature of the transaction source. -/
def injectAuthEntries (signedUserAuth : SorobanAuthorizationEntry) :
    List SorobanAuthorizationEntry → List SorobanAuthorizationEntry
  | [] => []
  | [_] => [signedUserAuth]
  | _ :: relayerAuth :: others =>
      signedUserAuth :: ⟨.sourceAccount, relayerAuth.rootInvocation⟩ :: others

def injectIntoOperation (signedUserAuth : SorobanAuthorizationEntry) (op : Operation) :
    Processing (Operation × List SorobanAuthorizationEntry) :=
  match op.body with
  | .invokeHostFunction invoke =>
      if invoke.auth.isEmpty then
        reject ("FeeForwarder transaction must contain auth entries. The transaction may be " ++
          "malformed or was not built via the /build endpoint.")
      else
        let entries := injectAuthEntries signedUserAuth invoke.auth
        .ok ({ op with body := .invokeHostFunction { invoke with auth := entries } },
          entries)
  | _ => reject "First operation is not InvokeHostFunction"

def injectAuthEntriesIntoEnvelope (envelope : TransactionEnvelope)
    (signedUserAuth : SorobanAuthorizationEntry) :
    Processing (TransactionEnvelope × List SorobanAuthorizationEntry) :=
  match envelope with
  | .txV0 _ => reject "V0 transactions are not supported for Soroban"
  | .txFeeBump _ =>
      reject "Fee bump transactions should not be used for Soroban gas abstraction"
  | .tx v1 =>
      match v1.tx.operations with
      | [] => reject "Transaction has no operations"
      | [op] => do
          let (op, entries) ← injectIntoOperation signedUserAuth op
          return (.tx { v1 with tx := { v1.tx with operations := [op] } }, entries)
      | operations =>
          let count := operations.length
          reject s!"Soroban transactions must contain exactly one operation, found {count}"

/-! ## Simulation -/

/-- 115% of a resource, saturating at 32 bits. -/
def scaleResource (value : UInt32) : UInt32 :=
  UInt32.ofNat (min (min (value.toNat * 115) (2 ^ 64 - 1) / 100) (2 ^ 32 - 1))

def applyResourceBuffer (resources : SorobanResources) : SorobanResources :=
  { resources with
    instructions := scaleResource resources.instructions
    diskReadBytes := scaleResource resources.diskReadBytes
    writeBytes := scaleResource resources.writeBytes }

/-- The envelope with the given entries on its first operation and no signatures. -/
def buildSimulationEnvelope (original : TransactionEnvelope)
    (entries : List SorobanAuthorizationEntry) : Processing TransactionEnvelope :=
  match original with
  | .tx v1 =>
      match v1.tx.operations with
      | [] => reject "Transaction has no operations"
      | op :: rest =>
          match op.body with
          | .invokeHostFunction invoke =>
              let op := { op with body := .invokeHostFunction { invoke with auth := entries } }
              .ok (.tx ⟨{ v1.tx with operations := op :: rest }, []⟩)
          | _ => reject "First operation is not InvokeHostFunction"
  | _ => reject "Expected V1 transaction envelope"

/-- Inclusion fee plus resource fee, at most 32 bits. -/
def requiredFee (minResourceFee : UInt64) : UInt32 :=
  (min (stellarDefaultTransactionFee + minResourceFee) (2 ^ 32 - 1)).toUInt32

def simulateAndUpdateResources (services : StellarServices)
    (envelope : TransactionEnvelope) (entries : List SorobanAuthorizationEntry) :
    Processing TransactionEnvelope := do
  let simulationEnvelope ← buildSimulationEnvelope envelope entries
  let response ←
    (services.simulateTransactionEnvelope simulationEnvelope).mapError fun e =>
      .unexpectedError s!"Failed to simulate transaction: {e}"
  match response.error with
  | some err => .error (.unexpectedError s!"Simulation failed: {err}")
  | none =>
      let data ← response.transactionData.mapError fun e =>
        .unexpectedError s!"Failed to parse simulation transaction_data: {e}"
      let data := { data with resources := applyResourceBuffer data.resources }
      match envelope with
      | .tx v1 =>
          -- the fee is only ever raised
          let fee := max v1.tx.fee (requiredFee response.minResourceFee)
          .ok (.tx { v1 with tx := { v1.tx with ext := .v1 data, fee := fee } })
      | _ => reject "Expected V1 transaction envelope"

/-! ## Fee validation -/

def extractContractAddressFromScval : ScVal → Except String String
  | .address (.contract id) => .ok (contractToText id)
  | .address (.account _) => .error "Expected contract address, found account address"
  | _ => .error "Expected Address, found another value"

def extractI128FromScval : ScVal → Except String ℤ
  | .i128 parts => .ok parts.toInt
  | _ => .error "Expected I128, found another value"

/-- The fee token and the maximum fee the user authorized. -/
def extractFeeParamsFromAuth (auth : SorobanAuthorizationEntry) :
    Processing (String × ℤ) :=
  match auth.rootInvocation.function with
  | .contractFn invoke =>
      match invoke.args with
      | tokenArg :: maxFeeArg :: _ => do
          let feeToken ← (extractContractAddressFromScval tokenArg).mapError fun e =>
            .validationError s!"Failed to extract fee_token: {e}"
          let maxFeeAmount ← (extractI128FromScval maxFeeArg).mapError fun e =>
            .validationError s!"Failed to extract max_fee_amount: {e}"
          return (feeToken, maxFeeAmount)
      | args =>
          let count := args.length
          reject s!"Invalid auth entry: expected at least 2 arguments, found {count}"
  | _ => reject "Expected ContractFn in auth entry root invocation"

/-- The cast of a positive 128-bit amount to 64 bits. -/
def toU64 (amount : ℤ) : UInt64 := UInt64.ofNat (amount % 2 ^ 64).toNat

/-- The fee a simulation of the envelope asks for.  A simulation that failed still
counts when it names a resource fee. -/
def estimateRequiredXlmFee (services : StellarServices) (envelope : TransactionEnvelope) :
    Processing UInt64 := do
  let response ← (services.simulateTransactionEnvelope envelope).mapError fun e =>
    .unexpectedError s!"Failed to simulate transaction for fee estimation: {e}"
  match response.error with
  | some err =>
      if response.minResourceFee = 0 then
        reject s!"Simulation failed during fee estimation: {err}"
      else .ok (stellarDefaultTransactionFee + response.minResourceFee)
  | none => .ok (stellarDefaultTransactionFee + response.minResourceFee)

def requiredXlmFee (services : StellarServices) (envelope : TransactionEnvelope) :
    Option UInt64 → Processing UInt64
  | some fee => .ok fee
  | none => estimateRequiredXlmFee services envelope

def validateGasAbstractionFee (services : StellarServices) (envelope : TransactionEnvelope)
    (signedUserAuth : SorobanAuthorizationEntry) (policy : RelayerStellarPolicy)
    (requiredXlmFeeOverride : Option UInt64) : Processing Unit := do
  let (feeToken, maxFeeAmount) ← extractFeeParamsFromAuth signedUserAuth
  (validateAllowedToken feeToken policy).mapError fun e =>
    let text := e.toText
    .validationError s!"Fee token validation failed: {text}"
  if maxFeeAmount ≤ 0 then
    reject "max_fee_amount must be positive"
  (validateTokenMaxFee feeToken (toU64 maxFeeAmount) policy).mapError fun e =>
    let text := e.toText
    .validationError s!"Max fee validation failed: {text}"
  let xlmFee ← requiredXlmFee services envelope requiredXlmFeeOverride
  let feeQuote ←
    (convertXlmFeeToToken services policy xlmFee feeToken).mapError fun e =>
      .validationError s!"Failed to convert XLM fee to token {feeToken}: {e}"
  if maxFeeAmount < feeQuote.feeInToken.toNat then
    let required := feeQuote.feeInToken
    reject (s!"Insufficient max_fee_amount: user authorized {maxFeeAmount} but required fee is " ++
      s!"{required} (in token {feeToken}). This would result in relayer liquidity loss.")

/-- The fee of the simulated envelope is checked when a policy is given. -/
def validateFeeUnderPolicy (services : StellarServices)
    (signedUserAuth : SorobanAuthorizationEntry) (policy : Option RelayerStellarPolicy)
    (envelope : TransactionEnvelope) : Processing Unit :=
  match policy with
  | some policy => do
      let envelopeFee ← (envelopeFeeInStroops envelope).mapError .validationError
      validateGasAbstractionFee services envelope signedUserAuth policy (some envelopeFee)
  | none => .ok ()

/-- `process_soroban_gas_abstraction`: the host function of the submitted envelope
is carried through unchanged. -/
def processSorobanGasAbstraction (services : StellarServices)
    (relayerId relayerAddress : String) (data : StellarTransactionData)
    (policy : Option RelayerStellarPolicy) : Processing StellarTransactionData :=
  match data.transactionInput with
  | .sorobanGasAbstraction xdr signedAuthEntry => do
      let envelope ← xdr.mapError fun e =>
        .validationError s!"Failed to parse transaction XDR: {e}"
      let signedUserAuth ← signedAuthEntry.mapError fun e =>
        .validationError s!"Failed to deserialize auth: {e}"
      let (injected, entries) ← injectAuthEntriesIntoEnvelope envelope signedUserAuth
      let simulated ← simulateAndUpdateResources services injected entries
      validateFeeUnderPolicy services signedUserAuth policy simulated
      let sequenceNumber ← getNextSequence services relayerId relayerAddress
      let updated ←
        (updateEnvelopeSequence simulated sequenceNumber).mapError .validationError
      return { data with
        sequenceNumber := some sequenceNumber
        transactionInput := .unsignedXdr (.ok updated) }
  | _ => reject "Expected SorobanGasAbstraction transaction input"

/-! ## The call that was paid for -/

/-- A call of the fee forwarder carries the six arguments the user authorized, the
fee amount in second place, and the two parties at the end. -/
structure MatchesAuthorization (call userCall : InvokeContractArgs) (feeAmount : ScVal) :
    Prop where
  contract : call.contractAddress = userCall.contractAddress
  function : call.functionName = userCall.functionName
  args : ∃ feeToken maxFeeAmount expiration targetContract targetFn targetArgs user relayer,
    userCall.args =
      [feeToken, maxFeeAmount, expiration, targetContract, targetFn, targetArgs] ∧
    call.args = [feeToken, feeAmount, maxFeeAmount, expiration, targetContract, targetFn,
      targetArgs, user, relayer]

/-- The fee amount is at least every quote for the fee in the authorized token. -/
def CoversQuote (services : StellarServices) (policy : Option RelayerStellarPolicy)
    (signedUserAuth : SorobanAuthorizationEntry) (fee : UInt64) (feeAmount : ScVal) :
    Prop :=
  ∃ amount, extractI128FromScval feeAmount = .ok amount ∧
    ∀ policy' ∈ policy, ∀ feeToken maxFeeAmount quote,
      extractFeeParamsFromAuth signedUserAuth = .ok (feeToken, maxFeeAmount) →
      convertXlmFeeToToken services policy' fee feeToken = .ok quote →
        quote.feeInToken.toNat ≤ amount

/-- The entry authorizes the call itself and nothing below it. -/
def AuthorizesOnly (call : InvokeContractArgs) (entry : SorobanAuthorizationEntry) : Prop :=
  entry.rootInvocation = .mk (.contractFn call) []

/-- What the relayer should sign: one operation that makes the authorized call,
pays the quoted fee, and lends the source account's authority to nothing else. -/
def SignsPaidCall (services : StellarServices) (policy : Option RelayerStellarPolicy)
    (signedUserAuth : SorobanAuthorizationEntry) (tx : Transaction) : Prop :=
  ∃ source call auth userCall feeAmount,
    tx.operations = [⟨source, .invokeHostFunction ⟨.invokeContract call, auth⟩⟩] ∧
    signedUserAuth.rootInvocation.function = .contractFn userCall ∧
    MatchesAuthorization call userCall feeAmount ∧
    CoversQuote services policy signedUserAuth tx.fee.toUInt64 feeAmount ∧
    ∀ entry ∈ auth, entry.credentials = .sourceAccount → AuthorizesOnly call entry

/-- The envelope that is simulated: the submitted one with the injected entries. -/
def injectedTransaction (tx : Transaction) (source : Option MuxedAccount)
    (hostFunction : HostFunction) (entries : List SorobanAuthorizationEntry) :
    Transaction :=
  { tx with operations := [⟨source, .invokeHostFunction ⟨hostFunction, entries⟩⟩] }

/-- The same demands on what is submitted.  The fee is the one the simulation
leads to, the user's entry may not use the authority of the source account, and
the second entry, which is given that authority, may authorize only the call. -/
def SubmitsPaidCall (services : StellarServices) (policy : Option RelayerStellarPolicy)
    (signedUserAuth : SorobanAuthorizationEntry) (tx : Transaction) : Prop :=
  ∃ source call auth userCall feeAmount,
    tx.operations = [⟨source, .invokeHostFunction ⟨.invokeContract call, auth⟩⟩] ∧
    signedUserAuth.rootInvocation.function = .contractFn userCall ∧
    MatchesAuthorization call userCall feeAmount ∧
    (∀ response, services.simulateTransactionEnvelope
        (.tx ⟨injectedTransaction tx source (.invokeContract call)
          (injectAuthEntries signedUserAuth auth), []⟩) = .ok response →
      CoversQuote services policy signedUserAuth
        (max tx.fee (requiredFee response.minResourceFee)).toUInt64 feeAmount) ∧
    signedUserAuth.credentials ≠ .sourceAccount ∧
    (∀ relayerAuth ∈ auth[1]?, AuthorizesOnly call relayerAuth) ∧
    ∀ entry ∈ auth.drop 2, entry.credentials = .sourceAccount → AuthorizesOnly call entry

theorem injectAuthEntriesIntoEnvelope_eq_ok {v1 : TransactionV1Envelope}
    {signedUserAuth : SorobanAuthorizationEntry} {injected : TransactionEnvelope}
    {entries : List SorobanAuthorizationEntry}
    (hok : injectAuthEntriesIntoEnvelope (.tx v1) signedUserAuth =
      .ok (injected, entries)) :
    ∃ source hostFunction auth,
      v1.tx.operations = [⟨source, .invokeHostFunction ⟨hostFunction, auth⟩⟩] ∧
      auth ≠ [] ∧ entries = injectAuthEntries signedUserAuth auth ∧
      injected = .tx { v1 with
        tx := injectedTransaction v1.tx source hostFunction entries } := by
  simp only [injectAuthEntriesIntoEnvelope] at hok
  split at hok
  · cases hok
  · next op hops =>
      obtain ⟨⟨updated, entries'⟩, hinject, hdone⟩ := bind_eq_ok.mp hok
      cases hdone
      simp only [injectIntoOperation] at hinject
      split at hinject
      · next invoke hbody =>
          split_ifs at hinject with hempty
          · cases hinject
          · cases hinject
            refine ⟨op.sourceAccount, invoke.hostFunction, invoke.auth, ?_, ?_, rfl, rfl⟩
            · rw [hops, ← hbody]
            · simpa using hempty
      · cases hinject
  · cases hok

theorem simulateAndUpdateResources_eq_ok {services : StellarServices}
    {v1 : TransactionV1Envelope} {source : Option MuxedAccount}
    {hostFunction : HostFunction} {entries : List SorobanAuthorizationEntry}
    {simulated : TransactionEnvelope}
    (hops : v1.tx.operations = [⟨source, .invokeHostFunction ⟨hostFunction, entries⟩⟩])
    (hok : simulateAndUpdateResources services (.tx v1) entries = .ok simulated) :
    ∃ response data,
      services.simulateTransactionEnvelope (.tx ⟨v1.tx, []⟩) = .ok response ∧
      simulated = .tx { v1 with tx := { v1.tx with
        ext := .v1 data, fee := max v1.tx.fee (requiredFee response.minResourceFee) } } := by
  obtain ⟨simulationEnvelope, hbuild, hsimulate⟩ := bind_eq_ok.mp hok
  obtain ⟨response, hresponse, hupdate⟩ := bind_eq_ok.mp hsimulate
  have hsame : simulationEnvelope = .tx ⟨v1.tx, []⟩ := by
    simp only [buildSimulationEnvelope, hops] at hbuild
    cases hbuild
    rw [← hops]
  split at hupdate
  · cases hupdate
  · obtain ⟨data, -, hdone⟩ := bind_eq_ok.mp hupdate
    cases hdone
    exact ⟨response, _, by rw [← hsame]; exact ok_of_mapError hresponse, rfl⟩

/-- What a successful preparation returns, in terms of what was submitted. -/
theorem processSorobanGasAbstraction_eq_ok {services : StellarServices}
    {relayerId relayerAddress : String} {data out : StellarTransactionData}
    {policy : Option RelayerStellarPolicy} {v1 : TransactionV1Envelope}
    {signedUserAuth : SorobanAuthorizationEntry}
    (hinput : data.transactionInput =
      .sorobanGasAbstraction (.ok (.tx v1)) (.ok signedUserAuth))
    (hok : processSorobanGasAbstraction services relayerId relayerAddress data policy =
      .ok out) :
    ∃ source hostFunction auth response ext sequence,
      v1.tx.operations = [⟨source, .invokeHostFunction ⟨hostFunction, auth⟩⟩] ∧
      auth ≠ [] ∧
      services.simulateTransactionEnvelope
        (.tx ⟨injectedTransaction v1.tx source hostFunction
          (injectAuthEntries signedUserAuth auth), []⟩) = .ok response ∧
      out.transactionInput = .unsignedXdr (.ok (.tx { v1 with
        tx := { injectedTransaction v1.tx source hostFunction
            (injectAuthEntries signedUserAuth auth) with
          ext := ext
          fee := max v1.tx.fee (requiredFee response.minResourceFee)
          seqNum := sequence } })) := by
  simp only [processSorobanGasAbstraction, hinput] at hok
  obtain ⟨envelope, henvelope, hok⟩ := bind_eq_ok.mp hok
  cases henvelope
  obtain ⟨auth', hauth, hok⟩ := bind_eq_ok.mp hok
  cases hauth
  obtain ⟨⟨injected, entries⟩, hinject, hok⟩ := bind_eq_ok.mp hok
  obtain ⟨source, hostFunction, auth, hops, hne, rfl, rfl⟩ :=
    injectAuthEntriesIntoEnvelope_eq_ok hinject
  obtain ⟨simulated, hsimulate, hok⟩ := bind_eq_ok.mp hok
  obtain ⟨response, ext, hresponse, rfl⟩ := simulateAndUpdateResources_eq_ok rfl hsimulate
  obtain ⟨_, -, hok⟩ := bind_eq_ok.mp hok
  obtain ⟨sequence, -, hok⟩ := bind_eq_ok.mp hok
  obtain ⟨updated, hupdated, hdone⟩ := bind_eq_ok.mp hok
  cases hupdated
  cases hdone
  exact ⟨source, hostFunction, auth, response, .v1 ext, sequence, hops, hne, hresponse, rfl⟩

theorem mem_injectAuthEntries_iff {signedUserAuth entry : SorobanAuthorizationEntry}
    {auth : List SorobanAuthorizationEntry} (hne : auth ≠ []) :
    entry ∈ injectAuthEntries signedUserAuth auth ↔
      entry = signedUserAuth ∨
      (∃ relayerAuth ∈ auth[1]?, entry = ⟨.sourceAccount, relayerAuth.rootInvocation⟩) ∨
      entry ∈ auth.drop 2 := by
  match auth, hne with
  | [_], _ => simp [injectAuthEntries]
  | _ :: _ :: _, _ => simp [injectAuthEntries]

/-- The user's entry has six arguments and the call has nine, so the entry cannot
authorize the call itself. -/
theorem MatchesAuthorization.not_authorizesOnly {call userCall : InvokeContractArgs}
    {feeAmount : ScVal} (hmatches : MatchesAuthorization call userCall feeAmount)
    {entry : SorobanAuthorizationEntry}
    (hroot : entry.rootInvocation.function = .contractFn userCall) :
    ¬ AuthorizesOnly call entry := by
  intro honly
  obtain ⟨_, _, _, _, _, _, _, _, huser, hcall⟩ := hmatches.args
  rw [AuthorizesOnly] at honly
  rw [honly] at hroot
  cases hroot
  rw [huser] at hcall
  simp at hcall

/-- The injected entries keep the source account's authority to the call exactly
when the submitted ones ask for nothing else. -/
theorem sourceAccountEntries_iff {call userCall : InvokeContractArgs} {feeAmount : ScVal}
    {signedUserAuth : SorobanAuthorizationEntry} {auth : List SorobanAuthorizationEntry}
    (hne : auth ≠ [])
    (hroot : signedUserAuth.rootInvocation.function = .contractFn userCall)
    (hmatches : MatchesAuthorization call userCall feeAmount) :
    (∀ entry ∈ injectAuthEntries signedUserAuth auth,
        entry.credentials = .sourceAccount → AuthorizesOnly call entry) ↔
      signedUserAuth.credentials ≠ .sourceAccount ∧
      (∀ relayerAuth ∈ auth[1]?, AuthorizesOnly call relayerAuth) ∧
      ∀ entry ∈ auth.drop 2, entry.credentials = .sourceAccount →
        AuthorizesOnly call entry := by
  have hnot := hmatches.not_authorizesOnly hroot
  constructor
  · intro hall
    refine ⟨?_, ?_, ?_⟩
    · intro hsource
      exact hnot (hall _ ((mem_injectAuthEntries_iff hne).mpr (.inl rfl)) hsource)
    · intro relayerAuth hrelayer
      exact hall ⟨.sourceAccount, relayerAuth.rootInvocation⟩
        ((mem_injectAuthEntries_iff hne).mpr (.inr (.inl ⟨relayerAuth, hrelayer, rfl⟩))) rfl
    · intro entry hentry
      exact hall entry ((mem_injectAuthEntries_iff hne).mpr (.inr (.inr hentry)))
  · rintro ⟨huser, hrelayer, hothers⟩ entry hentry hsource
    rcases (mem_injectAuthEntries_iff hne).mp hentry with
      rfl | ⟨relayerAuth, hmem, rfl⟩ | hmem
    · exact (huser hsource).elim
    · exact hrelayer relayerAuth hmem
    · exact hothers entry hmem hsource

/-- The relayer signs the call that was paid for exactly when that is what the
envelope submitted: the authorization entry is checked against the policy, and the
host function is never compared with it. -/
theorem processSorobanGasAbstraction_signs_iff (services : StellarServices)
    (relayerId relayerAddress : String) (data out : StellarTransactionData)
    (policy : Option RelayerStellarPolicy) (v1 : TransactionV1Envelope)
    (signedUserAuth : SorobanAuthorizationEntry)
    (hinput : data.transactionInput =
      .sorobanGasAbstraction (.ok (.tx v1)) (.ok signedUserAuth))
    (hok : processSorobanGasAbstraction services relayerId relayerAddress data policy =
      .ok out) :
    ∃ prepared : TransactionV1Envelope,
      out.transactionInput = .unsignedXdr (.ok (.tx prepared)) ∧
      (SignsPaidCall services policy signedUserAuth prepared.tx ↔
        SubmitsPaidCall services policy signedUserAuth v1.tx) := by
  obtain ⟨source, hostFunction, auth, response, ext, sequence, hops, hne, hresponse, hout⟩ :=
    processSorobanGasAbstraction_eq_ok hinput hok
  refine ⟨_, hout, ?_⟩
  constructor
  · rintro ⟨source', call, auth', userCall, feeAmount, hops', hroot, hmatches, hquote, hauth⟩
    simp only [injectedTransaction, List.cons.injEq, Operation.mk.injEq,
      OperationBody.invokeHostFunction.injEq, InvokeHostFunctionOp.mk.injEq, and_true]
      at hops'
    obtain ⟨rfl, rfl, rfl⟩ := hops'
    refine ⟨source, call, auth, userCall, feeAmount, hops, hroot, hmatches, ?_,
      (sourceAccountEntries_iff hne hroot hmatches).mp hauth⟩
    intro response' hresponse'
    rw [hresponse] at hresponse'
    cases hresponse'
    exact hquote
  · rintro ⟨source', call, auth', userCall, feeAmount, hops', hroot, hmatches, hquote, hauth⟩
    rw [hops] at hops'
    simp only [List.cons.injEq, Operation.mk.injEq, OperationBody.invokeHostFunction.injEq,
      InvokeHostFunctionOp.mk.injEq, and_true] at hops'
    obtain ⟨rfl, rfl, rfl⟩ := hops'
    exact ⟨source, call, _, userCall, feeAmount, rfl, hroot, hmatches,
      hquote response hresponse, (sourceAccountEntries_iff hne hroot hmatches).mpr hauth⟩

def sampleServices : StellarServices where
  getAccountSequence _ := .ok 0
  simulateTransactionEnvelope _ := .ok ⟨none, .ok ⟨[], ⟨[], 1, 1, 1⟩, 100⟩, 100, []⟩
  getTokenBalance _ _ := .ok 0
  getXlmToTokenQuote _ _ _ _ := .ok 300
  getAndIncrement _ _ := .ok 5
  clock _ := 0

def samplePolicy : RelayerStellarPolicy := ⟨none, none, some .user, none, none⟩

def amountVal (amount : UInt64) : ScVal := .i128 ⟨0, amount⟩

/-- `forward` as the user authorizes it: at most 1000 of token 11. -/
def sampleUserCall : InvokeContractArgs :=
  ⟨.contract 10, "forward", [.address (.contract 11), amountVal 1000, .u32 500,
    .address (.contract 12), .symbol "transfer", .vec (some [])]⟩

/-- `forward` as the relayer executes it, charging 500. -/
def sampleCall : InvokeContractArgs :=
  ⟨.contract 10, "forward", [.address (.contract 11), amountVal 500, amountVal 1000,
    .u32 500, .address (.contract 12), .symbol "transfer", .vec (some []),
    .address (.account ⟨2⟩), .address (.account ⟨1⟩)]⟩

/-- A call of another contract that pays nothing. -/
def drainCall : InvokeContractArgs := ⟨.contract 99, "drain", []⟩

def entryFor (call : InvokeContractArgs) (signer : AccountId) : SorobanAuthorizationEntry :=
  ⟨.address ⟨.account signer, 0, 500, .vec (some [])⟩, .mk (.contractFn call) []⟩

/-- The submitted envelope executes `call`, with the relayer's entry for it. -/
def sampleTransaction (call : InvokeContractArgs) : Transaction :=
  ⟨.ed25519 1, 100, 0, .none, [], [⟨none, .invokeHostFunction
    ⟨.invokeContract call, [entryFor sampleUserCall ⟨2⟩, entryFor call ⟨1⟩]⟩⟩], .v0⟩

def sampleInput (call : InvokeContractArgs) : StellarTransactionData where
  sourceAccount := AccountId.toText ⟨1⟩
  fee := none
  sequenceNumber := none
  memo := none
  validUntil := none
  networkPassphrase := "Test SDF Network ; September 2015"
  signatures := []
  hash := none
  simulationTransactionData := none
  transactionInput := .sorobanGasAbstraction (.ok (.tx ⟨sampleTransaction call, []⟩))
    (.ok (entryFor sampleUserCall ⟨2⟩))
  signedEnvelopeXdr := none
  transactionResultXdr := none

theorem sampleQuote_le {feeToken : String} {quote : FeeQuote}
    (hquote : convertXlmFeeToToken sampleServices samplePolicy 200 feeToken = .ok quote) :
    quote.feeInToken.toNat ≤ 500 := by
  have hlimit : (300 : UInt64).toNat ≤ 500 := by decide
  simp only [convertXlmFeeToToken] at hquote
  by_cases hnative : (feeToken == "native" || feeToken.isEmpty) = true
  · rw [if_pos hnative] at hquote
    cases hquote
    decide
  · rw [if_neg hnative] at hquote
    cases hquote
    exact hlimit

theorem sampleTransaction_submits :
    SubmitsPaidCall sampleServices (some samplePolicy) (entryFor sampleUserCall ⟨2⟩)
      (sampleTransaction sampleCall) := by
  refine ⟨none, sampleCall, _, sampleUserCall, amountVal 500, rfl, rfl,
    ⟨rfl, rfl, _, _, _, _, _, _, _, _, rfl, rfl⟩, ?_, nofun, ?_, by simp⟩
  · intro response hresponse
    cases hresponse
    refine ⟨500, rfl, ?_⟩
    intro policy hpolicy feeToken maxFeeAmount quote _ hquote
    cases hpolicy
    exact_mod_cast sampleQuote_le hquote
  · intro relayerAuth hrelayer
    cases hrelayer
    rfl

/-- The call that was paid for is prepared and signed as such. -/
theorem processSorobanGasAbstraction_signs_sample :
    ∃ out prepared, processSorobanGasAbstraction sampleServices "relayer"
        (AccountId.toText ⟨1⟩) (sampleInput sampleCall) (some samplePolicy) = .ok out ∧
      out.transactionInput = .unsignedXdr (.ok (.tx prepared)) ∧
      SignsPaidCall sampleServices (some samplePolicy) (entryFor sampleUserCall ⟨2⟩)
        prepared.tx := by
  obtain ⟨out, hok⟩ := exists_of_isOk (show (processSorobanGasAbstraction sampleServices
    "relayer" (AccountId.toText ⟨1⟩) (sampleInput sampleCall)
    (some samplePolicy)).isOk = true by decide +kernel)
  obtain ⟨prepared, hout, hiff⟩ := processSorobanGasAbstraction_signs_iff sampleServices
    "relayer" (AccountId.toText ⟨1⟩) (sampleInput sampleCall) out (some samplePolicy)
    ⟨sampleTransaction sampleCall, []⟩ (entryFor sampleUserCall ⟨2⟩) rfl hok
  exact ⟨out, prepared, hok, hout, hiff.mpr sampleTransaction_submits⟩

/-- With the same authorization entry, an envelope that calls another contract is
prepared for the relayer's signature. -/
theorem processSorobanGasAbstraction_accepts_other_call :
    ∃ out prepared, processSorobanGasAbstraction sampleServices "relayer"
        (AccountId.toText ⟨1⟩) (sampleInput drainCall) (some samplePolicy) = .ok out ∧
      out.transactionInput = .unsignedXdr (.ok (.tx prepared)) ∧
      ¬ SignsPaidCall sampleServices (some samplePolicy) (entryFor sampleUserCall ⟨2⟩)
        prepared.tx := by
  obtain ⟨out, hok⟩ := exists_of_isOk (show (processSorobanGasAbstraction sampleServices
    "relayer" (AccountId.toText ⟨1⟩) (sampleInput drainCall)
    (some samplePolicy)).isOk = true by decide +kernel)
  obtain ⟨source, hostFunction, auth, response, ext, sequence, hops, -, -, hout⟩ :=
    processSorobanGasAbstraction_eq_ok rfl hok
  cases hops
  refine ⟨out, _, hok, hout, ?_⟩
  rintro ⟨_, call, _, userCall, _, hcall, huser, hmatches, -, -⟩
  cases hcall
  cases huser
  cases hmatches.contract

/-! ## The token fee cap -/

/-- The entry authorizes a call whose first arguments are the fee token and the
maximum fee. -/
def CarriesFee (auth : SorobanAuthorizationEntry) (token : Uint256) (amount : Int128Parts) :
    Prop :=
  ∃ call rest, auth.rootInvocation.function = .contractFn call ∧
    call.args = .address (.contract token) :: .i128 amount :: rest

theorem extractContractAddressFromScval_eq_ok {value : ScVal} {address : String}
    (hok : extractContractAddressFromScval value = .ok address) :
    ∃ token, value = .address (.contract token) ∧ address = contractToText token := by
  unfold extractContractAddressFromScval at hok
  split at hok
  · next token => exact ⟨token, rfl, (Except.ok.inj hok).symm⟩
  · cases hok
  · cases hok

theorem extractI128FromScval_eq_ok {value : ScVal} {amount : ℤ}
    (hok : extractI128FromScval value = .ok amount) :
    ∃ parts, value = .i128 parts ∧ amount = parts.toInt := by
  unfold extractI128FromScval at hok
  split at hok
  · next parts => exact ⟨parts, rfl, (Except.ok.inj hok).symm⟩
  · cases hok

theorem extractFeeParamsFromAuth_eq_ok {auth : SorobanAuthorizationEntry}
    {feeToken : String} {maxFeeAmount : ℤ}
    (hok : extractFeeParamsFromAuth auth = .ok (feeToken, maxFeeAmount)) :
    ∃ token amount, CarriesFee auth token amount ∧ feeToken = contractToText token ∧
      maxFeeAmount = amount.toInt := by
  unfold extractFeeParamsFromAuth at hok
  split at hok
  · next call hcall =>
      split at hok
      · next tokenArg maxFeeArg rest hargs =>
          obtain ⟨address, haddress, hok⟩ := bind_eq_ok.mp hok
          obtain ⟨value, hvalue, hdone⟩ := bind_eq_ok.mp hok
          cases hdone
          obtain ⟨token, rfl, rfl⟩ :=
            extractContractAddressFromScval_eq_ok (ok_of_mapError haddress)
          obtain ⟨amount, rfl, rfl⟩ := extractI128FromScval_eq_ok (ok_of_mapError hvalue)
          exact ⟨token, amount, ⟨call, rest, hcall, hargs⟩, rfl, rfl⟩
      · cases hok
  · cases hok

/-- The cast to 64 bits keeps the low word. -/
theorem toU64_toInt (amount : Int128Parts) : toU64 amount.toInt = amount.lo := by
  have hlow : amount.toInt % 2 ^ 64 = amount.lo.toNat := by
    have hlt : (amount.lo.toNat : ℤ) < 2 ^ 64 := by exact_mod_cast amount.lo.toNat_lt
    rw [Int128Parts.toInt, Int.mul_add_emod_self_right]
    exact Int.emod_eq_of_lt (Int.natCast_nonneg _) hlt
  rw [toU64, hlow, Int.toNat_natCast, UInt64.ofNat_toNat]

/-- A positive amount has an empty high word exactly when it fits 64 bits. -/
theorem hi_eq_zero_iff {amount : Int128Parts} (hpositive : 0 < amount.toInt) :
    amount.hi = 0 ↔ amount.toInt < 2 ^ 64 := by
  have hlt : (amount.lo.toNat : ℤ) < 2 ^ 64 := by exact_mod_cast amount.lo.toNat_lt
  rw [Int128Parts.toInt] at hpositive ⊢
  rw [← Int64.toInt_inj, Int64.toInt_zero]
  omega

theorem validateTokenMaxFee_eq_ok {assetId : String} {fee cap : UInt64}
    {policy : RelayerStellarPolicy}
    (hcap : ((policy.getAllowedTokenEntry assetId).bind fun entry => entry.maxAllowedFee) =
      some cap)
    (hok : validateTokenMaxFee assetId fee policy = .ok ()) : fee ≤ cap := by
  simp only [validateTokenMaxFee, hcap] at hok
  split_ifs at hok with hless
  exact UInt64.not_lt.mp hless

/-- What a successful validation has checked: the cap is compared with the low word
of the amount, and the quote with the whole amount. -/
theorem validateGasAbstractionFee_eq_ok {services : StellarServices}
    {envelope : TransactionEnvelope} {auth : SorobanAuthorizationEntry}
    {policy : RelayerStellarPolicy} {requiredXlmFeeOverride : Option UInt64}
    (hok : validateGasAbstractionFee services envelope auth policy requiredXlmFeeOverride =
      .ok ()) :
    ∃ token amount xlmFee quote, CarriesFee auth token amount ∧ 0 < amount.toInt ∧
      validateTokenMaxFee (contractToText token) amount.lo policy = .ok () ∧
      requiredXlmFee services envelope requiredXlmFeeOverride = .ok xlmFee ∧
      convertXlmFeeToToken services policy xlmFee (contractToText token) = .ok quote ∧
      quote.feeInToken.toNat ≤ amount.toInt := by
  obtain ⟨⟨feeToken, maxFeeAmount⟩, hparams, hok⟩ := bind_eq_ok.mp hok
  obtain ⟨token, amount, hcarries, rfl, rfl⟩ := extractFeeParamsFromAuth_eq_ok hparams
  obtain ⟨_, -, hok⟩ := bind_eq_ok.mp hok
  by_cases hpositive : amount.toInt ≤ 0
  · simp only [if_pos hpositive] at hok
    cases hok
  simp only [if_neg hpositive] at hok
  obtain ⟨_, hmax, hok⟩ := bind_eq_ok.mp hok
  obtain ⟨xlmFee, hxlm, hok⟩ := bind_eq_ok.mp hok
  obtain ⟨quote, hquote, hcovers⟩ := bind_eq_ok.mp hok
  rw [toU64_toInt] at hmax
  refine ⟨token, amount, xlmFee, quote, hcarries, not_le.mp hpositive, ok_of_mapError hmax,
    hxlm, ok_of_mapError hquote, ?_⟩
  by_contra hnot
  rw [if_pos (not_le.mp hnot)] at hcovers
  cases hcovers

/-- The whole amount is positive, within the cap and enough for the quoted fee. -/
structure WithinFeeCap (services : StellarServices) (envelope : TransactionEnvelope)
    (policy : RelayerStellarPolicy) (requiredXlmFeeOverride : Option UInt64)
    (token : Uint256) (amount : Int128Parts) (cap : UInt64) : Prop where
  positive : 0 < amount.toInt
  capped : amount.toInt ≤ cap.toNat
  covers : ∃ xlmFee quote,
    requiredXlmFee services envelope requiredXlmFeeOverride = .ok xlmFee ∧
    convertXlmFeeToToken services policy xlmFee (contractToText token) = .ok quote ∧
    quote.feeInToken.toNat ≤ amount.toInt

/-- The cap of the fee token bounds an accepted amount exactly when the amount has
nothing in its high word. -/
theorem validateGasAbstractionFee_capped_iff (services : StellarServices)
    (envelope : TransactionEnvelope) (auth : SorobanAuthorizationEntry)
    (policy : RelayerStellarPolicy) (requiredXlmFeeOverride : Option UInt64)
    (hok : validateGasAbstractionFee services envelope auth policy requiredXlmFeeOverride =
      .ok ()) :
    ∃ token amount, CarriesFee auth token amount ∧
      ∀ cap, ((policy.getAllowedTokenEntry (contractToText token)).bind
          fun entry => entry.maxAllowedFee) = some cap →
        (WithinFeeCap services envelope policy requiredXlmFeeOverride token amount cap ↔
          amount.hi = 0) := by
  obtain ⟨token, amount, xlmFee, quote, hcarries, hpositive, hmax, hxlm, hquote, hcovers⟩ :=
    validateGasAbstractionFee_eq_ok hok
  refine ⟨token, amount, hcarries, ?_⟩
  intro cap hcap
  have hlow : amount.lo.toNat ≤ cap.toNat :=
    UInt64.le_iff_toNat_le.mp (validateTokenMaxFee_eq_ok hcap hmax)
  constructor
  · intro hwithin
    have hfits : (cap.toNat : ℤ) < 2 ^ 64 := by exact_mod_cast cap.toNat_lt
    exact (hi_eq_zero_iff hpositive).mpr (lt_of_le_of_lt hwithin.capped hfits)
  · intro hhi
    refine ⟨hpositive, ?_, xlmFee, quote, hxlm, hquote, hcovers⟩
    rw [Int128Parts.toInt, hhi, Int64.toInt_zero]
    omega

/-- Token 11 is charged at most 1000. -/
def cappedPolicy : RelayerStellarPolicy :=
  ⟨none, some [⟨contractToText 11, none, some 1000, none⟩], some .user, none, none⟩

/-- The user's entry with the given maximum fee in token 11. -/
def entryWithFee (amount : Int128Parts) : SorobanAuthorizationEntry :=
  entryFor ⟨.contract 10, "forward", [.address (.contract 11), .i128 amount, .u32 500,
    .address (.contract 12), .symbol "transfer", .vec (some [])]⟩ ⟨2⟩

theorem CarriesFee.eq_entryWithFee {carried amount : Int128Parts} {token : Uint256}
    (hcarries : CarriesFee (entryWithFee carried) token amount) :
    token = 11 ∧ amount = carried := by
  obtain ⟨call, rest, hcall, hargs⟩ := hcarries
  cases hcall
  cases hargs
  exact ⟨rfl, rfl⟩

theorem cappedPolicy_cap :
    ((cappedPolicy.getAllowedTokenEntry (contractToText 11)).bind
      fun entry => entry.maxAllowedFee) = some 1000 := by
  simp [RelayerStellarPolicy.getAllowedTokenEntry, RelayerStellarPolicy.getAllowedTokens,
    cappedPolicy]

/-- An amount of one word is held to the cap. -/
theorem validateGasAbstractionFee_capped_small :
    validateGasAbstractionFee sampleServices (.tx ⟨sampleTransaction sampleCall, []⟩)
        (entryWithFee ⟨0, 1000⟩) cappedPolicy none = .ok () ∧
      WithinFeeCap sampleServices (.tx ⟨sampleTransaction sampleCall, []⟩) cappedPolicy none
        11 ⟨0, 1000⟩ 1000 := by
  have hok : validateGasAbstractionFee sampleServices
      (.tx ⟨sampleTransaction sampleCall, []⟩) (entryWithFee ⟨0, 1000⟩) cappedPolicy none =
      .ok () := by
    obtain ⟨⟨⟩, hok⟩ := exists_of_isOk (show (validateGasAbstractionFee sampleServices
      (.tx ⟨sampleTransaction sampleCall, []⟩) (entryWithFee ⟨0, 1000⟩) cappedPolicy
      none).isOk = true by decide +kernel)
    exact hok
  obtain ⟨token, amount, hcarries, hiff⟩ := validateGasAbstractionFee_capped_iff sampleServices
    (.tx ⟨sampleTransaction sampleCall, []⟩) (entryWithFee ⟨0, 1000⟩) cappedPolicy none hok
  obtain ⟨rfl, rfl⟩ := hcarries.eq_entryWithFee
  exact ⟨hok, (hiff 1000 cappedPolicy_cap).mpr rfl⟩

/-- An amount of `2 ^ 64 + 1000` passes a cap of 1000. -/
theorem validateGasAbstractionFee_accepts_above_cap :
    validateGasAbstractionFee sampleServices (.tx ⟨sampleTransaction sampleCall, []⟩)
        (entryWithFee ⟨1, 1000⟩) cappedPolicy none = .ok () ∧
      CarriesFee (entryWithFee ⟨1, 1000⟩) 11 ⟨1, 1000⟩ ∧
      ((cappedPolicy.getAllowedTokenEntry (contractToText 11)).bind
        fun entry => entry.maxAllowedFee) = some 1000 ∧
      ¬ (Int128Parts.toInt ⟨1, 1000⟩ ≤ (1000 : UInt64).toNat) := by
  obtain ⟨⟨⟩, hok⟩ := exists_of_isOk (show (validateGasAbstractionFee sampleServices
    (.tx ⟨sampleTransaction sampleCall, []⟩) (entryWithFee ⟨1, 1000⟩) cappedPolicy
    none).isOk = true by decide +kernel)
  exact ⟨hok, ⟨_, _, rfl, rfl⟩, cappedPolicy_cap, by decide⟩

end Relayer.GasAbstraction
