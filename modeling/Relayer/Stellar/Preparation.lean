import Relayer.Stellar.FeeBump
import Relayer.Stellar.GasAbstraction
import Relayer.Stellar.UnsignedXdr

/-!
# Preparing Stellar transactions

A pending transaction is prepared according to its input: requested operations
and unsigned envelopes are signed as the relayer's own, signed envelopes are
fee-bumped, and gas abstraction envelopes are completed with the user's
authorization.  Each path computes the fee of the envelope it stores in its own
way.
-/

namespace Relayer.StellarPreparation

open Relayer.Transaction Relayer.Xdr Relayer.StellarFees Relayer.StellarData
open Relayer.StellarOperations Relayer.UnsignedXdr Relayer.FeeBump Relayer.GasAbstraction
open Relayer.Checks

/-! ## Requested operations -/

/-- Inclusion fee for every operation plus the resource fee, in 64 bits. -/
def totalFee (count : ℕ) (minResourceFee : UInt64) : UInt64 :=
  UInt64.ofNat count * stellarDefaultTransactionFee + minResourceFee

def withSimulationData (data : StellarTransactionData) (response : SimulateTransactionResponse)
    (operationsCount : ℕ) : Conversion StellarTransactionData :=
  let fee := totalFee operationsCount response.minResourceFee
  if fee.toNat < 2 ^ 32 then
    .ok { data with
      fee := some (max fee.toUInt32 100)
      simulationTransactionData := some response.transactionData }
  else .error "Fee too high"

/-- The data with the fee of the simulation, or of the number of operations. -/
def priceOperations (services : StellarServices) (data : StellarTransactionData)
    (unsigned : TransactionEnvelope) : Processing StellarTransactionData := do
  let count := (extractOperations unsigned).length
  match ← simulateIfNeeded services unsigned with
  | some response =>
      (withSimulationData data response count).mapError fun e =>
        .validationError s!"Failed to apply simulation data: Transaction conversion error: {e}"
  | none => return { data with fee := some (100 * UInt32.ofNat count) }

def processOperations (services : StellarServices) (parseDate : DateParser)
    (signer : StellarSigner) (relayerId relayerAddress : String)
    (data : StellarTransactionData) (policy : Option RelayerStellarPolicy) :
    Processing StellarTransactionData :=
  if policy.any RelayerStellarPolicy.isUserFeePayment then
    StellarData.reject ("Gasless transactions (User fee payment strategy) are not supported via " ++
      "operations path. Please use fee bump(SignedXdr) path for gasless transactions.")
  else do
    let sequence ← getNextSequence services relayerId relayerAddress
    let data := data.withSequenceNumber sequence
    let unsigned ← (buildUnsignedEnvelope parseDate data).mapError fun e =>
      .signerError s!"Transaction conversion error: {e}"
    let priced ← priceOperations services data unsigned
    signStellarTransaction parseDate signer priced

/-! ## Dispatch -/

/-- `sign_and_finalize_transaction` signs as `sign_stellar_transaction` does. -/
def signAndFinalizeTransaction (parseDate : DateParser) (signer : StellarSigner)
    (data : StellarTransactionData) : Processing StellarTransactionData :=
  signStellarTransaction parseDate signer data

/-- The data that `prepare_core` stores with the status `Sent`. -/
def prepareCore (services : StellarServices) (parseDate : DateParser) (signer : StellarSigner)
    (relayerId relayerAddress : String) (policy : RelayerStellarPolicy)
    (data : StellarTransactionData) : Processing StellarTransactionData :=
  match data.transactionInput with
  | .operations _ => do
      let prepared ← processOperations services parseDate signer relayerId relayerAddress data
        (some policy)
      signAndFinalizeTransaction parseDate signer prepared
  | .unsignedXdr _ => do
      let prepared ← processUnsignedXdr services signer relayerId relayerAddress data
        (some policy)
      signAndFinalizeTransaction parseDate signer prepared
  | .signedXdr _ _ => processFeeBump services signer relayerAddress data (some policy)
  | .sorobanGasAbstraction _ _ => do
      let prepared ← processSorobanGasAbstraction services relayerId relayerAddress data
        (some policy)
      signAndFinalizeTransaction parseDate signer prepared

/-! ## The fee of the stored envelope -/

/-- The fee an envelope offers to the network: the outer one of a fee bump. -/
def envelopeBid : TransactionEnvelope → ℤ
  | .txV0 envelope => envelope.tx.fee.toNat
  | .tx envelope => envelope.tx.fee.toNat
  | .txFeeBump envelope => envelope.tx.fee.toInt

/-- The envelope itself, if its operations need a simulation. -/
def simulationOf (envelope : TransactionEnvelope) : Option TransactionEnvelope :=
  if xdrNeedsSimulation envelope then some envelope else none

/-- The envelope that is handed to the simulation, if one is. -/
def simulatedEnvelope (services : StellarServices) (parseDate : DateParser)
    (relayerId relayerAddress : String) (data : StellarTransactionData) :
    Option TransactionEnvelope :=
  match data.transactionInput with
  | .operations _ => do
      let sequence ← (getNextSequence services relayerId relayerAddress).toOption
      let unsigned ← (buildUnsignedEnvelope parseDate
        (data.withSequenceNumber sequence)).toOption
      simulationOf unsigned
  | .unsignedXdr (.ok envelope) => do
      let sequence ← (getNextSequence services relayerId relayerAddress).toOption
      let sequenced ← (applySequence envelope sequence).toOption
      let priced ← (ensureMinimumFee sequenced).toOption
      simulationOf priced
  | .sorobanGasAbstraction (.ok envelope) (.ok signedUserAuth) => do
      let (injected, entries) ←
        (injectAuthEntriesIntoEnvelope envelope signedUserAuth).toOption
      (buildSimulationEnvelope injected entries).toOption
  | _ => none

/-- The resource fee that the simulation of an envelope answers. -/
def resourceAnswer (services : StellarServices) (simulated : Option TransactionEnvelope) :
    Option UInt64 :=
  simulated.bind fun envelope =>
    (services.simulateTransactionEnvelope envelope).toOption.map fun response =>
      response.minResourceFee

/-- The fee that an input asks for, given the simulated resource fee. -/
def inputFee : TransactionInput → Option UInt64 → ℤ
  | .operations specs, none => 100 * specs.length
  | .operations specs, some resource => max (totalFee specs.length resource).toNat 100
  | .unsignedXdr (.ok envelope), none =>
      max (envelopeBid envelope) (minimumFee (extractOperations envelope)).toNat
  | .unsignedXdr (.ok envelope), some resource =>
      max (totalFee (extractOperations envelope).length resource).toNat 100
  | .signedXdr _ maxFee, _ => maxFee.toInt
  | .sorobanGasAbstraction (.ok envelope) _, some resource =>
      max (envelopeBid envelope) (min (stellarDefaultTransactionFee + resource).toNat
        (2 ^ 32 - 1) : ℕ)
  | _, _ => 0

/-- The fee that a record asks for.  An envelope that was signed before is kept,
except that a fee bump is always built anew. -/
def requestedFee (data : StellarTransactionData) (resource : Option UInt64) : ℤ :=
  match data.transactionInput, data.signedEnvelopeXdr with
  | .signedXdr _ maxFee, _ => maxFee.toInt
  | _, some (.ok cached) => envelopeBid cached
  | input, _ => inputFee input resource

section Paths

variable {services : StellarServices} {parseDate : DateParser} {signer : StellarSigner}
  {relayerId relayerAddress : String} {policy : Option RelayerStellarPolicy}
  {data out priced : StellarTransactionData} {envelope signed : TransactionEnvelope}
  {cached : Decoded TransactionEnvelope} {specs : List OperationSpec}

theorem requestedFee_fresh {resource : Option UInt64} (hfresh : data.signedEnvelopeXdr = none)
    (hother : ∀ xdr maxFee, data.transactionInput ≠ .signedXdr xdr maxFee) :
    requestedFee data resource = inputFee data.transactionInput resource := by
  cases hinput : data.transactionInput with
  | signedXdr xdr maxFee => exact (hother xdr maxFee hinput).elim
  | operations specs => simp only [requestedFee, hinput, hfresh]
  | unsignedXdr xdr => simp only [requestedFee, hinput, hfresh]
  | sorobanGasAbstraction xdr auth => simp only [requestedFee, hinput, hfresh]

theorem requestedFee_cached {resource : Option UInt64} {cached : TransactionEnvelope}
    (hcached : data.signedEnvelopeXdr = some (.ok cached))
    (hother : ∀ xdr maxFee, data.transactionInput ≠ .signedXdr xdr maxFee) :
    requestedFee data resource = envelopeBid cached := by
  cases hinput : data.transactionInput with
  | signedXdr xdr maxFee => exact (hother xdr maxFee hinput).elim
  | operations specs => simp only [requestedFee, hinput, hcached]
  | unsignedXdr xdr => simp only [requestedFee, hinput, hcached]
  | sorobanGasAbstraction xdr auth => simp only [requestedFee, hinput, hcached]

/-! ## Signing keeps the fee -/

theorem attachSignatures_bid {signatures : List DecoratedSignature}
    (hok : attachSignatures signatures envelope = .ok signed) :
    envelopeBid signed = envelopeBid envelope := by
  cases envelope with
  | txV0 e =>
      cases hok
      rfl
  | tx e =>
      cases hok
      rfl
  | txFeeBump e => cases hok

theorem signedEnvelope_bid (hfresh : data.signedEnvelopeXdr = none)
    (hok : signedEnvelope data envelope = .ok signed) :
    envelopeBid signed = envelopeBid envelope := by
  simp only [signedEnvelope, hfresh] at hok
  split_ifs at hok
  exact attachSignatures_bid hok

/-- What a signing step stores. -/
theorem signStellarTransaction_eq_ok
    (hok : signStellarTransaction parseDate signer data = .ok out) :
    ∃ signatures envelope,
      buildSignedEnvelope parseDate { data with signatures := signatures } = .ok envelope ∧
      out.signedEnvelopeXdr = some (.ok envelope) := by
  obtain ⟨response, -, hok⟩ := bind_eq_ok.mp hok
  cases response with
  | none => cases hok
  | some signature =>
      obtain ⟨envelope, hbuild, hdone⟩ := bind_eq_ok.mp hok
      cases hdone
      exact ⟨_, envelope, ok_of_mapError hbuild, rfl⟩

/-- An envelope that was signed before is returned as it is. -/
theorem buildSignedEnvelope_cached (hcached : data.signedEnvelopeXdr = some cached) :
    buildSignedEnvelope parseDate data = parseXdrEnvelope cached := by
  unfold buildSignedEnvelope
  split
  all_goals simp only [hcached, Option.getD_some]

theorem signStellarTransaction_cached (hcached : data.signedEnvelopeXdr = some cached)
    (hok : signStellarTransaction parseDate signer data = .ok out) :
    cached.isOk = true ∧ out.signedEnvelopeXdr = some cached := by
  obtain ⟨signatures, signed, hbuild, hout⟩ := signStellarTransaction_eq_ok hok
  rw [buildSignedEnvelope_cached (by exact hcached)] at hbuild
  rw [ok_of_mapError hbuild]
  exact ⟨rfl, hout⟩

/-- Freshly signed data holds its envelope with the fee it was built with. -/
theorem signStellarTransaction_unsigned_bid
    (hinput : data.transactionInput = .unsignedXdr (.ok envelope))
    (hfresh : data.signedEnvelopeXdr = none)
    (hok : signStellarTransaction parseDate signer data = .ok out) :
    ∃ signed, out.signedEnvelopeXdr = some (.ok signed) ∧
      envelopeBid signed = envelopeBid envelope := by
  obtain ⟨signatures, signed, hbuild, hout⟩ := signStellarTransaction_eq_ok hok
  simp only [buildSignedEnvelope, hinput, hfresh] at hbuild
  obtain ⟨parsed, hparsed, hsigned⟩ := bind_eq_ok.mp hbuild
  cases hparsed
  refine ⟨signed, hout, ?_⟩
  exact signedEnvelope_bid rfl hsigned

/-! ## Simulation -/

theorem resourceAnswer_of_none (hok : simulateIfNeeded services envelope = .ok none) :
    resourceAnswer services (simulationOf envelope) = none := by
  rw [simulateIfNeeded] at hok
  split_ifs at hok with hneeds
  · split at hok
    · cases hok
    · split at hok
      · cases hok
      · cases hok
  · rw [simulationOf, if_neg hneeds, resourceAnswer, Option.bind_none]

theorem resourceAnswer_of_some {response : SimulateTransactionResponse}
    (hok : simulateIfNeeded services envelope = .ok (some response)) :
    resourceAnswer services (simulationOf envelope) = some response.minResourceFee := by
  rw [simulateIfNeeded] at hok
  split_ifs at hok with hneeds
  · split at hok
    · cases hok
    · next answer hanswer =>
        split at hok
        · cases hok
        · cases hok
          rw [simulationOf, if_pos hneeds, resourceAnswer, Option.bind_some, hanswer]
          rfl
  · cases hok

theorem toNat_max (left right : UInt32) :
    (max left right).toNat = max left.toNat right.toNat := by
  change (if left ≤ right then right else left).toNat = max left.toNat right.toNat
  split_ifs with hle
  · rw [max_eq_right (UInt32.le_iff_toNat_le.mp hle)]
  · rw [UInt32.le_iff_toNat_le] at hle
    rw [max_eq_left (by omega)]

/-- A total that fits 32 bits, raised to the base fee. -/
theorem toNat_max_toUInt32 {fee : UInt64} (hfits : fee.toNat < 2 ^ 32) :
    ((max fee.toUInt32 100).toNat : ℤ) = max (fee.toNat : ℤ) 100 := by
  rw [toNat_max, UInt64.toNat_toUInt32, Nat.mod_eq_of_lt hfits]
  exact Nat.cast_max fee.toNat 100

/-! ## Requested operations -/

theorem operationsTransaction_eq_ok {tx : Transaction}
    (hok : operationsTransaction parseDate data specs = .ok tx) :
    tx.fee = data.fee.getD 100 ∧ tx.operations.length = specs.length ∧
      specs.length ≤ 100 := by
  obtain ⟨operations, hconvert, hok⟩ := bind_eq_ok.mp hok
  have hlength := length_of_mapM_eq_ok hconvert
  split_ifs at hok with hmany
  obtain ⟨memo, -, hok⟩ := bind_eq_ok.mp hok
  obtain ⟨source, -, hdone⟩ := bind_eq_ok.mp hok
  cases hdone
  refine ⟨rfl, hlength, ?_⟩
  rw [stellarMaxOperations] at hmany
  omega

/-- Signing requested operations builds their envelope with the stored fee. -/
theorem signStellarTransaction_operations_bid
    (hinput : data.transactionInput = .operations specs)
    (hfresh : data.signedEnvelopeXdr = none)
    (hok : signStellarTransaction parseDate signer data = .ok out) :
    ∃ signed, out.signedEnvelopeXdr = some (.ok signed) ∧
      envelopeBid signed = (data.fee.getD 100).toNat := by
  obtain ⟨signatures, signed, hbuild, hout⟩ := signStellarTransaction_eq_ok hok
  simp only [buildSignedEnvelope, hinput, hfresh] at hbuild
  obtain ⟨tx, htx, hsigned⟩ := bind_eq_ok.mp hbuild
  refine ⟨signed, hout, ?_⟩
  rw [signedEnvelope_bid rfl hsigned, envelopeBid, (operationsTransaction_eq_ok htx).1]

theorem priceOperations_keeps {unsigned : TransactionEnvelope}
    (hok : priceOperations services data unsigned = .ok priced) :
    priced.transactionInput = data.transactionInput ∧
      priced.signedEnvelopeXdr = data.signedEnvelopeXdr := by
  obtain ⟨answer, -, hok⟩ := bind_eq_ok.mp hok
  cases answer with
  | none =>
      cases hok
      exact ⟨rfl, rfl⟩
  | some response =>
      have hdata := ok_of_mapError hok
      simp only [withSimulationData] at hdata
      split_ifs at hdata
      cases hdata
      exact ⟨rfl, rfl⟩

/-- The fee set for requested operations, by count or by simulation. -/
theorem priceOperations_fee {unsigned : TransactionEnvelope}
    (hok : priceOperations services data unsigned = .ok priced)
    (hlength : (extractOperations unsigned).length = specs.length) (hcount : specs.length ≤ 100) :
    ((priced.fee.getD 100).toNat : ℤ) = inputFee (.operations specs)
      (resourceAnswer services (simulationOf unsigned)) := by
  obtain ⟨answer, hanswer, hok⟩ := bind_eq_ok.mp hok
  cases answer with
  | none =>
      cases hok
      rw [resourceAnswer_of_none hanswer, hlength]
      simp only [Option.getD_some, inputFee, UInt32.toNat_mul, UInt32.toNat_ofNat',
        UInt32.reduceToNat]
      omega
  | some response =>
      have hdata := ok_of_mapError hok
      simp only [withSimulationData] at hdata
      split_ifs at hdata with hfits
      cases hdata
      rw [resourceAnswer_of_some hanswer]
      rw [hlength] at hfits ⊢
      exact toNat_max_toUInt32 hfits

theorem processOperations_bid (hinput : data.transactionInput = .operations specs)
    (hfresh : data.signedEnvelopeXdr = none)
    (hok : processOperations services parseDate signer relayerId relayerAddress data policy =
      .ok out) :
    ∃ signed, out.signedEnvelopeXdr = some (.ok signed) ∧
      envelopeBid signed = inputFee (.operations specs)
        (resourceAnswer services
          (simulatedEnvelope services parseDate relayerId relayerAddress data)) := by
  rw [processOperations] at hok
  split_ifs at hok
  · cases hok
  obtain ⟨sequence, hsequence, hok⟩ := bind_eq_ok.mp hok
  obtain ⟨unsigned, hunsigned, hok⟩ := bind_eq_ok.mp hok
  obtain ⟨priced, hpriced, hsign⟩ := bind_eq_ok.mp hok
  have hbuilt := ok_of_mapError hunsigned
  have hsimulated : simulatedEnvelope services parseDate relayerId relayerAddress data =
      simulationOf unsigned := by
    simp only [simulatedEnvelope, hinput, hsequence, Except.toOption, Option.bind_eq_bind,
      Option.bind_some, hbuilt]
  have hnumbered : (data.withSequenceNumber sequence).transactionInput = .operations specs :=
    hinput
  simp only [buildUnsignedEnvelope, hnumbered] at hbuilt
  obtain ⟨tx, htx, hdone⟩ := bind_eq_ok.mp hbuilt
  cases hdone
  obtain ⟨-, hlength, hcount⟩ := operationsTransaction_eq_ok htx
  obtain ⟨hpricedInput, hpricedFresh⟩ := priceOperations_keeps hpriced
  have hfee := priceOperations_fee hpriced hlength hcount
  obtain ⟨signed, hout, hbid⟩ := signStellarTransaction_operations_bid
    (hpricedInput.trans hinput) (hpricedFresh.trans hfresh) hsign
  exact ⟨signed, hout, by rw [hbid, hfee, hsimulated]⟩

/-! ## Unsigned envelopes -/

theorem applySequence_bid {sequenced : TransactionEnvelope} {sequence : Int64}
    (hok : applySequence envelope sequence = .ok sequenced) :
    envelopeBid sequenced = envelopeBid envelope := by
  cases envelope with
  | txV0 e =>
      cases hok
      rfl
  | tx e =>
      cases hok
      rfl
  | txFeeBump e => cases hok

theorem ensureMinimumFee_bid {priced : TransactionEnvelope}
    (hok : ensureMinimumFee envelope = .ok priced) :
    envelopeBid priced =
      max (envelopeBid envelope) (minimumFee (extractOperations envelope)).toNat := by
  cases envelope with
  | txV0 e =>
      cases hok
      simp only [envelopeBid, toNat_max, Nat.cast_max]
      rfl
  | tx e =>
      cases hok
      simp only [envelopeBid, toNat_max, Nat.cast_max]
      rfl
  | txFeeBump e => cases hok

theorem withSimulation_bid {response : SimulateTransactionResponse}
    {prepared : TransactionEnvelope}
    (hok : withSimulation response data envelope = .ok (out, prepared)) :
    out.signedEnvelopeXdr = data.signedEnvelopeXdr ∧
      envelopeBid prepared =
        max ((totalFee (extractOperations envelope).length
          response.minResourceFee).toNat : ℤ) 100 := by
  obtain ⟨sorobanData, -, hok⟩ := bind_eq_ok.mp hok
  cases envelope with
  | tx v1 =>
      dsimp only at hok
      split_ifs at hok with hfits
      · cases hok
        refine ⟨rfl, ?_⟩
        simp only [envelopeBid, applySimulation, if_pos hfits]
        exact toNat_max_toUInt32 hfits
      · cases hok
  | txV0 e => cases hok
  | txFeeBump e => cases hok

/-- Simulation sets the fee of its answer; without one the fee stays. -/
theorem simulate_bid {prepared : TransactionEnvelope}
    (hok : simulate services data envelope = .ok (out, prepared)) :
    out.signedEnvelopeXdr = data.signedEnvelopeXdr ∧
      envelopeBid prepared =
        match resourceAnswer services (simulationOf envelope) with
        | none => envelopeBid envelope
        | some resource =>
            max ((totalFee (extractOperations envelope).length resource).toNat : ℤ) 100 := by
  obtain ⟨answer, hanswer, hok⟩ := bind_eq_ok.mp hok
  cases answer with
  | none =>
      cases hok
      rw [resourceAnswer_of_none hanswer]
      exact ⟨rfl, rfl⟩
  | some response =>
      rw [resourceAnswer_of_some hanswer]
      exact withSimulation_bid hok

theorem signUnsignedEnvelope_bid (hfresh : data.signedEnvelopeXdr = none)
    (hok : signUnsignedEnvelope signer data envelope = .ok out) :
    ∃ signed, out.signedEnvelopeXdr = some (.ok signed) ∧
      envelopeBid signed = envelopeBid envelope := by
  obtain ⟨response, -, hok⟩ := bind_eq_ok.mp hok
  cases response with
  | none => cases hok
  | some signature =>
      obtain ⟨signed, hsigned, hdone⟩ := bind_eq_ok.mp hok
      cases hdone
      have hbuilt := ok_of_mapError hsigned
      refine ⟨signed, rfl, ?_⟩
      exact signedEnvelope_bid (by exact hfresh) hbuilt

theorem processUnsignedXdr_bid (parseDate : DateParser) {xdr : Decoded TransactionEnvelope}
    (hinput : data.transactionInput = .unsignedXdr xdr) (hfresh : data.signedEnvelopeXdr = none)
    (hok : processUnsignedXdr services signer relayerId relayerAddress data policy = .ok out) :
    ∃ signed, out.signedEnvelopeXdr = some (.ok signed) ∧
      envelopeBid signed = inputFee (.unsignedXdr xdr) (resourceAnswer services
        (simulatedEnvelope services parseDate relayerId relayerAddress data)) := by
  simp only [processUnsignedXdr, hinput] at hok
  obtain ⟨envelope, henvelope, hrest⟩ := bind_eq_ok.mp hok
  obtain rfl := ok_of_mapError henvelope
  obtain ⟨⟨⟩, -, hok⟩ := bind_eq_ok.mp hrest
  by_cases hsource : (extractSourceAccount envelope != relayerAddress) = true
  · rw [if_pos hsource] at hok
    cases hok
  rw [if_neg hsource] at hok
  obtain ⟨sequence, hsequence, hok⟩ := bind_eq_ok.mp hok
  obtain ⟨sequenced, hsequenced, hok⟩ := bind_eq_ok.mp hok
  obtain ⟨priced, hpriced, hok⟩ := bind_eq_ok.mp hok
  obtain ⟨⟨simulated, prepared⟩, hsimulate, hsign⟩ := bind_eq_ok.mp hok
  have hsimulated : simulatedEnvelope services parseDate relayerId relayerAddress data =
      simulationOf priced := by
    simp only [simulatedEnvelope, hinput, hsequence, hsequenced, hpriced, Except.toOption,
      Option.bind_eq_bind, Option.bind_some]
  obtain ⟨hkept, hprepared⟩ := simulate_bid hsimulate
  obtain ⟨signed, hout, hbid⟩ := signUnsignedEnvelope_bid (hkept.trans hfresh) hsign
  have hoperations : extractOperations priced = extractOperations envelope :=
    (ensureMinimumFee_operations hpriced).trans (applySequence_operations hsequenced)
  refine ⟨signed, hout, ?_⟩
  rw [hbid, hprepared, hsimulated, hoperations]
  cases resourceAnswer services (simulationOf priced) with
  | none =>
      simp only [inputFee]
      rw [ensureMinimumFee_bid hpriced, applySequence_bid hsequenced,
        applySequence_operations hsequenced]
  | some resource => rfl

theorem signUnsignedEnvelope_cached (hcached : data.signedEnvelopeXdr = some cached)
    (hok : signUnsignedEnvelope signer data envelope = .ok out) :
    out.signedEnvelopeXdr = some cached := by
  obtain ⟨response, -, hok⟩ := bind_eq_ok.mp hok
  cases response with
  | none => cases hok
  | some signature =>
      obtain ⟨signed, hsigned, hdone⟩ := bind_eq_ok.mp hok
      have hbuilt := ok_of_mapError hsigned
      cases hdone
      simp only [signedEnvelope, hcached] at hbuilt
      rw [ok_of_mapError hbuilt]

theorem processUnsignedXdr_cached {xdr : Decoded TransactionEnvelope}
    (hinput : data.transactionInput = .unsignedXdr xdr)
    (hcached : data.signedEnvelopeXdr = some cached)
    (hok : processUnsignedXdr services signer relayerId relayerAddress data policy = .ok out) :
    out.signedEnvelopeXdr = some cached := by
  simp only [processUnsignedXdr, hinput] at hok
  obtain ⟨envelope, -, hok⟩ := bind_eq_ok.mp hok
  obtain ⟨⟨⟩, -, hok⟩ := bind_eq_ok.mp hok
  by_cases hsource : (extractSourceAccount envelope != relayerAddress) = true
  · rw [if_pos hsource] at hok
    cases hok
  rw [if_neg hsource] at hok
  obtain ⟨sequence, -, hok⟩ := bind_eq_ok.mp hok
  obtain ⟨sequenced, -, hok⟩ := bind_eq_ok.mp hok
  obtain ⟨priced, -, hok⟩ := bind_eq_ok.mp hok
  obtain ⟨⟨simulated, prepared⟩, hsimulate, hsign⟩ := bind_eq_ok.mp hok
  exact signUnsignedEnvelope_cached ((simulate_bid hsimulate).1.trans hcached) hsign

/-! ## Gas abstraction -/

theorem requiredFee_toNat (resource : UInt64) :
    (requiredFee resource).toNat =
      min (stellarDefaultTransactionFee + resource).toNat (2 ^ 32 - 1) := by
  have hlimit : (2 ^ 32 - 1 : UInt64).toNat = 2 ^ 32 - 1 := by decide
  have hmin : ∀ fee : UInt64, (min fee (2 ^ 32 - 1)).toNat = min fee.toNat (2 ^ 32 - 1) := by
    intro fee
    change (if fee ≤ 2 ^ 32 - 1 then fee else 2 ^ 32 - 1).toNat = min fee.toNat (2 ^ 32 - 1)
    split_ifs with hle
    · rw [UInt64.le_iff_toNat_le, hlimit] at hle
      omega
    · rw [UInt64.le_iff_toNat_le, hlimit] at hle
      omega
  rw [requiredFee, UInt64.toNat_toUInt32, hmin]
  omega

/-- Completing an envelope raises its fee to what its simulation asks for. -/
theorem simulateAndUpdateResources_bid {simulated : TransactionEnvelope}
    {entries : List SorobanAuthorizationEntry}
    (hok : simulateAndUpdateResources services envelope entries = .ok simulated) :
    ∃ resource, resourceAnswer services (buildSimulationEnvelope envelope entries).toOption =
        some resource ∧
      envelopeBid simulated = max (envelopeBid envelope)
        (min (stellarDefaultTransactionFee + resource).toNat (2 ^ 32 - 1) : ℕ) := by
  obtain ⟨simulationEnvelope, hbuild, hok⟩ := bind_eq_ok.mp hok
  obtain ⟨response, hresponse, hok⟩ := bind_eq_ok.mp hok
  refine ⟨response.minResourceFee, ?_, ?_⟩
  · rw [hbuild, Except.toOption, resourceAnswer, Option.bind_some, ok_of_mapError hresponse]
    rfl
  · split at hok
    · cases hok
    · obtain ⟨ext, -, hok⟩ := bind_eq_ok.mp hok
      cases envelope with
      | tx v1 =>
          cases hok
          simp only [envelopeBid, toNat_max, requiredFee_toNat, Nat.cast_max]
      | txV0 e => cases hok
      | txFeeBump e => cases hok

theorem injectAuthEntriesIntoEnvelope_bid {injected : TransactionEnvelope}
    {signedUserAuth : SorobanAuthorizationEntry} {entries : List SorobanAuthorizationEntry}
    (hok : injectAuthEntriesIntoEnvelope envelope signedUserAuth = .ok (injected, entries)) :
    envelopeBid injected = envelopeBid envelope := by
  cases envelope with
  | tx v1 =>
      obtain ⟨_, _, _, -, -, -, rfl⟩ := injectAuthEntriesIntoEnvelope_eq_ok hok
      rfl
  | txV0 e => cases hok
  | txFeeBump e => cases hok

theorem updateEnvelopeSequence_bid {updated : TransactionEnvelope} {sequence : Int64}
    (hok : updateEnvelopeSequence envelope sequence = .ok updated) :
    envelopeBid updated = envelopeBid envelope := by
  cases envelope with
  | tx v1 =>
      cases hok
      rfl
  | txV0 e => cases hok
  | txFeeBump e => cases hok

/-- The completed envelope is left for the final signature with its fee. -/
theorem processSorobanGasAbstraction_bid (parseDate : DateParser)
    {xdr : Decoded TransactionEnvelope} {auth : Decoded SorobanAuthorizationEntry}
    (hinput : data.transactionInput = .sorobanGasAbstraction xdr auth)
    (hok : processSorobanGasAbstraction services relayerId relayerAddress data policy = .ok out) :
    ∃ updated, out.transactionInput = .unsignedXdr (.ok updated) ∧
      out.signedEnvelopeXdr = data.signedEnvelopeXdr ∧
      envelopeBid updated = inputFee (.sorobanGasAbstraction xdr auth)
        (resourceAnswer services
          (simulatedEnvelope services parseDate relayerId relayerAddress data)) := by
  simp only [processSorobanGasAbstraction, hinput] at hok
  obtain ⟨envelope, henvelope, hparsed⟩ := bind_eq_ok.mp hok
  obtain ⟨signedUserAuth, hauth, hrest⟩ := bind_eq_ok.mp hparsed
  obtain rfl := ok_of_mapError henvelope
  obtain rfl := ok_of_mapError hauth
  obtain ⟨⟨injected, entries⟩, hinject, hok⟩ := bind_eq_ok.mp hrest
  obtain ⟨simulated, hsimulate, hok⟩ := bind_eq_ok.mp hok
  obtain ⟨_, -, hok⟩ := bind_eq_ok.mp hok
  obtain ⟨sequence, -, hok⟩ := bind_eq_ok.mp hok
  obtain ⟨updated, hupdated, hdone⟩ := bind_eq_ok.mp hok
  cases hdone
  obtain ⟨resource, hanswer, hbid⟩ := simulateAndUpdateResources_bid hsimulate
  have hsimulated : simulatedEnvelope services parseDate relayerId relayerAddress data =
      (buildSimulationEnvelope injected entries).toOption := by
    simp only [simulatedEnvelope, hinput, hinject, Except.toOption, Option.bind_eq_bind,
      Option.bind_some]
  refine ⟨updated, rfl, rfl, ?_⟩
  rw [updateEnvelopeSequence_bid (ok_of_mapError hupdated), hbid,
    injectAuthEntriesIntoEnvelope_bid hinject, hsimulated, hanswer]
  rfl

/-! ## Every path -/

/-- Except for fee bumps, a record that holds a signed envelope keeps it. -/
theorem prepareCore_cached {policy : RelayerStellarPolicy}
    (hcached : data.signedEnvelopeXdr = some cached)
    (hbump : ∀ xdr maxFee, data.transactionInput ≠ .signedXdr xdr maxFee)
    (hok : prepareCore services parseDate signer relayerId relayerAddress policy data = .ok out) :
    cached.isOk = true ∧ out.signedEnvelopeXdr = some cached := by
  cases hinput : data.transactionInput with
  | operations specs =>
      simp only [prepareCore, hinput] at hok
      obtain ⟨prepared, hprepared, hsign⟩ := bind_eq_ok.mp hok
      rw [processOperations] at hprepared
      split_ifs at hprepared
      · cases hprepared
      obtain ⟨sequence, -, hprepared⟩ := bind_eq_ok.mp hprepared
      obtain ⟨unsigned, -, hprepared⟩ := bind_eq_ok.mp hprepared
      obtain ⟨priced, hpriced, hfirst⟩ := bind_eq_ok.mp hprepared
      have hkept : priced.signedEnvelopeXdr = some cached :=
        (priceOperations_keeps hpriced).2.trans hcached
      exact signStellarTransaction_cached (signStellarTransaction_cached hkept hfirst).2 hsign
  | unsignedXdr xdr =>
      simp only [prepareCore, hinput] at hok
      obtain ⟨prepared, hprepared, hsign⟩ := bind_eq_ok.mp hok
      exact signStellarTransaction_cached
        (processUnsignedXdr_cached hinput hcached hprepared) hsign
  | signedXdr xdr maxFee => exact (hbump xdr maxFee hinput).elim
  | sorobanGasAbstraction xdr auth =>
      simp only [prepareCore, hinput] at hok
      obtain ⟨prepared, hprepared, hsign⟩ := bind_eq_ok.mp hok
      obtain ⟨updated, -, hkept, -⟩ :=
        processSorobanGasAbstraction_bid parseDate hinput hprepared
      exact signStellarTransaction_cached (hkept.trans hcached) hsign

/-- The stored envelope offers the requested fee, on every path. -/
theorem prepareCore_bid {policy : RelayerStellarPolicy} (hfresh : data.signedEnvelopeXdr = none)
    (hok : prepareCore services parseDate signer relayerId relayerAddress policy data = .ok out) :
    ∃ envelope, out.signedEnvelopeXdr = some (.ok envelope) ∧
      envelopeBid envelope = inputFee data.transactionInput (resourceAnswer services
        (simulatedEnvelope services parseDate relayerId relayerAddress data)) := by
  cases hinput : data.transactionInput with
  | operations specs =>
      simp only [prepareCore, hinput] at hok
      obtain ⟨prepared, hprepared, hsign⟩ := bind_eq_ok.mp hok
      obtain ⟨signed, hcached, hbid⟩ := processOperations_bid hinput hfresh hprepared
      exact ⟨signed, (signStellarTransaction_cached hcached hsign).2, hbid⟩
  | unsignedXdr xdr =>
      simp only [prepareCore, hinput] at hok
      obtain ⟨prepared, hprepared, hsign⟩ := bind_eq_ok.mp hok
      obtain ⟨signed, hcached, hbid⟩ :=
        processUnsignedXdr_bid parseDate hinput hfresh hprepared
      exact ⟨signed, (signStellarTransaction_cached hcached hsign).2, hbid⟩
  | signedXdr xdr maxFee =>
      simp only [prepareCore, hinput] at hok
      obtain ⟨inner, fee, bump, hsigned, -, hout, hfee⟩ := processFeeBump_eq_ok hok
      rw [hinput] at hsigned
      cases hsigned
      exact ⟨.txFeeBump bump, hout, by simpa only [envelopeBid, inputFee] using hfee⟩
  | sorobanGasAbstraction xdr auth =>
      simp only [prepareCore, hinput] at hok
      obtain ⟨prepared, hprepared, hsign⟩ := bind_eq_ok.mp hok
      obtain ⟨updated, hunsigned, hkept, hbid⟩ :=
        processSorobanGasAbstraction_bid parseDate hinput hprepared
      obtain ⟨signed, hout, hsigned⟩ :=
        signStellarTransaction_unsigned_bid hunsigned (hkept.trans hfresh) hsign
      exact ⟨signed, hout, hsigned.trans hbid⟩

end Paths

/-- The envelope that is stored stays within the policy's maximum fee exactly when
the fee that the request and its simulation ask for does: no path looks at the
policy's maximum. -/
theorem prepareCore_within_max_fee_iff (services : StellarServices) (parseDate : DateParser)
    (signer : StellarSigner) (relayerId relayerAddress : String)
    (policy : RelayerStellarPolicy) (data out : StellarTransactionData)
    (hok : prepareCore services parseDate signer relayerId relayerAddress policy data =
      .ok out) :
    ∃ envelope, out.signedEnvelopeXdr = some (.ok envelope) ∧
      ∀ maxFee ∈ policy.maxFee, (envelopeBid envelope ≤ maxFee.toNat ↔
        requestedFee data (resourceAnswer services
          (simulatedEnvelope services parseDate relayerId relayerAddress data)) ≤
            maxFee.toNat) := by
  by_cases hbump : ∃ xdr maxFee, data.transactionInput = .signedXdr xdr maxFee
  · obtain ⟨xdr, maxFee, hinput⟩ := hbump
    simp only [prepareCore, hinput] at hok
    obtain ⟨inner, fee, bump, hsigned, -, hout, hfee⟩ := processFeeBump_eq_ok hok
    rw [hinput] at hsigned
    cases hsigned
    refine ⟨.txFeeBump bump, hout, ?_⟩
    intro limit _
    simp only [envelopeBid, requestedFee, hinput, hfee]
  have hother : ∀ xdr maxFee, data.transactionInput ≠ .signedXdr xdr maxFee := by
    intro xdr maxFee hinput
    exact hbump ⟨xdr, maxFee, hinput⟩
  cases hcached : data.signedEnvelopeXdr with
  | none =>
      obtain ⟨envelope, hout, hbid⟩ := prepareCore_bid hcached hok
      refine ⟨envelope, hout, ?_⟩
      intro limit _
      rw [hbid, requestedFee_fresh hcached hother]
  | some cached =>
      obtain ⟨hdecodes, hout⟩ := prepareCore_cached hcached hother hok
      obtain ⟨envelope, rfl⟩ := exists_of_isOk hdecodes
      refine ⟨envelope, hout, ?_⟩
      intro limit _
      rw [requestedFee_cached hcached hother]

def samplePayments : StellarTransactionData :=
  { createSigningData (AccountId.toText ⟨1⟩) (.tx ⟨sampleTransaction sampleCall, []⟩)
      "Test SDF Network ; September 2015" with
    transactionInput := .operations [.payment (AccountId.toText ⟨2⟩) 500 .native] }

/-- The relayer pays the fees, at most 1000 stroops for each transaction. -/
def limitedPolicy : RelayerStellarPolicy := ⟨some 1000, none, some .relayer, none, none⟩

/-- One requested payment costs 100 stroops. -/
theorem prepareCore_within_max_fee_payment :
    ∃ out envelope, prepareCore GasAbstraction.sampleServices (fun _ => none)
        FeeBump.sampleSigner "relayer" (AccountId.toText ⟨1⟩) limitedPolicy samplePayments =
        .ok out ∧
      out.signedEnvelopeXdr = some (.ok envelope) ∧
      envelopeBid envelope ≤ (1000 : UInt32).toNat := by
  obtain ⟨out, hok⟩ := exists_of_isOk (show (prepareCore GasAbstraction.sampleServices
    (fun _ => none) FeeBump.sampleSigner "relayer" (AccountId.toText ⟨1⟩) limitedPolicy
    samplePayments).isOk = true by decide +kernel)
  obtain ⟨envelope, hout, hiff⟩ := prepareCore_within_max_fee_iff
    GasAbstraction.sampleServices (fun _ => none) FeeBump.sampleSigner "relayer"
    (AccountId.toText ⟨1⟩) limitedPolicy samplePayments out hok
  exact ⟨out, envelope, hok, hout, (hiff 1000 rfl).mpr (by decide +kernel)⟩

/-- A fee bump with a maximum fee of 1000000 stroops is signed and stored although
the policy allows 1000. -/
theorem prepareCore_exceeds_max_fee :
    ∃ out envelope, prepareCore StellarValidation.sampleServices (fun _ => none)
        FeeBump.sampleSigner "relayer" StellarValidation.sampleRelayer.toText limitedPolicy
        (sampleData 1000000) = .ok out ∧
      out.signedEnvelopeXdr = some (.ok envelope) ∧
      limitedPolicy.maxFee = some 1000 ∧
      ¬ (envelopeBid envelope ≤ (1000 : UInt32).toNat) := by
  obtain ⟨out, hok⟩ := exists_of_isOk (show (prepareCore StellarValidation.sampleServices
    (fun _ => none) FeeBump.sampleSigner "relayer" StellarValidation.sampleRelayer.toText
    limitedPolicy (sampleData 1000000)).isOk = true by decide +kernel)
  obtain ⟨envelope, hout, hbid⟩ := prepareCore_bid rfl hok
  refine ⟨out, envelope, hok, hout, rfl, ?_⟩
  rw [hbid]
  decide

end Relayer.StellarPreparation
