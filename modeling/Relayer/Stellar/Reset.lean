import Relayer.Models.Record
import Relayer.Stellar.EnvelopeEdits
import Relayer.Stellar.Lifecycle
import Relayer.Stellar.Preparation

/-!
# Preparing a transaction again

When the network refuses a sequence number, the record of the transaction is reset and
prepared from the start.  The reset clears the fields that preparation and submission
fill in and keeps the input, which preparation may have replaced.
-/

namespace Relayer.StellarReset

open Relayer.Transaction Relayer.Xdr Relayer.StellarFees Relayer.StellarData
open Relayer.StellarOperations Relayer.StellarValidation Relayer.UnsignedXdr Relayer.FeeBump
open Relayer.GasAbstraction Relayer.StellarPreparation Relayer.EnvelopeEdits Relayer.Checks
open Relayer.TransactionRecord

def resetToPrePrepareState (data : StellarTransactionData) : StellarTransactionData :=
  { data with
    fee := none
    sequenceNumber := none
    signatures := []
    signedEnvelopeXdr := none
    simulationTransactionData := none
    hash := none }

/-! ## What the jobs see

The runs of the jobs know envelopes, signatures and simulated data by the values that tell
them apart.  There the reset and the submission do what they do here. -/

structure View where
  envelope : TransactionEnvelope → StellarLifecycle.Envelope
  signature : DecoratedSignature → String
  simulation : Decoded SorobanTransactionData → String

section View

variable (view : View) (parseDate : DateParser) (data : StellarTransactionData)

/-- The inputs that the relayer numbers and signs; operations are seen as what they convert to
before there is a fee or a sequence number. -/
def View.input : Option StellarLifecycle.TransactionInput :=
  match data.transactionInput with
  | .operations _ => some (.operations
      ((buildUnsignedEnvelope parseDate (resetToPrePrepareState data)).toOption.map
        view.envelope))
  | .unsignedXdr xdr => some (.unsignedXdr (xdr.toOption.map view.envelope))
  | .sorobanGasAbstraction xdr _ =>
      some (.sorobanGasAbstraction (xdr.toOption.map view.envelope))
  | .signedXdr _ _ => none

def View.seen : Option StellarLifecycle.StellarTransactionData :=
  (view.input parseDate data).map fun input =>
    { transactionInput := input
      fee := data.fee.map UInt32.toNat
      sequenceNumber := data.sequenceNumber.map Int64.toInt
      signatures := data.signatures.map view.signature
      hash := data.hash
      simulationTransactionData := data.simulationTransactionData.map view.simulation
      signedEnvelope := data.signedEnvelopeXdr.bind fun xdr => xdr.toOption.map view.envelope
      transactionResultXdr := data.transactionResultXdr }

theorem view_resetToPrePrepareState :
    view.seen parseDate (resetToPrePrepareState data) =
      (view.seen parseDate data).map
        StellarLifecycle.StellarTransactionData.resetToPrePrepareState := by
  simp only [View.seen, View.input, Option.map_map]
  rfl

/-- Once an envelope was signed, the jobs submit what is built here. -/
theorem view_buildSignedEnvelope {signed : TransactionEnvelope}
    {known : StellarLifecycle.StellarTransactionData}
    (hsigned : data.signedEnvelopeXdr = some (.ok signed))
    (hseen : view.seen parseDate data = some known) :
    buildSignedEnvelope parseDate data = .ok signed ∧
      known.getEnvelopeForSubmission = .ok (view.envelope signed) := by
  refine ⟨buildSignedEnvelope_cached hsigned, ?_⟩
  obtain ⟨input, -, rfl⟩ := Option.map_eq_some_iff.mp hseen
  simp only [hsigned]
  rfl

end View

/-! ## What preparation keeps -/

/-- The data differs in its input and in what the reset clears. -/
def KeepsRequest (before after : StellarTransactionData) : Prop :=
  resetToPrePrepareState after =
    { resetToPrePrepareState before with transactionInput := after.transactionInput }

theorem KeepsRequest.trans {first second third : StellarTransactionData}
    (hfirst : KeepsRequest first second) (hsecond : KeepsRequest second third) :
    KeepsRequest first third := by
  unfold KeepsRequest at *
  rw [hsecond, hfirst]

section Paths

variable {services : StellarServices} {parseDate : DateParser} {signer : StellarSigner}
  {relayerId relayerAddress : String} {policy : Option RelayerStellarPolicy}
  {data out : StellarTransactionData} {envelope prepared : TransactionEnvelope}

theorem signStellarTransaction_keeps
    (hok : signStellarTransaction parseDate signer data = .ok out) :
    KeepsRequest data out ∧ out.transactionInput = data.transactionInput ∧
      out.sequenceNumber = data.sequenceNumber := by
  obtain ⟨response, -, hok⟩ := bind_eq_ok.mp hok
  cases response with
  | none => cases hok
  | some signature =>
      obtain ⟨signed, -, hdone⟩ := bind_eq_ok.mp hok
      cases hdone
      exact ⟨rfl, rfl, rfl⟩

theorem processOperations_keeps
    (hok : processOperations services parseDate signer relayerId relayerAddress data policy =
      .ok out) :
    KeepsRequest data out ∧ out.transactionInput = data.transactionInput := by
  unfold processOperations at hok
  split_ifs at hok
  · cases hok
  obtain ⟨sequence, -, hok⟩ := bind_eq_ok.mp hok
  obtain ⟨unsigned, -, hok⟩ := bind_eq_ok.mp hok
  obtain ⟨priced, hpriced, hsigned⟩ := bind_eq_ok.mp hok
  obtain ⟨hsign, hinput, -⟩ := signStellarTransaction_keeps hsigned
  have hprice : KeepsRequest data priced ∧ priced.transactionInput = data.transactionInput := by
    obtain ⟨answer, -, hpriced⟩ := bind_eq_ok.mp hpriced
    cases answer with
    | none =>
        cases hpriced
        exact ⟨rfl, rfl⟩
    | some response =>
        have hdata := ok_of_mapError hpriced
        simp only [withSimulationData] at hdata
        split_ifs at hdata
        cases hdata
        exact ⟨rfl, rfl⟩
  exact ⟨hprice.1.trans hsign, hinput.trans hprice.2⟩

theorem processFeeBump_keeps
    (hok : processFeeBump services signer relayerAddress data policy = .ok out) :
    KeepsRequest data out ∧ out.transactionInput = data.transactionInput := by
  obtain ⟨⟨inner, maxFee⟩, -, hok⟩ := bind_eq_ok.mp hok
  obtain ⟨_, -, hok⟩ := bind_eq_ok.mp hok
  obtain ⟨requiredFee, -, hok⟩ := bind_eq_ok.mp hok
  obtain ⟨bump, -, hok⟩ := bind_eq_ok.mp hok
  obtain ⟨signed, hsigned, hdone⟩ := bind_eq_ok.mp hok
  obtain ⟨response, -, hsigned⟩ := bind_eq_ok.mp hsigned
  cases hdone
  cases response with
  | none => cases hsigned
  | some signature =>
      cases hsigned
      exact ⟨rfl, rfl⟩

theorem processSorobanGasAbstraction_keeps
    (hok : processSorobanGasAbstraction services relayerId relayerAddress data policy = .ok out) :
    KeepsRequest data out ∧ ∃ updated, out.transactionInput = .unsignedXdr (.ok updated) := by
  unfold processSorobanGasAbstraction at hok
  split at hok
  · obtain ⟨envelope, -, hok⟩ := bind_eq_ok.mp hok
    obtain ⟨signedUserAuth, -, hok⟩ := bind_eq_ok.mp hok
    obtain ⟨⟨injected, entries⟩, -, hok⟩ := bind_eq_ok.mp hok
    obtain ⟨simulated, -, hok⟩ := bind_eq_ok.mp hok
    obtain ⟨_, -, hok⟩ := bind_eq_ok.mp hok
    obtain ⟨sequence, -, hok⟩ := bind_eq_ok.mp hok
    obtain ⟨updated, -, hdone⟩ := bind_eq_ok.mp hok
    cases hdone
    exact ⟨rfl, updated, rfl⟩
  · cases hok

/-! ## Unsigned envelopes -/

/-- An envelope without its signatures, sequence number, fee, extension and authorization
entries. -/
def skeleton : TransactionEnvelope → TransactionEnvelope
  | .txV0 e => .txV0 ⟨{ e.tx with
      seqNum := 0, fee := 0, operations := e.tx.operations.map (setAuth []) }, []⟩
  | .tx e => .tx ⟨{ e.tx with
      seqNum := 0, fee := 0, ext := .v0, operations := e.tx.operations.map (setAuth []) }, []⟩
  | .txFeeBump e => .txFeeBump e

theorem setAuth_setAuth (first second : List SorobanAuthorizationEntry) (op : Operation) :
    setAuth second (setAuth first op) = setAuth second op := by
  cases hbody : op.body <;> simp [setAuth, hbody]

theorem map_setAuth_applySimulatedAuth (response : SimulateTransactionResponse)
    (operations : List Operation) :
    (applySimulatedAuth response operations).map (setAuth []) = operations.map (setAuth []) := by
  unfold applySimulatedAuth
  split
  · rw [List.map_map]
    exact List.map_congr_left fun op _ => setAuth_setAuth _ _ op
  · rfl

/-- Sequence, fee and simulation leave the skeleton of an envelope. -/
theorem prepared_skeleton {sequence : Int64} {sequenced priced : TransactionEnvelope}
    (hsequenced : applySequence envelope sequence = .ok sequenced)
    (hpriced : ensureMinimumFee sequenced = .ok priced)
    (hinput : data.transactionInput = .unsignedXdr (.ok priced))
    (hok : simulate services data priced = .ok (out, prepared)) :
    skeleton prepared = skeleton envelope ∧ envelopeSequence prepared = .ok sequence ∧
      out.transactionInput = .unsignedXdr (.ok prepared) ∧ KeepsRequest data out ∧
      out.sequenceNumber = data.sequenceNumber ∧ out.signatures = data.signatures ∧
      out.signedEnvelopeXdr = data.signedEnvelopeXdr := by
  obtain ⟨answer, -, hok⟩ := bind_eq_ok.mp hok
  cases envelope with
  | txV0 e =>
      cases hsequenced
      cases hpriced
      cases answer with
      | none =>
          cases hok
          exact ⟨rfl, rfl, hinput, rfl, rfl, rfl, rfl⟩
      | some response =>
          obtain ⟨_, -, hok⟩ := bind_eq_ok.mp hok
          cases hok
  | tx e =>
      cases hsequenced
      cases hpriced
      cases answer with
      | none =>
          cases hok
          exact ⟨rfl, rfl, hinput, rfl, rfl, rfl, rfl⟩
      | some response =>
          obtain ⟨sorobanData, -, hok⟩ := bind_eq_ok.mp hok
          dsimp only at hok
          split_ifs at hok
          · cases hok
            refine ⟨?_, rfl, rfl, rfl, rfl, rfl, rfl⟩
            simp only [skeleton, applySimulation, map_setAuth_applySimulatedAuth]
          · cases hok
  | txFeeBump e => cases hsequenced

/-- What the preparation of an unsigned envelope hands to the signer, and what it stores. -/
theorem processUnsignedXdr_steps {xdr : Decoded TransactionEnvelope}
    (hinput : data.transactionInput = .unsignedXdr xdr)
    (hok : processUnsignedXdr services signer relayerId relayerAddress data policy = .ok out) :
    ∃ envelope prepared signed sequence seen signature, xdr = .ok envelope ∧
      skeleton prepared = skeleton envelope ∧ envelopeSequence prepared = .ok sequence ∧
      KeepsRequest data seen ∧ seen.transactionInput = .unsignedXdr (.ok prepared) ∧
      seen.sequenceNumber = some sequence ∧ signer seen = .ok (some signature) ∧
      (data.signatures = [] → data.signedEnvelopeXdr = none →
        attachSignatures [signature] prepared = .ok signed) ∧
      out = { seen with
        signatures := seen.signatures ++ [signature], signedEnvelopeXdr := some (.ok signed) } := by
  simp only [processUnsignedXdr, hinput] at hok
  obtain ⟨envelope, henvelope, hok⟩ := bind_eq_ok.mp hok
  obtain ⟨⟨⟩, -, hok⟩ := bind_eq_ok.mp hok
  split_ifs at hok
  · cases hok
  obtain ⟨sequence, -, hok⟩ := bind_eq_ok.mp hok
  obtain ⟨sequenced, hsequenced, hok⟩ := bind_eq_ok.mp hok
  obtain ⟨priced, hpriced, hok⟩ := bind_eq_ok.mp hok
  obtain ⟨⟨seen, prepared⟩, hsimulate, hok⟩ := bind_eq_ok.mp hok
  obtain ⟨hskeleton, hsequence, hstored, hkeeps, hnumber, hsignatures, hcached⟩ :=
    prepared_skeleton hsequenced hpriced rfl hsimulate
  obtain ⟨response, hresponse, hok⟩ := bind_eq_ok.mp hok
  cases response with
  | none => cases hok
  | some signature =>
      obtain ⟨signed, hsigned, hdone⟩ := bind_eq_ok.mp hok
      cases hdone
      refine ⟨envelope, prepared, signed, sequence, seen, signature, ok_of_mapError henvelope,
        hskeleton, hsequence, hkeeps, hstored, hnumber, hresponse, ?_, rfl⟩
      intro hnone hfresh
      have hbuilt := ok_of_mapError hsigned
      simp only [signedEnvelope, hcached, hfresh, hsignatures, hnone] at hbuilt
      exact hbuilt

theorem attachSignatures_signs {signatures : List DecoratedSignature}
    {signed : TransactionEnvelope} (hok : attachSignatures signatures prepared = .ok signed) :
    skeleton signed = skeleton prepared ∧ envelopeSequence signed = envelopeSequence prepared ∧
      ∀ networkId, createSignaturePayload prepared networkId =
        createSignaturePayload signed networkId := by
  cases prepared with
  | txV0 e =>
      cases hok
      exact ⟨rfl, rfl, fun _ => rfl⟩
  | tx e =>
      cases hok
      exact ⟨rfl, rfl, fun _ => rfl⟩
  | txFeeBump e => cases hok

end Paths

/-- From data as it was created to the data of a later preparation: each round prepares and signs
the data, a submission may store a hash, and the data is reset. -/
inductive Rounds (data : StellarTransactionData) : StellarTransactionData → Prop where
  | first : Rounds data data
  | again {current prepared final : StellarTransactionData} (hrounds : Rounds data current)
      (services : StellarServices) (parseDate : DateParser) (signer : StellarSigner)
      (relayerId relayerAddress : String) (policy : Option RelayerStellarPolicy)
      (hash : Option String)
      (hprepare : processUnsignedXdr services signer relayerId relayerAddress current policy =
        .ok prepared)
      (hfinal : signAndFinalizeTransaction parseDate signer prepared = .ok final) :
      Rounds data (resetToPrePrepareState { final with hash := hash })

theorem Rounds.unsigned {data current : StellarTransactionData} {input : TransactionEnvelope}
    (hrounds : Rounds data current) (hinput : data.transactionInput = .unsignedXdr (.ok input))
    (hnone : data.signatures = []) (hfresh : data.signedEnvelopeXdr = none) :
    current.signatures = [] ∧ current.signedEnvelopeXdr = none ∧
      ∃ envelope, current.transactionInput = .unsignedXdr (.ok envelope) ∧
        skeleton envelope = skeleton input := by
  induction hrounds with
  | first => exact ⟨hnone, hfresh, input, hinput, rfl⟩
  | again _ _ _ _ _ _ _ _ hprepare hfinal ih =>
      obtain ⟨-, -, envelope, hcurrent, hskeleton⟩ := ih
      obtain ⟨_, unsigned, _, _, seen, _, hsame, hunsigned, -, -, hseen, -, -, -, rfl⟩ :=
        processUnsignedXdr_steps hcurrent hprepare
      cases hsame
      obtain ⟨-, hkept, -⟩ := signStellarTransaction_keeps hfinal
      exact ⟨rfl, rfl, unsigned, hkept.trans hseen, hunsigned.trans hskeleton⟩

/-- However often it was prepared and reset before, the envelope that is built for submission is
the submitted one up to sequence, fee, extension and authorization entries.  It has the stored
sequence number and one signature, which the signer was asked for with that envelope. -/
theorem unsigned_envelope_signed_once (services : StellarServices) (parseDate : DateParser)
    (signer : StellarSigner) (relayerId relayerAddress : String)
    (policy : Option RelayerStellarPolicy) (data current prepared final : StellarTransactionData)
    (input : TransactionEnvelope) (hinput : data.transactionInput = .unsignedXdr (.ok input))
    (hnone : data.signatures = []) (hfresh : data.signedEnvelopeXdr = none)
    (hrounds : Rounds data current)
    (hprepare : processUnsignedXdr services signer relayerId relayerAddress current policy =
      .ok prepared)
    (hfinal : signAndFinalizeTransaction parseDate signer prepared = .ok final) :
    ∃ submitted unsigned sequence seen signature,
      (∀ parseDate', buildSignedEnvelope parseDate' final = .ok submitted) ∧
      skeleton submitted = skeleton input ∧
      envelopeSequence submitted = .ok sequence ∧ final.sequenceNumber = some sequence ∧
      attachSignatures [signature] unsigned = .ok submitted ∧
      signer seen = .ok (some signature) ∧ seen.transactionInput = .unsignedXdr (.ok unsigned) ∧
      ∀ networkId, createSignaturePayload unsigned networkId =
        createSignaturePayload submitted networkId := by
  obtain ⟨hsignatures, hcached, envelope, hcurrent, hskeleton⟩ :=
    hrounds.unsigned hinput hnone hfresh
  obtain ⟨_, unsigned, submitted, sequence, seen, signature, hsame, hunsigned, hsequence, -, hseen,
    hnumber, hsigner, hattach, rfl⟩ := processUnsignedXdr_steps hcurrent hprepare
  cases hsame
  have hattached := hattach hsignatures hcached
  obtain ⟨hsigned, hsignedSequence, hpayload⟩ := attachSignatures_signs hattached
  obtain ⟨-, -, hkept⟩ := signStellarTransaction_keeps hfinal
  obtain ⟨-, hstored⟩ := signStellarTransaction_cached rfl hfinal
  refine ⟨submitted, unsigned, sequence, seen, signature, ?_, ?_, ?_, ?_, hattached, hsigner, hseen,
    hpayload⟩
  · intro parseDate'
    rw [buildSignedEnvelope_cached hstored]
    rfl
  · rw [hsigned, hunsigned, hskeleton]
  · rw [hsignedSequence, hsequence]
  · rw [hkept, hnumber]

/-- A preparation of a sample input. -/
def sampleRound (data : StellarTransactionData) : Processing StellarTransactionData :=
  processUnsignedXdr UnsignedXdr.sampleServices UnsignedXdr.sampleSigner "relayer"
    (AccountId.toText ⟨1⟩) data (some UnsignedXdr.samplePolicy) >>=
      signAndFinalizeTransaction (fun _ => none) UnsignedXdr.sampleSigner

/-- A swap that is prepared, submitted, reset and prepared once more. -/
theorem unsigned_envelope_signed_once_swap :
    ∃ final submitted, buildSignedEnvelope (fun _ => none) final = .ok submitted ∧
      skeleton submitted = skeleton (UnsignedXdr.sampleEnvelope (sampleSwap 20)) := by
  obtain ⟨final, hok⟩ := exists_of_isOk (show (sampleRound (UnsignedXdr.sampleInput
    (sampleSwap 20)) >>= fun refused => sampleRound
      (resetToPrePrepareState { refused with hash := some "hash" })).isOk = true by decide +kernel)
  obtain ⟨refused, hfirst, hsecond⟩ := bind_eq_ok.mp hok
  obtain ⟨_, hprepared, hrefused⟩ := bind_eq_ok.mp hfirst
  obtain ⟨prepared, hprepare, hfinal⟩ := bind_eq_ok.mp hsecond
  obtain ⟨submitted, _, _, _, _, hbuild, hskeleton, -⟩ := unsigned_envelope_signed_once _ _ _ _ _ _
    _ _ prepared final _ rfl rfl rfl (.again .first _ _ _ _ _ _ _ hprepared hrefused) hprepare
    hfinal
  exact ⟨final, submitted, hbuild _, hskeleton⟩

/-! ## Records -/

abbrev StellarRecord := TransactionRepoModel StellarTransactionData
abbrev StellarUpdate := TransactionUpdateRequest StellarTransactionData

/-- `sent_at` and `confirmed_at` are absent, which leaves them as they are. -/
def createResetUpdateRequest (record : StellarRecord) : StellarUpdate where
  status := some .pending
  networkData := some (resetToPrePrepareState record.networkData)
  hashes := some []

/-- `update_and_notify_transaction` -/
def preparedUpdate (data : StellarTransactionData) : StellarUpdate where
  status := some .sent
  networkData := some data

/-- The update of `submit_core` once the network has accepted the envelope. -/
def submittedUpdate (record : StellarRecord) (hash now : String) : StellarUpdate where
  status := some .submitted
  sentAt := some now
  networkData := some { record.networkData with hash := some hash }
  hashes := some (if hash ∈ record.hashes then record.hashes else record.hashes ++ [hash])

inductive Stage where
  | prepare
  | submit
  deriving DecidableEq, Repr

/-- Successful preparations and submissions in a repository.  A submission is accepted, or the
network asks for another attempt, of which the time and a counter are stored. -/
inductive Run (keepsFinal : Bool) (before : StellarRecord) :
    List Stage → StellarRecord → Prop where
  | start : Run keepsFinal before [] before
  | prepare {stages : List Stage} {record : StellarRecord} {data : StellarTransactionData}
      (hrun : Run keepsFinal before stages record) (services : StellarServices)
      (parseDate : DateParser) (signer : StellarSigner) (relayerId relayerAddress : String)
      (policy : RelayerStellarPolicy) (hpending : record.status = .pending)
      (hok : prepareCore services parseDate signer relayerId relayerAddress policy
        record.networkData = .ok data) :
      Run keepsFinal before (.prepare :: stages)
        (record.partialUpdate keepsFinal (preparedUpdate data))
  | submit {stages : List Stage} {record : StellarRecord}
      (hrun : Run keepsFinal before stages record) (hash now : String)
      (hopen : record.status.isFinalState = false) :
      Run keepsFinal before (.submit :: stages)
        (record.partialUpdate keepsFinal (submittedUpdate record hash now))
  | retry {stages : List Stage} {record : StellarRecord}
      (hrun : Run keepsFinal before stages record) (metadata : TransactionMetadata) (now : String)
      (hopen : record.status.isFinalState = false) :
      Run keepsFinal before (.submit :: stages)
        { record with metadata := some metadata, sentAt := some now }

/-- A record that was not prepared before. -/
structure Created (record : StellarRecord) : Prop where
  status : record.status = .pending
  sentAt : record.sentAt = none
  confirmedAt : record.confirmedAt = none
  hashes : record.hashes = []
  data : resetToPrePrepareState record.networkData = record.networkData

def resetRecord (keepsFinal : Bool) (record : StellarRecord) : StellarRecord :=
  record.partialUpdate keepsFinal (createResetUpdateRequest record)

/-- The reset leads back to the record before the first preparation. -/
structure Restores (keepsFinal : Bool) (before after : StellarRecord) : Prop where
  status : (resetRecord keepsFinal after).status = before.status
  sentAt : (resetRecord keepsFinal after).sentAt = before.sentAt
  confirmedAt : (resetRecord keepsFinal after).confirmedAt = before.confirmedAt
  hashes : (resetRecord keepsFinal after).hashes = before.hashes
  data : (resetRecord keepsFinal after).networkData = before.networkData

/-- Preparation keeps requested operations and signed envelopes, and leaves an unsigned envelope of
its own for the other inputs. -/
def Rewrites : TransactionInput → TransactionInput → Prop
  | .operations specs, after => after = .operations specs
  | .signedXdr xdr maxFee, after => after = .signedXdr xdr maxFee
  | .unsignedXdr _, after | .sorobanGasAbstraction _ _, after =>
      ∃ envelope, after = .unsignedXdr (.ok envelope)

theorem Rewrites.trans {first second third : TransactionInput} (hfirst : Rewrites first second)
    (hsecond : Rewrites second third) : Rewrites first third := by
  cases first with
  | operations specs =>
      cases hfirst
      exact hsecond
  | signedXdr xdr maxFee =>
      cases hfirst
      exact hsecond
  | unsignedXdr xdr =>
      obtain ⟨envelope, rfl⟩ := hfirst
      exact hsecond
  | sorobanGasAbstraction xdr auth =>
      obtain ⟨envelope, rfl⟩ := hfirst
      exact hsecond

theorem prepareCore_keeps {services : StellarServices} {parseDate : DateParser}
    {signer : StellarSigner} {relayerId relayerAddress : String} {policy : RelayerStellarPolicy}
    {data out : StellarTransactionData}
    (hok : prepareCore services parseDate signer relayerId relayerAddress policy data = .ok out) :
    KeepsRequest data out ∧ Rewrites data.transactionInput out.transactionInput := by
  cases hinput : data.transactionInput with
  | operations specs =>
      simp only [prepareCore, hinput] at hok
      obtain ⟨prepared, hprepared, hsign⟩ := bind_eq_ok.mp hok
      obtain ⟨hkeeps, hsame⟩ := processOperations_keeps hprepared
      obtain ⟨hsigned, hkept, -⟩ := signStellarTransaction_keeps hsign
      exact ⟨hkeeps.trans hsigned, (hkept.trans hsame).trans hinput⟩
  | unsignedXdr xdr =>
      simp only [prepareCore, hinput] at hok
      obtain ⟨prepared, hprepared, hsign⟩ := bind_eq_ok.mp hok
      obtain ⟨_, unsigned, _, _, seen, _, -, -, -, hkeeps, hseen, -, -, -, rfl⟩ :=
        processUnsignedXdr_steps hinput hprepared
      obtain ⟨hsigned, hkept, -⟩ := signStellarTransaction_keeps hsign
      exact ⟨hkeeps.trans hsigned, unsigned, hkept.trans hseen⟩
  | signedXdr xdr maxFee =>
      simp only [prepareCore, hinput] at hok
      obtain ⟨hkeeps, hsame⟩ := processFeeBump_keeps hok
      exact ⟨hkeeps, hsame.trans hinput⟩
  | sorobanGasAbstraction xdr auth =>
      simp only [prepareCore, hinput] at hok
      obtain ⟨prepared, hprepared, hsign⟩ := bind_eq_ok.mp hok
      obtain ⟨hkeeps, updated, hupdated⟩ := processSorobanGasAbstraction_keeps hprepared
      obtain ⟨hsigned, hkept, -⟩ := signStellarTransaction_keeps hsign
      exact ⟨hkeeps.trans hsigned, updated, hkept.trans hupdated⟩

/-! ## Runs -/

/-- What a run does to a record. -/
structure Advanced (before : StellarRecord) (stages : List Stage) (after : StellarRecord) :
    Prop where
  active : after.status.isFinalState = false
  confirmedAt : after.confirmedAt = before.confirmedAt
  sentAt : after.sentAt = none ↔ .submit ∉ stages
  data : KeepsRequest before.networkData after.networkData
  input : Rewrites before.networkData.transactionInput after.networkData.transactionInput ∨
    .prepare ∉ stages ∧
      after.networkData.transactionInput = before.networkData.transactionInput

section Runs

variable {keepsFinal : Bool} {before record after : StellarRecord} {stages : List Stage}

theorem partialUpdate_of_active (update : StellarUpdate)
    (hactive : record.status.isFinalState = false) :
    record.partialUpdate keepsFinal update = record.applyPartialUpdate update := by
  rw [TransactionRepoModel.partialUpdate, hactive, Bool.and_false, Bool.false_and,
    if_neg Bool.false_ne_true]

/-- A submission stores the time and keeps the request. -/
theorem Advanced.submitted {next : StellarRecord} (hadvanced : Advanced before stages record)
    (hactive : next.status.isFinalState = false)
    (hconfirmed : next.confirmedAt = record.confirmedAt)
    (hsent : next.sentAt.isSome = true)
    (hdata : KeepsRequest record.networkData next.networkData)
    (hinput : next.networkData.transactionInput = record.networkData.transactionInput) :
    Advanced before (.submit :: stages) next where
  active := hactive
  confirmedAt := hconfirmed.trans hadvanced.confirmedAt
  sentAt := by
    rw [Option.isSome_iff_ne_none] at hsent
    simp [hsent]
  data := hadvanced.data.trans hdata
  input := by
    rw [hinput]
    simpa using hadvanced.input

theorem Run.advanced (hcreated : Created before) (hrun : Run keepsFinal before stages after) :
    Advanced before stages after := by
  induction hrun with
  | start =>
      refine ⟨?_, rfl, by simp [hcreated.sentAt], rfl, .inr ⟨by simp, rfl⟩⟩
      rw [hcreated.status]
      rfl
  | prepare _ _ _ _ _ _ _ hpending hok ih =>
      obtain ⟨hkeeps, hrewrites⟩ := prepareCore_keeps hok
      rw [partialUpdate_of_active _ ih.active]
      refine ⟨rfl, ih.confirmedAt, ih.sentAt.trans (by simp), ih.data.trans hkeeps, .inl ?_⟩
      rcases ih.input with hinput | ⟨-, hsame⟩
      · exact hinput.trans hrewrites
      · rw [← hsame]
        exact hrewrites
  | submit _ hash now hopen ih =>
      rw [partialUpdate_of_active _ ih.active]
      exact ih.submitted rfl rfl rfl rfl rfl
  | retry _ metadata now hopen ih => exact ih.submitted hopen rfl rfl rfl rfl

theorem resetRecord_eq (hactive : after.status.isFinalState = false) :
    resetRecord keepsFinal after =
      { after with
        status := .pending
        networkData := resetToPrePrepareState after.networkData
        hashes := [] } := by
  rw [resetRecord, partialUpdate_of_active _ hactive]
  rfl

theorem restores_of_run_iff (hcreated : Created before)
    (hrun : Run keepsFinal before stages after) :
    Restores keepsFinal before after ↔ .submit ∉ stages ∧
      after.networkData.transactionInput = before.networkData.transactionInput := by
  have hadvanced := hrun.advanced hcreated
  have hreset : resetRecord keepsFinal after = _ := resetRecord_eq hadvanced.active
  have hdata := hadvanced.data
  unfold KeepsRequest at hdata
  constructor
  · intro hrestores
    have hsent := hrestores.sentAt
    have hinput := congrArg StellarTransactionData.transactionInput hrestores.data
    rw [hreset] at hsent hinput
    exact ⟨hadvanced.sentAt.mp (hsent.trans hcreated.sentAt), hinput⟩
  · rintro ⟨hsubmit, hinput⟩
    refine ⟨?_, ?_, ?_, ?_, ?_⟩
    · rw [hreset, hcreated.status]
    · rw [hreset, hcreated.sentAt]
      exact hadvanced.sentAt.mpr hsubmit
    · rw [hreset]
      exact hadvanced.confirmedAt
    · rw [hreset, hcreated.hashes]
    · rw [hreset, hdata, hcreated.data, hinput]

end Runs

/-- After a run of preparations and submissions, the reset restores the record exactly when nothing
was submitted and the input is still the one of the request.  A preparation keeps operations and
signed envelopes and replaces every other input by an unsigned envelope. -/
theorem reset_restores_iff (keepsFinal : Bool) (before after : StellarRecord)
    (stages : List Stage) (hcreated : Created before)
    (hrun : Run keepsFinal before stages after) :
    (Restores keepsFinal before after ↔ .submit ∉ stages ∧
        after.networkData.transactionInput = before.networkData.transactionInput) ∧
      (.prepare ∈ stages →
        Rewrites before.networkData.transactionInput after.networkData.transactionInput) := by
  refine ⟨restores_of_run_iff hcreated hrun, ?_⟩
  intro hprepare
  rcases (hrun.advanced hcreated).input with hinput | ⟨hnone, -⟩
  · exact hinput
  · exact (hnone hprepare).elim

def sampleRecord (data : StellarTransactionData) : StellarRecord where
  id := "tx"
  relayerId := "relayer"
  status := .pending
  statusReason := none
  createdAt := "2025-01-01T00:00:00Z"
  sentAt := none
  confirmedAt := none
  validUntil := none
  networkData := data
  pricedAt := none
  hashes := []
  noopCount := none
  isCanceled := some false
  metadata := none

theorem samplePayments_prepared :
    ∃ after, Run true (sampleRecord samplePayments) [.prepare] after := by
  obtain ⟨data, hok⟩ := exists_of_isOk (show (prepareCore GasAbstraction.sampleServices
    (fun _ => none) FeeBump.sampleSigner "relayer" (AccountId.toText ⟨1⟩) limitedPolicy
    samplePayments).isOk = true by decide +kernel)
  exact ⟨_, .prepare .start _ _ _ _ _ _ rfl hok⟩

/-- Requested payments that were prepared and not yet submitted. -/
theorem reset_restores_payments :
    ∃ after, Run true (sampleRecord samplePayments) [.prepare] after ∧
      Restores true (sampleRecord samplePayments) after := by
  obtain ⟨after, hrun⟩ := samplePayments_prepared
  obtain ⟨hiff, hinput⟩ := reset_restores_iff true _ after _ ⟨rfl, rfl, rfl, rfl, rfl⟩ hrun
  exact ⟨after, hrun, hiff.mpr ⟨by decide, hinput (by decide)⟩⟩

/-- The time of a submission stays in the record of requested payments, and a gas abstraction is
an unsigned envelope after the reset. -/
theorem reset_keeps_submission_and_envelope :
    (∃ after, Run true (sampleRecord samplePayments) [.submit, .prepare] after ∧
        ¬ Restores true (sampleRecord samplePayments) after) ∧
      ∃ after, Run true (sampleRecord (GasAbstraction.sampleInput sampleCall)) [.prepare] after ∧
        ¬ Restores true (sampleRecord (GasAbstraction.sampleInput sampleCall)) after := by
  refine ⟨?_, ?_⟩
  · obtain ⟨prepared, hrun⟩ := samplePayments_prepared
    have hcreated : Created (sampleRecord samplePayments) := ⟨rfl, rfl, rfl, rfl, rfl⟩
    have hsubmitted := hrun.submit "hash" "2025-01-01T00:00:01Z" (hrun.advanced hcreated).active
    refine ⟨_, hsubmitted, ?_⟩
    rw [restores_of_run_iff hcreated hsubmitted]
    exact fun hnone => hnone.1 List.mem_cons_self
  · obtain ⟨data, hok⟩ := exists_of_isOk (show (prepareCore GasAbstraction.sampleServices
      (fun _ => none) FeeBump.sampleSigner "relayer" (AccountId.toText ⟨1⟩)
      GasAbstraction.samplePolicy (GasAbstraction.sampleInput sampleCall)).isOk = true by
        decide +kernel)
    have hrun : Run true (sampleRecord (GasAbstraction.sampleInput sampleCall)) [.prepare] _ :=
      .prepare .start _ _ _ _ _ _ rfl hok
    refine ⟨_, hrun, ?_⟩
    rw [restores_of_run_iff ⟨rfl, rfl, rfl, rfl, rfl⟩ hrun]
    rintro ⟨-, hsame⟩
    obtain ⟨-, envelope, hunsigned⟩ := prepareCore_keeps hok
    exact nomatch hunsigned.symm.trans hsame

end Relayer.StellarReset
