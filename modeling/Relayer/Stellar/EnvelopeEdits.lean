import Relayer.Stellar.SponsoredBuild

/-!
# Editing envelopes

The builder appends an operation to a user's envelope and sets its time bounds, and
the fee bump and the signer read V0 envelopes in V1 form.  Here are the edits held
against what they are named for, and the readings of one envelope against each other.
-/

namespace Relayer.EnvelopeEdits

open Relayer.Xdr Relayer.StellarData Relayer.StellarFees Relayer.StellarOperations
open Relayer.StellarValidation Relayer.FeeBump Relayer.SponsoredBuild Relayer.Checks
open Relayer.Strkey

/-! ## Appending an operation and setting the time bounds -/

/-- The encoding of preconditions without ledger bounds, minimum sequence and extra signers. -/
def noOthers : Encoded := List.replicate 24 0

/-- The preconditions other than the time bounds. -/
def otherPreconditions : Preconditions → Encoded
  | .none | .time _ => noOthers
  | .v2 _ others => others

def envelopeOtherPreconditions : TransactionEnvelope → Encoded
  | .txV0 _ => noOthers
  | .tx envelope => otherPreconditions envelope.tx.cond
  | .txFeeBump envelope => otherPreconditions envelope.tx.innerTx.tx.cond

/-- The envelopes differ in their time bounds only. -/
def ChangesBounds (bounds : TimeBounds) : TransactionEnvelope → TransactionEnvelope → Prop
  | .txV0 before, .txV0 after =>
      after = { before with tx := { before.tx with timeBounds := some bounds } }
  | .tx before, .tx after =>
      after = { before with tx := { before.tx with cond := after.tx.cond } } ∧
        after.tx.cond.timeBounds = some bounds ∧
        otherPreconditions after.tx.cond = otherPreconditions before.tx.cond
  | _, _ => False

/-- The second envelope has one operation more, and at least the same fee. -/
def Appends (operation : Operation) : TransactionEnvelope → TransactionEnvelope → Prop
  | .txV0 before, .txV0 after =>
      after = { before with tx := { before.tx with
        operations := before.tx.operations ++ [operation], fee := after.tx.fee } } ∧
        before.tx.fee ≤ after.tx.fee
  | .tx before, .tx after =>
      after = { before with tx := { before.tx with
        operations := before.tx.operations ++ [operation], fee := after.tx.fee } } ∧
        before.tx.fee ≤ after.tx.fee
  | _, _ => False

/-- Both edits change what they are named for, whichever comes first, and the time bounds can be
set again. -/
structure EditsInPlace (envelope : TransactionEnvelope) (operation : Operation)
    (validUntil : ℕ) : Prop where
  bounds : ∃ bounded, setTimeBounds envelope validUntil = .ok bounded ∧
    ChangesBounds (timeBoundsUntil validUntil) envelope bounded ∧
    setTimeBounds bounded validUntil = .ok bounded
  append : ∀ extended, addOperationToEnvelope envelope operation = .ok extended →
    Appends operation envelope extended
  commute : ∀ bounded extended, setTimeBounds envelope validUntil = .ok bounded →
    addOperationToEnvelope envelope operation = .ok extended →
    ∃ both, setTimeBounds extended validUntil = .ok both ∧
      addOperationToEnvelope bounded operation = .ok both

section Edits

variable {envelope bounded extended : TransactionEnvelope} {operation : Operation} {validUntil : ℕ}

theorem addOperationToEnvelope_of_le
    (hroom : (extractOperations envelope ++ [operation]).length ≤ stellarMaxOperations)
    (hreplaced : replaceOperations envelope (extractOperations envelope ++ [operation]) =
      some extended) : addOperationToEnvelope envelope operation = .ok extended := by
  simp only [addOperationToEnvelope, hreplaced]
  rw [if_neg (not_lt.mpr hroom)]

theorem exists_extended (hplain : ∃ v1, asV1 envelope = some v1)
    (hroom : (extractOperations envelope).length < stellarMaxOperations) :
    ∃ extended, addOperationToEnvelope envelope operation = .ok extended := by
  have hlength : (extractOperations envelope ++ [operation]).length ≤ stellarMaxOperations := by
    rw [List.length_append]
    exact hroom
  obtain ⟨v1, hv1⟩ := hplain
  cases envelope with
  | txV0 e => exact ⟨_, addOperationToEnvelope_of_le hlength rfl⟩
  | tx e => exact ⟨_, addOperationToEnvelope_of_le hlength rfl⟩
  | txFeeBump e => cases hv1

theorem commute_of_edits (hset : setTimeBounds envelope validUntil = .ok bounded)
    (hadd : addOperationToEnvelope envelope operation = .ok extended) :
    ∃ both, setTimeBounds extended validUntil = .ok both ∧
      addOperationToEnvelope bounded operation = .ok both := by
  obtain ⟨hroom, hextended⟩ := addOperationToEnvelope_eq_ok hadd
  cases envelope with
  | txV0 e =>
      cases hset
      cases hextended
      exact ⟨_, rfl, addOperationToEnvelope_of_le hroom rfl⟩
  | tx e =>
      cases hset
      cases hextended
      exact ⟨_, rfl, addOperationToEnvelope_of_le hroom rfl⟩
  | txFeeBump e => cases hset

theorem changesBounds_iff (hset : setTimeBounds envelope validUntil = .ok bounded) :
    ChangesBounds (timeBoundsUntil validUntil) envelope bounded ↔
      envelopeOtherPreconditions envelope = noOthers := by
  cases envelope with
  | txV0 e =>
      cases hset
      exact ⟨fun _ => rfl, fun _ => rfl⟩
  | tx e =>
      cases hset
      exact ⟨fun hchanges => hchanges.2.2.symm, fun hothers => ⟨rfl, rfl, hothers.symm⟩⟩
  | txFeeBump e => cases hset

theorem toNat_minimumFee {operations : List Operation}
    (hcount : operations.length ≤ stellarMaxOperations) :
    ((minimumFee operations).toNat : ℤ) = 100 * operations.length := by
  simp only [stellarMaxOperations] at hcount
  rw [minimumFee, UInt32.toNat_mul, UInt32.toNat_ofNat']
  simp
  omega

theorem appends_iff (hadd : addOperationToEnvelope envelope operation = .ok extended) :
    Appends operation envelope extended ↔
      extractInnerTransactionFee envelope ≤ 100 * ((extractOperations envelope).length + 1) := by
  obtain ⟨hroom, hextended⟩ := addOperationToEnvelope_eq_ok hadd
  have hfee := toNat_minimumFee hroom
  rw [List.length_append, List.length_singleton, Nat.cast_add, Nat.cast_one] at hfee
  rw [← hfee]
  cases envelope with
  | txV0 e =>
      cases hextended
      exact (and_iff_right rfl).trans (UInt32.le_iff_toNat_le.trans Int.ofNat_le.symm)
  | tx e =>
      cases hextended
      exact (and_iff_right rfl).trans (UInt32.le_iff_toNat_le.trans Int.ofNat_le.symm)
  | txFeeBump e => cases hextended

end Edits

/-- Setting the time bounds drops the other preconditions, and appending an operation resets the
fee to 100 stroops for each operation.  The edits stay in place exactly when there are no other
preconditions, and the fee does not exceed the new one where there is room for the operation. -/
theorem editsInPlace_iff (envelope : TransactionEnvelope) (operation : Operation) (validUntil : ℕ)
    (hplain : ∃ v1, asV1 envelope = some v1) :
    EditsInPlace envelope operation validUntil ↔
      envelopeOtherPreconditions envelope = noOthers ∧
        ((extractOperations envelope).length < stellarMaxOperations →
          extractInnerTransactionFee envelope ≤
            100 * ((extractOperations envelope).length + 1)) := by
  have hset : ∃ bounded, setTimeBounds envelope validUntil = .ok bounded ∧
      setTimeBounds bounded validUntil = .ok bounded := by
    obtain ⟨v1, hv1⟩ := hplain
    cases envelope with
    | txV0 e => exact ⟨_, rfl, rfl⟩
    | tx e => exact ⟨_, rfl, rfl⟩
    | txFeeBump e => cases hv1
  obtain ⟨bounded, hset, hagain⟩ := hset
  constructor
  · rintro ⟨⟨_, hset', hchanges, -⟩, happend, -⟩
    refine ⟨(changesBounds_iff hset').mp hchanges, ?_⟩
    intro hroom
    obtain ⟨extended, hadd⟩ := exists_extended hplain hroom
    exact (appends_iff hadd).mp (happend extended hadd)
  · rintro ⟨hothers, hfee⟩
    refine ⟨⟨bounded, hset, (changesBounds_iff hset).mpr hothers, hagain⟩, ?_, ?_⟩
    · intro extended hadd
      refine (appends_iff hadd).mpr (hfee ?_)
      have hroom := (addOperationToEnvelope_eq_ok hadd).1
      rw [List.length_append] at hroom
      exact hroom
    · exact fun _ _ hset' hadd => commute_of_edits hset' hadd

/-- A transaction of the user with one payment. -/
def sampleTransaction (fee : UInt32) (cond : Preconditions) : TransactionEnvelope :=
  .tx ⟨⟨.ed25519 2, fee, 1, cond, [], [samplePayment none sampleRelayer], .v0⟩, []⟩

theorem editsInPlace_sample :
    EditsInPlace (sampleTransaction 200 .none) (samplePayment none sampleRelayer) 1000000000 :=
  (editsInPlace_iff _ _ _ ⟨_, rfl⟩).mpr ⟨rfl, fun _ => by decide⟩

/-- The ledger bounds of the first transaction are gone once its time bounds are set, and the
second one bids 200 stroops instead of 10000 once it has a second operation. -/
theorem edits_out_of_place :
    ¬ EditsInPlace (sampleTransaction 200 (.v2 none ([0, 0, 0, 1] ++ List.replicate 28 0)))
        (samplePayment none sampleRelayer) 1000000000 ∧
      ¬ EditsInPlace (sampleTransaction 10000 .none) (samplePayment none sampleRelayer)
        1000000000 := by
  refine ⟨?_, ?_⟩
  · rintro ⟨⟨bounded, hset, hchanges, -⟩, -, -⟩
    exact absurd ((changesBounds_iff hset).mp hchanges) (by decide)
  · rintro ⟨-, happend, -⟩
    exact absurd ((appends_iff rfl).mp (happend _ rfl)) (by decide)

/-! ## The forms of one envelope -/

/-- The V1 form in which a V0 transaction is signed. -/
def convertV0ToV1Transaction (tx : TransactionV0) : Transaction where
  sourceAccount := .ed25519 tx.sourceAccountEd25519
  fee := tx.fee
  seqNum := tx.seqNum
  cond := match tx.timeBounds with
    | some bounds => .time bounds
    | none => .none
  memo := tx.memo
  operations := tx.operations
  ext := .v0

inductive TaggedTransaction where
  | tx (tx : Transaction)
  | txFeeBump (tx : FeeBumpTransaction)

structure TransactionSignaturePayload where
  networkId : Uint256
  taggedTransaction : TaggedTransaction

def createSignaturePayload (envelope : TransactionEnvelope) (networkId : Uint256) :
    TransactionSignaturePayload where
  networkId := networkId
  taggedTransaction := match envelope with
    | .txV0 e => .tx (convertV0ToV1Transaction e.tx)
    | .tx e => .tx e.tx
    | .txFeeBump e => .txFeeBump e.tx

/-- The text of an account: `G…`, or `M…` for a muxed one. -/
def muxedAccountAddress : MuxedAccount → String
  | .ed25519 key => strkey 48 key
  | .muxedEd25519 id key => muxedStrkey 96 key id

theorem muxedAccountAddress_of_stringToMuxedAccount {text : String} {account : MuxedAccount}
    (hok : stringToMuxedAccount text = .ok account) : muxedAccountAddress account = text := by
  have hparsed := ok_of_mapError hok
  unfold parseMuxedAccount at hparsed
  split at hparsed
  · next key id hmuxed =>
      cases hparsed
      obtain ⟨-, hmuxed⟩ := Option.ite_none_right_eq_some.mp hmuxed
      obtain ⟨htext, hsome⟩ := Option.ite_none_right_eq_some.mp hmuxed
      cases hsome
      exact htext
  · obtain ⟨key, hkey, rfl⟩ := exists_of_map_eq_ok hparsed
    unfold parsePublicKey at hkey
    split at hkey
    · next hdecoded =>
        cases hkey
        exact strkey_of_strkeyKey hdecoded
    · cases hkey

/-- A V0 envelope and its V1 conversion have the same transaction, whichever conversion is used,
the same signature payload, operations and source.  A fee bump is built exactly for a signed V0 or
V1 envelope of another source; it holds that envelope in V1 form with its signatures, and the
given fee source and fee. -/
theorem envelope_forms_agree :
    (∀ (envelope : TransactionV0Envelope) (networkId : Uint256),
      (convertV0ToV1Envelope envelope).tx = convertV0ToV1Transaction envelope.tx ∧
        createSignaturePayload (.txV0 envelope) networkId =
          createSignaturePayload (.tx (convertV0ToV1Envelope envelope)) networkId ∧
        extractOperations (.txV0 envelope) =
          extractOperations (.tx (convertV0ToV1Envelope envelope)) ∧
        extractSourceAccount (.txV0 envelope) =
          extractSourceAccount (.tx (convertV0ToV1Envelope envelope))) ∧
      ∀ (inner : TransactionEnvelope) (feeSource : String) (maxFee : Int64)
        (bump : FeeBumpTransactionEnvelope),
        (buildFeeBumpEnvelope inner feeSource maxFee = .ok bump ↔
          isSigned inner = true ∧ extractSourceAccount inner ≠ feeSource ∧
            ∃ account v1, stringToMuxedAccount feeSource = .ok account ∧
              asV1 inner = some v1 ∧ bump = ⟨⟨account, maxFee, v1⟩, []⟩) ∧
          (buildFeeBumpEnvelope inner feeSource maxFee = .ok bump →
            muxedAccountAddress bump.tx.feeSource = feeSource) := by
  refine ⟨fun _ _ => ⟨rfl, rfl, rfl, rfl⟩, ?_⟩
  intro inner feeSource maxFee bump
  refine ⟨buildFeeBumpEnvelope_eq_ok_iff, ?_⟩
  intro hbump
  obtain ⟨-, -, account, v1, haccount, -, rfl⟩ := buildFeeBumpEnvelope_eq_ok_iff.mp hbump
  exact muxedAccountAddress_of_stringToMuxedAccount haccount

end Relayer.EnvelopeEdits
