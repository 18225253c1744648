import Relayer.Core.Checks
import Relayer.Core.Strkey

/-!
# Stellar envelopes

The XDR values that the relayer inspects: envelopes in their three forms,
operations with their optional source accounts, host functions and authorization
entries.  Parts that no modelled function looks into are kept as their encoded
bytes.
-/

namespace Relayer.Xdr

open Relayer.Strkey Relayer.Checks

/-- The encoding of a value that is carried along and never inspected. -/
abbrev Encoded := List UInt8

/-- Text that decodes to a value, or the message of its decoding error. -/
abbrev Decoded (A : Type) := Except String A

/-- An account is named by its ed25519 key. -/
structure AccountId where
  key : Uint256
  deriving DecidableEq, Repr

inductive MuxedAccount where
  | ed25519 (key : Uint256)
  | muxedEd25519 (id : UInt64) (key : Uint256)
  deriving DecidableEq, Repr

/-- The account that signs for a plain or muxed address. -/
def MuxedAccount.underlying : MuxedAccount → AccountId
  | .ed25519 key => ⟨key⟩
  | .muxedEd25519 _ key => ⟨key⟩

inductive Asset where
  | native
  | creditAlphanum4 (code : Vector UInt8 4) (issuer : AccountId)
  | creditAlphanum12 (code : Vector UInt8 12) (issuer : AccountId)
  deriving DecidableEq, Repr

inductive ChangeTrustAsset where
  | native
  | creditAlphanum4 (code : Vector UInt8 4) (issuer : AccountId)
  | creditAlphanum12 (code : Vector UInt8 12) (issuer : AccountId)
  | poolShare (parameters : Encoded)
  deriving DecidableEq, Repr

inductive ScAddress where
  | account (id : AccountId)
  | contract (id : Uint256)
  | muxedAccount (id : UInt64) (key : Uint256)
  | muxedContract (value : Encoded)
  | claimableBalance (value : Encoded)
  | liquidityPool (value : Encoded)
  deriving DecidableEq, Repr

/-- The two halves of a signed 128-bit integer. -/
structure Int128Parts where
  hi : Int64
  lo : UInt64
  deriving DecidableEq, Repr

def Int128Parts.toInt (parts : Int128Parts) : ℤ :=
  parts.hi.toInt * 2 ^ 64 + parts.lo.toNat

inductive ScVal where
  | bool (value : Bool)
  | void
  | error (value : Encoded)
  | u32 (value : UInt32)
  | i32 (value : Int32)
  | u64 (value : UInt64)
  | i64 (value : Int64)
  | timepoint (value : UInt64)
  | duration (value : UInt64)
  | u128 (value : BitVec 128)
  | i128 (value : Int128Parts)
  | u256 (value : BitVec 256)
  | i256 (value : BitVec 256)
  | bytes (value : List UInt8)
  | string (value : List UInt8)
  | symbol (value : String)
  | vec (items : Option (List ScVal))
  | map (entries : Option (List (ScVal × ScVal)))
  | address (value : ScAddress)
  | contractInstance (value : Encoded)
  | ledgerKeyContractInstance
  | ledgerKeyNonce (nonce : Int64)

structure InvokeContractArgs where
  contractAddress : ScAddress
  functionName : String
  args : List ScVal

/-- What the id of a new contract is derived from. -/
inductive ContractIdPreimage where
  | address (address : ScAddress) (salt : Uint256)
  | asset (asset : Asset)
  deriving DecidableEq, Repr

inductive ContractExecutable where
  | wasm (hash : Uint256)
  | stellarAsset
  deriving DecidableEq, Repr

structure CreateContractArgs where
  contractIdPreimage : ContractIdPreimage
  executable : ContractExecutable
  deriving DecidableEq, Repr

structure CreateContractArgsV2 where
  contractIdPreimage : ContractIdPreimage
  executable : ContractExecutable
  constructorArgs : List ScVal

inductive HostFunction where
  | invokeContract (args : InvokeContractArgs)
  | createContract (args : CreateContractArgs)
  | uploadContractWasm (wasm : List UInt8)
  | createContractV2 (args : CreateContractArgsV2)

inductive SorobanAuthorizedFunction where
  | contractFn (args : InvokeContractArgs)
  | createContractHostFn (args : CreateContractArgs)
  | createContractV2HostFn (args : CreateContractArgsV2)

/-- A call together with the calls it may make in turn. -/
inductive SorobanAuthorizedInvocation where
  | mk (function : SorobanAuthorizedFunction)
      (subInvocations : List SorobanAuthorizedInvocation)

def SorobanAuthorizedInvocation.function :
    SorobanAuthorizedInvocation → SorobanAuthorizedFunction
  | .mk function _ => function

structure SorobanAddressCredentials where
  address : ScAddress
  nonce : Int64
  signatureExpirationLedger : UInt32
  signature : ScVal

inductive SorobanDelegateSignature where
  | mk (address : ScAddress) (signature : ScVal)
      (nestedDelegates : List SorobanDelegateSignature)

inductive SorobanCredentials where
  | sourceAccount
  | address (credentials : SorobanAddressCredentials)
  | addressV2 (credentials : SorobanAddressCredentials)
  | addressWithDelegates (credentials : SorobanAddressCredentials)
      (delegates : List SorobanDelegateSignature)

structure SorobanAuthorizationEntry where
  credentials : SorobanCredentials
  rootInvocation : SorobanAuthorizedInvocation

structure PaymentOp where
  destination : MuxedAccount
  asset : Asset
  amount : Int64
  deriving DecidableEq, Repr

structure PathPaymentStrictReceiveOp where
  sendAsset : Asset
  sendMax : Int64
  destination : MuxedAccount
  destAsset : Asset
  destAmount : Int64
  path : List Asset
  deriving DecidableEq, Repr

structure PathPaymentStrictSendOp where
  sendAsset : Asset
  sendAmount : Int64
  destination : MuxedAccount
  destAsset : Asset
  destMin : Int64
  path : List Asset
  deriving DecidableEq, Repr

structure ChangeTrustOp where
  line : ChangeTrustAsset
  limit : Int64
  deriving DecidableEq, Repr

structure InvokeHostFunctionOp where
  hostFunction : HostFunction
  auth : List SorobanAuthorizationEntry

inductive OperationBody where
  | createAccount (value : Encoded)
  | payment (op : PaymentOp)
  | pathPaymentStrictReceive (op : PathPaymentStrictReceiveOp)
  | manageSellOffer (value : Encoded)
  | createPassiveSellOffer (value : Encoded)
  | setOptions (value : Encoded)
  | changeTrust (op : ChangeTrustOp)
  | allowTrust (value : Encoded)
  | accountMerge (destination : MuxedAccount)
  | inflation
  | manageData (value : Encoded)
  | bumpSequence (value : Encoded)
  | manageBuyOffer (value : Encoded)
  | pathPaymentStrictSend (op : PathPaymentStrictSendOp)
  | createClaimableBalance (value : Encoded)
  | claimClaimableBalance (value : Encoded)
  | beginSponsoringFutureReserves (value : Encoded)
  | endSponsoringFutureReserves
  | revokeSponsorship (value : Encoded)
  | clawback (value : Encoded)
  | clawbackClaimableBalance (value : Encoded)
  | setTrustLineFlags (value : Encoded)
  | liquidityPoolDeposit (value : Encoded)
  | liquidityPoolWithdraw (value : Encoded)
  | invokeHostFunction (op : InvokeHostFunctionOp)
  | extendFootprintTtl (value : Encoded)
  | restoreFootprint (value : Encoded)

structure Operation where
  sourceAccount : Option MuxedAccount
  body : OperationBody

structure TimeBounds where
  minTime : UInt64
  maxTime : UInt64
  deriving DecidableEq, Repr

inductive Preconditions where
  | none
  | time (bounds : TimeBounds)
  | v2 (timeBounds : Option TimeBounds) (others : Encoded)
  deriving DecidableEq, Repr

structure SorobanResources where
  footprint : Encoded
  instructions : UInt32
  diskReadBytes : UInt32
  writeBytes : UInt32
  deriving DecidableEq, Repr

structure SorobanTransactionData where
  ext : Encoded
  resources : SorobanResources
  resourceFee : Int64
  deriving DecidableEq, Repr

inductive TransactionExt where
  | v0
  | v1 (data : SorobanTransactionData)
  deriving DecidableEq, Repr

structure Transaction where
  sourceAccount : MuxedAccount
  fee : UInt32
  seqNum : Int64
  cond : Preconditions
  memo : Encoded
  operations : List Operation
  ext : TransactionExt

structure TransactionV0 where
  sourceAccountEd25519 : Uint256
  fee : UInt32
  seqNum : Int64
  timeBounds : Option TimeBounds
  memo : Encoded
  operations : List Operation

structure DecoratedSignature where
  hint : Encoded
  signature : Encoded
  deriving DecidableEq, Repr

structure TransactionV1Envelope where
  tx : Transaction
  signatures : List DecoratedSignature

structure TransactionV0Envelope where
  tx : TransactionV0
  signatures : List DecoratedSignature

structure FeeBumpTransaction where
  feeSource : MuxedAccount
  fee : Int64
  innerTx : TransactionV1Envelope

structure FeeBumpTransactionEnvelope where
  tx : FeeBumpTransaction
  signatures : List DecoratedSignature

inductive TransactionEnvelope where
  | txV0 (envelope : TransactionV0Envelope)
  | tx (envelope : TransactionV1Envelope)
  | txFeeBump (envelope : FeeBumpTransactionEnvelope)

/-! ## Addresses and assets as text -/

/-- `G…`: the text of an account key. -/
def AccountId.toText (account : AccountId) : String := strkey 48 account.key

/-- `C…`: the text of a contract id. -/
def contractToText (id : Uint256) : String := strkey 16 id

/-- Plain and muxed accounts are written as the underlying `G…` account. -/
def muxedAccountToString (muxed : MuxedAccount) : String := muxed.underlying.toText

/-- The bytes of an asset code up to its first null byte, when they are UTF-8. -/
def assetCodeText (code : List UInt8) : Except String String :=
  match String.fromUTF8? ⟨(code.takeWhile (· != 0)).toArray⟩ with
  | some text => .ok text
  | none => .error "Invalid asset code: invalid utf-8 sequence"

def creditAssetId (code : List UInt8) (issuer : AccountId) : Except String String :=
  (assetCodeText code).map fun text => text ++ ":" ++ issuer.toText

def assetToAssetId : Asset → Except String String
  | .native => .ok "native"
  | .creditAlphanum4 code issuer => creditAssetId code.toList issuer
  | .creditAlphanum12 code issuer => creditAssetId code.toList issuer

theorem colon_mem_creditAssetId {code : List UInt8} {issuer : AccountId} {id : String}
    (hid : creditAssetId code issuer = .ok id) : ':' ∈ id.toList := by
  obtain ⟨text, -, rfl⟩ := exists_of_map_eq_ok hid
  simp [String.toList_append]

/-- Only the native asset is written `native`. -/
theorem assetToAssetId_eq_native {asset : Asset}
    (hid : assetToAssetId asset = .ok "native") : asset = .native := by
  have hnone : ':' ∉ "native".toList := by decide
  cases asset with
  | native => rfl
  | creditAlphanum4 code issuer => exact (hnone (colon_mem_creditAssetId hid)).elim
  | creditAlphanum12 code issuer => exact (hnone (colon_mem_creditAssetId hid)).elim

/-- Native and pool shares have no asset identifier. -/
def changeTrustAssetToAssetId : ChangeTrustAsset → Except String (Option String)
  | .native | .poolShare _ => .ok none
  | .creditAlphanum4 code issuer =>
      (assetToAssetId (.creditAlphanum4 code issuer)).map some
  | .creditAlphanum12 code issuer =>
      (assetToAssetId (.creditAlphanum12 code issuer)).map some

theorem colon_mem_of_assetToAssetId {asset : Asset} {id : String}
    (hid : assetToAssetId asset = .ok id) (hnative : id ≠ "native") : ':' ∈ id.toList := by
  cases asset with
  | native =>
      cases hid
      exact (hnative rfl).elim
  | creditAlphanum4 code issuer => exact colon_mem_creditAssetId hid
  | creditAlphanum12 code issuer => exact colon_mem_creditAssetId hid

theorem colon_mem_of_changeTrustAssetToAssetId {line : ChangeTrustAsset} {id : String}
    (hid : changeTrustAssetToAssetId line = .ok (some id)) : ':' ∈ id.toList := by
  have hcredit : ∀ {code : List UInt8} {issuer : AccountId},
      (creditAssetId code issuer).map some = .ok (some id) → ':' ∈ id.toList := by
    intro code issuer hmap
    obtain ⟨value, hvalue, hsome⟩ := exists_of_map_eq_ok hmap
    cases hsome
    exact colon_mem_creditAssetId hvalue
  cases line with
  | native => cases hid
  | poolShare parameters => cases hid
  | creditAlphanum4 code issuer => exact hcredit hid
  | creditAlphanum12 code issuer => exact hcredit hid

/-! ## What an identifier tells of its asset -/

/-- What the text of an asset is made of: the bytes of the code up to its first null byte, and
the issuer. -/
def Asset.written : Asset → Option (List UInt8 × AccountId)
  | .native => none
  | .creditAlphanum4 code issuer => some (code.toList.takeWhile (· != 0), issuer)
  | .creditAlphanum12 code issuer => some (code.toList.takeWhile (· != 0), issuer)

/-- Null bytes stand only at the end, behind a code of a minimal length. -/
def IsCanonicalCode (shortest : ℕ) (code : List UInt8) : Prop :=
  shortest ≤ (code.takeWhile (· != 0)).length ∧ ∀ byte ∈ code.dropWhile (· != 0), byte = 0

/-- The form that the network demands of an asset's code: one to four bytes, or five to twelve. -/
def Asset.IsCanonical : Asset → Prop
  | .native => True
  | .creditAlphanum4 code _ => IsCanonicalCode 1 code.toList
  | .creditAlphanum12 code _ => IsCanonicalCode 5 code.toList

theorem AccountId.toText_injective : Function.Injective AccountId.toText := by
  rintro ⟨first⟩ ⟨second⟩ htext
  have hkey := congrArg (strkeyKey 48) htext
  rw [AccountId.toText, AccountId.toText, strkeyKey_strkey (by decide),
    strkeyKey_strkey (by decide)] at hkey
  exact congrArg AccountId.mk (Option.some.inj hkey)

theorem toByteArray_of_assetCodeText {code : List UInt8} {text : String}
    (htext : assetCodeText code = .ok text) :
    text.toByteArray = ⟨(code.takeWhile (· != 0)).toArray⟩ := by
  unfold assetCodeText String.fromUTF8? at htext
  split at htext
  · next decoded hdecoded =>
      cases htext
      split at hdecoded
      · cases hdecoded
        rfl
      · cases hdecoded
  · cases htext

/-- The issuer is the last 56 characters, and the code is what stands before the colon. -/
theorem creditAssetId_eq_iff {code code' : List UInt8} {issuer issuer' : AccountId} {id : String}
    (hid : creditAssetId code issuer = .ok id) :
    creditAssetId code' issuer' = .ok id ↔
      code'.takeWhile (· != 0) = code.takeWhile (· != 0) ∧ issuer' = issuer := by
  constructor
  · intro hid'
    obtain ⟨text, htext, rfl⟩ := exists_of_map_eq_ok hid
    obtain ⟨text', htext', heq⟩ := exists_of_map_eq_ok hid'
    have hchars := congrArg String.toList heq
    simp only [String.toList_append, List.append_assoc] at hchars
    have hlength : (":".toList ++ issuer'.toText.toList).length =
        (":".toList ++ issuer.toText.toList).length := by
      simp only [List.length_append, String.length_toList, AccountId.toText, length_strkey]
    obtain ⟨hcode, htail⟩ := List.append_inj' hchars hlength
    refine ⟨?_, ?_⟩
    · have hbytes := toByteArray_of_assetCodeText htext'
      rw [String.toList_inj.mp hcode, toByteArray_of_assetCodeText htext] at hbytes
      simpa using hbytes.symm
    · exact AccountId.toText_injective (String.toList_inj.mp (List.append_cancel_left htail))
  · rintro ⟨hcode, rfl⟩
    rw [creditAssetId, assetCodeText, hcode]
    exact hid

/-- Both kinds of credit assets are written the same way. -/
theorem eq_native_or_credit (asset : Asset) :
    asset = .native ∨ ∃ code issuer, assetToAssetId asset = creditAssetId code issuer ∧
      asset.written = some (code.takeWhile (· != 0), issuer) := by
  cases asset with
  | native => exact .inl rfl
  | creditAlphanum4 code issuer => exact .inr ⟨code.toList, issuer, rfl, rfl⟩
  | creditAlphanum12 code issuer => exact .inr ⟨code.toList, issuer, rfl, rfl⟩

theorem assetToAssetId_eq_iff {first second : Asset} {id : String}
    (hid : assetToAssetId first = .ok id) :
    assetToAssetId second = .ok id ↔ second.written = first.written := by
  rcases eq_native_or_credit first with rfl | ⟨code, issuer, hcredit, hwritten⟩
  · cases hid
    constructor
    · intro hnative
      rw [assetToAssetId_eq_native hnative]
    · intro hnone
      cases second with
      | native => rfl
      | creditAlphanum4 => cases hnone
      | creditAlphanum12 => cases hnone
  · rw [hcredit] at hid
    rcases eq_native_or_credit second with rfl | ⟨code', issuer', hcredit', hwritten'⟩
    · have hcolon := colon_mem_creditAssetId hid
      rw [hwritten]
      constructor
      · intro hnative
        cases hnative
        exact absurd hcolon (by decide)
      · exact fun hnone => (nomatch hnone)
    · rw [hcredit', hwritten', hwritten, creditAssetId_eq_iff hid, Option.some_inj,
        Prod.mk_inj]

theorem IsCanonicalCode.eq_padded {shortest : ℕ} {code : List UInt8}
    (hcode : IsCanonicalCode shortest code) :
    code = code.takeWhile (· != 0) ++
      List.replicate (code.length - (code.takeWhile (· != 0)).length) 0 := by
  have hsplit := code.takeWhile_append_dropWhile (p := (· != 0))
  have hlength := congrArg List.length hsplit
  rw [List.length_append] at hlength
  conv_lhs => rw [← hsplit, List.eq_replicate_of_mem hcode.2]
  congr 2
  omega

theorem not_written_both {short long : List UInt8} (hshort : short.length ≤ 4)
    (hlong : IsCanonicalCode 5 long) : short.takeWhile (· != 0) ≠ long.takeWhile (· != 0) := by
  intro heq
  have hprefix := (List.takeWhile_prefix (· != 0) (l := short)).length_le
  have hleast := hlong.1
  rw [← heq] at hleast
  omega

theorem eq_of_isCanonicalCode {shortest size : ℕ} {first second : Vector UInt8 size}
    (hfirst : IsCanonicalCode shortest first.toList)
    (hsecond : IsCanonicalCode shortest second.toList)
    (hcode : first.toList.takeWhile (· != 0) = second.toList.takeWhile (· != 0)) :
    first = second := by
  rw [← Vector.toList_inj, hfirst.eq_padded, hsecond.eq_padded, hcode, Vector.length_toList,
    Vector.length_toList]

theorem Asset.IsCanonical.eq_of_written {first second : Asset} (hfirst : first.IsCanonical)
    (hsecond : second.IsCanonical) (hwritten : first.written = second.written) :
    first = second := by
  cases first with
  | native =>
      cases second with
      | native => rfl
      | creditAlphanum4 => cases hwritten
      | creditAlphanum12 => cases hwritten
  | creditAlphanum4 code issuer =>
      cases second with
      | native => cases hwritten
      | creditAlphanum4 code' issuer' =>
          obtain ⟨hcode, rfl⟩ := Prod.mk_inj.mp (Option.some.inj hwritten)
          rw [eq_of_isCanonicalCode hfirst hsecond hcode]
      | creditAlphanum12 code' issuer' =>
          obtain ⟨hcode, -⟩ := Prod.mk_inj.mp (Option.some.inj hwritten)
          exact (not_written_both (by simp) hsecond hcode).elim
  | creditAlphanum12 code issuer =>
      cases second with
      | native => cases hwritten
      | creditAlphanum4 code' issuer' =>
          obtain ⟨hcode, -⟩ := Prod.mk_inj.mp (Option.some.inj hwritten)
          exact (not_written_both (by simp) hfirst hcode.symm).elim
      | creditAlphanum12 code' issuer' =>
          obtain ⟨hcode, rfl⟩ := Prod.mk_inj.mp (Option.some.inj hwritten)
          rw [eq_of_isCanonicalCode hfirst hsecond hcode]

/-- Two assets have the same identifier exactly when they agree in the issuer and in the bytes of
the code before its first null byte; among the assets in the form of the network, the identifier
determines the asset. -/
theorem assetToAssetId_determines (first second : Asset) (id : String)
    (hid : assetToAssetId first = .ok id) :
    (assetToAssetId second = .ok id ↔ first.written = second.written) ∧
      (first.IsCanonical → second.IsCanonical → assetToAssetId second = .ok id →
        first = second) := by
  have hwritten : assetToAssetId second = .ok id ↔ second.written = first.written :=
    assetToAssetId_eq_iff hid
  refine ⟨hwritten.trans eq_comm, ?_⟩
  intro hfirst hsecond hid'
  exact hfirst.eq_of_written hsecond (hwritten.mp hid').symm

def sampleIssuer : AccountId := ⟨1⟩

/-- The code `USD` in a field of four bytes. -/
def sampleAsset : Asset := .creditAlphanum4 #v[85, 83, 68, 0] sampleIssuer

/-- The asset with the code `USDXY` has another identifier. -/
theorem assetToAssetId_determines_sample :
    assetToAssetId (.creditAlphanum12 #v[85, 83, 68, 88, 89, 0, 0, 0, 0, 0, 0, 0] sampleIssuer) ≠
      .ok ("USD:" ++ sampleIssuer.toText) := by
  intro hother
  exact absurd ((assetToAssetId_determines sampleAsset _ _ (by decide +kernel)).1.mp hother)
    (by decide)

/-- The code `USD` in fields of four and of twelve bytes, and the code `US` with and without a
byte behind the first null byte: different assets with one identifier each. -/
theorem assetToAssetId_collides :
    let padded := Asset.creditAlphanum12 #v[85, 83, 68, 0, 0, 0, 0, 0, 0, 0, 0, 0] sampleIssuer
    let trailing := Asset.creditAlphanum4 #v[85, 83, 0, 68] sampleIssuer
    let short := Asset.creditAlphanum4 #v[85, 83, 0, 0] sampleIssuer
    assetToAssetId padded = assetToAssetId sampleAsset ∧
      (assetToAssetId sampleAsset).isOk = true ∧ padded ≠ sampleAsset ∧
      assetToAssetId trailing = assetToAssetId short ∧
      (assetToAssetId short).isOk = true ∧ trailing ≠ short := by
  decide +kernel

/-! ## Reading envelopes -/

def extractSourceAccount : TransactionEnvelope → String
  | .txV0 envelope => AccountId.toText ⟨envelope.tx.sourceAccountEd25519⟩
  | .tx envelope => muxedAccountToString envelope.tx.sourceAccount
  | .txFeeBump envelope => muxedAccountToString envelope.tx.feeSource

def extractOperations : TransactionEnvelope → List Operation
  | .txV0 envelope => envelope.tx.operations
  | .tx envelope => envelope.tx.operations
  | .txFeeBump envelope => envelope.tx.innerTx.tx.operations

def OperationBody.isInvokeHostFunction : OperationBody → Bool
  | .invokeHostFunction _ => true
  | _ => false

theorem OperationBody.isInvokeHostFunction_iff {body : OperationBody} :
    body.isInvokeHostFunction = true ↔ ∃ invoke, body = .invokeHostFunction invoke := by
  cases body <;> simp [isInvokeHostFunction]

def xdrNeedsSimulation (envelope : TransactionEnvelope) : Bool :=
  (extractOperations envelope).any fun op => op.body.isInvokeHostFunction

def Preconditions.timeBounds : Preconditions → Option TimeBounds
  | .none => Option.none
  | .time bounds => some bounds
  | .v2 bounds _ => bounds

def extractTimeBounds : TransactionEnvelope → Option TimeBounds
  | .txV0 envelope => envelope.tx.timeBounds
  | .tx envelope => envelope.tx.cond.timeBounds
  | .txFeeBump envelope => envelope.tx.innerTx.tx.cond.timeBounds

/-- The account an operation acts on: its own source, or the transaction's. -/
def effectiveSource (envelope : TransactionEnvelope) (op : Operation) : String :=
  match op.sourceAccount with
  | some source => muxedAccountToString source
  | none => extractSourceAccount envelope

end Relayer.Xdr
