import Relayer.Core.Checks
import Relayer.Stellar.Xdr

/-!
# Operations as they are requested

A request describes its operations in a form of its own: accounts and issuers as
text, assets by code, contract calls by name.  This file converts them to the
operations of an envelope.  Values that other libraries decode (hexadecimal and
base-64 text, JSON arguments, encoded authorization entries) are represented by
what they decode to.
-/

namespace Relayer.StellarOperations

open Relayer.Xdr Relayer.Strkey Relayer.Checks

/-- A conversion fails with the message of its conversion error. -/
abbrev Conversion := Except String

def invalidStrkey : String := "the strkey is invalid"

/-! ## Accounts and assets -/

/-- `G…` text of an account. -/
def parsePublicKey (text : String) : Decoded Uint256 :=
  match strkeyKey 48 text with
  | some key => .ok key
  | none => .error invalidStrkey

/-- `C…` text of a contract. -/
def parseContract (text : String) : Decoded Uint256 :=
  match strkeyKey 16 text with
  | some key => .ok key
  | none => .error invalidStrkey

/-- `M…` text of a muxed account, or else `G…` text of a plain one. -/
def parseMuxedAccount (text : String) : Decoded MuxedAccount :=
  match muxedStrkeyKey 96 text with
  | some (key, id) => .ok (.muxedEd25519 id key)
  | none => (parsePublicKey text).map .ed25519

def stringToMuxedAccount (address : String) : Except String MuxedAccount :=
  (parseMuxedAccount address).mapError fun e => s!"Failed to decode account ID: {e}"

def parseDestinationAddress (destination : String) : Conversion MuxedAccount :=
  (parseMuxedAccount destination).mapError fun e => s!"Invalid destination: {e}"

theorem parsePublicKey_toText (account : AccountId) :
    parsePublicKey account.toText = .ok account.key := by
  have hkey : strkeyKey 48 (strkey 48 account.key) = some account.key :=
    strkeyKey_strkey (by decide) account.key
  rw [parsePublicKey, AccountId.toText, hkey]

theorem parseMuxedAccount_toText (account : AccountId) :
    parseMuxedAccount account.toText = .ok (.ed25519 account.key) := by
  have hmuxed : muxedStrkeyKey 96 account.toText = none :=
    muxedStrkeyKey_strkey 96 48 account.key
  rw [parseMuxedAccount, hmuxed, parsePublicKey_toText, Except.map]

inductive AssetSpec where
  | native
  | credit4 (code issuer : String)
  | credit12 (code issuer : String)
  deriving DecidableEq, Repr

def utf8Bytes (text : String) : List UInt8 := text.toUTF8.data.toList

/-- The bytes at the front of a buffer of zeros. -/
def fillBuffer (size : ℕ) (bytes : List UInt8) : Vector UInt8 size :=
  Vector.ofFn fun index => bytes.getD index 0

def parseIssuer (issuer : String) : Conversion AccountId := do
  let key ← (parsePublicKey issuer).mapError fun e => s!"Invalid issuer: {e}"
  return ⟨key⟩

def convertAsset : AssetSpec → Conversion Asset
  | .native => .ok .native
  | .credit4 code issuer =>
      let bytes := utf8Bytes code
      if 1 ≤ bytes.length ∧ bytes.length ≤ 4 then do
        let issuer ← parseIssuer issuer
        return .creditAlphanum4 (fillBuffer 4 bytes) issuer
      else .error "asset code 1-4 chars"
  | .credit12 code issuer =>
      let bytes := utf8Bytes code
      if 5 ≤ bytes.length ∧ bytes.length ≤ 12 then do
        let issuer ← parseIssuer issuer
        return .creditAlphanum12 (fillBuffer 12 bytes) issuer
      else .error "asset code 5-12 chars"

/-! ## The name an asset is given back -/

/-- The text up to its first null character. -/
def cutAtNull (text : String) : String :=
  String.ofList (text.toList.takeWhile (· != '\x00'))

theorem zero_mem_utf8EncodeChar {char : Char} :
    0 ∈ String.utf8EncodeChar char ↔ char = '\x00' := by
  have hbyte : ∀ value : ℕ, (0 : UInt8) = UInt8.ofNat value ↔ value % 256 = 0 := by
    intro value
    rw [← UInt8.toNat_inj, UInt8.toNat_ofNat', eq_comm]
    rfl
  constructor
  · intro hzero
    -- only the single byte of the null character is zero
    have hnull : char.val.toNat = 0 := by
      simp only [String.utf8EncodeChar] at hzero
      split_ifs at hzero
      all_goals
        simp only [List.mem_cons, List.not_mem_nil, or_false, hbyte] at hzero
        omega
    exact Char.ext (UInt32.toNat_inj.mp hnull)
  · rintro rfl
    decide

theorem takeWhile_flatMap_utf8EncodeChar (chars : List Char) :
    (chars.flatMap String.utf8EncodeChar).takeWhile (· != 0) =
      (chars.takeWhile (· != '\x00')).flatMap String.utf8EncodeChar := by
  induction chars with
  | nil => rfl
  | cons char rest ih =>
      by_cases hnull : char = '\x00'
      · subst hnull
        rfl
      · have hbytes : ∀ byte ∈ String.utf8EncodeChar char, (byte != 0) = true := by
          intro byte hmem
          rw [bne_iff_ne]
          rintro rfl
          exact hnull (zero_mem_utf8EncodeChar.mp hmem)
        rw [List.flatMap_cons, List.takeWhile_append_of_pos hbytes, ih,
          List.takeWhile_cons_of_pos (by simpa using hnull), List.flatMap_cons]

theorem utf8Bytes_eq (text : String) :
    utf8Bytes text = text.toList.flatMap String.utf8EncodeChar := by
  have hchars : String.ofList text.toList = text := String.ofList_toList
  calc utf8Bytes text = utf8Bytes (String.ofList text.toList) := by rw [hchars]
    _ = text.toList.utf8Encode.data.toList := by
      rw [utf8Bytes, String.toUTF8_eq_toByteArray, String.toByteArray_ofList]
    _ = text.toList.flatMap String.utf8EncodeChar := by simp [List.utf8Encode]

theorem takeWhile_fillBuffer {size : ℕ} {bytes : List UInt8} (hfits : bytes.length ≤ size) :
    (fillBuffer size bytes).toList.takeWhile (· != 0) = bytes.takeWhile (· != 0) := by
  have hlist : (fillBuffer size bytes).toList =
      bytes ++ List.replicate (size - bytes.length) 0 := by
    apply List.ext_getElem
    · simp
      omega
    · intro index hleft hright
      simp [fillBuffer, List.getElem_append, List.getD_eq_getElem?_getD]
      split
      · next h => simp [h]
      · next h => simp [List.getElem?_eq_none (not_lt.mp h)]
  have hpadding :
      (List.replicate (size - bytes.length) (0 : UInt8)).takeWhile (· != 0) = [] := by
    cases size - bytes.length <;> rfl
  rw [hlist, List.takeWhile_append, hpadding, List.append_nil]
  split_ifs with hall
  · exact (List.takeWhile_prefix _).eq_of_length hall |>.symm
  · rfl

theorem fromUTF8?_flatMap (chars : List Char) :
    String.fromUTF8? ⟨(chars.flatMap String.utf8EncodeChar).toArray⟩ =
      some (String.ofList chars) := by
  have hbytes : (⟨(chars.flatMap String.utf8EncodeChar).toArray⟩ : ByteArray) =
      chars.utf8Encode := by
    rw [List.utf8Encode]
    ext1
    simp
  have hvalid : (⟨(chars.flatMap String.utf8EncodeChar).toArray⟩ : ByteArray).IsValidUTF8 :=
    ⟨chars, hbytes⟩
  rw [String.fromUTF8?, dif_pos hvalid, Option.some_inj, ← String.toByteArray_inj,
    String.toByteArray_ofList, ← hbytes]
  rfl

theorem assetCodeText_fillBuffer {size : ℕ} {code : String}
    (hfits : (utf8Bytes code).length ≤ size) :
    assetCodeText (fillBuffer size (utf8Bytes code)).toList = .ok (cutAtNull code) := by
  rw [assetCodeText, takeWhile_fillBuffer hfits, utf8Bytes_eq,
    takeWhile_flatMap_utf8EncodeChar, fromUTF8?_flatMap, cutAtNull]

/-- The identifier that an asset is given back, once it is converted. -/
def AssetSpec.identifier : AssetSpec → String
  | native => "native"
  | credit4 code issuer | credit12 code issuer => cutAtNull code ++ ":" ++ issuer

theorem toText_of_parseIssuer {issuer : String} {account : AccountId}
    (hok : parseIssuer issuer = .ok account) : account.toText = issuer := by
  obtain ⟨key, hkey, hdone⟩ := bind_eq_ok.mp hok
  cases hdone
  have hparsed := ok_of_mapError hkey
  rw [parsePublicKey] at hparsed
  split at hparsed
  · next hdecoded =>
      obtain rfl := Except.ok.inj hparsed
      exact strkey_of_strkeyKey hdecoded
  · cases hparsed

theorem assetToAssetId_of_convertAsset {spec : AssetSpec} {asset : Asset}
    (hok : convertAsset spec = .ok asset) : assetToAssetId asset = .ok spec.identifier := by
  cases spec with
  | native =>
      cases hok
      rfl
  | credit4 code issuer =>
      rw [convertAsset] at hok
      split_ifs at hok with hlength
      obtain ⟨account, hissuer, hdone⟩ := bind_eq_ok.mp hok
      cases hdone
      rw [assetToAssetId, creditAssetId, assetCodeText_fillBuffer hlength.2, Except.map,
        toText_of_parseIssuer hissuer, AssetSpec.identifier]
  | credit12 code issuer =>
      rw [convertAsset] at hok
      split_ifs at hok with hlength
      obtain ⟨account, hissuer, hdone⟩ := bind_eq_ok.mp hok
      cases hdone
      rw [assetToAssetId, creditAssetId, assetCodeText_fillBuffer hlength.2, Except.map,
        toText_of_parseIssuer hissuer, AssetSpec.identifier]

/-! ## Host functions -/

inductive WasmSource where
  | hex (bytes : Decoded (List UInt8))
  | base64 (bytes : Decoded (List UInt8))

inductive ContractSource where
  | address (address : String)
  | contract (contract : String)
  deriving DecidableEq, Repr

/-- Thirty-two bytes as a number, most significant first. -/
def uint256OfBytes (bytes : List UInt8) : Uint256 :=
  BitVec.ofNat 256 (bytes.foldl (fun value byte => value * 256 + byte.toNat) 0)

def wasmSourceToBytes : WasmSource → Conversion (List UInt8)
  | .hex bytes => bytes.mapError fun e => s!"Invalid hex in wasm: {e}"
  | .base64 bytes => bytes.mapError fun e => s!"Invalid base64 in wasm: {e}"

def parseSaltBytes : Option (Decoded (List UInt8)) → Conversion Uint256
  | none => .ok 0
  | some salt => do
      let bytes ← salt.mapError fun e => s!"Invalid salt hex: {e}"
      if bytes.length ≠ 32 then .error "Salt must be 32 bytes"
      else return uint256OfBytes bytes

def parseWasmHash (wasmHash : Decoded (List UInt8)) : Conversion Uint256 := do
  let bytes ← wasmHash.mapError fun e => s!"Invalid hex in wasm_hash: {e}"
  let count := bytes.length
  if count ≠ 32 then .error s!"Hash must be 32 bytes, got {count}"
  else return uint256OfBytes bytes

def buildContractPreimage (source : ContractSource)
    (salt : Option (Decoded (List UInt8))) : Conversion ContractIdPreimage := do
  let saltBytes ← parseSaltBytes salt
  match source with
  | .address address => do
      let key ← (parsePublicKey address).mapError fun e => s!"Invalid account address: {e}"
      return .address (.account ⟨key⟩) saltBytes
  | .contract contract => do
      let key ← (parseContract contract).mapError fun e => s!"Invalid contract address: {e}"
      return .address (.contract key) saltBytes

def convertArgs (args : List (Decoded ScVal)) : Conversion (List ScVal) :=
  args.mapM fun arg => arg.mapError fun e => s!"Failed to deserialize ScVal: {e}"

/-- The longest symbol. -/
def scSymbolLimit : ℕ := 32

def convertInvokeContract (contractAddress functionName : String)
    (args : List (Decoded ScVal)) : Conversion HostFunction := do
  let contract ← (parseContract contractAddress).mapError fun e =>
    s!"Invalid contract address: {e}"
  if scSymbolLimit < functionName.utf8ByteSize then
    .error "Invalid function name: xdr value max length exceeded"
  else do
    let args ← convertArgs args
    return .invokeContract ⟨.contract contract, functionName, args⟩

def convertUploadWasm (wasm : WasmSource) : Conversion HostFunction := do
  let bytes ← wasmSourceToBytes wasm
  return .uploadContractWasm bytes

/-- Constructor arguments, when there are any, ask for the second version. -/
def convertCreateContract (source : ContractSource) (wasmHash : Decoded (List UInt8))
    (salt : Option (Decoded (List UInt8)))
    (constructorArgs : Option (List (Decoded ScVal))) : Conversion HostFunction := do
  let preimage ← buildContractPreimage source salt
  let hash ← parseWasmHash wasmHash
  match constructorArgs.getD [] with
  | [] => return .createContract ⟨preimage, .wasm hash⟩
  | args => do
      let args ← convertArgs args
      return .createContractV2 ⟨preimage, .wasm hash, args⟩

/-! ## Authorization -/

inductive AuthSpec where
  | none
  | sourceAccount
  | addresses (signers : List String)
  | xdr (entries : List (Decoded SorobanAuthorizationEntry))

def createSourceAccountAuthEntry (function : SorobanAuthorizedFunction) :
    SorobanAuthorizationEntry :=
  ⟨.sourceAccount, .mk function []⟩

def decodeXdrAuthEntries (entries : List (Decoded SorobanAuthorizationEntry)) :
    Conversion (List SorobanAuthorizationEntry) :=
  entries.mapM fun entry => entry.mapError fun e => s!"Invalid auth XDR: {e}"

def generateDefaultAuthEntries : HostFunction → List SorobanAuthorizationEntry
  | .createContract args => [createSourceAccountAuthEntry (.createContractHostFn args)]
  | .createContractV2 args => [createSourceAccountAuthEntry (.createContractV2HostFn args)]
  | .invokeContract args => [createSourceAccountAuthEntry (.contractFn args)]
  | .uploadContractWasm _ => []

def buildAuthVector (auth : Option AuthSpec) (hostFunction : HostFunction) :
    Conversion (List SorobanAuthorizationEntry) :=
  match auth with
  | some .none => .ok []
  | some .sourceAccount | none => .ok (generateDefaultAuthEntries hostFunction)
  | some (.addresses _) => .error "Address-based auth not yet implemented"
  | some (.xdr entries) => decodeXdrAuthEntries entries

/-! ## Operations -/

inductive OperationSpec where
  | payment (destination : String) (amount : Int64) (asset : AssetSpec)
  | invokeContract (contractAddress functionName : String) (args : List (Decoded ScVal))
      (auth : Option AuthSpec)
  | createContract (source : ContractSource) (wasmHash : Decoded (List UInt8))
      (salt : Option (Decoded (List UInt8)))
      (constructorArgs : Option (List (Decoded ScVal))) (auth : Option AuthSpec)
  | uploadWasm (wasm : WasmSource) (auth : Option AuthSpec)

def convertPaymentOperation (destination : String) (amount : Int64) (asset : AssetSpec) :
    Conversion Operation := do
  let destination ← parseDestinationAddress destination
  let asset ← convertAsset asset
  return ⟨none, .payment ⟨destination, asset, amount⟩⟩

/-- The operation that runs a host function with its authorization entries. -/
def convertHostFunctionOperation (hostFunction : Conversion HostFunction)
    (auth : Option AuthSpec) : Conversion Operation := do
  let hostFunction ← hostFunction
  let auth ← buildAuthVector auth hostFunction
  return ⟨none, .invokeHostFunction ⟨hostFunction, auth⟩⟩

def convertOperation : OperationSpec → Conversion Operation
  | .payment destination amount asset => convertPaymentOperation destination amount asset
  | .invokeContract contractAddress functionName args auth =>
      convertHostFunctionOperation
        (convertInvokeContract contractAddress functionName args) auth
  | .createContract source wasmHash salt constructorArgs auth =>
      convertHostFunctionOperation
        (convertCreateContract source wasmHash salt constructorArgs) auth
  | .uploadWasm wasm auth => convertHostFunctionOperation (convertUploadWasm wasm) auth

/-! ## Memos -/

inductive MemoSpec where
  | none
  | text (value : String)
  | id (value : UInt64)
  | hash (value : Uint256)
  | return (value : Uint256)
  deriving DecidableEq, Repr

/-- The longest text of a memo, in bytes. -/
def memoTextLimit : ℕ := 28

/-- A number in `count` bytes, most significant first. -/
def bigEndian : ℕ → ℕ → Encoded
  | 0, _ => []
  | count + 1, value => bigEndian count (value / 256) ++ [UInt8.ofNat value]

/-- The encoding of a memo: its kind, then its value padded to four bytes. -/
def convertMemo : MemoSpec → Conversion Encoded
  | .none => .ok (bigEndian 4 0)
  | .text value =>
      let bytes := utf8Bytes value
      let count := bytes.length
      if memoTextLimit < count then
        .error "Invalid memo text: xdr value max length exceeded"
      else
        let padding := List.replicate ((4 - count % 4) % 4) 0
        .ok (bigEndian 4 1 ++ bigEndian 4 count ++ bytes ++ padding)
  | .id value => .ok (bigEndian 4 2 ++ bigEndian 8 value.toNat)
  | .hash value => .ok (bigEndian 4 3 ++ bigEndian 32 value.toNat)
  | .return value => .ok (bigEndian 4 4 ++ bigEndian 32 value.toNat)

end Relayer.StellarOperations
