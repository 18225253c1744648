import Mathlib

/-!
# Solana messages

A message names its accounts once and its instructions refer to them by index.
Which accounts sign and which may be written is read off the header, and a key
that is called as a program loses its write access.
-/

namespace Relayer.SolanaMessage

/-- The 32 bytes of a public key, read as a big-endian number. -/
structure Pubkey where
  value : BitVec 256
  deriving DecidableEq, Repr

/-! ## Base 58 -/

def base58Alphabet : List Char :=
  "123456789ABCDEFGHJKLMNPQRSTUVWXYZabcdefghijkmnopqrstuvwxyz".toList

/-- The `count` last digits of a number, most significant first. -/
def base58Digits : ℕ → ℕ → List ℕ
  | 0, _ => []
  | count + 1, value => base58Digits count (value / 58) ++ [value % 58]

def byteLength (value : ℕ) : ℕ := if value = 0 then 0 else Nat.log2 value / 8 + 1

/-- Every leading zero byte is written as `1`. -/
def Pubkey.toText (key : Pubkey) : String :=
  let zeros := List.replicate (32 - byteLength key.value.toNat) '1'
  let digits := (base58Digits 44 key.value.toNat).dropWhile (· == 0)
  String.ofList (zeros ++ digits.map fun digit => base58Alphabet.getD digit '1')

def base58Value (digits : List ℕ) : ℕ :=
  digits.foldl (fun value digit => value * 58 + digit) 0

/-- `Pubkey::from_str`. -/
def Pubkey.fromStr (text : String) : Except String Pubkey :=
  let chars := text.toList
  if 44 < chars.length then .error "String is the wrong size"
  else if !chars.all base58Alphabet.contains then .error "Invalid Base58 string"
  else
    let value := base58Value (chars.map base58Alphabet.idxOf)
    if (chars.takeWhile (· == '1')).length + byteLength value = 32 then
      .ok ⟨BitVec.ofNat 256 value⟩
    else .error "String is the wrong size"

/-- The key that a well-known text stands for. -/
def Pubkey.ofText (text : String) : Pubkey :=
  ⟨BitVec.ofNat 256 (base58Value (text.toList.map base58Alphabet.idxOf))⟩

def systemProgramId : Pubkey := .ofText "11111111111111111111111111111111"
def splTokenId : Pubkey := .ofText "TokenkegQfeZyiNwAJbNbGKPFXCWuBvf9Ss623VQ5DA"
def splToken2022Id : Pubkey := .ofText "TokenzQdBNbLqP5VEhdkAS6EPFLC1PHnBqCXEpPxuEb"
def bpfLoaderUpgradeableId : Pubkey := .ofText "BPFLoaderUpgradeab1e11111111111111111111111"

/-! ## Messages -/

structure MessageHeader where
  numRequiredSignatures : UInt8
  numReadonlySignedAccounts : UInt8
  numReadonlyUnsignedAccounts : UInt8
  deriving DecidableEq, Repr

structure CompiledInstruction where
  programIdIndex : UInt8
  accounts : List UInt8
  data : List UInt8
  deriving DecidableEq, Repr

structure Message where
  header : MessageHeader
  accountKeys : List Pubkey
  recentBlockhash : Pubkey
  instructions : List CompiledInstruction
  deriving DecidableEq, Repr

structure SolanaTransaction where
  signatures : List (List UInt8)
  message : Message
  deriving DecidableEq, Repr

namespace Message

/-- The signers come first. -/
def isSigner (message : Message) (index : ℕ) : Bool :=
  index < message.header.numRequiredSignatures.toNat

/-- Read-only accounts stand at the end of the signers and at the end of all keys. -/
def isWritableIndex (message : Message) (index : ℕ) : Bool :=
  let signers := message.header.numRequiredSignatures.toNat
  index < signers - message.header.numReadonlySignedAccounts.toNat ||
    (signers ≤ index &&
      index < message.accountKeys.length - message.header.numReadonlyUnsignedAccounts.toNat)

def isKeyCalledAsProgram (message : Message) (index : ℕ) : Bool :=
  message.instructions.any fun ix => ix.programIdIndex.toNat == index

def demoteProgramId (message : Message) (index : ℕ) : Bool :=
  message.isKeyCalledAsProgram index &&
    !message.accountKeys.contains bpfLoaderUpgradeableId

/-- `is_maybe_writable` without reserved accounts. -/
def isMaybeWritable (message : Message) (index : ℕ) : Bool :=
  message.isWritableIndex index && !message.demoteProgramId index

/-- The key of the program an instruction calls, when its index is in range. -/
def programId (message : Message) (ix : CompiledInstruction) : Option Pubkey :=
  message.accountKeys[ix.programIdIndex.toNat]?

/-- The key at a position of an instruction's account list. -/
def accountAt (message : Message) (ix : CompiledInstruction) (position : ℕ) :
    Option Pubkey :=
  ix.accounts[position]?.bind fun index => message.accountKeys[index.toNat]?

end Message

/-! ## Serialized size -/

/-- A transfer from account 1 to account 2, signed by account 1 and perhaps by account 2. -/
def transferMessage (signers : UInt8) (blockhash : Pubkey) : Message where
  header := ⟨signers, 0, 1⟩
  accountKeys := [⟨1⟩, ⟨2⟩, systemProgramId]
  recentBlockhash := blockhash
  instructions := [⟨2, [0, 1], [2, 0, 0, 0]⟩]

end Relayer.SolanaMessage
