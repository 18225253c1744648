import Relayer.Solana.Message

/-!
# Instructions of the System and token programs

System instructions are encoded with fixed-width little-endian integers and may
be followed by further bytes.  The token programs have decoders of their own;
they are parameters here, and what their instructions do to token accounts is
described by which account and which authority each of them names.
-/

namespace Relayer.SolanaPrograms

open Relayer.SolanaMessage

/-! ## The System program -/

inductive SystemInstruction where
  | createAccount (lamports space : UInt64) (owner : Pubkey)
  | assign (owner : Pubkey)
  | transfer (lamports : UInt64)
  | createAccountWithSeed (base : Pubkey) (seed : String) (lamports space : UInt64)
      (owner : Pubkey)
  | advanceNonceAccount
  | withdrawNonceAccount (lamports : UInt64)
  | initializeNonceAccount (authority : Pubkey)
  | authorizeNonceAccount (authority : Pubkey)
  | allocate (space : UInt64)
  | allocateWithSeed (base : Pubkey) (seed : String) (space : UInt64) (owner : Pubkey)
  | assignWithSeed (base : Pubkey) (seed : String) (owner : Pubkey)
  | transferWithSeed (lamports : UInt64) (fromSeed : String) (fromOwner : Pubkey)
  | upgradeNonceAccount
  deriving DecidableEq, Repr

/-- A computation that consumes bytes and may fail. -/
abbrev ByteReader := StateT (List UInt8) Option

def takeBytes (count : ℕ) : ByteReader (List UInt8) := fun input =>
  if input.length < count then none else some (input.take count, input.drop count)

def littleEndian (bytes : List UInt8) : ℕ :=
  bytes.foldr (fun byte value => value * 256 + byte.toNat) 0

def readU32 : ByteReader UInt32 :=
  (fun bytes => UInt32.ofNat (littleEndian bytes)) <$> takeBytes 4

def readU64 : ByteReader UInt64 :=
  (fun bytes => UInt64.ofNat (littleEndian bytes)) <$> takeBytes 8

def readPubkey : ByteReader Pubkey :=
  (fun bytes => ⟨BitVec.ofNat 256 (littleEndian bytes.reverse)⟩) <$> takeBytes 32

/-- A length in eight bytes and that many bytes of UTF-8. -/
def readString : ByteReader String := do
  let length ← readU64
  let bytes ← takeBytes length.toNat
  StateT.lift (String.fromUTF8? ⟨bytes.toArray⟩)

/-- The fields that follow a variant's number. -/
def readSystemFields : ℕ → ByteReader SystemInstruction
  | 0 => .createAccount <$> readU64 <*> readU64 <*> readPubkey
  | 1 => .assign <$> readPubkey
  | 2 => .transfer <$> readU64
  | 3 => .createAccountWithSeed <$> readPubkey <*> readString <*> readU64 <*> readU64 <*>
      readPubkey
  | 4 => pure .advanceNonceAccount
  | 5 => .withdrawNonceAccount <$> readU64
  | 6 => .initializeNonceAccount <$> readPubkey
  | 7 => .authorizeNonceAccount <$> readPubkey
  | 8 => .allocate <$> readU64
  | 9 => .allocateWithSeed <$> readPubkey <*> readString <*> readU64 <*> readPubkey
  | 10 => .assignWithSeed <$> readPubkey <*> readString <*> readPubkey
  | 11 => .transferWithSeed <$> readU64 <*> readString <*> readPubkey
  | 12 => pure .upgradeNonceAccount
  | _ => StateT.lift none

/-- `bincode::deserialize::<SystemInstruction>`. -/
def deserializeSystemInstruction (data : List UInt8) : Option SystemInstruction :=
  ((readU32 >>= fun variant => readSystemFields variant.toNat) data).map Prod.fst

/-- What an instruction takes from the first account it names. -/
def SystemInstruction.lamportsTaken : SystemInstruction → Option UInt64
  | .createAccount lamports _ _ => some lamports
  | .transfer lamports => some lamports
  | .createAccountWithSeed _ _ lamports _ _ => some lamports
  | .withdrawNonceAccount lamports => some lamports
  | .transferWithSeed lamports _ _ => some lamports
  | _ => none

def SystemInstruction.isTransfer : SystemInstruction → Bool
  | .transfer _ => true
  | _ => false

/-- The System instruction at an instruction, when it is one and can be decoded. -/
def systemInstruction (message : Message) (ix : CompiledInstruction) :
    Option SystemInstruction :=
  if message.programId ix = some systemProgramId then deserializeSystemInstruction ix.data
  else none

/-! ## The token programs -/

/-- What an instruction does to a token account under an authority. -/
inductive TokenAction where
  | debit
  | delegate
  | close
  | reassign
  deriving DecidableEq, Repr

/-- An action with the positions of the token account and of its authority in the
instruction's account list. -/
structure TokenControl where
  action : TokenAction
  account : ℕ
  authority : ℕ
  deriving DecidableEq, Repr

inductive AuthorityType where
  | mintTokens
  | freezeAccount
  | accountOwner
  | closeAccount
  | ofExtension (value : UInt8)
  deriving DecidableEq, Repr

/-- The instructions of the token interfaces.  Those that touch no token account
under its owner's authority are `other`, and an instruction of an extension comes
with what it does. -/
inductive SplInstruction where
  | transfer (amount : UInt64)
  | approve (amount : UInt64)
  | setAuthority (authorityType : AuthorityType)
  | burn (amount : UInt64)
  | closeAccount
  | transferChecked (amount : UInt64) (decimals : UInt8)
  | approveChecked (amount : UInt64) (decimals : UInt8)
  | burnChecked (amount : UInt64) (decimals : UInt8)
  | ofExtension (controls : List TokenControl)
  | other
  deriving DecidableEq, Repr

/-- The account layouts of the token interfaces. -/
def SplInstruction.controls : SplInstruction → List TokenControl
  | .transfer _ => [⟨.debit, 0, 2⟩]
  | .transferChecked _ _ => [⟨.debit, 0, 3⟩]
  | .approve _ => [⟨.delegate, 0, 2⟩]
  | .approveChecked _ _ => [⟨.delegate, 0, 3⟩]
  | .burn _ => [⟨.debit, 0, 2⟩]
  | .burnChecked _ _ => [⟨.debit, 0, 2⟩]
  | .closeAccount => [⟨.close, 0, 2⟩]
  | .setAuthority .accountOwner => [⟨.reassign, 0, 1⟩]
  | .setAuthority .closeAccount => [⟨.reassign, 0, 1⟩]
  | .setAuthority _ => []
  | .ofExtension controls => controls
  | .other => []

structure SolanaAccount where
  owner : Pubkey
  data : List UInt8
  deriving DecidableEq, Repr

structure TokenAccount where
  mint : Pubkey
  owner : Pubkey
  amount : UInt64
  isFrozen : Bool
  deriving DecidableEq, Repr

/-- The decoders of the two token interfaces, by program. -/
structure TokenInterfaces where
  unpackInstruction : Pubkey → List UInt8 → Except String SplInstruction
  unpackAccount : Pubkey → List UInt8 → Except String TokenAccount
  unpackMintDecimals : List UInt8 → Except String UInt8

/-- The distinction the relayer makes. -/
inductive TokenInstruction where
  | transfer (amount : UInt64)
  | transferChecked (amount : UInt64) (decimals : UInt8)
  | other
  deriving DecidableEq, Repr

def isTokenProgram (programId : Pubkey) : Bool :=
  programId == splTokenId || programId == splToken2022Id

def TokenInstruction.ofSpl : SplInstruction → TokenInstruction
  | .transfer amount => .transfer amount
  | .transferChecked amount decimals => .transferChecked amount decimals
  | _ => .other

def unknownTokenProgram (programId : Pubkey) : String :=
  let text := programId.toText
  s!"Invalid token program: Unknown token program: {text}"

def unpackInstruction (spl : TokenInterfaces) (programId : Pubkey) (data : List UInt8) :
    Except String TokenInstruction :=
  if isTokenProgram programId then
    match spl.unpackInstruction programId data with
    | .ok instruction => .ok (.ofSpl instruction)
    | .error e => .error s!"Invalid token instruction: {e}"
  else .error (unknownTokenProgram programId)

def unpackAccount (spl : TokenInterfaces) (programId : Pubkey) (account : SolanaAccount) :
    Except String TokenAccount :=
  if isTokenProgram programId then
    (spl.unpackAccount programId account.data).mapError fun e =>
      if programId == splTokenId then s!"Account error: Invalid token account1: {e}"
      else s!"Account error: Invalid token account2: {e}"
  else .error (unknownTokenProgram programId)

/-! ## The base encoding

The instructions and accounts that both token programs share.
-/

def readU8 : ByteReader UInt8 := (fun bytes => bytes.headD 0) <$> takeBytes 1

def authorityTypeOf (value : UInt8) : AuthorityType :=
  match value.toNat with
  | 0 => .mintTokens
  | 1 => .freezeAccount
  | 2 => .accountOwner
  | 3 => .closeAccount
  | _ => .ofExtension value

def readBaseFields : ℕ → ByteReader SplInstruction
  | 3 => .transfer <$> readU64
  | 4 => .approve <$> readU64
  | 6 => (fun value => .setAuthority (authorityTypeOf value)) <$> readU8
  | 8 => .burn <$> readU64
  | 9 => pure .closeAccount
  | 12 => .transferChecked <$> readU64 <*> readU8
  | 13 => .approveChecked <$> readU64 <*> readU8
  | 15 => .burnChecked <$> readU64 <*> readU8
  | variant => if variant < 25 then pure .other else StateT.lift none

def unpackBaseInstruction (data : List UInt8) : Except String SplInstruction :=
  match (readU8 >>= fun variant => readBaseFields variant.toNat) data with
  | some (instruction, _) => .ok instruction
  | none => .error "Invalid instruction"

/-- Mint, owner and amount come first; the state follows the optional delegate. -/
def unpackBaseAccount (data : List UInt8) : Except String TokenAccount :=
  match (do
    let mint ← readPubkey
    let owner ← readPubkey
    let amount ← readU64
    let _ ← takeBytes 36
    let state ← readU8
    return (mint, owner, amount, state) : ByteReader _) data with
  | some ((mint, owner, amount, state), _) =>
      if data.length < 165 then .error "An account's data contents was invalid"
      else if state = 0 then .error "An account has not been initialized"
      else .ok ⟨mint, owner, amount, state == 2⟩
  | none => .error "An account's data contents was invalid"

/-- The decimals follow the mint authority and the supply. -/
def unpackBaseDecimals (data : List UInt8) : Except String UInt8 :=
  match (takeBytes 44 >>= fun _ => readU8) data with
  | some (decimals, _) => .ok decimals
  | none => .error "An account's data contents was invalid"

def baseInterfaces : TokenInterfaces where
  unpackInstruction _ := unpackBaseInstruction
  unpackAccount _ := unpackBaseAccount
  unpackMintDecimals := unpackBaseDecimals

/-- The token instruction at an instruction, when it is one and can be decoded. -/
def splInstruction (spl : TokenInterfaces) (message : Message) (ix : CompiledInstruction) :
    Option SplInstruction :=
  (message.programId ix).bind fun programId =>
    if isTokenProgram programId then (spl.unpackInstruction programId ix.data).toOption
    else none

end Relayer.SolanaPrograms
