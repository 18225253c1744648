import Relayer.Core.Checks
import Relayer.Solana.Programs

/-!
# Validation of Solana transactions

The checks a transaction passes before the relayer signs it as the fee payer.
A check that indexes past the end of a list stops the request, which is kept
apart from the errors the checks return.
-/

namespace Relayer.SolanaValidation

open Relayer.Checks Relayer.SolanaMessage Relayer.SolanaPrograms

inductive SolanaTransactionValidationError where
  | decodeError (message : String)
  | deserializeError (message : String)
  | signingError (message : String)
  | policyViolation (message : String)
  | expiredBlockhash (message : String)
  | validationError (message : String)
  | feePayer (message : String)
  | insufficientFunds (message : String)
  | insufficientBalance (message : String)
  | underlyingSolanaProvider (message : String)
  deriving DecidableEq, Repr

/-- An error that is returned, or an index out of range. -/
inductive Fault (Error : Type) where
  | returned (error : Error)
  | outOfBounds (index length : ℕ)
  deriving DecidableEq, Repr

abbrev ValidationFault := Fault SolanaTransactionValidationError

abbrev Validation := Except ValidationFault

def violation (message : String) : ValidationFault := .returned (.policyViolation message)
def invalid (message : String) : ValidationFault := .returned (.validationError message)

/-- Indexing as the source does it. -/
def index {A Error : Type} (values : List A) (position : ℕ) : Except (Fault Error) A :=
  match values[position]? with
  | some value => .ok value
  | none => .error (.outOfBounds position values.length)

structure SolanaAllowedTokensPolicy where
  mint : String
  decimals : Option UInt8
  maxAllowedFee : Option UInt64
  /-- Slippage of the token's swap configuration. -/
  slippagePercentage : Option Float32

inductive SolanaFeePaymentStrategy where
  | user
  | relayer
  deriving DecidableEq, Repr

structure RelayerSolanaPolicy where
  allowedPrograms : Option (List String)
  maxSignatures : Option UInt8
  maxTxDataSize : Option UInt16
  allowedTokens : Option (List SolanaAllowedTokensPolicy)
  feePaymentStrategy : Option SolanaFeePaymentStrategy
  allowedAccounts : Option (List String)
  disallowedAccounts : Option (List String)
  feeMarginPercentage : Option Float32
  minBalance : Option UInt64
  maxAllowedFeeLamports : Option UInt64

def RelayerSolanaPolicy.getAllowedTokenEntry (policy : RelayerSolanaPolicy) (mint : String) :
    Option SolanaAllowedTokensPolicy :=
  (policy.allowedTokens.getD []).find? fun entry => entry.mint == mint

/-- What the validators ask of the provider. -/
structure SolanaServices where
  isBlockhashValid : Pubkey → Except String Bool
  simulateTransaction : SolanaTransaction → Except String Unit
  getAccountFromPubkey : Pubkey → Except String SolanaAccount
  getSolToTokenQuote : String → UInt64 → Float32 → Except String (UInt64 × UInt64)

def validateFeePayer (tx : SolanaTransaction) (relayer : Pubkey) : Validation Unit :=
  match tx.message.accountKeys with
  | [] => .error (.returned (.feePayer "No fee payer account found"))
  | feePayer :: _ => do
      let payer := feePayer.toText
      let address := relayer.toText
      require (feePayer == relayer)
        (violation s!"Fee payer {payer} does not match relayer address {address}")
      require (1 ≤ tx.message.header.numRequiredSignatures)
        (.returned (.feePayer "Fee payer must be a signer"))

/-- The outcome of the simulation itself is not looked at. -/
def simulateTransaction (services : SolanaServices) (tx : SolanaTransaction) :
    Validation Unit :=
  (services.simulateTransaction tx).mapError fun e => .returned (.underlyingSolanaProvider e)

/-! ## Lamports -/

/-- Only `Transfer` is looked at. -/
def validateLamportsInstruction (message : Message) (relayer : Pubkey)
    (indexed : CompiledInstruction × ℕ) : Validation Unit := do
  let (ix, position) := indexed
  let programId ← index message.accountKeys ix.programIdIndex.toNat
  if programId == systemProgramId then
    match deserializeSystemInstruction ix.data with
    | some (.transfer _) =>
        match ix.accounts with
        | [] => .error (invalid s!"Missing source account in instruction {position}")
        | source :: _ => do
            let sourcePubkey ← index message.accountKeys source.toNat
            require (sourcePubkey != relayer)
              (violation "Lamports transfers are not allowed from the relayer account")
    | _ => .ok ()
  else .ok ()

def validateLamportsTransfers (tx : SolanaTransaction) (relayer : Pubkey) :
    Validation Unit :=
  checkAll (validateLamportsInstruction tx.message relayer) tx.message.instructions.zipIdx

/-! ## Tokens -/

/-- Amounts by account, in the order of their first transfer. -/
abbrev Amounts := List (Pubkey × UInt64)

structure TransferTotals where
  transfers : Amounts
  balances : Amounts

def addAmount (account : Pubkey) (amount : UInt64) : Amounts → Amounts
  | [] => [(account, amount)]
  | (key, total) :: rest =>
      if key = account then (key, total + amount) :: rest
      else (key, total) :: addAmount account amount rest

/-- The source and destination of a transfer, with the checks on their flags.  The
owner must sign; that it is not the relayer is not checked. -/
def transferAccounts (message : Message) (relayer : Pubkey) (ix : CompiledInstruction)
    (destPosition ownerPosition : ℕ) : Validation (Pubkey × Pubkey) := do
  let sourceIndex ← index ix.accounts 0
  let source ← index message.accountKeys sourceIndex.toNat
  require (message.isMaybeWritable sourceIndex.toNat)
    (invalid "Source account must be writable")
  require (!message.isSigner sourceIndex.toNat) (invalid "Source account must not be signer")
  require (source != relayer) (violation "Relayer account cannot be source")
  let destIndex ← index ix.accounts destPosition
  let destination ← index message.accountKeys destIndex.toNat
  require (message.isMaybeWritable destIndex.toNat)
    (invalid "Destination account must be writable")
  require (!message.isSigner destIndex.toNat)
    (invalid "Destination account must not be signer")
  let ownerIndex ← index ix.accounts ownerPosition
  let owner := (message.accountKeys.getD ownerIndex.toNat ⟨0⟩).toText
  require (message.isSigner ownerIndex.toNat) (invalid s!"Owner must be signer {owner}")
  return (source, destination)

def checkDecimals (config : SolanaAllowedTokensPolicy) : TokenInstruction → Validation Unit
  | .transferChecked _ decimals =>
      let expected := config.decimals.elim "None" fun value => s!"Some({value})"
      require (config.decimals == some decimals)
        (invalid s!"Invalid decimals: expected {expected}, got {decimals}")
  | _ => .ok ()

/-- The fee limit applies when the destination is the relayer's own address. -/
def checkMaxFee (config : SolanaAllowedTokensPolicy) (mint destination relayer : Pubkey)
    (amount : UInt64) : Validation Unit :=
  match config.maxAllowedFee with
  | some maxFee =>
      let text := mint.toText
      require (destination != relayer || amount ≤ maxFee)
        (violation s!"Transfer amount {amount} exceeds max fee allowed {maxFee} for token {text}")
  | none => .ok ()

/-- The balance of a source account that is seen for the first time. -/
def sourceBalance (spl : TokenInterfaces) (services : SolanaServices)
    (allowedTokens : List SolanaAllowedTokensPolicy) (relayer programId source : Pubkey)
    (destination : Pubkey) (instruction : TokenInstruction) (amount : UInt64) :
    Validation UInt64 := do
  let account ← (services.getAccountFromPubkey source).mapError invalid
  let tokenAccount ← (unpackAccount spl programId account).mapError fun e =>
    invalid s!"Invalid token account: {e}"
  require (!tokenAccount.isFrozen) (violation "Token account is frozen")
  let mint := tokenAccount.mint.toText
  match allowedTokens.find? fun token => token.mint == mint with
  | none => .error (violation s!"Token {mint} not allowed for transfers")
  | some config => do
      checkDecimals config instruction
      checkMaxFee config tokenAccount.mint destination relayer amount
      return tokenAccount.amount

def recordTransfer (source : Pubkey) (amount : UInt64) (fetched : Option UInt64)
    (totals : TransferTotals) : TransferTotals where
  transfers := addAmount source amount totals.transfers
  balances := match fetched with
    | some balance => totals.balances ++ [(source, balance)]
    | none => totals.balances

def validateTransfer (spl : TokenInterfaces) (services : SolanaServices)
    (allowedTokens : List SolanaAllowedTokensPolicy) (message : Message)
    (relayer programId : Pubkey) (ix : CompiledInstruction) (instruction : TokenInstruction)
    (amount : UInt64) (destPosition ownerPosition : ℕ) (totals : TransferTotals) :
    Validation TransferTotals := do
  let (source, destination) ← transferAccounts message relayer ix destPosition ownerPosition
  if (totals.balances.lookup source).isSome then
    return recordTransfer source amount none totals
  else do
    let balance ← sourceBalance spl services allowedTokens relayer programId source
      destination instruction amount
    return recordTransfer source amount (some balance) totals

/-- In any other token instruction the relayer may not be a writable account that
does not sign; the fee payer always signs. -/
def validateOtherAccount (message : Message) (relayer : Pubkey) (account : UInt8) :
    Validation Unit :=
  require (!(message.accountKeys[account.toNat]? == some relayer &&
      message.isMaybeWritable account.toNat && !message.isSigner account.toNat))
    (violation
      "Relayer account cannot be used as writable account in token instructions")

def validateTokenInstruction (spl : TokenInterfaces) (services : SolanaServices)
    (allowedTokens : List SolanaAllowedTokensPolicy) (message : Message) (relayer : Pubkey)
    (totals : TransferTotals) (ix : CompiledInstruction) : Validation TransferTotals := do
  let programId ← index message.accountKeys ix.programIdIndex.toNat
  if isTokenProgram programId then
    match unpackInstruction spl programId ix.data with
    | .error _ => return totals
    | .ok (.transfer amount) =>
        validateTransfer spl services allowedTokens message relayer programId ix
          (.transfer amount) amount 1 2 totals
    | .ok (.transferChecked amount decimals) =>
        validateTransfer spl services allowedTokens message relayer programId ix
          (.transferChecked amount decimals) amount 2 3 totals
    | .ok .other => do
        checkAll (validateOtherAccount message relayer) ix.accounts
        return totals
  else return totals

/-- No account sends more than it holds, over all instructions together. -/
def validateTotal (balances : Amounts) (total : Pubkey × UInt64) : Validation Unit :=
  let account := total.1.toText
  let required := total.2
  let balance := (balances.lookup total.1).getD 0
  require (required ≤ balance)
    (invalid (s!"Insufficient balance for cumulative transfers: account {account} has " ++
      s!"balance {balance} but requires {required} across all instructions"))

def validateTokenTransfers (spl : TokenInterfaces) (services : SolanaServices)
    (tx : SolanaTransaction) (policy : RelayerSolanaPolicy) (relayer : Pubkey) :
    Validation Unit :=
  match policy.allowedTokens with
  | none | some [] => .ok ()
  | some allowedTokens => do
      let totals ← tx.message.instructions.foldlM
        (validateTokenInstruction spl services allowedTokens tx.message relayer) ⟨[], []⟩
      checkAll (validateTotal totals.balances) totals.transfers

/-! ## What a transaction does to the relayer's funds -/

/-- The effects of a top-level instruction that concern funds. -/
inductive Effect where
  | takesLamports (source : Pubkey) (amount : UInt64)
  | controlsAccount (action : TokenAction) (account authority : Pubkey)
  deriving DecidableEq, Repr

def systemEffects (message : Message) (ix : CompiledInstruction) : List Effect :=
  match systemInstruction message ix with
  | some system =>
      match system.lamportsTaken, message.accountAt ix 0 with
      | some amount, some source => [.takesLamports source amount]
      | _, _ => []
  | none => []

def controlEffect (message : Message) (ix : CompiledInstruction) (control : TokenControl) :
    Option Effect :=
  (message.accountAt ix control.account).bind fun account =>
    (message.accountAt ix control.authority).map fun authority =>
      .controlsAccount control.action account authority

def tokenEffects (spl : TokenInterfaces) (message : Message) (ix : CompiledInstruction) :
    List Effect :=
  match splInstruction spl message ix with
  | some token => token.controls.filterMap (controlEffect message ix)
  | none => []

/-- The effect takes nothing from the relayer and does not rest on its authority. -/
def Effect.Spares (relayer : Pubkey) : Effect → Prop
  | .takesLamports source amount => 0 < amount → source ≠ relayer
  | .controlsAccount _ _ authority => authority ≠ relayer

def ProtectsFunds (spl : TokenInterfaces) (message : Message) (relayer : Pubkey) : Prop :=
  ∀ ix ∈ message.instructions,
    ∀ effect ∈ systemEffects message ix ++ tokenEffects spl message ix, effect.Spares relayer

/-- The relayer funds a System instruction that is not a plain transfer. -/
def FundsOtherwise (message : Message) (relayer : Pubkey) (ix : CompiledInstruction) : Prop :=
  ∃ system amount, systemInstruction message ix = some system ∧
    system.isTransfer = false ∧ system.lamportsTaken = some amount ∧ 0 < amount ∧
    message.accountAt ix 0 = some relayer

/-- The relayer's key stands where a token instruction has its authority. -/
def NamedAsAuthority (spl : TokenInterfaces) (message : Message) (relayer : Pubkey)
    (ix : CompiledInstruction) : Prop :=
  ∃ token control, splInstruction spl message ix = some token ∧ control ∈ token.controls ∧
    (message.accountAt ix control.account).isSome = true ∧
    message.accountAt ix control.authority = some relayer

/-- What the token checks let through with the relayer's key at an index: a transfer out of
another account that this index signs, and any other token instruction if the index signs
or is only read. -/
def PassesAt (message : Message) (relayer : Pubkey) (ix : CompiledInstruction)
    (token : SplInstruction) (position : ℕ) : Prop :=
  if TokenInstruction.ofSpl token = .other then
    message.isSigner position = true ∨ message.isMaybeWritable position = false
  else message.isSigner position = true ∧ message.accountAt ix 0 ≠ some relayer

/-- An instruction that passes has the relayer as the authority of a token account. -/
def LeftOpen (spl : TokenInterfaces) (message : Message) (relayer : Pubkey)
    (ix : CompiledInstruction) : Prop :=
  ∃ token control position, splInstruction spl message ix = some token ∧
    control ∈ token.controls ∧ (message.accountAt ix control.account).isSome = true ∧
    ix.accounts[control.authority]? = some position ∧
    message.accountKeys[position.toNat]? = some relayer ∧
    PassesAt message relayer ix token position.toNat

theorem index_eq_ok_iff {A Error : Type} {values : List A} {position : ℕ} {value : A} :
    index values position = (.ok value : Except (Fault Error) A) ↔
      values[position]? = some value := by
  rw [index]
  cases values[position]? with
  | none => simp
  | some found => simp

/-- A plain transfer that passes is funded by somebody other than the relayer. -/
theorem validateLamportsInstruction_transfer {message : Message} {relayer : Pubkey}
    {ix : CompiledInstruction} {position : ℕ} {lamports : UInt64}
    (hok : validateLamportsInstruction message relayer (ix, position) = .ok ())
    (htransfer : systemInstruction message ix = some (.transfer lamports)) :
    ∃ source, message.accountAt ix 0 = some source ∧ source ≠ relayer := by
  obtain ⟨programId, hindex, hok⟩ := bind_eq_ok.mp hok
  rw [index_eq_ok_iff] at hindex
  rw [systemInstruction, Message.programId, hindex] at htransfer
  by_cases hsystem : programId = systemProgramId
  · rw [hsystem, if_pos rfl] at htransfer
    rw [hsystem, beq_self_eq_true, if_pos rfl, htransfer] at hok
    cases haccounts : ix.accounts with
    | nil =>
        rw [haccounts] at hok
        cases hok
    | cons first rest =>
        rw [haccounts] at hok
        obtain ⟨source, hfirst, hrequire⟩ := bind_eq_ok.mp hok
        rw [index_eq_ok_iff] at hfirst
        rw [require_eq_ok_iff, bne_iff_ne] at hrequire
        refine ⟨source, ?_, hrequire⟩
        rw [Message.accountAt, haccounts, List.getElem?_cons_zero, Option.bind_some, hfirst]
  · rw [if_neg (by simpa using hsystem)] at htransfer
    cases htransfer

theorem validateLamportsTransfers_transfer {tx : SolanaTransaction} {relayer : Pubkey}
    (hok : validateLamportsTransfers tx relayer = .ok ()) {ix : CompiledInstruction}
    (hmem : ix ∈ tx.message.instructions) {lamports : UInt64}
    (htransfer : systemInstruction tx.message ix = some (.transfer lamports)) :
    ∃ source, tx.message.accountAt ix 0 = some source ∧ source ≠ relayer := by
  obtain ⟨position, hlt, hget⟩ := List.getElem_of_mem hmem
  have hindexed : (ix, position) ∈ tx.message.instructions.zipIdx := by
    rw [List.mem_zipIdx_iff_getElem?]
    exact hget ▸ List.getElem?_eq_getElem hlt
  exact validateLamportsInstruction_transfer (checkAll_eq_ok_iff.mp hok _ hindexed) htransfer

theorem systemEffects_spare_iff {message : Message} {relayer : Pubkey}
    {ix : CompiledInstruction} :
    (∀ effect ∈ systemEffects message ix, effect.Spares relayer) ↔
      ∀ system, systemInstruction message ix = some system →
        ∀ amount, system.lamportsTaken = some amount → 0 < amount →
          message.accountAt ix 0 ≠ some relayer := by
  rw [systemEffects]
  cases hsystem : systemInstruction message ix with
  | none => simp
  | some system =>
      cases htaken : system.lamportsTaken with
      | none => simp [htaken]
      | some amount =>
          cases hsource : message.accountAt ix 0 with
          | none => simp
          | some source => simp [htaken, Effect.Spares]

theorem tokenEffects_spare_iff {spl : TokenInterfaces} {message : Message}
    {relayer : Pubkey} {ix : CompiledInstruction} :
    (∀ effect ∈ tokenEffects spl message ix, effect.Spares relayer) ↔
      ¬ NamedAsAuthority spl message relayer ix := by
  rw [tokenEffects, NamedAsAuthority]
  cases htoken : splInstruction spl message ix with
  | none => simp
  | some token =>
      constructor
      · rintro hspares ⟨_, control, hsame, hcontrol, haccount, hauthority⟩
        cases hsame
        obtain ⟨account, hsome⟩ := Option.isSome_iff_exists.mp haccount
        have heffect : controlEffect message ix control =
            some (.controlsAccount control.action account relayer) := by
          rw [controlEffect, hsome, hauthority]
          rfl
        exact hspares _ (List.mem_filterMap.mpr ⟨control, hcontrol, heffect⟩) rfl
      · intro hnamed effect heffect
        obtain ⟨control, hcontrol, hsome⟩ := List.mem_filterMap.mp heffect
        obtain ⟨account, haccount, hauthority⟩ := Option.bind_eq_some_iff.mp hsome
        obtain ⟨authority, hkey, rfl⟩ := Option.map_eq_some_iff.mp hauthority
        rintro rfl
        apply hnamed
        exact ⟨token, control, rfl, hcontrol, Option.isSome_iff_exists.mpr ⟨account, haccount⟩,
          hkey⟩

theorem transferAccounts_eq_ok {message : Message} {relayer : Pubkey} {ix : CompiledInstruction}
    {destPosition ownerPosition : ℕ} {source destination : Pubkey}
    (hok : transferAccounts message relayer ix destPosition ownerPosition =
      .ok (source, destination)) :
    message.accountAt ix 0 = some source ∧
      message.accountAt ix destPosition = some destination ∧ source ≠ relayer ∧
      ∃ owner, ix.accounts[ownerPosition]? = some owner ∧
        message.isSigner owner.toNat = true := by
  obtain ⟨sourceIndex, hsourceIndex, hok⟩ := bind_eq_ok.mp hok
  obtain ⟨_, hsource, hok⟩ := bind_eq_ok.mp hok
  obtain ⟨-, -, hok⟩ := bind_eq_ok.mp hok
  obtain ⟨-, -, hok⟩ := bind_eq_ok.mp hok
  obtain ⟨_, hother, hok⟩ := bind_eq_ok.mp hok
  obtain ⟨destIndex, hdestIndex, hok⟩ := bind_eq_ok.mp hok
  obtain ⟨_, hdestination, hok⟩ := bind_eq_ok.mp hok
  obtain ⟨-, -, hok⟩ := bind_eq_ok.mp hok
  obtain ⟨-, -, hok⟩ := bind_eq_ok.mp hok
  obtain ⟨owner, howner, hok⟩ := bind_eq_ok.mp hok
  obtain ⟨_, hsigns, hok⟩ := bind_eq_ok.mp hok
  cases hok
  rw [index_eq_ok_iff] at hsourceIndex hsource hdestIndex hdestination howner
  rw [require_eq_ok_iff] at hother hsigns
  rw [Message.accountAt, Message.accountAt, hsourceIndex, hdestIndex]
  exact ⟨hsource, hdestination, bne_iff_ne.mp hother, owner, howner, hsigns⟩

theorem validateTransfer_passesAt {spl : TokenInterfaces} {services : SolanaServices}
    {allowedTokens : List SolanaAllowedTokensPolicy} {message : Message}
    {relayer programId : Pubkey} {ix : CompiledInstruction} {instruction : TokenInstruction}
    {amount : UInt64} {destPosition ownerPosition : ℕ} {totals after : TransferTotals}
    (hok : validateTransfer spl services allowedTokens message relayer programId ix instruction
      amount destPosition ownerPosition totals = .ok after) {position : UInt8}
    (hposition : ix.accounts[ownerPosition]? = some position) :
    message.isSigner position.toNat = true ∧ message.accountAt ix 0 ≠ some relayer := by
  obtain ⟨⟨source, destination⟩, haccounts, -⟩ := bind_eq_ok.mp hok
  obtain ⟨hsource, -, hother, owner, howner, hsigns⟩ := transferAccounts_eq_ok haccounts
  cases howner.symm.trans hposition
  refine ⟨hsigns, fun hrelayer => hother ?_⟩
  exact Option.some.inj (hsource.symm.trans hrelayer)

/-- What a token instruction that passes leaves open at an authority of the relayer. -/
theorem validateTokenInstruction_passesAt {spl : TokenInterfaces} {services : SolanaServices}
    {allowedTokens : List SolanaAllowedTokensPolicy} {message : Message} {relayer : Pubkey}
    {ix : CompiledInstruction} {totals after : TransferTotals}
    (hok : validateTokenInstruction spl services allowedTokens message relayer totals ix =
      .ok after) {token : SplInstruction} (htoken : splInstruction spl message ix = some token)
    {control : TokenControl} (hcontrol : control ∈ token.controls) {position : UInt8}
    (hposition : ix.accounts[control.authority]? = some position)
    (hkey : message.accountKeys[position.toNat]? = some relayer) :
    PassesAt message relayer ix token position.toNat := by
  obtain ⟨programId, hindex, hok⟩ := bind_eq_ok.mp hok
  rw [index_eq_ok_iff] at hindex
  rw [splInstruction, Message.programId, hindex, Option.bind_some] at htoken
  split_ifs at htoken with hprogram
  have hunpack : unpackInstruction spl programId ix.data = .ok (.ofSpl token) := by
    rw [unpackInstruction, if_pos hprogram, ok_of_toOption htoken]
  rw [if_pos hprogram, hunpack] at hok
  have hother : TokenInstruction.ofSpl token = .other →
      PassesAt message relayer ix token position.toNat := by
    intro hkind
    rw [hkind] at hok
    obtain ⟨_, hchecked, -⟩ := bind_eq_ok.mp hok
    have hpasses := checkAll_eq_ok_iff.mp hchecked position (List.mem_of_getElem? hposition)
    rw [validateOtherAccount, require_eq_ok_iff, hkey, beq_self_eq_true, Bool.true_and] at hpasses
    rw [PassesAt, if_pos hkind]
    simpa [or_comm] using hpasses
  cases token with
  | transfer amount =>
      cases List.mem_singleton.mp hcontrol
      exact validateTransfer_passesAt hok hposition
  | transferChecked amount decimals =>
      cases List.mem_singleton.mp hcontrol
      exact validateTransfer_passesAt hok hposition
  | _ => exact hother rfl

/-- Acceptance narrows down where the relayer can still stand as an authority. -/
theorem namedAsAuthority_iff_leftOpen {spl : TokenInterfaces} {services : SolanaServices}
    {tx : SolanaTransaction} {policy : RelayerSolanaPolicy} {relayer : Pubkey}
    (htokens : policy.allowedTokens.getD [] ≠ [])
    (hok : validateTokenTransfers spl services tx policy relayer = .ok ())
    {ix : CompiledInstruction} (hmem : ix ∈ tx.message.instructions) :
    NamedAsAuthority spl tx.message relayer ix ↔ LeftOpen spl tx.message relayer ix := by
  constructor
  · rintro ⟨token, control, htoken, hcontrol, haccount, hauthority⟩
    obtain ⟨position, hposition, hkey⟩ := Option.bind_eq_some_iff.mp hauthority
    refine ⟨token, control, position, htoken, hcontrol, haccount, hposition, hkey, ?_⟩
    rw [validateTokenTransfers] at hok
    split at hok
    · next hnone => exact absurd (by rw [hnone]; rfl) htokens
    · next hnone => exact absurd (by rw [hnone]; rfl) htokens
    · obtain ⟨totals, hfold, -⟩ := bind_eq_ok.mp hok
      obtain ⟨before, after, hchecked⟩ := exists_of_mem_foldlM hfold hmem
      exact validateTokenInstruction_passesAt hchecked htoken hcontrol hposition hkey
  · rintro ⟨token, control, position, htoken, hcontrol, haccount, hposition, hkey, -⟩
    refine ⟨token, control, htoken, hcontrol, haccount, ?_⟩
    rw [Message.accountAt, hposition, Option.bind_some, hkey]

/-- The fee payer signs, so that the check on other token instructions never fires. -/
theorem validateOtherAccount_of_validateFeePayer {tx : SolanaTransaction} {relayer : Pubkey}
    (hok : validateFeePayer tx relayer = .ok ()) (hdistinct : tx.message.accountKeys.Nodup)
    (account : UInt8) : validateOtherAccount tx.message relayer account = .ok () := by
  rw [validateFeePayer] at hok
  split at hok
  · cases hok
  · next feePayer others hkeys =>
      obtain ⟨_, hpayer, hsigns⟩ := bind_eq_ok.mp hok
      rw [require_eq_ok_iff] at hpayer hsigns
      rw [validateOtherAccount, require_eq_ok_iff]
      by_cases hkey : tx.message.accountKeys[account.toNat]? = some relayer
      · have hfirst : tx.message.accountKeys[0]? = some relayer := by
          rw [hkeys, ← eq_of_beq hpayer]
          rfl
        have hzero : account.toNat = 0 :=
          (List.getElem?_inj (List.getElem?_eq_some_iff.mp hkey).1 hdistinct).mp
            (hkey.trans hfirst.symm)
        have hsigner : tx.message.isSigner account.toNat = true := by
          rw [hzero, Message.isSigner, decide_eq_true_eq]
          exact UInt8.le_iff_toNat_le.mp (of_decide_eq_true hsigns)
        simp [hsigner]
      · simp [hkey]

/-- The validators keep the relayer's funds safe exactly when no System instruction
other than a plain transfer is funded by the relayer and no token instruction that
passes has the relayer as its authority: of the System instructions only `Transfer`
is inspected, and the token checks ask of an authority at most that it signs. -/
theorem validators_protect_funds_iff (spl : TokenInterfaces) (services : SolanaServices)
    (tx : SolanaTransaction) (policy : RelayerSolanaPolicy) (relayer : Pubkey)
    (htokens : policy.allowedTokens.getD [] ≠ [])
    (hok : validateFeePayer tx relayer = .ok () ∧
      validateLamportsTransfers tx relayer = .ok () ∧
      validateTokenTransfers spl services tx policy relayer = .ok ()) :
    (ProtectsFunds spl tx.message relayer ↔
      ∀ ix ∈ tx.message.instructions, ¬ FundsOtherwise tx.message relayer ix ∧
        ¬ LeftOpen spl tx.message relayer ix) ∧
      (tx.message.accountKeys.Nodup →
        ∀ account, validateOtherAccount tx.message relayer account = .ok ()) := by
  obtain ⟨hpayer, hlamports, htransfers⟩ := hok
  refine ⟨forall₂_congr fun ix hix => ?_, validateOtherAccount_of_validateFeePayer hpayer⟩
  rw [List.forall_mem_append, systemEffects_spare_iff, tokenEffects_spare_iff,
    namedAsAuthority_iff_leftOpen htokens htransfers hix]
  apply and_congr_left'
  constructor
  · rintro hspares ⟨system, amount, hsystem, -, htaken, hpositive, hsource⟩
    exact hspares system hsystem amount htaken hpositive hsource
  · intro hfunds system hsystem amount htaken hpositive hsource
    cases hplain : system.isTransfer with
    | false => exact hfunds ⟨system, amount, hsystem, hplain, htaken, hpositive, hsource⟩
    | true =>
        cases system with
        | transfer lamports =>
            obtain ⟨source, hother, hne⟩ :=
              validateLamportsTransfers_transfer hlamports hix hsystem
            rw [hsource] at hother
            exact hne (Option.some.inj hother).symm
        | _ => cases hplain

def leBytes : ℕ → ℕ → List UInt8
  | 0, _ => []
  | count + 1, value => UInt8.ofNat (value % 256) :: leBytes count (value / 256)

def pubkeyBytes (key : Pubkey) : List UInt8 := (leBytes 32 key.value.toNat).reverse

def tokenAccountData (mint owner : Pubkey) (amount : ℕ) : List UInt8 :=
  pubkeyBytes mint ++ pubkeyBytes owner ++ leBytes 8 amount ++ List.replicate 36 0 ++
    1 :: List.replicate 56 0

def sampleRelayer : Pubkey := ⟨1⟩
def sampleUser : Pubkey := ⟨2⟩
def userTokens : Pubkey := ⟨3⟩
def relayerTokens : Pubkey := ⟨4⟩
def sampleMint : Pubkey := ⟨5⟩
def relayerSavings : Pubkey := ⟨6⟩

/-- The user has one token account and the relayer two, each holding 1000. -/
def sampleServices : SolanaServices where
  isBlockhashValid _ := .ok true
  simulateTransaction _ := .ok ()
  getAccountFromPubkey key :=
    let owner := if key = userTokens then sampleUser else sampleRelayer
    .ok ⟨splTokenId, tokenAccountData sampleMint owner 1000⟩
  getSolToTokenQuote _ amount _ := .ok (amount, 100)

def samplePolicy : RelayerSolanaPolicy where
  allowedPrograms := none
  maxSignatures := none
  maxTxDataSize := none
  allowedTokens := some [⟨sampleMint.toText, some 6, none, none⟩]
  feePaymentStrategy := some .user
  allowedAccounts := none
  disallowedAccounts := none
  feeMarginPercentage := none
  minBalance := none
  maxAllowedFeeLamports := none

/-- The relayer pays and signs first, the user signs second. -/
def sampleTransaction (instructions : List CompiledInstruction) : SolanaTransaction where
  signatures := [List.replicate 64 0, List.replicate 64 0]
  message := ⟨⟨2, 0, 3⟩, [sampleRelayer, sampleUser, userTokens, relayerTokens,
    relayerSavings, sampleMint, splTokenId, systemProgramId], ⟨9⟩, instructions⟩

/-- `TransferChecked` of 500 between two token accounts under an authority. -/
def sampleTransfer (source destination authority : UInt8) : CompiledInstruction :=
  ⟨6, [source, 5, destination, authority], 12 :: leBytes 8 500 ++ [6]⟩

/-- `CreateAccount` with 1000 lamports of the relayer. -/
def relayerCreatesAccount : CompiledInstruction :=
  ⟨7, [0, 1], leBytes 4 0 ++ leBytes 8 1000 ++ leBytes 8 0 ++ pubkeyBytes systemProgramId⟩

/-- `CloseAccount` of a token account of the relayer in favour of the user. -/
def relayerClosesAccount : CompiledInstruction := ⟨6, [3, 1, 0], [9]⟩

/-- A transfer under the user's own authority leaves the relayer's funds alone. -/
theorem validators_protect_funds_user_transfer :
    ProtectsFunds baseInterfaces (sampleTransaction [sampleTransfer 2 3 1]).message
      sampleRelayer := by
  have hok : validateFeePayer (sampleTransaction [sampleTransfer 2 3 1]) sampleRelayer =
        .ok () ∧
      validateLamportsTransfers (sampleTransaction [sampleTransfer 2 3 1]) sampleRelayer =
        .ok () ∧
      validateTokenTransfers baseInterfaces sampleServices
        (sampleTransaction [sampleTransfer 2 3 1]) samplePolicy sampleRelayer = .ok () := by
    decide +kernel
  apply (validators_protect_funds_iff baseInterfaces sampleServices _ samplePolicy
    sampleRelayer (by decide) hok).1.mpr
  intro ix hix
  cases List.mem_singleton.mp hix
  constructor
  · rintro ⟨system, amount, hsystem, -⟩
    have hnone : systemInstruction (sampleTransaction [sampleTransfer 2 3 1]).message
        (sampleTransfer 2 3 1) = none := by
      decide +kernel
    rw [hnone] at hsystem
    cases hsystem
  · rintro ⟨token, control, position, htoken, hcontrol, -, hauthority, hkey, -⟩
    have hsome : splInstruction baseInterfaces
        (sampleTransaction [sampleTransfer 2 3 1]).message (sampleTransfer 2 3 1) =
          some (.transferChecked 500 6) := by
      decide +kernel
    rw [hsome] at htoken
    cases htoken
    cases List.mem_singleton.mp hcontrol
    cases hauthority
    cases hkey

/-- An account funded by the relayer and a token account closed under the relayer's
authority both pass the validators. -/
theorem validators_accept_relayer_funding :
    (validateFeePayer (sampleTransaction [relayerCreatesAccount, relayerClosesAccount])
        sampleRelayer = .ok () ∧
      validateLamportsTransfers
        (sampleTransaction [relayerCreatesAccount, relayerClosesAccount]) sampleRelayer =
          .ok () ∧
      validateTokenTransfers baseInterfaces sampleServices
        (sampleTransaction [relayerCreatesAccount, relayerClosesAccount]) samplePolicy
        sampleRelayer = .ok ()) ∧
    ¬ ProtectsFunds baseInterfaces
      (sampleTransaction [relayerCreatesAccount, relayerClosesAccount]).message
      sampleRelayer := by
  refine ⟨by decide +kernel, ?_⟩
  intro hprotects
  have hclose : Effect.controlsAccount .close relayerTokens sampleRelayer ∈
      tokenEffects baseInterfaces
        (sampleTransaction [relayerCreatesAccount, relayerClosesAccount]).message
        relayerClosesAccount := by
    decide +kernel
  exact hprotects relayerClosesAccount
    (List.mem_cons_of_mem _ (List.mem_singleton_self _)) _
    (List.mem_append_right _ hclose) rfl

end Relayer.SolanaValidation
