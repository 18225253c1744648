import Relayer.Solana.FeePayment
import Relayer.Solana.Instructions

/-!
# Replacing the fee payer

The relayer takes a user's message apart and compiles its instructions again with
itself as the fee payer.  The flags of the accounts are recovered from their
positions, joined over all uses of an account, and encoded in the order of the new
message.
-/

namespace Relayer.SolanaFeePayer

open Relayer.Checks Relayer.SolanaMessage Relayer.SolanaValidation Relayer.SolanaFeePayment

/-! ## Taking a message apart -/

/-- Subtraction of machine words without overflow checks. -/
def usizeSub (left right : ℕ) : ℕ := (left + 2 ^ 64 - right) % 2 ^ 64

def convertAccountMeta (accountKeys : List Pubkey) (header : MessageHeader)
    (accountIndex : UInt8) : Rpc AccountMeta := do
  let key ← index accountKeys accountIndex.toNat
  let position := accountIndex.toNat
  let signers := header.numRequiredSignatures.toNat
  let isSigner := decide (position < signers)
  let isWritable :=
    if isSigner then
      decide (position < usizeSub signers header.numReadonlySignedAccounts.toNat)
    else
      decide (position - signers < usizeSub (usizeSub accountKeys.length signers)
        header.numReadonlyUnsignedAccounts.toNat)
  return ⟨key, isSigner, isWritable⟩

def convertCompiledInstruction (accountKeys : List Pubkey) (header : MessageHeader)
    (ix : CompiledInstruction) : Rpc Instruction := do
  let programId ← index accountKeys ix.programIdIndex.toNat
  let accounts ← ix.accounts.mapM (convertAccountMeta accountKeys header)
  return ⟨programId, accounts, ix.data⟩

/-- Keys that cannot be indexed stop the request. -/
def newMessage (instructions : List Instruction) (payer blockhash : Pubkey) : Rpc Message :=
  match Message.newWithBlockhash instructions payer blockhash with
  | some message => .ok message
  | none => .error (.outOfBounds (keyGroups instructions payer).accountKeys.length 256)

def emptySignature : List UInt8 := List.replicate 64 0

/-- The flag is read with byte arithmetic. -/
def isWritable (position : ℕ) (header : MessageHeader) (total : ℕ) : Bool :=
  if position < header.numRequiredSignatures.toNat then
    position < (header.numRequiredSignatures - header.numReadonlySignedAccounts).toNat
  else
    position - header.numRequiredSignatures.toNat <
      usizeSub (usizeSub total header.numRequiredSignatures.toNat)
        header.numReadonlyUnsignedAccounts.toNat

def reconstructAccount (message : Message) (accountIndex : UInt8) : Rpc AccountMeta :=
  match message.accountKeys[accountIndex.toNat]? with
  | none => fail (.internal "Invalid account index")
  | some key => .ok ⟨key, accountIndex.toNat < message.header.numRequiredSignatures.toNat,
      isWritable accountIndex.toNat message.header message.accountKeys.length⟩

def reconstructInstruction (message : Message) (ix : CompiledInstruction) : Rpc Instruction :=
  match message.accountKeys[ix.programIdIndex.toNat]? with
  | none => fail (.internal "Invalid program id index")
  | some programId => do
      let accounts ← ix.accounts.mapM (reconstructAccount message)
      return ⟨programId, accounts, ix.data⟩

def reconstructTransactionWithFeePayer (message : Message) (feePayer blockhash : Pubkey) :
    Rpc SolanaTransaction := do
  let instructions ← message.instructions.mapM (reconstructInstruction message)
  let message ← newMessage instructions feePayer blockhash
  return ⟨List.replicate message.header.numRequiredSignatures.toNat emptySignature, message⟩

/-! ## The flags of a message -/

section Flags

variable {message : Message}

theorem usizeSub_of_le {left right : ℕ} (hle : right ≤ left) (hlt : left < 2 ^ 64) :
    usizeSub left right = left - right := by
  rw [usizeSub]
  omega

theorem isWritable_eq (hwell : message.WellFormed) (position : ℕ) :
    isWritable position message.header message.accountKeys.length =
      message.isWritableIndex position := by
  have hsigned := hwell.signed
  have hunsigned := hwell.unsigned
  have hlength := hwell.length
  rw [isWritable, UInt8.toNat_sub_of_le _ _ (UInt8.le_iff_toNat_le.mpr hsigned),
    usizeSub_of_le (by omega) hlength, usizeSub_of_le (by omega) (by omega), Bool.eq_iff_iff]
  simp only [Message.isWritableIndex, Bool.or_eq_true, Bool.and_eq_true, decide_eq_true_eq]
  split_ifs with hsigner
  · rw [decide_eq_true_eq]
    omega
  · rw [decide_eq_true_eq]
    omega

theorem index_keyAt {accountIndex : UInt8}
    (hrange : accountIndex.toNat < message.accountKeys.length) :
    message.accountKeys[accountIndex.toNat]? = some (message.keyAt accountIndex) := by
  rw [Message.keyAt, List.getD_eq_getElem _ _ hrange, List.getElem?_eq_getElem hrange]

theorem convertAccountMeta_eq (hwell : message.WellFormed) {accountIndex : UInt8}
    (hrange : accountIndex.toNat < message.accountKeys.length) :
    convertAccountMeta message.accountKeys message.header accountIndex =
      .ok (message.accountMeta accountIndex) := by
  have hflag := isWritable_eq hwell accountIndex.toNat
  rw [isWritable, UInt8.toNat_sub_of_le _ _ (UInt8.le_iff_toNat_le.mpr hwell.signed)] at hflag
  have hsigners : usizeSub message.header.numRequiredSignatures.toNat
      message.header.numReadonlySignedAccounts.toNat =
        message.header.numRequiredSignatures.toNat -
          message.header.numReadonlySignedAccounts.toNat :=
    usizeSub_of_le hwell.signed (lt_of_lt_of_le (UInt8.toNat_lt _) (by decide))
  simp only [convertAccountMeta, index, index_keyAt hrange, hsigners, decide_eq_true_eq, hflag]
  rfl

theorem reconstructAccount_eq (hwell : message.WellFormed) {accountIndex : UInt8}
    (hrange : accountIndex.toNat < message.accountKeys.length) :
    reconstructAccount message accountIndex = .ok (message.accountMeta accountIndex) := by
  rw [reconstructAccount, index_keyAt hrange]
  dsimp only
  rw [isWritable_eq hwell]
  rfl

theorem convertCompiledInstruction_eq (hwell : message.WellFormed) {ix : CompiledInstruction}
    (hmem : ix ∈ message.instructions) :
    convertCompiledInstruction message.accountKeys message.header ix =
      .ok (message.decode ix) := by
  have haccounts : ix.accounts.mapM (convertAccountMeta message.accountKeys message.header) =
      .ok (ix.accounts.map message.accountMeta) :=
    mapM_eq_ok_map fun accountIndex hindex =>
      convertAccountMeta_eq hwell (hwell.account ix hmem accountIndex hindex)
  rw [convertCompiledInstruction, index, index_keyAt (hwell.program ix hmem), haccounts]
  rfl

theorem reconstructInstruction_eq (hwell : message.WellFormed) {ix : CompiledInstruction}
    (hmem : ix ∈ message.instructions) :
    reconstructInstruction message ix = .ok (message.decode ix) := by
  have haccounts : ix.accounts.mapM (reconstructAccount message) =
      .ok (ix.accounts.map message.accountMeta) :=
    mapM_eq_ok_map fun accountIndex hindex =>
      reconstructAccount_eq hwell (hwell.account ix hmem accountIndex hindex)
  rw [reconstructInstruction, index_keyAt (hwell.program ix hmem), haccounts]
  rfl

theorem call_decode (hwell : message.WellFormed) {ix : CompiledInstruction}
    (hmem : ix ∈ message.instructions) : (message.decode ix).call = message.call ix := by
  rw [Instruction.call, Message.call, Message.programId, index_keyAt (hwell.program ix hmem)]
  simp only [Message.decode, List.map_map, Prod.mk.injEq, true_and, and_true]
  apply List.map_congr_left
  intro accountIndex hindex
  exact (index_keyAt (hwell.account ix hmem accountIndex hindex)).symm

/-- Some instruction uses the account with the given flag. -/
def UsedWith (flag : AccountMeta → Bool) (message : Message) (key : Pubkey) : Prop :=
  ∃ ix ∈ message.instructions, ∃ accountIndex ∈ ix.accounts,
    message.keyAt accountIndex = key ∧ flag (message.accountMeta accountIndex) = true

theorem signsIn_decode_iff {key : Pubkey} :
    signsIn (message.instructions.map message.decode) key = true ↔
      UsedWith AccountMeta.isSigner message key := by
  simp [signsIn, UsedWith, Message.decode, Message.accountMeta]

theorem writtenIn_decode_iff {key : Pubkey} :
    writtenIn (message.instructions.map message.decode) key = true ↔
      UsedWith AccountMeta.isWritable message key := by
  simp [writtenIn, UsedWith, Message.decode, Message.accountMeta]

end Flags

/-- The message with another fee payer has the fee payer in front as a writable signer and the
same calls.  An account signs or is written exactly if it is the fee payer or was so at some use,
and both ways to take the message apart read the same flags. -/
theorem reconstruct_preserves_program (message compiled : Message) (feePayer blockhash : Pubkey)
    (hwell : message.WellFormed)
    (hcompiled : Message.newWithBlockhash (message.instructions.map message.decode) feePayer
      blockhash = some compiled) :
    reconstructTransactionWithFeePayer message feePayer blockhash = .ok
        ⟨List.replicate compiled.header.numRequiredSignatures.toNat emptySignature, compiled⟩ ∧
      compiled.accountKeys[0]? = some feePayer ∧ compiled.isSigner 0 = true ∧
      compiled.isWritableIndex 0 = true ∧
      compiled.instructions.map compiled.call = message.instructions.map message.call ∧
      (∀ (position : ℕ) (key : Pubkey), compiled.accountKeys[position]? = some key →
        (compiled.isSigner position = true ↔
          key = feePayer ∨ UsedWith AccountMeta.isSigner message key) ∧
        (compiled.isWritableIndex position = true ↔
          key = feePayer ∨ UsedWith AccountMeta.isWritable message key)) ∧
      ∀ ix ∈ message.instructions,
        convertCompiledInstruction message.accountKeys message.header ix =
          .ok (message.decode ix) := by
  have hfirst : compiled.accountKeys[0]? = some feePayer := by
    obtain ⟨-, hmessage⟩ := Option.ite_none_right_eq_some.mp hcompiled
    cases hmessage
    rfl
  have hflags : ∀ (position : ℕ) (key : Pubkey), compiled.accountKeys[position]? = some key →
      (compiled.isSigner position = true ↔
        key = feePayer ∨ UsedWith AccountMeta.isSigner message key) ∧
      (compiled.isWritableIndex position = true ↔
        key = feePayer ∨ UsedWith AccountMeta.isWritable message key) := by
    intro position key hkey
    obtain ⟨hsigner, hwritable⟩ := flags_newWithBlockhash hcompiled hkey
    rw [hsigner, hwritable, Bool.or_eq_true, Bool.or_eq_true, beq_iff_eq, signsIn_decode_iff,
      writtenIn_decode_iff]
    exact ⟨Iff.rfl, Iff.rfl⟩
  obtain ⟨hsigner, hwritable⟩ := hflags 0 feePayer hfirst
  refine ⟨?_, hfirst, hsigner.mpr (.inl rfl), hwritable.mpr (.inl rfl), ?_, hflags,
    fun ix hmem => convertCompiledInstruction_eq hwell hmem⟩
  · have hinstructions : message.instructions.mapM (reconstructInstruction message) =
        .ok (message.instructions.map message.decode) :=
      mapM_eq_ok_map fun ix hmem => reconstructInstruction_eq hwell hmem
    have hmessage : newMessage (message.instructions.map message.decode) feePayer blockhash =
        .ok compiled := by rw [newMessage, hcompiled]
    rw [reconstructTransactionWithFeePayer, hinstructions]
    simp only [Bind.bind, Except.bind, hmessage]
    rfl
  · rw [call_newWithBlockhash hcompiled, List.map_map]
    exact List.map_congr_left fun ix hmem => call_decode hwell hmem

theorem wellFormed_transferMessage : (transferMessage 1 ⟨7⟩).WellFormed where
  signed := by decide
  unsigned := by decide
  length := by decide
  program := by decide
  account := by simp [transferMessage]

/-- The transfer paid for by account 9: both accounts keep their flags. -/
def relayedMessage : Message where
  header := ⟨2, 0, 1⟩
  accountKeys := [⟨9⟩, ⟨1⟩, ⟨2⟩, systemProgramId]
  recentBlockhash := ⟨7⟩
  instructions := [⟨3, [1, 2], [2, 0, 0, 0]⟩]

theorem reconstruct_preserves_transfer :
    reconstructTransactionWithFeePayer (transferMessage 1 ⟨7⟩) ⟨9⟩ ⟨7⟩ =
      .ok ⟨[emptySignature, emptySignature], relayedMessage⟩ :=
  (reconstruct_preserves_program (transferMessage 1 ⟨7⟩) relayedMessage ⟨9⟩ ⟨7⟩
    wellFormed_transferMessage (by decide +kernel)).1

end Relayer.SolanaFeePayer
