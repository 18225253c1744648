import Relayer.Solana.Message

/-!
# Compiling instructions into messages

Outside of a message an instruction names its accounts by key.  Compiling collects
the keys of all instructions, orders them by their flags with the fee payer first,
and replaces every key by its position.  The compiled instructions refer to the
same keys again, so a message can be taken apart and put together with further
instructions.
-/

namespace Relayer.SolanaMessage

structure AccountMeta where
  pubkey : Pubkey
  isSigner : Bool
  isWritable : Bool
  deriving DecidableEq, Repr

structure Instruction where
  programId : Pubkey
  accounts : List AccountMeta
  data : List UInt8
  deriving DecidableEq, Repr

/-! ## Compiling -/

def Instruction.keys (instruction : Instruction) : List Pubkey :=
  instruction.programId :: instruction.accounts.map AccountMeta.pubkey

/-- An account signs, or is written, when some instruction says so. -/
def signsIn (instructions : List Instruction) (key : Pubkey) : Bool :=
  instructions.any fun ix => ix.accounts.any fun entry => entry.pubkey == key && entry.isSigner

def writtenIn (instructions : List Instruction) (key : Pubkey) : Bool :=
  instructions.any fun ix => ix.accounts.any fun entry => entry.pubkey == key && entry.isWritable

/-- The keys besides the fee payer, in the order of their bytes. -/
def otherKeys (instructions : List Instruction) (payer : Pubkey) : List Pubkey :=
  ((instructions.flatMap Instruction.keys).dedup.filter (· != payer)).insertionSort
    fun left right => left.value.toNat ≤ right.value.toNat

/-- Writable signers, read-only signers, writable accounts and read-only accounts. -/
structure KeyGroups where
  writableSigners : List Pubkey
  readonlySigners : List Pubkey
  writable : List Pubkey
  readonly : List Pubkey

def keyGroups (instructions : List Instruction) (payer : Pubkey) : KeyGroups :=
  let keys := otherKeys instructions payer
  let select (signer writable : Bool) := keys.filter fun key =>
    signsIn instructions key == signer && writtenIn instructions key == writable
  ⟨payer :: select true true, select true false, select false true, select false false⟩

def KeyGroups.accountKeys (groups : KeyGroups) : List Pubkey :=
  groups.writableSigners ++ groups.readonlySigners ++ groups.writable ++ groups.readonly

def KeyGroups.header (groups : KeyGroups) : MessageHeader where
  numRequiredSignatures :=
    UInt8.ofNat (groups.writableSigners.length + groups.readonlySigners.length)
  numReadonlySignedAccounts := UInt8.ofNat groups.readonlySigners.length
  numReadonlyUnsignedAccounts := UInt8.ofNat groups.readonly.length

/-- The counts of the header and every position fit a byte. -/
def KeyGroups.fits (groups : KeyGroups) : Bool :=
  groups.writableSigners.length + groups.readonlySigners.length < 256 &&
    groups.readonly.length < 256 && groups.accountKeys.length ≤ 256

def Instruction.compile (accountKeys : List Pubkey) (instruction : Instruction) :
    CompiledInstruction where
  programIdIndex := UInt8.ofNat (accountKeys.idxOf instruction.programId)
  accounts := instruction.accounts.map fun entry =>
    UInt8.ofNat (accountKeys.idxOf entry.pubkey)
  data := instruction.data

/-- `Message::new_with_blockhash`, for keys that can be indexed. -/
def Message.newWithBlockhash (instructions : List Instruction) (payer blockhash : Pubkey) :
    Option Message :=
  let groups := keyGroups instructions payer
  if groups.fits then
    some {
      header := groups.header
      accountKeys := groups.accountKeys
      recentBlockhash := blockhash
      instructions := instructions.map (Instruction.compile groups.accountKeys) }
  else none

/-! ## Reading instructions -/

/-- The key at an index; indices of a well-formed message are in range. -/
def Message.keyAt (message : Message) (accountIndex : UInt8) : Pubkey :=
  message.accountKeys.getD accountIndex.toNat ⟨0⟩

def Message.accountMeta (message : Message) (accountIndex : UInt8) : AccountMeta where
  pubkey := message.keyAt accountIndex
  isSigner := message.isSigner accountIndex.toNat
  isWritable := message.isWritableIndex accountIndex.toNat

/-- What a compiled instruction says, with the flags of its accounts. -/
def Message.decode (message : Message) (ix : CompiledInstruction) : Instruction where
  programId := message.keyAt ix.programIdIndex
  accounts := ix.accounts.map message.accountMeta
  data := ix.data

/-- Program, accounts and data of an instruction, without the flags. -/
def Message.call (message : Message) (ix : CompiledInstruction) :
    Option Pubkey × List (Option Pubkey) × List UInt8 :=
  (message.programId ix, ix.accounts.map fun index => message.accountKeys[index.toNat]?, ix.data)

def Instruction.call (instruction : Instruction) :
    Option Pubkey × List (Option Pubkey) × List UInt8 :=
  (some instruction.programId, instruction.accounts.map fun entry => some entry.pubkey,
    instruction.data)

/-- The header counts stay within the keys, and every index is in range. -/
structure Message.WellFormed (message : Message) : Prop where
  signed : message.header.numReadonlySignedAccounts.toNat ≤
    message.header.numRequiredSignatures.toNat
  unsigned : message.header.numRequiredSignatures.toNat +
    message.header.numReadonlyUnsignedAccounts.toNat ≤ message.accountKeys.length
  length : message.accountKeys.length < 2 ^ 64
  program : ∀ ix ∈ message.instructions, ix.programIdIndex.toNat < message.accountKeys.length
  account : ∀ ix ∈ message.instructions, ∀ accountIndex ∈ ix.accounts,
    accountIndex.toNat < message.accountKeys.length

section Compiled

variable {instructions : List Instruction} {payer blockhash key : Pubkey} {message : Message}

theorem mem_accountKeys (hkey : key ∈ instructions.flatMap Instruction.keys) :
    key ∈ (keyGroups instructions payer).accountKeys := by
  by_cases hpayer : key = payer
  · subst hpayer
    simp [KeyGroups.accountKeys, keyGroups]
  · have hother : key ∈ otherKeys instructions payer := by
      rw [otherKeys, List.mem_insertionSort, List.mem_filter, List.mem_dedup]
      exact ⟨hkey, by simpa using hpayer⟩
    simp only [KeyGroups.accountKeys, keyGroups, List.mem_append, List.mem_cons,
      List.mem_filter]
    cases signsIn instructions key <;> cases writtenIn instructions key <;> simp [hother]

theorem getElem?_idxOf {keys : List Pubkey} (hmem : key ∈ keys) (hfits : keys.length ≤ 256) :
    keys[(UInt8.ofNat (keys.idxOf key)).toNat]? = some key := by
  have hlt : keys.idxOf key < keys.length := List.idxOf_lt_length_of_mem hmem
  have hbyte : (UInt8.ofNat (keys.idxOf key)).toNat = keys.idxOf key := by
    rw [UInt8.toNat_ofNat']
    omega
  rw [hbyte, List.getElem?_eq_getElem hlt, List.getElem_idxOf]

/-- The compiled instructions call the same programs on the same accounts with the same data. -/
theorem call_newWithBlockhash
    (hcompiled : Message.newWithBlockhash instructions payer blockhash = some message) :
    message.instructions.map message.call = instructions.map Instruction.call := by
  obtain ⟨hfits, hmessage⟩ := Option.ite_none_right_eq_some.mp hcompiled
  cases hmessage
  rw [KeyGroups.fits, Bool.and_eq_true, decide_eq_true_eq] at hfits
  rw [List.map_map]
  apply List.map_congr_left
  intro instruction hmem
  have hkey : ∀ key ∈ instruction.keys, (keyGroups instructions payer).accountKeys[
      (UInt8.ofNat ((keyGroups instructions payer).accountKeys.idxOf key)).toNat]? =
        some key := by
    intro key hin
    exact getElem?_idxOf (mem_accountKeys (List.mem_flatMap.mpr ⟨instruction, hmem, hin⟩)) hfits.2
  simp only [Function.comp_apply, Message.call, Message.programId, Instruction.compile,
    Instruction.call, List.map_map, hkey _ List.mem_cons_self, Prod.mk.injEq, and_true, true_and]
  apply List.map_congr_left
  intro entry hentry
  exact hkey _ (List.mem_cons_of_mem _ (List.mem_map_of_mem hentry))

theorem getElem?_append_cases {A : Type} {first second : List A} {position : ℕ} {value : A}
    (hvalue : (first ++ second)[position]? = some value) :
    (position < first.length ∧ first[position]? = some value) ∨
      (first.length ≤ position ∧ value ∈ second) := by
  rcases Nat.lt_or_ge position first.length with hlt | hge
  · rw [List.getElem?_append_left hlt] at hvalue
    exact .inl ⟨hlt, hvalue⟩
  · rw [List.getElem?_append_right hge] at hvalue
    exact .inr ⟨hge, List.mem_of_getElem? hvalue⟩

/-- The position of a key in a compiled message tells its flags: those of the fee payer, or those
that some instruction asks for. -/
theorem flags_newWithBlockhash {position : ℕ}
    (hcompiled : Message.newWithBlockhash instructions payer blockhash = some message)
    (hkey : message.accountKeys[position]? = some key) :
    message.isSigner position = (key == payer || signsIn instructions key) ∧
      message.isWritableIndex position = (key == payer || writtenIn instructions key) := by
  obtain ⟨hfits, hmessage⟩ := Option.ite_none_right_eq_some.mp hcompiled
  cases hmessage
  simp only [KeyGroups.fits, Bool.and_eq_true, decide_eq_true_eq] at hfits
  obtain ⟨⟨hsigners, hreadonly⟩, -⟩ := hfits
  have hother : ∀ {key : Pubkey} {signer writable : Bool},
      key ∈ (otherKeys instructions payer).filter (fun key =>
        signsIn instructions key == signer && writtenIn instructions key == writable) →
      (key == payer || signsIn instructions key) = signer ∧
        (key == payer || writtenIn instructions key) = writable := by
    intro key signer writable hmem
    rw [List.mem_filter, otherKeys, List.mem_insertionSort, List.mem_filter] at hmem
    obtain ⟨⟨-, hne⟩, hflags⟩ := hmem
    simp only [bne_iff_ne, Bool.and_eq_true, beq_iff_eq] at hne hflags
    simp [hne, hflags]
  simp only [Message.isSigner, Message.isWritableIndex, KeyGroups.header, UInt8.toNat_ofNat',
    Nat.mod_eq_of_lt hsigners, Nat.mod_eq_of_lt hreadonly,
    Nat.mod_eq_of_lt (lt_of_le_of_lt (Nat.le_add_left _ _) hsigners), Nat.add_sub_cancel,
    KeyGroups.accountKeys, List.length_append] at hkey ⊢
  rcases getElem?_append_cases hkey with ⟨hlt, hkey⟩ | ⟨hge, hmem⟩
  · rcases getElem?_append_cases hkey with ⟨hlt', hkey⟩ | ⟨hge, hmem⟩
    · rcases getElem?_append_cases hkey with ⟨hlt'', hkey⟩ | ⟨hge, hmem⟩
      · have hflags : (key == payer || signsIn instructions key) = true ∧
            (key == payer || writtenIn instructions key) = true := by
          rcases List.mem_cons.mp (List.mem_of_getElem? hkey) with rfl | hmem
          · simp
          · exact hother hmem
        rw [hflags.1, hflags.2]
        simp only [decide_eq_true_eq, Bool.or_eq_true, Bool.and_eq_true]
        omega
      · obtain ⟨hsigns, hwrites⟩ := hother hmem
        rw [hsigns, hwrites]
        rw [List.length_append] at hlt'
        simp only [decide_eq_true_eq, Bool.or_eq_false_iff, Bool.and_eq_false_iff,
          decide_eq_false_iff_not]
        omega
    · obtain ⟨hsigns, hwrites⟩ := hother hmem
      rw [hsigns, hwrites]
      rw [List.length_append] at hge
      rw [List.length_append, List.length_append] at hlt
      simp only [decide_eq_false_iff_not, Bool.or_eq_true, Bool.and_eq_true, decide_eq_true_eq]
      omega
  · obtain ⟨hsigns, hwrites⟩ := hother hmem
    rw [hsigns, hwrites]
    rw [List.length_append, List.length_append] at hge
    simp only [decide_eq_false_iff_not, Bool.or_eq_false_iff, Bool.and_eq_false_iff]
    omega

end Compiled

end Relayer.SolanaMessage
