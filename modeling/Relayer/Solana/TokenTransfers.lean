import Relayer.Solana.Validation

/-!
# Token transfers under the policy

The token of a source account is looked up when the account is first named, and so are the
decimals and the fee limit; later transfers from it only add to a total that is kept in 64
bits.  A transaction that passes keeps to the policy in every transfer exactly if those
later transfers do so of themselves and no total reaches 2⁶⁴.
-/

namespace Relayer.SolanaTokenTransfers

open Relayer.Checks Relayer.SolanaMessage Relayer.SolanaPrograms Relayer.SolanaValidation

/-- A `Transfer` or a `TransferChecked`, which gives decimals. -/
structure TokenTransfer where
  programId : Pubkey
  source : Pubkey
  destination : Pubkey
  amount : UInt64
  decimals : Option UInt8
  deriving DecidableEq, Repr

def transferAt (message : Message) (programId : Pubkey) (ix : CompiledInstruction)
    (amount : UInt64) (decimals : Option UInt8) (destPosition : ℕ) : Option TokenTransfer :=
  (message.accountAt ix 0).bind fun source =>
    (message.accountAt ix destPosition).map fun destination =>
      ⟨programId, source, destination, amount, decimals⟩

/-- The transfer that an instruction makes. -/
def transferOf (spl : TokenInterfaces) (message : Message) (ix : CompiledInstruction) :
    Option TokenTransfer :=
  (message.programId ix).bind fun programId =>
    if isTokenProgram programId then
      match unpackInstruction spl programId ix.data with
      | .ok (.transfer amount) => transferAt message programId ix amount none 1
      | .ok (.transferChecked amount decimals) =>
          transferAt message programId ix amount (some decimals) 2
      | _ => none
    else none

def transfersOf (spl : TokenInterfaces) (message : Message) : List TokenTransfer :=
  message.instructions.filterMap (transferOf spl message)

/-- What all transfers from a source add up to. -/
def totalFrom (source : Pubkey) (transfers : List TokenTransfer) : ℕ :=
  ((transfers.filter (·.source = source)).map (·.amount.toNat)).sum

section Policy

variable (spl : TokenInterfaces) (services : SolanaServices)
variable (allowedTokens : List SolanaAllowedTokensPolicy) (relayer : Pubkey)

def firstFrom (transfers : List TokenTransfer) (source : Pubkey) : Option TokenTransfer :=
  transfers.find? fun transfer => transfer.source = source

/-- The account of a source, read by the program that first names it, and the entry of the
policy for its token. -/
def sourceToken (transfers : List TokenTransfer) (source : Pubkey) :
    Option (TokenAccount × SolanaAllowedTokensPolicy) := do
  let first ← firstFrom transfers source
  let account ← (services.getAccountFromPubkey source).toOption
  let tokenAccount ← (unpackAccount spl first.programId account).toOption
  let config ← allowedTokens.find? fun token => token.mint == tokenAccount.mint.toText
  return (tokenAccount, config)

/-- The decimals and the fee of a transfer are those of the policy. -/
def Complies (config : SolanaAllowedTokensPolicy) (transfer : TokenTransfer) : Prop :=
  (∀ decimals, transfer.decimals = some decimals → config.decimals = some decimals) ∧
    (transfer.destination = relayer → ∀ maxFee, config.maxAllowedFee = some maxFee →
      transfer.amount ≤ maxFee)

/-- Every transfer is of an allowed token from an account that is not frozen, complies with
the policy, and no source sends more than it holds. -/
def KeepsPolicy (transfers : List TokenTransfer) : Prop :=
  ∀ transfer ∈ transfers, ∃ tokenAccount config,
    sourceToken spl services allowedTokens transfers transfer.source =
        some (tokenAccount, config) ∧
      tokenAccount.isFrozen = false ∧ Complies relayer config transfer ∧
      totalFrom transfer.source transfers ≤ tokenAccount.amount.toNat

/-- The transfers whose source an earlier one has named. -/
def Repeated (transfers : List TokenTransfer) (transfer : TokenTransfer) : Prop :=
  ∃ before after, transfers = before ++ transfer :: after ∧
    ∃ earlier ∈ before, earlier.source = transfer.source

end Policy

/-! ## What the validator has checked -/

section Checked

variable {spl : TokenInterfaces} {services : SolanaServices}
variable {allowedTokens : List SolanaAllowedTokensPolicy} {relayer : Pubkey}
variable {message : Message} {totals after : TransferTotals}

theorem lookup_cons_eq (source key : Pubkey) (amount : UInt64) (amounts : Amounts) :
    List.lookup source ((key, amount) :: amounts) =
      if source = key then some amount else amounts.lookup source := by
  by_cases hsame : source = key
  · rw [if_pos hsame, hsame, List.lookup_cons_self]
  · rw [if_neg hsame, List.lookup_cons, beq_eq_false_iff_ne.mpr hsame]

theorem lookup_addAmount (source account : Pubkey) (amount : UInt64) (amounts : Amounts) :
    (addAmount account amount amounts).lookup source =
      if source = account then some ((amounts.lookup account).getD 0 + amount)
      else amounts.lookup source := by
  induction amounts with
  | nil => rw [addAmount, lookup_cons_eq, List.lookup_nil, List.lookup_nil, Option.getD_none,
      UInt64.zero_add]
  | cons entry amounts ih =>
      obtain ⟨key, total⟩ := entry
      rw [addAmount]
      by_cases hkey : key = account
      · rw [if_pos hkey, lookup_cons_eq, lookup_cons_eq, lookup_cons_eq, hkey, if_pos rfl,
          Option.getD_some]
        split <;> rfl
      · rw [if_neg hkey, lookup_cons_eq, lookup_cons_eq, lookup_cons_eq, ih,
          if_neg (Ne.symm hkey)]
        by_cases hsame : source = key
        · rw [if_pos hsame, if_pos hsame, if_neg (hsame ▸ hkey)]
        · rw [if_neg hsame, if_neg hsame]

/-- The source's token was looked up for its first transfer, which complies. -/
def Vetted (spl : TokenInterfaces) (services : SolanaServices)
    (allowedTokens : List SolanaAllowedTokensPolicy) (relayer : Pubkey)
    (seen : List TokenTransfer) (source : Pubkey) (balance : UInt64) : Prop :=
  ∃ first tokenAccount config, firstFrom seen source = some first ∧
    sourceToken spl services allowedTokens seen source = some (tokenAccount, config) ∧
    tokenAccount.isFrozen = false ∧ Complies relayer config first ∧
    tokenAccount.amount = balance

/-- What the totals say of the transfers seen so far; sums are taken modulo 2⁶⁴. -/
structure Tallies (spl : TokenInterfaces) (services : SolanaServices)
    (allowedTokens : List SolanaAllowedTokensPolicy) (relayer : Pubkey)
    (seen : List TokenTransfer) (totals : TransferTotals) : Prop where
  known : ∀ source balance, totals.balances.lookup source = some balance →
    Vetted spl services allowedTokens relayer seen source balance
  unknown : ∀ source, totals.balances.lookup source = none → firstFrom seen source = none
  sums : ∀ source, totals.transfers.lookup source =
    (firstFrom seen source).map fun _ => UInt64.ofNat (totalFrom source seen)

variable {seen : List TokenTransfer} {transfer : TokenTransfer}

theorem firstFrom_append (seen : List TokenTransfer) (transfer : TokenTransfer)
    (source : Pubkey) : firstFrom (seen ++ [transfer]) source =
      (firstFrom seen source).or (if source = transfer.source then some transfer else none) := by
  rw [firstFrom, List.find?_append, firstFrom, List.find?_singleton]
  by_cases hsame : source = transfer.source
  · simp [hsame]
  · simp [hsame, Ne.symm hsame]

theorem totalFrom_append (source : Pubkey) (seen : List TokenTransfer)
    (transfer : TokenTransfer) : totalFrom source (seen ++ [transfer]) =
      totalFrom source seen +
        if source = transfer.source then transfer.amount.toNat else 0 := by
  rw [totalFrom, totalFrom, List.filter_append, List.map_append, List.sum_append]
  by_cases hsame : source = transfer.source
  · simp [hsame]
  · simp [hsame, Ne.symm hsame]

theorem totalFrom_eq_zero {source : Pubkey} (hnone : firstFrom seen source = none) :
    totalFrom source seen = 0 := by
  have hempty : seen.filter (·.source = source) = [] := by
    rw [List.filter_eq_nil_iff]
    exact List.find?_eq_none.mp hnone
  rw [totalFrom, hempty]
  rfl

theorem sourceToken_congr {seen later : List TokenTransfer} {source : Pubkey}
    (hfirst : firstFrom later source = firstFrom seen source) :
    sourceToken spl services allowedTokens later source =
      sourceToken spl services allowedTokens seen source := by
  rw [sourceToken, sourceToken, hfirst]

theorem lookup_recordTransfer (source : Pubkey) (amount : UInt64) (fetched : Option UInt64)
    (totals : TransferTotals) (account : Pubkey) :
    (recordTransfer account amount fetched totals).balances.lookup source =
      (totals.balances.lookup source).or (if source = account then fetched else none) := by
  cases fetched with
  | none => rw [ite_self, Option.or_none]; rfl
  | some balance =>
      have happend : (recordTransfer account amount (some balance) totals).balances =
        totals.balances ++ [(account, balance)] := rfl
      rw [happend, List.lookup_append, lookup_cons_eq, List.lookup_nil]

/-- A transfer is counted; if its source is new, its token has been looked up. -/
theorem Tallies.record (htallies : Tallies spl services allowedTokens relayer seen totals)
    {fetched : Option UInt64}
    (hnew : totals.balances.lookup transfer.source = none → ∃ balance, fetched = some balance ∧
      Vetted spl services allowedTokens relayer (seen ++ [transfer]) transfer.source balance) :
    Tallies spl services allowedTokens relayer (seen ++ [transfer])
      (recordTransfer transfer.source transfer.amount fetched totals) := by
  refine ⟨fun source balance hbalance => ?_, fun source hnone => ?_, fun source => ?_⟩
  · rw [lookup_recordTransfer] at hbalance
    cases hlookup : totals.balances.lookup source with
    | some held =>
        rw [hlookup, Option.some_or] at hbalance
        cases hbalance
        obtain ⟨first, tokenAccount, config, hfirst, htoken, hchecks⟩ :=
          htallies.known source balance hlookup
        have hsame : firstFrom (seen ++ [transfer]) source = firstFrom seen source := by
          rw [firstFrom_append, hfirst, Option.some_or]
        exact ⟨first, tokenAccount, config, hsame.trans hfirst,
          (sourceToken_congr hsame).trans htoken, hchecks⟩
    | none =>
        rw [hlookup, Option.none_or] at hbalance
        split at hbalance
        · next hsource =>
            subst hsource
            obtain ⟨_, rfl, hvetted⟩ := hnew hlookup
            cases hbalance
            exact hvetted
        · cases hbalance
  · rw [lookup_recordTransfer, Option.or_eq_none_iff] at hnone
    obtain ⟨hlookup, hfetched⟩ := hnone
    rw [firstFrom_append, htallies.unknown source hlookup, Option.none_or]
    split at hfetched
    · next hsource =>
        subst hsource
        obtain ⟨_, rfl, -⟩ := hnew hlookup
        cases hfetched
    · next hother => rw [if_neg hother]
  · change (addAmount transfer.source transfer.amount totals.transfers).lookup source = _
    rw [lookup_addAmount, htallies.sums, htallies.sums, firstFrom_append, totalFrom_append]
    by_cases hsource : source = transfer.source
    · subst hsource
      rw [if_pos rfl, if_pos rfl, if_pos rfl, UInt64.ofNat_add, UInt64.ofNat_toNat]
      cases hfirst : firstFrom seen transfer.source with
      | some first => rfl
      | none => rw [totalFrom_eq_zero hfirst]; rfl
    · rw [if_neg hsource, if_neg hsource, if_neg hsource, Option.or_none, Nat.add_zero]

/-- The decimals that an instruction gives. -/
def decimalsOf : TokenInstruction → Option UInt8
  | .transferChecked _ decimals => some decimals
  | _ => none

theorem complies_of_checks {config : SolanaAllowedTokensPolicy} {mint : Pubkey}
    {instruction : TokenInstruction} (hdecimals : transfer.decimals = decimalsOf instruction)
    (hchecked : checkDecimals config instruction = .ok ())
    (hfee : checkMaxFee config mint transfer.destination relayer transfer.amount = .ok ()) :
    Complies relayer config transfer := by
  constructor
  · intro decimals hsome
    rw [hdecimals] at hsome
    cases instruction with
    | transferChecked amount given =>
        cases hsome
        exact eq_of_beq (require_eq_ok_iff.mp hchecked)
    | transfer amount | other => cases hsome
  · intro hrelayer maxFee hmaxFee
    rw [checkMaxFee, hmaxFee] at hfee
    have hlimit := require_eq_ok_iff.mp hfee
    rw [hrelayer, bne_self_eq_false, Bool.false_or, decide_eq_true_eq] at hlimit
    exact hlimit

theorem vetted_of_sourceBalance {balance : UInt64} {instruction : TokenInstruction}
    (hdecimals : transfer.decimals = decimalsOf instruction)
    (hnew : firstFrom seen transfer.source = none)
    (hok : sourceBalance spl services allowedTokens relayer transfer.programId transfer.source
      transfer.destination instruction transfer.amount = .ok balance) :
    Vetted spl services allowedTokens relayer (seen ++ [transfer]) transfer.source balance := by
  have hfirst : firstFrom (seen ++ [transfer]) transfer.source = some transfer := by
    rw [firstFrom_append, hnew, if_pos rfl, Option.none_or]
  obtain ⟨account, haccount, hok⟩ := bind_eq_ok.mp hok
  obtain ⟨tokenAccount, hunpack, hok⟩ := bind_eq_ok.mp hok
  obtain ⟨_, hfrozen, hok⟩ := bind_eq_ok.mp hok
  have haccount := ok_of_mapError haccount
  have hunpack := ok_of_mapError hunpack
  dsimp only at hok
  split at hok
  · cases hok
  · next config hconfig =>
      obtain ⟨_, hchecked, hok⟩ := bind_eq_ok.mp hok
      obtain ⟨_, hfee, hok⟩ := bind_eq_ok.mp hok
      cases hok
      refine ⟨transfer, tokenAccount, config, hfirst, ?_, ?_,
        complies_of_checks hdecimals hchecked hfee, rfl⟩
      · rw [sourceToken, hfirst, haccount]
        change ((unpackAccount spl transfer.programId account).toOption >>= _) = _
        rw [hunpack]
        change ((allowedTokens.find? _) >>= _) = _
        rw [hconfig]
        rfl
      · simpa using require_eq_ok_iff.mp hfrozen

theorem Tallies.validateTransfer {ix : CompiledInstruction} {programId : Pubkey}
    {instruction : TokenInstruction} {amount : UInt64} {destPosition ownerPosition : ℕ}
    (htallies : Tallies spl services allowedTokens relayer seen totals)
    (hok : validateTransfer spl services allowedTokens message relayer programId ix instruction
      amount destPosition ownerPosition totals = .ok after) :
    ∃ transfer, transferAt message programId ix amount (decimalsOf instruction) destPosition =
        some transfer ∧
      Tallies spl services allowedTokens relayer (seen ++ [transfer]) after := by
  obtain ⟨⟨source, destination⟩, haccounts, hok⟩ := bind_eq_ok.mp hok
  obtain ⟨hsource, hdestination, -⟩ := transferAccounts_eq_ok haccounts
  refine ⟨⟨programId, source, destination, amount, decimalsOf instruction⟩, ?_, ?_⟩
  · rw [transferAt, hsource, hdestination]
    rfl
  · dsimp only at hok
    split at hok
    · next hknown =>
        cases hok
        refine htallies.record fun hnone => ?_
        rw [hnone] at hknown
        cases hknown
    · next hunknown =>
        obtain ⟨balance, hbalance, hok⟩ := bind_eq_ok.mp hok
        cases hok
        refine htallies.record fun hnone => ⟨balance, rfl, ?_⟩
        exact vetted_of_sourceBalance rfl (htallies.unknown source hnone) hbalance

theorem Tallies.validateTokenInstruction {ix : CompiledInstruction}
    (htallies : Tallies spl services allowedTokens relayer seen totals)
    (hok : validateTokenInstruction spl services allowedTokens message relayer totals ix =
      .ok after) :
    Tallies spl services allowedTokens relayer
      (seen ++ (transferOf spl message ix).toList) after := by
  obtain ⟨programId, hprogram, hok⟩ := bind_eq_ok.mp hok
  rw [index_eq_ok_iff] at hprogram
  rw [transferOf, Message.programId, hprogram, Option.bind_some]
  split at hok
  · next htoken =>
      rw [if_pos htoken]
      split at hok
      · next hunpack =>
          cases hok
          rw [hunpack, Option.toList_none, List.append_nil]
          exact htallies
      · next amount hunpack =>
          obtain ⟨transfer, htransfer, hafter⟩ := htallies.validateTransfer hok
          change transferAt message programId ix amount none 1 = _ at htransfer
          rw [hunpack]
          dsimp only
          rw [htransfer]
          exact hafter
      · next amount decimals hunpack =>
          obtain ⟨transfer, htransfer, hafter⟩ := htallies.validateTransfer hok
          change transferAt message programId ix amount (some decimals) 2 = _ at htransfer
          rw [hunpack]
          dsimp only
          rw [htransfer]
          exact hafter
      · next hunpack =>
          obtain ⟨_, -, hok⟩ := bind_eq_ok.mp hok
          cases hok
          rw [hunpack, Option.toList_none, List.append_nil]
          exact htallies
  · next hother =>
      cases hok
      rw [if_neg hother, Option.toList_none, List.append_nil]
      exact htallies

/-- Over the whole list of instructions. -/
theorem Tallies.instructions {instructions : List CompiledInstruction}
    (htallies : Tallies spl services allowedTokens relayer seen totals)
    (hok : instructions.foldlM
      (SolanaValidation.validateTokenInstruction spl services allowedTokens message relayer)
      totals = .ok after) :
    Tallies spl services allowedTokens relayer
      (seen ++ instructions.filterMap (transferOf spl message)) after := by
  induction instructions generalizing seen totals with
  | nil =>
      cases hok
      rw [List.filterMap_nil, List.append_nil]
      exact htallies
  | cons ix instructions ih =>
      rw [List.foldlM_cons] at hok
      obtain ⟨middle, hfirst, hok⟩ := bind_eq_ok.mp hok
      have hrest := ih (htallies.validateTokenInstruction hfirst) hok
      rw [List.append_assoc] at hrest
      have hcons : (ix :: instructions).filterMap (transferOf spl message) =
          (transferOf spl message ix).toList ++
            instructions.filterMap (transferOf spl message) := by
        rw [List.filterMap_cons]
        cases transferOf spl message ix <;> rfl
      rwa [hcons]

/-- The transfers that are not the first of their source comply, and no total reaches
2⁶⁴. -/
def RepeatsComply (spl : TokenInterfaces) (services : SolanaServices)
    (allowedTokens : List SolanaAllowedTokensPolicy) (relayer : Pubkey)
    (transfers : List TokenTransfer) : Prop :=
  (∀ transfer, Repeated transfers transfer → ∀ tokenAccount config,
    sourceToken spl services allowedTokens transfers transfer.source =
      some (tokenAccount, config) → Complies relayer config transfer) ∧
  ∀ source, totalFrom source transfers < UInt64.size

theorem first_or_repeated {transfers : List TokenTransfer} (hmem : transfer ∈ transfers) :
    firstFrom transfers transfer.source = some transfer ∨ Repeated transfers transfer := by
  obtain ⟨before, later, rfl⟩ := List.append_of_mem hmem
  cases hfirst : firstFrom before transfer.source with
  | none =>
      left
      rw [firstFrom] at hfirst ⊢
      rw [List.find?_append, hfirst, Option.none_or, List.find?_cons_of_pos (by simp)]
  | some earlier =>
      right
      refine ⟨before, later, rfl, earlier, List.mem_of_find?_eq_some hfirst, ?_⟩
      simpa using List.find?_some hfirst

/-- The source of every transfer was vetted, and its total, in 64 bits, is covered. -/
theorem Tallies.vetted {transfers : List TokenTransfer}
    (htallies : Tallies spl services allowedTokens relayer transfers totals)
    (hok : checkAll (validateTotal totals.balances) totals.transfers = .ok ())
    (hmem : transfer ∈ transfers) :
    ∃ balance, Vetted spl services allowedTokens relayer transfers transfer.source balance ∧
      UInt64.ofNat (totalFrom transfer.source transfers) ≤ balance := by
  obtain ⟨first, hfirst⟩ : ∃ first, firstFrom transfers transfer.source = some first := by
    obtain hfirst | ⟨before, _, rfl, earlier, hearlier, hsame⟩ := first_or_repeated hmem
    · exact ⟨transfer, hfirst⟩
    · refine Option.isSome_iff_exists.mp (List.find?_isSome.mpr ⟨earlier, ?_, by simpa using hsame⟩)
      exact List.mem_append_left _ hearlier
  cases hbalance : totals.balances.lookup transfer.source with
  | none =>
      rw [htallies.unknown _ hbalance] at hfirst
      cases hfirst
  | some balance =>
      refine ⟨balance, htallies.known _ _ hbalance, ?_⟩
      have hsum := htallies.sums transfer.source
      rw [hfirst, Option.map_some] at hsum
      obtain ⟨before, later, hsplit, -⟩ := List.lookup_eq_some_iff.mp hsum
      have htotal := checkAll_eq_ok_iff.mp hok _
        (hsplit ▸ List.mem_append_right _ List.mem_cons_self)
      rw [validateTotal, require_eq_ok_iff, hbalance] at htotal
      exact of_decide_eq_true htotal

/-- A transaction that passes keeps the policy in every transfer exactly if the transfers
that were not looked at do and the totals are exact. -/
theorem accepted_transfers_keep_policy_iff (spl : TokenInterfaces) (services : SolanaServices)
    (tx : SolanaTransaction) (policy : RelayerSolanaPolicy) (relayer : Pubkey)
    {allowedTokens : List SolanaAllowedTokensPolicy}
    (htokens : policy.allowedTokens = some allowedTokens) (hnonempty : allowedTokens ≠ [])
    (hok : validateTokenTransfers spl services tx policy relayer = .ok ()) :
    KeepsPolicy spl services allowedTokens relayer (transfersOf spl tx.message) ↔
      RepeatsComply spl services allowedTokens relayer (transfersOf spl tx.message) := by
  rw [validateTokenTransfers, htokens] at hok
  obtain ⟨token, rest, rfl⟩ := List.exists_cons_of_ne_nil hnonempty
  obtain ⟨totals, hfold, hok⟩ := bind_eq_ok.mp hok
  have hstart : Tallies spl services (token :: rest) relayer [] ⟨[], []⟩ :=
    ⟨fun _ _ hnone => (by cases hnone), fun _ _ => rfl, fun _ => rfl⟩
  have htallies := hstart.instructions hfold
  rw [List.nil_append] at htallies
  change Tallies spl services (token :: rest) relayer (transfersOf spl tx.message) totals
    at htallies
  generalize transfersOf spl tx.message = transfers at htallies ⊢
  constructor
  · intro hkeeps
    refine ⟨fun transfer hrepeated tokenAccount config htoken => ?_, fun source => ?_⟩
    · obtain ⟨before, later, rfl, -⟩ := hrepeated
      obtain ⟨_, _, hsame, -, hcomplies, -⟩ :=
        hkeeps transfer (List.mem_append_right _ List.mem_cons_self)
      cases htoken.symm.trans hsame
      exact hcomplies
    · cases hfirst : firstFrom transfers source with
      | none =>
          rw [totalFrom_eq_zero hfirst]
          decide
      | some first =>
          have hsource : first.source = source := by simpa using List.find?_some hfirst
          obtain ⟨tokenAccount, _, -, -, -, htotal⟩ :=
            hkeeps first (List.mem_of_find?_eq_some hfirst)
          rw [hsource] at htotal
          exact htotal.trans_lt tokenAccount.amount.toNat_lt
  · rintro ⟨hrepeats, hexact⟩ transfer hmem
    obtain ⟨_, ⟨first, tokenAccount, config, hfirst, htoken, hfrozen, hcomplies, rfl⟩, htotal⟩ :=
      htallies.vetted hok hmem
    refine ⟨tokenAccount, config, htoken, hfrozen, ?_, ?_⟩
    · obtain hisFirst | hrepeated := first_or_repeated hmem
      · cases hfirst.symm.trans hisFirst
        exact hcomplies
      · exact hrepeats transfer hrepeated tokenAccount config htoken
    · rwa [UInt64.le_iff_toNat_le, UInt64.toNat_ofNat_of_lt' (hexact _)] at htotal

end Checked

/-! ## Two transfers from one account -/

section Samples

/-- `TransferChecked` of an amount from the user's account to the relayer's, with these
decimals. -/
def transferChecked (amount : ℕ) (decimals : UInt8) : CompiledInstruction :=
  ⟨6, [2, 5, 3, 1], 12 :: leBytes 8 amount ++ [decimals]⟩

def sampleToken : SolanaAllowedTokensPolicy := ⟨sampleMint.toText, some 6, none, none⟩

theorem config_of_sourceToken {transfers : List TokenTransfer} {source : Pubkey}
    {tokenAccount : TokenAccount} {config : SolanaAllowedTokensPolicy}
    (htoken : sourceToken baseInterfaces sampleServices [sampleToken] transfers source =
      some (tokenAccount, config)) : config = sampleToken := by
  obtain ⟨_, -, htoken⟩ := Option.bind_eq_some_iff.mp htoken
  obtain ⟨_, -, htoken⟩ := Option.bind_eq_some_iff.mp htoken
  obtain ⟨_, -, htoken⟩ := Option.bind_eq_some_iff.mp htoken
  obtain ⟨_, hfind, htoken⟩ := Option.bind_eq_some_iff.mp htoken
  cases htoken
  exact List.mem_singleton.mp (List.mem_of_find?_eq_some hfind)

theorem policy_kept_by_two_transfers :
    validateTokenTransfers baseInterfaces sampleServices
        (sampleTransaction [transferChecked 500 6, transferChecked 400 6]) samplePolicy
        sampleRelayer = .ok () ∧
      KeepsPolicy baseInterfaces sampleServices [sampleToken] sampleRelayer
        (transfersOf baseInterfaces
          (sampleTransaction [transferChecked 500 6, transferChecked 400 6]).message) := by
  have hok : validateTokenTransfers baseInterfaces sampleServices
      (sampleTransaction [transferChecked 500 6, transferChecked 400 6]) samplePolicy
      sampleRelayer = .ok () := by
    decide +kernel
  have hlist : transfersOf baseInterfaces
      (sampleTransaction [transferChecked 500 6, transferChecked 400 6]).message =
        [⟨splTokenId, userTokens, relayerTokens, 500, some 6⟩,
          ⟨splTokenId, userTokens, relayerTokens, 400, some 6⟩] := by
    decide +kernel
  refine ⟨hok, (accepted_transfers_keep_policy_iff baseInterfaces sampleServices _ samplePolicy
    sampleRelayer rfl (List.cons_ne_nil _ _) hok).mpr ?_⟩
  rw [hlist]
  constructor
  · rintro transfer ⟨before, later, hsplit, -⟩ tokenAccount config htoken
    obtain rfl := config_of_sourceToken htoken
    have hmem : transfer ∈ before ++ transfer :: later :=
      List.mem_append_right _ List.mem_cons_self
    rw [← hsplit] at hmem
    refine ⟨fun decimals hsome => ?_, fun _ _ hfee => (nomatch hfee)⟩
    simp only [List.mem_cons, List.not_mem_nil, or_false] at hmem
    rcases hmem with rfl | rfl <;> exact hsome
  · intro source
    by_cases hsource : userTokens = source
    · subst hsource
      decide
    · rw [totalFrom, List.filter_cons_of_neg (by simpa using hsource),
        List.filter_cons_of_neg (by simpa using hsource)]
      change 0 < UInt64.size
      decide

/-- The second transfer has the wrong decimals, and nobody looks. -/
theorem wrong_decimals_accepted :
    validateTokenTransfers baseInterfaces sampleServices
        (sampleTransaction [transferChecked 500 6, transferChecked 400 9]) samplePolicy
        sampleRelayer = .ok () ∧
      ¬ KeepsPolicy baseInterfaces sampleServices [sampleToken] sampleRelayer
        (transfersOf baseInterfaces
          (sampleTransaction [transferChecked 500 6, transferChecked 400 9]).message) := by
  refine ⟨by decide +kernel, fun hkeeps => ?_⟩
  have hmem : ⟨splTokenId, userTokens, relayerTokens, 400, some 9⟩ ∈ transfersOf baseInterfaces
      (sampleTransaction [transferChecked 500 6, transferChecked 400 9]).message := by
    decide +kernel
  obtain ⟨tokenAccount, config, htoken, -, hcomplies, -⟩ := hkeeps _ hmem
  obtain rfl := config_of_sourceToken htoken
  have hdecimals := hcomplies.1 9 rfl
  cases hdecimals

end Samples

end Relayer.SolanaTokenTransfers
