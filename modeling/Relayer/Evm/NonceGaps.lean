import Relayer.Evm.NonceCounter
import Relayer.Evm.Status

/-!
# Filling nonce gaps

A health run looks for nonces that no transaction will use.  It asks for the slots from the
nonce of the chain on, finds the highest one that holds a transaction, and lists those up to
it that hold no active one.  For each of them it looks once more, and then stores a
transaction that does nothing.
-/

namespace Relayer.EvmNonceGaps

open Relayer.Transaction Relayer.Interaction
open Relayer.EvmPricing (EvmNetwork EvmTransactionData)
open Relayer.EvmReplacement (NetworkTransactionData)
open Relayer.EvmLifecycle (TransactionRepoModel TransactionUpdateRequest makeNoop
  isActiveNonceStatus maxGapScanRange)
open Relayer.EvmNonceHealth (highestOccupied)
open Relayer.NonceIndex (extractNonce occupancy mem_occupancy TellsSlots)
open Relayer.EvmNonceHealth.TransactionCounterRepositoryStorage (u64Size)

structure RelayerRepoModel where
  id : String
  address : String
  network : String
  deriving DecidableEq, Repr

inductive Request where
  | counter (call : EvmNonceCounter.Request)
  | findByNonce (nonce : ℕ)
  | getByName (network : String)
  | evm (call : EvmLifecycle.Request)
  | newTransaction
  | create (tx : TransactionRepoModel)
  | produceTransactionRequestJob (transactionId : String)
  | produceCheckTransactionStatusJob (transactionId : String)
      (retryDelaySeconds initialDelaySeconds : UInt64)
  | partialUpdate (transactionId : String) (update : TransactionUpdateRequest)

/-- A new transaction is given its id and its time; errors of the queue are their texts. -/
@[reducible]
def Answer : Request → Type
  | .counter call => EvmNonceCounter.Answer call
  | .findByNonce _ => Except RepositoryError (Option TransactionRepoModel)
  | .getByName _ => Except RepositoryError (Option (Except String EvmNetwork))
  | .evm call => EvmLifecycle.Answer call
  | .newTransaction => String × String
  | .create _ => Except RepositoryError Unit
  | .produceTransactionRequestJob _ => Except String Unit
  | .produceCheckTransactionStatusJob _ _ _ => Except String Unit
  | .partialUpdate _ _ => Except RepositoryError Unit

abbrev Step (A : Type) := Task Request Answer RelayerError A

def ofCounter {A : Type} (task : EvmNonceCounter.Step A) : Step A :=
  ExceptT.mk (task.run.embed .counter fun _ answer => answer)

section Model

open Task

variable (relayer : RelayerRepoModel)

/-- The nonce that the caller already has, or else that of the chain. -/
def nonceOrOnChain : Option ℕ → Step ℕ
  | some nonce => return nonce
  | none => ofCounter EvmNonceCounter.getOnChainNonce

def detectNonceGaps (onChainNonce nonceHint : Option ℕ) : Step (List ℕ) := do
  let onChainNonce ← nonceOrOnChain onChainNonce
  let hintEnd := (nonceHint.map fun hint => (hint + 1) % u64Size).getD 0
  let scanEnd := max ((onChainNonce + maxGapScanRange) % u64Size) hintEnd
  match ← ask (Request.counter (.getNonceOccupancy relayer.id onChainNonce scanEnd)) with
  | .error e => throw (.internal e.toText)
  | .ok occupancy =>
      match occupancy.reverse.find? fun slot => slot.2.isSome with
      | none => return []
      | some highest =>
          return (occupancy.filter fun slot =>
            slot.1 < (highest.1 + 1) % u64Size && !slot.2.any isActiveNonceStatus).map Prod.fst

def findActiveTxForNonce (nonce : ℕ) : Step (Option TransactionRepoModel) := do
  match ← ask (Request.findByNonce nonce) with
  | .error e => throw (.internal e.toText)
  | .ok tx => return tx.filter fun tx => isActiveNonceStatus tx.status

/-- The NOOP of a nonce, before it has its gas limit. -/
def gapData (chainId : ℕ) : EvmTransactionData where
  gasPrice := none
  gasLimit := none
  nonce := none
  value := 0
  data := none
  «from» := relayer.address
  «to» := none
  chainId := chainId
  hash := none
  signature := none
  speed := none
  maxFeePerGas := none
  maxPriorityFeePerGas := none
  raw := none

def gapTransaction (identity : String × String) (data : EvmTransactionData) (nonce : ℕ) :
    TransactionRepoModel where
  id := identity.1
  relayerId := relayer.id
  status := .pending
  statusReason := some s!"Gap-filling NOOP for nonce {nonce}"
  createdAt := identity.2
  sentAt := none
  confirmedAt := none
  validUntil := none
  networkData := .evm { data with nonce := some nonce }
  pricedAt := none
  hashes := []
  noopCount := some 1
  isCanceled := some false
  metadata := none

def getNetwork : Step EvmNetwork := do
  match ← ask (Request.getByName relayer.network) with
  | .error e => throw (.networkConfiguration e.toText)
  | .ok none =>
      let name := relayer.network
      throw (.networkConfiguration s!"Network {name} not found")
  | .ok (some (.error e)) => throw (.networkConfiguration e)
  | .ok (some (.ok network)) => return network

/-- A transaction for which no job could be asked for is given up again. -/
def scheduleGapFilling (tx : TransactionRepoModel) (network : EvmNetwork) : Step Unit := do
  let requested ← ask (Request.produceTransactionRequestJob tx.id)
  let scheduled ← ask (Request.produceCheckTransactionStatusJob tx.id
    network.statusCheckRetryDelaySeconds network.statusCheckInitialDelaySeconds)
  match requested, scheduled with
  | .error e, .error _ =>
      let _ ← ask (Request.partialUpdate tx.id
        { status := some .failed
          statusReason := some "Gap-filling NOOP could not be scheduled" })
      throw (.queueError e)
  | _, _ => return ()

def createGapFillingNoop (nonce : ℕ) : Step TransactionRepoModel := do
  let network ← getNetwork relayer
  let made ← ExceptT.lift <|
    (makeNoop network (gapData relayer network.chainId)).run.embed Request.evm
      fun _ answer => answer
  let data ← Task.ofExcept <| made.mapError fun e =>
    .internal s!"Failed to create NOOP data: {e.toText}"
  let identity ← ask Request.newTransaction
  let tx := gapTransaction relayer identity data nonce
  match ← ask (Request.create tx) with
  | .error e => throw (.internal e.toText)
  | .ok _ => do
      scheduleGapFilling tx network
      return tx

/-- The transactions for the gaps; one that cannot be created is passed over. -/
def fillGaps : List ℕ → ℕ → Step ℕ
  | [], filled => return filled
  | nonce :: gaps, filled => do
      if (← findActiveTxForNonce nonce).isSome then fillGaps gaps filled
      else
        match ← attempt (createGapFillingNoop relayer nonce) with
        | .ok _ => fillGaps gaps (filled + 1)
        | .error e =>
            let _ : RelayerError := e
            fillGaps gaps filled

/-- New transactions stay clear of the nonces up to the hint. -/
def raiseToHint : Option ℕ → Step Unit
  | none => return ()
  | some hint => do
      let _ ← ofCounter (EvmNonceCounter.syncFloor ((hint + 1) % u64Size))
      return ()

def resolveNonceGaps (nonceHint : Option ℕ) : Step ℕ := do
  let observed ← ofCounter do
    let found ← ask EvmNonceCounter.Request.get
    Task.ofExcept (found.mapError EvmNonceCounter.counterError)
  raiseToHint nonceHint
  let onChainNonce ← ofCounter EvmNonceCounter.getOnChainNonce
  let _ ← ofCounter (EvmNonceCounter.syncFloor onChainNonce)
  ofCounter (EvmNonceCounter.ofRewind
    (EvmNonceHealth.tryRewindCounter relayer.id onChainNonce (observed.getD 0)))
  let gaps ← detectNonceGaps relayer (some onChainNonce) nonceHint
  fillGaps relayer gaps 0

end Model

/-! ## What is detected -/

/-- Where the scan ends. -/
def scanEnd (onChainNonce : ℕ) (nonceHint : Option ℕ) : ℕ :=
  max (onChainNonce + maxGapScanRange) ((nonceHint.map (· + 1)).getD 0)

/-- The nonces from the first on that no active transaction holds, up to the highest one
below the last at which any transaction is recorded. -/
def IsGapList (slots : ℕ → Option TransactionStatus) (first last : ℕ) (gaps : List ℕ) : Prop :=
  gaps.Pairwise (· < ·) ∧
    ∀ nonce, nonce ∈ gaps ↔
      ∃ highest, IsGreatest {n | first ≤ n ∧ n < last ∧ (slots n).isSome = true} highest ∧
        first ≤ nonce ∧ nonce ≤ highest ∧ ¬ (slots nonce).any isActiveNonceStatus = true

section Detection

variable {slots : ℕ → Option TransactionStatus} {first last : ℕ}

theorem isGreatest_of_highestOccupied {highest : ℕ}
    (hhighest : highestOccupied slots first last = some highest) :
    IsGreatest {n | first ≤ n ∧ n < last ∧ (slots n).isSome = true} highest := by
  obtain ⟨hlow, hlt, hsome, habove⟩ := EvmNonceHealth.highestOccupied_eq_some hhighest
  refine ⟨⟨hlow, hlt, hsome⟩, ?_⟩
  rintro other ⟨-, hother, hrecord⟩
  by_contra hgreater
  rw [habove other (not_le.mp hgreater) hother] at hrecord
  cases hrecord

theorem pairwise_occupancy :
    (occupancy slots first last).Pairwise fun slot other => slot.1 < other.1 := by
  unfold occupancy
  split
  · exact List.Pairwise.nil
  · rw [List.pairwise_map]
    exact List.pairwise_lt_range'

theorem isGapList_nil (hempty : highestOccupied slots first last = none) :
    IsGapList slots first last [] := by
  refine ⟨List.Pairwise.nil, fun nonce => ⟨fun hmem => (nomatch hmem), ?_⟩⟩
  rintro ⟨highest, ⟨⟨hlow, hlt, hsome⟩, -⟩, -⟩
  rw [EvmNonceHealth.highestOccupied_eq_none hempty highest hlow hlt] at hsome
  cases hsome

theorem isGapList_filter {highest : ℕ}
    (hhighest : highestOccupied slots first last = some highest) :
    IsGapList slots first last (((occupancy slots first last).filter fun slot =>
      slot.1 < highest + 1 && !slot.2.any isActiveNonceStatus).map Prod.fst) := by
  have hgreatest := isGreatest_of_highestOccupied hhighest
  refine ⟨List.pairwise_map.mpr (pairwise_occupancy.filter _), fun nonce => ?_⟩
  simp only [List.mem_map, List.mem_filter, mem_occupancy, Bool.and_eq_true, decide_eq_true_eq,
    Bool.not_eq_true']
  constructor
  · rintro ⟨slot, ⟨⟨hlow, -, hstatus⟩, hbelow, hfree⟩, rfl⟩
    rw [hstatus] at hfree
    exact ⟨highest, hgreatest, hlow, Nat.lt_succ_iff.mp hbelow, by simpa using hfree⟩
  · rintro ⟨other, hother, hlow, hle, hfree⟩
    obtain rfl := hother.unique hgreatest
    refine ⟨(nonce, slots nonce), ⟨⟨hlow, hle.trans_lt hother.1.2.1, rfl⟩, ?_, ?_⟩, rfl⟩
    · exact Nat.lt_succ_iff.mpr hle
    · simpa using hfree

end Detection

section Runs

open Task

variable {oracle : Program.Oracle Request Answer} {relayer : RelayerRepoModel}
  {nonceHint : Option ℕ}

/-- Range queries tell the slots, as they are at the time, and do not fail. -/
structure Reports (slots : ℕ → ℕ → Option TransactionStatus) (relayer : RelayerRepoModel)
    (oracle : Program.Oracle Request Answer) : Prop where
  tells : TellsSlots slots fun n fromNonce toNonce =>
    oracle n (.counter (.getNonceOccupancy relayer.id fromNonce toNonce))
  answers : ∀ n fromNonce toNonce, ∃ told,
    oracle n (.counter (.getNonceOccupancy relayer.id fromNonce toNonce)) = .ok told

theorem Reports.told {slots : ℕ → ℕ → Option TransactionStatus}
    (hreports : Reports slots relayer oracle) (n fromNonce toNonce : ℕ) :
    oracle n (.counter (.getNonceOccupancy relayer.id fromNonce toNonce)) =
      .ok (occupancy (slots n) fromNonce toNonce) := by
  obtain ⟨told, htold⟩ := hreports.answers n fromNonce toNonce
  exact htold.trans (congrArg _ (hreports.tells n fromNonce toNonce told htold))

theorem scanEnd_eq {onChainNonce : ℕ} (hroom : onChainNonce + maxGapScanRange < u64Size)
    (hhint : ∀ hint ∈ nonceHint, hint + 1 < u64Size) :
    max ((onChainNonce + maxGapScanRange) % u64Size)
        ((nonceHint.map fun hint => (hint + 1) % u64Size).getD 0) =
      scanEnd onChainNonce nonceHint := by
  unfold scanEnd
  rw [Nat.mod_eq_of_lt hroom]
  cases nonceHint with
  | none => rfl
  | some hint =>
      have hsmall := hhint hint rfl
      simp only [Option.map_some, Option.getD_some, Nat.mod_eq_of_lt hsmall]

/-- With the nonce of the chain at hand, one query tells the gaps. -/
theorem exec_detectNonceGaps_some {slots : ℕ → ℕ → Option TransactionStatus}
    (hreports : Reports slots relayer oracle) {onChainNonce : ℕ}
    (hroom : onChainNonce + maxGapScanRange < u64Size)
    (hhint : ∀ hint ∈ nonceHint, hint + 1 < u64Size) (n : ℕ) :
    ∃ gaps calls, exec oracle (detectNonceGaps relayer (some onChainNonce) nonceHint) n =
        (.ok gaps, calls) ∧
      IsGapList (slots n) onChainNonce (scanEnd onChainNonce nonceHint) gaps := by
  have hfind := EvmNonceHealth.find_reverse_occupancy (slots n) onChainNonce
    (scanEnd onChainNonce nonceHint)
  unfold detectNonceGaps nonceOrOnChain
  rw [pure_bind]
  dsimp only
  rw [scanEnd_eq hroom hhint, exec_bind, exec_ask, hreports.told]
  dsimp only
  cases hlast : (occupancy (slots n) onChainNonce (scanEnd onChainNonce nonceHint)).reverse.find?
      fun slot => slot.2.isSome with
  | none =>
      rw [hlast] at hfind
      exact ⟨[], _, rfl, isGapList_nil hfind.symm⟩
  | some highest =>
      rw [hlast] at hfind
      have hlt : highest.1 < scanEnd onChainNonce nonceHint :=
        (EvmNonceHealth.highestOccupied_eq_some hfind.symm).2.1
      have hwithin : scanEnd onChainNonce nonceHint < u64Size := by
        unfold scanEnd
        cases nonceHint with
        | none => simpa using hroom
        | some hint => simpa using ⟨hroom, hhint hint rfl⟩
      have hnext : (highest.1 + 1) % u64Size = highest.1 + 1 := Nat.mod_eq_of_lt (by omega)
      refine ⟨_, _, rfl, ?_⟩
      rw [hnext]
      exact isGapList_filter hfind.symm

theorem exec_getOnChainNonce (n : ℕ) :
    exec oracle (ofCounter EvmNonceCounter.getOnChainNonce) n =
      ((oracle n (.counter .getTransactionCount)).mapError .providerError,
        [.counter .getTransactionCount]) := by
  change Program.run oracle (Program.embed _ _ (.call _ _)) n = _
  rw [Program.embed, Program.run]
  dsimp only
  cases oracle n (.counter .getTransactionCount) with
  | ok nonce => rfl
  | error e => rfl

/-- Without it, the nonce of the chain is asked for first. -/
theorem exec_detectNonceGaps_none {onChainNonce n : ℕ}
    (hchain : oracle n (.counter .getTransactionCount) = .ok onChainNonce) :
    (exec oracle (detectNonceGaps relayer none nonceHint) n).1 =
      (exec oracle (detectNonceGaps relayer (some onChainNonce) nonceHint) (n + 1)).1 := by
  change (exec oracle (ofCounter EvmNonceCounter.getOnChainNonce >>= fun nonce =>
    detectNonceGaps relayer (some nonce) nonceHint) n).1 = _
  rw [exec_bind, exec_getOnChainNonce, hchain]
  rfl

/-! ## What is created -/

/-- The nonces of the transactions that a run creates. -/
def createdNonces (calls : List Request) : List (Option ℕ) :=
  calls.filterMap fun
    | .create tx => some (extractNonce tx.networkData)
    | _ => none

@[simp]
theorem createdNonces_append (calls others : List Request) :
    createdNonces (calls ++ others) = createdNonces calls ++ createdNonces others :=
  List.filterMap_append

/-- A call that creates no transaction. -/
def Plain : Request → Prop
  | .create _ => False
  | _ => True

variable {A B : Type}

theorem createdNonces_of_plain {task : Step A} (hplain : task.run.CallsOnly Plain) (n : ℕ) :
    createdNonces (exec oracle task n).2 = [] := by
  refine List.filterMap_eq_nil_iff.mpr fun request hmem => ?_
  have hrequest := hplain.run oracle n request hmem
  cases request <;> first | rfl | cases hrequest

/-- A part that creates nothing can be passed over: what holds of the later calls is carried
over to all of them. -/
theorem created_bind {good : ℕ → List Request → Prop} {task : Step A} {next : A → Step B}
    (hnone : ∀ n calls, createdNonces calls = [] → good n calls)
    (hcarry : ∀ n front calls, createdNonces front = [] → good (n + front.length) calls →
      good n (front ++ calls))
    (hplain : task.run.CallsOnly Plain) {n : ℕ}
    (hnext : ∀ value calls, exec oracle task n = (.ok value, calls) →
      good (n + calls.length) (exec oracle (next value) (n + calls.length)).2) :
    good n (exec oracle (task >>= next) n).2 := by
  have hfront : createdNonces (exec oracle task n).2 = [] := createdNonces_of_plain hplain n
  rw [exec_bind]
  cases hrun : exec oracle task n with
  | mk outcome calls =>
      rw [hrun] at hfront hnext
      cases outcome with
      | error e => exact hnone n calls hfront
      | ok value => exact hcarry n calls _ hfront (hnext value calls rfl)

/-- A run creates transactions for some of the nonces, in their order. -/
def Fills (oracle : Program.Oracle Request Answer) (nonces : List ℕ) (task : Step A) : Prop :=
  ∀ n, ∃ filled : List ℕ, filled.Sublist nonces ∧
    createdNonces (exec oracle task n).2 = filled.map some

theorem fills_of_plain {nonces : List ℕ} {task : Step A} (hplain : task.run.CallsOnly Plain) :
    Fills oracle nonces task :=
  fun n => ⟨[], List.nil_sublist _, createdNonces_of_plain hplain n⟩

theorem Fills.mono {nonces wider : List ℕ} {task : Step A} (hfills : Fills oracle nonces task)
    (hsub : nonces.Sublist wider) : Fills oracle wider task := by
  intro n
  obtain ⟨filled, hfilled, hcreated⟩ := hfills n
  exact ⟨filled, hfilled.trans hsub, hcreated⟩

theorem Fills.bind {nonces others : List ℕ} {task : Step A} {next : A → Step B}
    (hfirst : Fills oracle nonces task) (hnext : ∀ value, Fills oracle others (next value)) :
    Fills oracle (nonces ++ others) (task >>= next) := by
  intro n
  obtain ⟨filled, hfilled, hcreated⟩ := hfirst n
  rw [exec_bind]
  cases hrun : exec oracle task n with
  | mk outcome calls =>
      rw [hrun] at hcreated
      cases outcome with
      | error e => exact ⟨filled, hfilled.trans (List.sublist_append_left _ _), hcreated⟩
      | ok value =>
          obtain ⟨later, hlater, hadded⟩ := hnext value (n + calls.length)
          refine ⟨filled ++ later, hfilled.append hlater, ?_⟩
          change createdNonces (calls ++ _) = _
          rw [createdNonces_append, hcreated, hadded, List.map_append]

theorem Fills.pass {nonces : List ℕ} {task : Step A} {next : A → Step B}
    (hplain : task.run.CallsOnly Plain) (hnext : ∀ value, Fills oracle nonces (next value)) :
    Fills oracle nonces (task >>= next) := by
  change Fills oracle ([] ++ nonces) (task >>= next)
  exact Fills.bind (fills_of_plain hplain) hnext

theorem Fills.attempt {nonces : List ℕ} {task : Step A} (hfills : Fills oracle nonces task) :
    Fills oracle nonces (Task.attempt task : Step (Except RelayerError A)) := by
  intro n
  rw [exec_attempt]
  exact hfills n

theorem plain_ofCounter (task : EvmNonceCounter.Step A) :
    (ofCounter task).run.CallsOnly Plain :=
  task.run.callsOnly_true.embed _ _ fun _ _ => trivial

theorem plain_detectNonceGaps (onChainNonce : Option ℕ) :
    (detectNonceGaps relayer onChainNonce nonceHint).run.CallsOnly Plain := by
  unfold detectNonceGaps
  apply callsOnly_bind
  · cases onChainNonce with
    | some nonce => trivial
    | none => exact plain_ofCounter _
  intro nonce
  refine callsOnly_ask_bind trivial fun answer => ?_
  cases answer with
  | error e => trivial
  | ok found =>
      dsimp only
      split <;> trivial

theorem plain_findActiveTxForNonce (nonce : ℕ) :
    (findActiveTxForNonce nonce).run.CallsOnly Plain := by
  unfold findActiveTxForNonce
  refine callsOnly_ask_bind trivial fun answer => ?_
  cases answer <;> trivial

theorem plain_getNetwork : (getNetwork relayer).run.CallsOnly Plain := by
  unfold getNetwork
  refine callsOnly_ask_bind trivial fun answer => ?_
  split <;> trivial

theorem plain_scheduleGapFilling (tx : TransactionRepoModel) (network : EvmNetwork) :
    (scheduleGapFilling tx network).run.CallsOnly Plain := by
  unfold scheduleGapFilling
  refine callsOnly_ask_bind trivial fun requested => ?_
  refine callsOnly_ask_bind trivial fun scheduled => ?_
  split
  · exact callsOnly_ask_bind trivial fun _ => trivial
  · trivial

theorem fills_create (identity : String × String) (data : EvmTransactionData) (nonce : ℕ) :
    Fills oracle [nonce] (Task.ask (Request.create (gapTransaction relayer identity data nonce)) :
      Step _) :=
  fun _ => ⟨[nonce], List.Sublist.refl _, rfl⟩

/-- A transaction for a nonce is created with that nonce, and once. -/
theorem fills_createGapFillingNoop (nonce : ℕ) :
    Fills oracle [nonce] (createGapFillingNoop relayer nonce) := by
  unfold createGapFillingNoop
  refine Fills.pass plain_getNetwork fun network => ?_
  refine Fills.pass ?_ fun made => ?_
  · exact callsOnly_attempt ((Program.callsOnly_true _).embed _ _ fun _ _ => trivial)
  refine Fills.pass callsOnly_ofExcept fun data => ?_
  refine Fills.pass (callsOnly_ask trivial) fun identity => ?_
  change Fills oracle ([nonce] ++ []) _
  refine Fills.bind (fills_create identity data nonce) fun created => ?_
  apply fills_of_plain
  cases created with
  | error e => trivial
  | ok _ => exact callsOnly_bind (plain_scheduleGapFilling _ _) fun _ => trivial

/-- Over the gaps: each is passed over or filled. -/
theorem fills_fillGaps (relayer : RelayerRepoModel) (gaps : List ℕ) (filled : ℕ) :
    Fills oracle gaps (fillGaps relayer gaps filled) := by
  induction gaps generalizing filled with
  | nil => exact fills_of_plain trivial
  | cons nonce gaps ih =>
      rw [fillGaps]
      refine Fills.pass (plain_findActiveTxForNonce nonce) fun found => ?_
      split
      · exact (ih filled).mono (List.sublist_cons_self _ _)
      · change Fills oracle ([nonce] ++ gaps) _
        refine Fills.bind (fills_createGapFillingNoop nonce).attempt fun outcome => ?_
        cases outcome with
        | ok tx => exact ih (filled + 1)
        | error e => exact ih filled

/-- The calls create transactions for some of the gaps that a detection among them lists. -/
def FromDetection (oracle : Program.Oracle Request Answer) (relayer : RelayerRepoModel)
    (nonceHint : Option ℕ) (onChainNonce n : ℕ) (calls : List Request) : Prop :=
  createdNonces calls = [] ∨
    ∃ (before detection after : List Request) (gaps filled : List ℕ),
      calls = before ++ detection ++ after ∧
      exec oracle (detectNonceGaps relayer (some onChainNonce) nonceHint) (n + before.length) =
        (.ok gaps, detection) ∧
      filled.Sublist gaps ∧ createdNonces calls = filled.map some

theorem FromDetection.carry {onChainNonce n : ℕ} {front calls : List Request}
    (hfront : createdNonces front = [])
    (hdetection : FromDetection oracle relayer nonceHint onChainNonce (n + front.length) calls) :
    FromDetection oracle relayer nonceHint onChainNonce n (front ++ calls) := by
  rw [FromDetection, createdNonces_append, hfront, List.nil_append]
  rcases hdetection with hnone | ⟨before, detection, after, gaps, filled, rfl, hrun, hrest⟩
  · exact .inl hnone
  · refine .inr ⟨front ++ before, detection, after, gaps, filled, ?_, ?_, hrest⟩
    · simp only [List.append_assoc]
    · rw [List.length_append, ← Nat.add_assoc]
      exact hrun

theorem fromDetection_bind {next : List ℕ → Step A}
    (hfills : ∀ gaps, Fills oracle gaps (next gaps)) (onChainNonce n : ℕ) :
    FromDetection oracle relayer nonceHint onChainNonce n
      (exec oracle (detectNonceGaps relayer (some onChainNonce) nonceHint >>= next) n).2 := by
  have hplain : createdNonces
      (exec oracle (detectNonceGaps relayer (some onChainNonce) nonceHint) n).2 = [] :=
    createdNonces_of_plain (plain_detectNonceGaps _) n
  rw [exec_bind]
  cases hdetected : exec oracle (detectNonceGaps relayer (some onChainNonce) nonceHint) n with
  | mk outcome detection =>
      rw [hdetected] at hplain
      cases outcome with
      | error e => exact .inl hplain
      | ok gaps =>
          obtain ⟨filled, hfilled, hcreated⟩ := hfills gaps (n + detection.length)
          refine .inr ⟨[], detection, _, gaps, filled, rfl, hdetected, hfilled, ?_⟩
          change createdNonces (detection ++ _) = _
          rw [createdNonces_append, hplain, List.nil_append]
          exact hcreated

/-- The same, where the nonce of the chain is read among the calls and before the detection. -/
def FromGaps (oracle : Program.Oracle Request Answer) (relayer : RelayerRepoModel)
    (nonceHint : Option ℕ) (n : ℕ) (calls : List Request) : Prop :=
  createdNonces calls = [] ∨
    ∃ (before rest : List Request) (onChainNonce : ℕ),
      calls = before ++ .counter .getTransactionCount :: rest ∧
      oracle (n + before.length) (.counter .getTransactionCount) = .ok onChainNonce ∧
      createdNonces calls = createdNonces rest ∧
      FromDetection oracle relayer nonceHint onChainNonce (n + before.length + 1) rest

theorem FromGaps.carry {n : ℕ} {front calls : List Request} (hfront : createdNonces front = [])
    (hgaps : FromGaps oracle relayer nonceHint (n + front.length) calls) :
    FromGaps oracle relayer nonceHint n (front ++ calls) := by
  rw [FromGaps, createdNonces_append, hfront, List.nil_append]
  rcases hgaps with hnone | ⟨before, rest, onChainNonce, rfl, hchain, hcreated, hrest⟩
  · exact .inl hnone
  · refine .inr ⟨front ++ before, rest, onChainNonce, (List.append_assoc ..).symm, ?_⟩
    rw [List.length_append, ← Nat.add_assoc]
    exact ⟨hchain, hcreated, hrest⟩

theorem fromGaps_bind {next : ℕ → Step A}
    (hnext : ∀ onChainNonce n, FromDetection oracle relayer nonceHint onChainNonce n
      (exec oracle (next onChainNonce) n).2) (n : ℕ) :
    FromGaps oracle relayer nonceHint n
      (exec oracle (ofCounter EvmNonceCounter.getOnChainNonce >>= next) n).2 := by
  rw [exec_bind, exec_getOnChainNonce]
  cases hchain : oracle n (.counter .getTransactionCount) with
  | error e => exact .inl rfl
  | ok onChainNonce =>
      exact .inr ⟨[], (exec oracle (next onChainNonce) (n + 1)).2, onChainNonce, rfl, hchain, rfl,
        hnext onChainNonce (n + 1)⟩

theorem fromGaps_resolveNonceGaps (oracle : Program.Oracle Request Answer)
    (relayer : RelayerRepoModel) (nonceHint : Option ℕ) (n : ℕ) :
    FromGaps oracle relayer nonceHint n
      (exec oracle (resolveNonceGaps relayer nonceHint) n).2 := by
  unfold resolveNonceGaps
  apply created_bind (fun _ _ hnone => .inl hnone) (fun _ _ _ => FromGaps.carry)
    (plain_ofCounter _)
  intro observed _ _
  apply created_bind (fun _ _ hnone => .inl hnone) (fun _ _ _ => FromGaps.carry)
  · cases nonceHint with
    | none => trivial
    | some hint => exact callsOnly_bind (plain_ofCounter _) fun _ => trivial
  intro _ _ _
  apply fromGaps_bind
  -- from here on the nonce of the chain is fixed
  intro onChainNonce k
  apply created_bind (fun _ _ hnone => .inl hnone) (fun _ _ _ => FromDetection.carry)
    (plain_ofCounter _)
  intro _ _ _
  apply created_bind (fun _ _ hnone => .inl hnone) (fun _ _ _ => FromDetection.carry)
    (plain_ofCounter _)
  intro _ _ _
  exact fromDetection_bind (fun gaps => fills_fillGaps relayer gaps 0) onChainNonce _

/-- Detection lists exactly the gaps, from a nonce that is at hand or from the one that it
reads; a health run creates transactions for gaps alone, at most one for each: those that its
own detection lists, from the nonce of the chain that it has read before. -/
theorem nonce_gaps_exact {slots : ℕ → ℕ → Option TransactionStatus}
    (hreports : Reports slots relayer oracle)
    (hhint : ∀ hint ∈ nonceHint, hint + 1 < u64Size)
    (hroom : ∀ n onChainNonce, oracle n (.counter .getTransactionCount) = .ok onChainNonce →
      onChainNonce + maxGapScanRange < u64Size) :
    (∀ n onChainNonce, onChainNonce + maxGapScanRange < u64Size →
      ∃ gaps, (exec oracle (detectNonceGaps relayer (some onChainNonce) nonceHint) n).1 =
          .ok gaps ∧
        IsGapList (slots n) onChainNonce (scanEnd onChainNonce nonceHint) gaps) ∧
    (∀ n onChainNonce, oracle n (.counter .getTransactionCount) = .ok onChainNonce →
      ∃ gaps, (exec oracle (detectNonceGaps relayer none nonceHint) n).1 = .ok gaps ∧
        IsGapList (slots (n + 1)) onChainNonce (scanEnd onChainNonce nonceHint) gaps) ∧
    ∀ n calls, (exec oracle (resolveNonceGaps relayer nonceHint) n).2 = calls →
      createdNonces calls = [] ∨
      ∃ (before between detection after : List Request) (onChainNonce k m : ℕ)
          (gaps filled : List ℕ),
        calls = before ++ .counter .getTransactionCount :: between ++ detection ++ after ∧
        k = n + before.length ∧ m = k + 1 + between.length ∧
        oracle k (.counter .getTransactionCount) = .ok onChainNonce ∧
        exec oracle (detectNonceGaps relayer (some onChainNonce) nonceHint) m =
          (.ok gaps, detection) ∧
        IsGapList (slots m) onChainNonce (scanEnd onChainNonce nonceHint) gaps ∧
        filled.Sublist gaps ∧ createdNonces calls = filled.map some := by
  have hdetect : ∀ n onChainNonce, onChainNonce + maxGapScanRange < u64Size →
      ∃ gaps, (exec oracle (detectNonceGaps relayer (some onChainNonce) nonceHint) n).1 =
          .ok gaps ∧
        IsGapList (slots n) onChainNonce (scanEnd onChainNonce nonceHint) gaps := by
    intro n onChainNonce hsmall
    obtain ⟨gaps, calls, hrun, hgaps⟩ := exec_detectNonceGaps_some hreports hsmall hhint n
    exact ⟨gaps, by rw [hrun], hgaps⟩
  refine ⟨hdetect, fun n onChainNonce hchain => ?_, ?_⟩
  · rw [exec_detectNonceGaps_none hchain]
    exact hdetect (n + 1) onChainNonce (hroom n onChainNonce hchain)
  · rintro n calls rfl
    rcases fromGaps_resolveNonceGaps oracle relayer nonceHint n with
      hnone | ⟨before, rest, onChainNonce, hcalls, hchain, hrest, hdetection⟩
    · exact .inl hnone
    rcases hdetection with
      hnone | ⟨between, detection, after, gaps, filled, rfl, hrun, hfilled, hcreated⟩
    · exact .inl (hrest.trans hnone)
    obtain ⟨listed, hlisted, hgaps⟩ := hdetect (n + before.length + 1 + between.length)
      onChainNonce (hroom _ onChainNonce hchain)
    rw [hrun] at hlisted
    obtain rfl := Except.ok.inj hlisted
    refine .inr ⟨before, between, detection, after, onChainNonce, _, _, gaps, filled, ?_, rfl,
      rfl, hchain, hrun, hgaps, hfilled, hrest.trans hcreated⟩
    rw [hcalls]
    simp only [List.append_assoc, List.cons_append]

end Runs

section Sample

/-- One transaction is in flight and a later one has failed. -/
def slotsBehindFailure : ℕ → Option TransactionStatus
  | 4 => some .submitted
  | 6 => some .failed
  | _ => none

def sampleRelayer : RelayerRepoModel := ⟨"relayer", "0x01", "mainnet"⟩

def sampleAnswers : Program.Oracle Request Answer
  | _, .counter call => EvmNonceCounter.sampleAnswers 7 3 slotsBehindFailure call
  | _, .findByNonce _ => .ok none
  | _, .getByName _ => .ok (some (.ok (EvmPricing.sampleNetwork [])))
  | _, .evm call => EvmLifecycle.sampleAnswers (.ofPayloads [])
      (EvmLifecycle.sampleRecord .pending (EvmLifecycle.sampleTransfer none none) []) 7 20 0 call
  | _, .newTransaction => ("noop", "")
  | _, .create _ => .ok ()
  | _, .produceTransactionRequestJob _ => .ok ()
  | _, .produceCheckTransactionStatusJob _ _ _ => .ok ()
  | _, .partialUpdate _ _ => .ok ()

/-- The free slots and the failed one are listed, the one in flight is not. -/
theorem gaps_behind_failure :
    (Task.exec sampleAnswers (detectNonceGaps sampleRelayer (some 3) none) 0).1 = .ok [3, 5, 6] ∧
      IsGapList slotsBehindFailure 3 103 [3, 5, 6] ∧
      createdNonces (Task.exec sampleAnswers (resolveNonceGaps sampleRelayer none) 0).2 =
        [some 3, some 5, some 6] := by
  have hlisted : (Task.exec sampleAnswers (detectNonceGaps sampleRelayer (some 3) none) 0).1 =
      .ok [3, 5, 6] := by
    decide +kernel
  have hreports : Reports (fun _ => slotsBehindFailure) sampleRelayer sampleAnswers :=
    ⟨fun _ _ _ _ htold => (Except.ok.inj htold).symm, fun _ _ _ => ⟨_, rfl⟩⟩
  have hhint : ∀ hint ∈ (none : Option ℕ), hint + 1 < u64Size := fun _ hhint => nomatch hhint
  have hroom : ∀ n onChainNonce,
      sampleAnswers n (.counter .getTransactionCount) = .ok onChainNonce →
        onChainNonce + maxGapScanRange < u64Size := by
    intro n onChainNonce hchain
    obtain rfl : 3 = onChainNonce := Except.ok.inj hchain
    decide
  obtain ⟨gaps, hgaps, hexact⟩ :=
    (nonce_gaps_exact hreports hhint hroom).1 0 3 (by decide)
  obtain rfl := Except.ok.inj (hgaps.symm.trans hlisted)
  exact ⟨hlisted, hexact, by decide +kernel⟩

end Sample

end Relayer.EvmNonceGaps
