import Relayer.Core.PagedSweep
import Relayer.Models.Transaction

/-!
# Cleanup of finished transactions

For every relayer and final status `process_status_cleanup` reads the transactions of the
status index page by page, oldest first, and deletes those that have expired.  Ids whose
body cannot be read take up places on a page but are not among its items.  No other writer
is at work and no call fails.
-/

namespace Relayer.TransactionCleanup

open Relayer.PagedSweep Relayer.Transaction

/-! ## The repository -/

/-- What is stored for one relayer: the index of one status by age, the bodies that can be
read, and the transactions of the nonces. -/
structure Repository where
  statusIndex : List String
  bodies : String → Option StoredTransaction
  nonces : ℕ → Option String

def Repository.findByStatusPaginated (repository : Repository) (page perPage : ℕ)
    (oldestFirst : Bool) : List StoredTransaction :=
  let index := if oldestFirst then repository.statusIndex else repository.statusIndex.reverse
  (pageOf perPage (page - 1) index).filterMap repository.bodies

/-- The requests of other relayers concern other keys. -/
def Repository.deleteByRequests (relayerId : String) (requests : List TransactionDeleteRequest)
    (repository : Repository) : Repository × ℕ :=
  let own := requests.filter fun request => request.relayerId = relayerId
  ({ statusIndex := remove (own.map (·.id)) repository.statusIndex
     bodies := fun id => if id ∈ own.map (·.id) then none else repository.bodies id
     nonces := fun nonce =>
      if some nonce ∈ own.map (·.nonce) then none else repository.nonces nonce },
    requests.length)

/-! ## The handler -/

def cleanupPageSize : ℕ := 100
def deleteBatchSize : ℕ := 100
def maxCleanupIterationsPerStatus : ℕ := 1500

section Handler

variable (parseFromRfc3339 : String → Option ℤ) (now : ℤ) (relayerId : String)

def shouldDeleteTransaction (transaction : StoredTransaction) : Bool :=
  match transaction.deleteAt.bind parseFromRfc3339 with
  | some deleteAt => decide (deleteAt ≤ now)
  | none => false

def deleteRequests (transactions : List StoredTransaction) : List TransactionDeleteRequest :=
  (transactions.filter fun transaction =>
      transaction.status.isFinalState &&
        shouldDeleteTransaction parseFromRfc3339 now transaction).map
    fun transaction => ⟨transaction.id, transaction.relayerId, transaction.nonce⟩

/-- The requests are sent in batches; there are at most as many batches as requests. -/
def deleteInBatches : ℕ → List TransactionDeleteRequest → Repository → Repository × ℕ
  | 0, _, repository => (repository, 0)
  | batches + 1, requests, repository =>
      if requests = [] then (repository, 0)
      else
        let (deleted, count) :=
          repository.deleteByRequests relayerId (requests.take deleteBatchSize)
        let (rest, later) := deleteInBatches batches (requests.drop deleteBatchSize) deleted
        (rest, count + later)

def processTransactionsForCleanup (transactions : List StoredTransaction)
    (repository : Repository) : Repository × ℕ :=
  let requests := deleteRequests parseFromRfc3339 now transactions
  deleteInBatches relayerId requests.length requests repository

/-- What the loop leaves, the count it returns, and whether it ended before its limit. -/
structure Outcome where
  repository : Repository
  totalCleaned : ℕ
  withinLimit : Bool

def cleanupLoop : ℕ → ℕ → ℕ → Repository → Outcome
  | 0, _, totalCleaned, repository => ⟨repository, totalCleaned, false⟩
  | iterations + 1, currentPage, totalCleaned, repository =>
      let items := repository.findByStatusPaginated currentPage cleanupPageSize true
      if items = [] then ⟨repository, totalCleaned, true⟩
      else
        let (cleaned, count) :=
          processTransactionsForCleanup parseFromRfc3339 now relayerId items repository
        cleanupLoop iterations (if count = 0 then currentPage + 1 else currentPage)
          (totalCleaned + count) cleaned

def processStatusCleanup (repository : Repository) : Outcome :=
  cleanupLoop parseFromRfc3339 now relayerId maxCleanupIterationsPerStatus 1 0 repository

end Handler

/-! ## What an index lists -/

/-- The index of a final status lists transactions of this relayer and status, and perhaps
ids without a readable body. -/
structure Listing (relayerId : String) extends Repository where
  status : TransactionStatus
  final : status.isFinalState = true
  nodup : statusIndex.Nodup
  listed : ∀ id transaction, id ∈ statusIndex → bodies id = some transaction →
    transaction.id = id ∧ transaction.relayerId = relayerId ∧ transaction.status = status

section Listing

variable {relayerId : String}

def Listing.readable (listing : Listing relayerId) (id : String) : Bool :=
  (listing.bodies id).isSome

/-- A readable transaction whose `delete_at` is a time that has come. -/
def Listing.expired (parseFromRfc3339 : String → Option ℤ) (now : ℤ) (listing : Listing relayerId)
    (id : String) : Bool :=
  (listing.bodies id).any (shouldDeleteTransaction parseFromRfc3339 now)

/-- Exactly the expired transactions are gone, and their number is returned. -/
structure DeletesExpired (parseFromRfc3339 : String → Option ℤ) (now : ℤ)
    (listing : Listing relayerId) (outcome : Outcome) : Prop where
  index : outcome.repository.statusIndex =
    kept (listing.expired parseFromRfc3339 now) listing.statusIndex
  bodies : ∀ id, outcome.repository.bodies id =
    if id ∈ listing.statusIndex ∧ listing.expired parseFromRfc3339 now id = true then none
    else listing.bodies id
  count : outcome.totalCleaned =
    listing.statusIndex.countP (listing.expired parseFromRfc3339 now)

/-- Without the expired transactions before it some page has no readable entry, and an
expired transaction comes after it. -/
def HasBlindPage (parseFromRfc3339 : String → Option ℤ) (now : ℤ) (listing : Listing relayerId) :
    Prop :=
  Blind cleanupPageSize listing.readable (listing.expired parseFromRfc3339 now)
    listing.statusIndex

end Listing

/-! ## The handler sweeps the index -/

section Cleanup

variable (parseFromRfc3339 : String → Option ℤ) (now : ℤ) {relayerId : String}
  {listing : Listing relayerId} {repository : Repository}

/-- All batches together delete what was asked for. -/
theorem deleteInBatches_eq {requests : List TransactionDeleteRequest}
    (hown : ∀ request ∈ requests, request.relayerId = relayerId) (batches : ℕ)
    (hbatches : requests.length ≤ batches) (repository : Repository) :
    (deleteInBatches relayerId batches requests repository).1.statusIndex =
        remove (requests.map (·.id)) repository.statusIndex ∧
      (∀ id, (deleteInBatches relayerId batches requests repository).1.bodies id =
        if id ∈ requests.map (·.id) then none else repository.bodies id) ∧
      (deleteInBatches relayerId batches requests repository).2 = requests.length := by
  induction batches generalizing requests repository with
  | zero =>
      rw [List.length_eq_zero_iff.mp (Nat.le_zero.mp hbatches)]
      exact ⟨(remove_eq_self (List.disjoint_nil_left _)).symm, fun _ => rfl, rfl⟩
  | succ batches ih =>
      rw [deleteInBatches]
      split_ifs with hnone
      · rw [hnone]
        exact ⟨(remove_eq_self (List.disjoint_nil_left _)).symm, fun _ => rfl, rfl⟩
      · have hsplit := List.take_append_drop deleteBatchSize requests
        have hfirst : (requests.take deleteBatchSize).filter
            (fun request => request.relayerId = relayerId) = requests.take deleteBatchSize :=
          List.filter_eq_self.mpr fun request hmem => by
            simpa using hown request (List.mem_of_mem_take hmem)
        have hfewer : (requests.drop deleteBatchSize).length ≤ batches := by
          have hsome := List.length_pos_of_ne_nil hnone
          have hbatch : 0 < deleteBatchSize := by decide
          rw [List.length_drop]
          omega
        obtain ⟨hindex, hbodies, hcount⟩ := ih
          (fun request hmem => hown request (List.mem_of_mem_drop hmem)) hfewer
          (repository.deleteByRequests relayerId (requests.take deleteBatchSize)).1
        refine ⟨?_, fun id => ?_, ?_⟩
        · refine hindex.trans ?_
          rw [Repository.deleteByRequests, hfirst]
          dsimp only
          rw [remove_remove, ← List.map_append, hsplit]
        · refine (hbodies id).trans ?_
          rw [Repository.deleteByRequests, hfirst]
          dsimp only
          rw [← congrArg (List.map (·.id)) hsplit, List.map_append]
          simp only [List.mem_append]
          split_ifs <;> simp_all
        · dsimp only
          rw [hcount, Repository.deleteByRequests]
          dsimp only
          rw [← List.length_append, hsplit]

/-- The requests for a page of listed ids are those for its expired transactions. -/
theorem deleteRequests_page {page : List String} (hpage : ∀ id ∈ page, id ∈ listing.statusIndex) :
    (deleteRequests parseFromRfc3339 now (page.filterMap listing.bodies)).map (·.id) =
        page.filter (listing.expired parseFromRfc3339 now) ∧
      ∀ request ∈ deleteRequests parseFromRfc3339 now (page.filterMap listing.bodies),
        request.relayerId = relayerId := by
  induction page with
  | nil => exact ⟨rfl, nofun⟩
  | cons id page ih =>
      obtain ⟨hids, hown⟩ := ih fun other hmem => hpage other (List.mem_cons_of_mem _ hmem)
      cases hbody : listing.bodies id with
      | none =>
          rw [List.filterMap_cons_none hbody, List.filter_cons_of_neg (by
            simp [Listing.expired, hbody])]
          exact ⟨hids, hown⟩
      | some transaction =>
          obtain ⟨hid, hrelayer, hstatus⟩ := listing.listed id transaction
            (hpage id List.mem_cons_self) hbody
          have hexpired : listing.expired parseFromRfc3339 now id =
              shouldDeleteTransaction parseFromRfc3339 now transaction := by
            simp [Listing.expired, hbody]
          rw [List.filterMap_cons_some hbody, deleteRequests, List.filter_cons, List.filter_cons,
            hstatus, listing.final, Bool.true_and, hexpired]
          split_ifs
          · refine ⟨?_, List.forall_mem_cons.mpr ⟨hrelayer, hown⟩⟩
            rw [List.map_cons, List.map_cons, hid]
            exact congrArg _ hids
          · exact ⟨hids, hown⟩

/-- A repository from which listed transactions were deleted. -/
structure Cleaned (listing : Listing relayerId) (repository : Repository) : Prop where
  listed : ∀ id ∈ repository.statusIndex, id ∈ listing.statusIndex
  bodies : ∀ id, repository.bodies id =
    if id ∈ listing.statusIndex ∧ id ∉ repository.statusIndex then none else listing.bodies id

theorem cleaned_start (listing : Listing relayerId) : Cleaned listing listing.toRepository :=
  ⟨fun _ hmem => hmem, fun _ => by simp⟩

theorem Cleaned.items_eq (hcleaned : Cleaned listing repository) (page : ℕ) :
    repository.findByStatusPaginated (page + 1) cleanupPageSize true =
      (pageOf cleanupPageSize page repository.statusIndex).filterMap listing.bodies := by
  refine List.filterMap_congr fun id hmem => ?_
  rw [hcleaned.bodies id, if_neg]
  exact fun hgone => hgone.2 ((pageOf_sublist _ _ _).subset hmem)

/-- The deletion of a page of listed transactions. -/
theorem Cleaned.clean (hcleaned : Cleaned listing repository) {page : List String}
    (hpage : ∀ id ∈ page, id ∈ repository.statusIndex) :
    (processTransactionsForCleanup parseFromRfc3339 now relayerId
        (page.filterMap listing.bodies) repository).1.statusIndex =
          remove (page.filter (listing.expired parseFromRfc3339 now)) repository.statusIndex ∧
      (processTransactionsForCleanup parseFromRfc3339 now relayerId
        (page.filterMap listing.bodies) repository).2 =
          (page.filter (listing.expired parseFromRfc3339 now)).length ∧
      Cleaned listing (processTransactionsForCleanup parseFromRfc3339 now relayerId
        (page.filterMap listing.bodies) repository).1 := by
  obtain ⟨hids, hown⟩ := deleteRequests_page parseFromRfc3339 now fun id hmem =>
    hcleaned.listed id (hpage id hmem)
  obtain ⟨hindex, hbodies, hcount⟩ := deleteInBatches_eq hown _ le_rfl repository
  rw [hids] at hindex hbodies
  refine ⟨hindex, ?_, ?_, ?_⟩
  · rw [← hids, List.length_map]
    exact hcount
  · intro id hmem
    rw [processTransactionsForCleanup, hindex] at hmem
    exact hcleaned.listed id (List.mem_of_mem_filter hmem)
  · intro id
    rw [processTransactionsForCleanup, hbodies id, hindex, hcleaned.bodies id]
    by_cases hgone : id ∈ page.filter (listing.expired parseFromRfc3339 now)
    · have hlisted := hcleaned.listed id (hpage id (List.mem_of_mem_filter hgone))
      rw [if_pos hgone, if_pos ⟨hlisted, fun hmem =>
        of_decide_eq_true (List.mem_filter.mp hmem).2 hgone⟩]
    · have hstill : id ∈ remove (page.filter (listing.expired parseFromRfc3339 now))
          repository.statusIndex ↔ id ∈ repository.statusIndex := by
        rw [remove, List.mem_filter]
        exact and_iff_left (decide_eq_true hgone)
      simp only [if_neg hgone, hstill]

theorem filterMap_eq_nil_iff_readable (listing : Listing relayerId) (page : List String) :
    page.filterMap listing.bodies = [] ↔ page.filter listing.readable = [] := by
  rw [List.filterMap_eq_nil_iff, List.filter_eq_nil_iff]
  exact forall₂_congr fun id _ => by simp [Listing.readable]

/-- The loop of the handler is the sweep of the index. -/
theorem cleanupLoop_sweeps (iterations page totalCleaned : ℕ)
    (hcleaned : Cleaned listing repository) :
    let outcome := cleanupLoop parseFromRfc3339 now relayerId iterations (page + 1) totalCleaned
      repository
    let swept := sweep cleanupPageSize listing.readable (listing.expired parseFromRfc3339 now)
      iterations page repository.statusIndex
    outcome.repository.statusIndex = swept.remaining ∧
      outcome.totalCleaned = totalCleaned + swept.removed ∧
      outcome.withinLimit = swept.finished ∧ Cleaned listing outcome.repository := by
  induction iterations generalizing page totalCleaned repository with
  | zero => exact ⟨rfl, rfl, rfl, hcleaned⟩
  | succ iterations ih =>
      have hpage : ∀ id ∈ pageOf cleanupPageSize page repository.statusIndex,
          id ∈ repository.statusIndex := fun id hmem => (pageOf_sublist _ _ _).subset hmem
      dsimp only
      rw [cleanupLoop, hcleaned.items_eq page]
      simp only [filterMap_eq_nil_iff_readable]
      by_cases hshown : (pageOf cleanupPageSize page repository.statusIndex).filter
          listing.readable = []
      · rw [if_pos hshown, sweep_stop hshown]
        exact ⟨rfl, rfl, rfl, hcleaned⟩
      rw [if_neg hshown]
      obtain ⟨hindex, hcount, hnext⟩ := hcleaned.clean parseFromRfc3339 now hpage
      generalize processTransactionsForCleanup parseFromRfc3339 now relayerId _ repository =
        processed at hindex hcount hnext ⊢
      obtain ⟨cleaned, count⟩ := processed
      dsimp only at hindex hcount hnext ⊢
      by_cases hgone : (pageOf cleanupPageSize page repository.statusIndex).filter
          (listing.expired parseFromRfc3339 now) = []
      · rw [hgone, remove_eq_self (List.disjoint_nil_left _)] at hindex
        rw [hgone, List.length_nil] at hcount
        rw [sweep_next hshown hgone, if_pos hcount, ← hindex, hcount]
        exact ih (page + 1) (totalCleaned + 0) hnext
      · have hsome : count ≠ 0 := by
          rw [hcount]
          exact fun hnone => hgone (List.length_eq_zero_iff.mp hnone)
        rw [sweep_again hshown hgone, if_neg hsome, ← hindex, ← hcount]
        obtain ⟨hremaining, htotal, hlimit, hlast⟩ := ih page (totalCleaned + count) hnext
        exact ⟨hremaining, htotal.trans (Nat.add_assoc ..), hlimit, hlast⟩

/-- A status with fewer entries than the limit on the iterations is read to its end. -/
theorem cleanup_withinLimit (listing : Listing relayerId)
    (hfew : listing.statusIndex.length < maxCleanupIterationsPerStatus) :
    (processStatusCleanup parseFromRfc3339 now relayerId listing.toRepository).withinLimit =
      true := by
  obtain ⟨-, -, hlimit, -⟩ := cleanupLoop_sweeps parseFromRfc3339 now
    maxCleanupIterationsPerStatus 0 0 (cleaned_start listing)
  exact hlimit.trans (sweep_finished (by decide) (standing_start listing.nodup) hfew)

/-- A cleanup that ends before its limit deletes exactly the expired transactions, unless a
page without readable entries hides some of them. -/
theorem cleanup_deletesExpired_iff (listing : Listing relayerId)
    (hlimit : (processStatusCleanup parseFromRfc3339 now relayerId
      listing.toRepository).withinLimit = true) :
    DeletesExpired parseFromRfc3339 now listing
        (processStatusCleanup parseFromRfc3339 now relayerId listing.toRepository) ↔
      ¬ HasBlindPage parseFromRfc3339 now listing := by
  obtain ⟨hindex, hcount, hfinished, hcleaned⟩ := cleanupLoop_sweeps parseFromRfc3339 now
    maxCleanupIterationsPerStatus 0 0 (cleaned_start listing)
  have hdoomed (id : String) (hexpired : listing.expired parseFromRfc3339 now id = true) :
      listing.readable id = true := by
    rw [Listing.expired] at hexpired
    cases hbody : listing.bodies id with
    | none => simp [hbody] at hexpired
    | some => simp [Listing.readable, hbody]
  rw [HasBlindPage, ← sweep_exact_iff hdoomed listing.nodup (hfinished.symm.trans hlimit)]
  constructor
  · intro hexact
    exact ⟨hindex.symm.trans hexact.index,
      (hcount.trans (Nat.zero_add _)).symm.trans hexact.count⟩
  · rintro ⟨hremaining, hremoved⟩
    have hleft := hindex.trans hremaining
    refine ⟨hleft, fun id => ?_, (hcount.trans (Nat.zero_add _)).trans hremoved⟩
    refine (hcleaned.bodies id).trans ?_
    have hgone : (id ∈ listing.statusIndex ∧ id ∉ kept (listing.expired parseFromRfc3339 now)
        listing.statusIndex) ↔
        (id ∈ listing.statusIndex ∧ listing.expired parseFromRfc3339 now id = true) := by
      rw [kept, List.mem_filter]
      grind
    simp only [hleft, hgone]

end Cleanup

/-! ## A page of ids without bodies -/

/-- A transaction that expires at once, or one that is kept for good. -/
def sampleTransaction (id : String) : StoredTransaction where
  id := id
  relayerId := "relayer"
  status := .confirmed
  createdAt := ""
  confirmedAt := none
  deleteAt := if id = "expired" then some "" else none
  nonce := none

/-- An index that lists the given ids without a body before the two transactions. -/
def sampleListing (unreadable : List String) (hnodup : unreadable.Nodup)
    (hfresh : ∀ id ∈ unreadable, id ∉ ["kept", "expired"]) : Listing "relayer" where
  statusIndex := unreadable ++ ["kept", "expired"]
  bodies := fun id => if id ∈ ["kept", "expired"] then some (sampleTransaction id) else none
  nonces := fun _ => none
  status := .confirmed
  final := rfl
  nodup := List.nodup_append'.mpr ⟨hnodup, by decide, fun id hmem => hfresh id hmem⟩
  listed := by
    intro id transaction _ hbody
    split_ifs at hbody
    cases hbody
    exact ⟨rfl, rfl, rfl⟩

/-- One transaction to keep and one to delete. -/
def mixedListing : Listing "relayer" := sampleListing [] List.nodup_nil (by decide)

theorem cleanup_withinLimit_sample :
    (processStatusCleanup (fun _ => some 0) 0 "relayer"
      mixedListing.toRepository).withinLimit = true :=
  cleanup_withinLimit _ _ mixedListing (by decide)

theorem cleanup_deletesExpired_iff_sample :
    DeletesExpired (fun _ => some 0) 0 mixedListing
      (processStatusCleanup (fun _ => some 0) 0 "relayer" mixedListing.toRepository) :=
  (cleanup_deletesExpired_iff (fun _ => some 0) 0 mixedListing
    (by decide +kernel)).mpr (not_blind_of_shown (by decide) (by decide +kernel))

/-- As many different ids as fit on a page. -/
def pageOfIds : List String :=
  (List.range cleanupPageSize).map fun length => String.ofList (List.replicate length 'u')

theorem nodup_pageOfIds : pageOfIds.Nodup :=
  List.nodup_range.map fun left right heq => by
    simpa using congrArg (fun id => id.toList.length) heq

/-- The expired transaction behind a page of ids without bodies is not deleted. -/
theorem expired_behind_unreadable_page :
    ∃ listing : Listing "relayer",
      listing.expired (fun _ => some 0) 0 "expired" = true ∧
      "expired" ∈ listing.statusIndex ∧
      (processStatusCleanup (fun _ => some 0) 0 "relayer"
        listing.toRepository).withinLimit = true ∧
      (processStatusCleanup (fun _ => some 0) 0 "relayer"
        listing.toRepository).totalCleaned = 0 ∧
      ¬ DeletesExpired (fun _ => some 0) 0 listing
        (processStatusCleanup (fun _ => some 0) 0 "relayer" listing.toRepository) := by
  refine ⟨sampleListing pageOfIds nodup_pageOfIds (by decide +kernel), by decide +kernel,
    by decide +kernel, by decide +kernel, by decide +kernel, fun hexact => ?_⟩
  exact absurd hexact.count (by decide +kernel)

end Relayer.TransactionCleanup
