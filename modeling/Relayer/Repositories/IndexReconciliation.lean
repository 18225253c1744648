import Relayer.Core.PagedSweep
import Relayer.Core.ScoredSet
import Relayer.Models.Transaction

/-!
# Reconciliation of the status indexes

The Redis repository lists the transactions of a relayer by status.  An entry is stale when
its body is gone, or when the body has a final status and is still listed under another one.
`reconcile_status_index` reads the old entries of one index page by page and repairs the stale
ones.  No other writer is at work and no call fails.
-/

namespace Relayer.IndexReconciliation

open Relayer.PagedSweep Relayer.Scored Relayer.Transaction

/-! ## The repository -/

structure Repository where
  txToRelayer : String → Option String
  tx : String → String → Option String
  statusSorted : String → TransactionStatus → ScoredSet String
  statusLegacy : String → TransactionStatus → List String

/-- The text of a transaction, under the relayer that the reverse lookup finds. -/
def Repository.body (repository : Repository) (id : String) : Option String :=
  (repository.txToRelayer id).bind fun relayerId => repository.tx relayerId id

/-- The commands of a pipeline. -/
inductive Command where
  | zrem (relayerId : String) (status : TransactionStatus) (id : String)
  | srem (relayerId : String) (status : TransactionStatus) (id : String)
  | zadd (relayerId : String) (status : TransactionStatus) (id : String) (score : ℤ)
  deriving DecidableEq

/-- The index of a relayer and status is changed, and the others are left alone. -/
def change {A : Type} (indexes : String → TransactionStatus → A) (relayerId : String)
    (status : TransactionStatus) (edit : A → A) (relayer : String) (listed : TransactionStatus) :
    A :=
  if relayer = relayerId ∧ listed = status then edit (indexes relayer listed)
  else indexes relayer listed

def Command.run (repository : Repository) : Command → Repository
  | zrem relayerId status id =>
      { repository with
        statusSorted := change repository.statusSorted relayerId status (·.removeAll [id]) }
  | srem relayerId status id =>
      { repository with
        statusLegacy := change repository.statusLegacy relayerId status (remove [id]) }
  | zadd relayerId status id score =>
      { repository with
        statusSorted := change repository.statusSorted relayerId status (·.add id score) }

/-! ## The loop -/

def staleIndexPageSize : ℕ := 100
def maxStaleIndexReconcileIterationsPerStatus : ℕ := 1500

inductive ReconcileMode where
  | promote
  | purgeOrphans
  deriving DecidableEq

/-- The arguments of a reconciliation, and how it reads times and stored texts. -/
structure Job where
  relayerId : String
  indexStatus : TransactionStatus
  cutoff : ℤ
  mode : ReconcileMode
  parseFromRfc3339 : String → Option ℤ
  deserializeEntity : String → Option StoredTransaction

structure BatchRetrievalResult where
  results : List StoredTransaction
  failedIds : List String

/-- What the loop leaves, the count it returns, and whether it ended before its limit. -/
structure Outcome where
  repository : Repository
  totalRepaired : ℕ
  withinLimit : Bool

section Reconcile

variable (job : Job)

/-- In milliseconds. -/
def timestampToScore (timestamp : String) : ℤ := (job.parseFromRfc3339 timestamp).getD 0

def statusSortedScore (transaction : StoredTransaction) : ℤ :=
  match transaction.status, transaction.confirmedAt with
  | .confirmed, some confirmedAt => timestampToScore job confirmedAt
  | _, _ => timestampToScore job transaction.createdAt

def getTransactionsByIds (repository : Repository) (ids : List String) : BatchRetrievalResult :=
  let valid := ids.filterMap fun id =>
    (repository.txToRelayer id).map fun relayerId => (id, repository.tx relayerId id)
  { results := valid.filterMap fun value => value.2.bind job.deserializeEntity
    failedIds := ids.filter (fun id => (repository.txToRelayer id).isNone) ++
      (valid.filter fun value => value.2.isNone).map Prod.fst }

/-- A final status, and not that of the index. -/
def misplaced (transaction : StoredTransaction) : Bool :=
  transaction.status.isFinalState && transaction.status ≠ job.indexStatus

/-- What is queued for one id of a page.  The last body with the id counts. -/
def repair (batch : BatchRetrievalResult) (id : String) : List Command :=
  if id ∈ batch.failedIds then
    [.zrem job.relayerId job.indexStatus id, .srem job.relayerId job.indexStatus id]
  else if job.mode = .purgeOrphans then []
  else
    match batch.results.reverse.find? fun transaction => transaction.id = id with
    | none => []
    | some transaction =>
        if misplaced job transaction then
          [.zrem job.relayerId job.indexStatus id, .srem job.relayerId job.indexStatus id,
            .zadd transaction.relayerId transaction.status id (statusSortedScore job transaction)]
        else []

def Repository.index (repository : Repository) : ScoredSet String :=
  repository.statusSorted job.relayerId job.indexStatus

def reconcileLoop : ℕ → ℕ → ℕ → Repository → Outcome
  | 0, _, totalRepaired, repository => ⟨repository, totalRepaired, false⟩
  | iterations + 1, offset, totalRepaired, repository =>
      let ids := (repository.index job).rangeByScore job.cutoff offset staleIndexPageSize
      if ids = [] then ⟨repository, totalRepaired, true⟩
      else
        let queued := repair job (getTransactionsByIds job repository ids)
        let repairedOnPage := ids.countP fun id => queued id ≠ []
        if 0 < repairedOnPage then
          reconcileLoop iterations offset (totalRepaired + repairedOnPage)
            ((ids.flatMap queued).foldl Command.run repository)
        else reconcileLoop iterations (offset + ids.length) totalRepaired repository

def reconcileStatusIndex (repository : Repository) : Outcome :=
  reconcileLoop job maxStaleIndexReconcileIterationsPerStatus 0 0 repository

end Reconcile

/-! ## Stale entries -/

/-- A repository that stores each transaction under its own id. -/
structure Content (job : Job) extends Repository where
  keyed : ∀ id text transaction, toRepository.body id = some text →
    job.deserializeEntity text = some transaction → transaction.id = id

namespace Content

variable {job : Job} (content : Content job)

def transaction (id : String) : Option StoredTransaction :=
  (content.body id).bind job.deserializeEntity

/-- The transaction to promote. -/
def promoted (id : String) : Option StoredTransaction :=
  if job.mode = .promote then (content.transaction id).filter (misplaced job) else none

def stale (id : String) : Bool := (content.body id).isNone || (content.promoted id).isSome

/-- A stale entry of the index with a score up to the cutoff. -/
def due (id : String) : Bool :=
  ((content.index job).scoreOf id).any (· ≤ job.cutoff) && content.stale id

/-- The score that a promoted transaction gets in the index of its relayer and status. -/
def arrival (relayer : String) (status : TransactionStatus) (id : String) : Option ℤ :=
  ((content.promoted id).filter fun transaction =>
    transaction.relayerId = relayer ∧ transaction.status = status).map (statusSortedScore job)

end Content

/-- The due entries have left the index, those with a body for the index of its status;
nothing else has changed, and the due entries are counted. -/
structure RepairsDue {job : Job} (content : Content job) (outcome : Outcome) : Prop where
  index : ∀ id, (outcome.repository.index job).scoreOf id =
    if content.due id then none else (content.index job).scoreOf id
  others : ∀ relayer status id, ¬ (relayer = job.relayerId ∧ status = job.indexStatus) →
    (outcome.repository.statusSorted relayer status).scoreOf id =
      ((if content.due id then content.arrival relayer status id else none).or
        ((content.statusSorted relayer status).scoreOf id))
  legacy : outcome.repository.statusLegacy =
    change content.statusLegacy job.relayerId job.indexStatus (kept content.due)
  lookup : outcome.repository.txToRelayer = content.txToRelayer
  bodies : outcome.repository.tx = content.tx
  count : outcome.totalRepaired = (content.index job).members.countP content.due

/-! ## What is queued -/

section Queued

variable {job : Job} {content : Content job} {repository : Repository} {id : String}
  {ids : List String}

theorem Content.id_of_transaction {transaction : StoredTransaction}
    (hfound : content.transaction id = some transaction) : transaction.id = id := by
  obtain ⟨text, hbody, hread⟩ := Option.bind_eq_some_iff.mp hfound
  exact content.keyed id text transaction hbody hread

/-- Among the bodies of a page each transaction is found by its id. -/
theorem Content.find_transaction (hmem : id ∈ ids) :
    ((ids.filterMap content.transaction).reverse.find? fun transaction =>
      transaction.id = id) = content.transaction id := by
  cases hfind : (ids.filterMap content.transaction).reverse.find? fun transaction =>
      transaction.id = id with
  | none =>
      refine (Option.eq_none_iff_forall_ne_some.mpr fun transaction hfound => ?_).symm
      refine List.find?_eq_none.mp hfind transaction (List.mem_reverse.mpr ?_) ?_
      · exact List.mem_filterMap.mpr ⟨id, hmem, hfound⟩
      · simpa using content.id_of_transaction hfound
  | some transaction =>
      obtain ⟨other, -, hfound⟩ := List.mem_filterMap.mp
        (List.mem_reverse.mp (List.mem_of_find?_eq_some hfind))
      have hid : transaction.id = id := by simpa using List.find?_some hfind
      rw [← hfound, ← hid, content.id_of_transaction hfound]

/-- Bodies are found as in the first repository. -/
structure SameBodies (content : Content job) (repository : Repository) : Prop where
  lookup : repository.txToRelayer = content.txToRelayer
  bodies : repository.tx = content.tx

theorem SameBodies.results (hsame : SameBodies content repository) :
    (getTransactionsByIds job repository ids).results = ids.filterMap content.transaction := by
  rw [getTransactionsByIds, List.filterMap_filterMap]
  refine List.filterMap_congr fun id _ => ?_
  rw [Content.transaction, Repository.body, hsame.lookup, hsame.bodies]
  cases content.txToRelayer id <;> rfl

theorem SameBodies.mem_failedIds (hsame : SameBodies content repository) (hmem : id ∈ ids) :
    id ∈ (getTransactionsByIds job repository ids).failedIds ↔ content.body id = none := by
  rw [getTransactionsByIds, Repository.body, hsame.lookup, hsame.bodies]
  cases hrelayer : content.txToRelayer id with
  | none => simp [hrelayer, hmem]
  | some relayer => simp [hrelayer, hmem, List.mem_filterMap]

/-- What has to be queued for a listed id. -/
def Content.plan (content : Content job) (id : String) : List Command :=
  if content.stale id then
    .zrem job.relayerId job.indexStatus id :: .srem job.relayerId job.indexStatus id ::
      ((content.promoted id).map fun transaction =>
        Command.zadd transaction.relayerId transaction.status id
          (statusSortedScore job transaction)).toList
  else []

theorem SameBodies.repair_eq (hsame : SameBodies content repository) (hmem : id ∈ ids) :
    repair job (getTransactionsByIds job repository ids) id = content.plan id := by
  rw [repair, hsame.results, content.find_transaction hmem]
  simp only [hsame.mem_failedIds hmem]
  rw [Content.plan, Content.stale, Content.promoted]
  cases hbody : content.body id with
  | none => simp [Content.transaction, hbody]
  | some text =>
      cases hmode : job.mode with
      | purgeOrphans => simp
      | promote =>
          cases hread : content.transaction id with
          | none => simp
          | some transaction =>
              cases hstatus : misplaced job transaction <;> simp [hstatus, Option.filter]

theorem countP_plan : ids.countP (fun id => content.plan id ≠ []) =
    (ids.filter content.stale).length := by
  rw [← List.countP_eq_length_filter]
  refine List.countP_congr fun id _ => ?_
  rw [Content.plan]
  cases content.stale id <;> simp

end Queued

/-! ## The repair of a page -/

section Derived

variable {job : Job} {content : Content job} {repository : Repository} {gone : List String}
  {id : String}

/-- The repository after the repair of the given stale entries. -/
structure Derived (content : Content job) (gone : List String) (repository : Repository) : Prop
    extends SameBodies content repository where
  index : repository.index job = (content.index job).removeAll gone
  others : ∀ relayer status id, ¬ (relayer = job.relayerId ∧ status = job.indexStatus) →
    (repository.statusSorted relayer status).scoreOf id =
      ((if id ∈ gone then content.arrival relayer status id else none).or
        ((content.statusSorted relayer status).scoreOf id))
  legacy : repository.statusLegacy =
    change content.statusLegacy job.relayerId job.indexStatus (remove gone)

theorem derived_start (content : Content job) : Derived content [] content.toRepository where
  lookup := rfl
  bodies := rfl
  index := by simp [ScoredSet.removeAll]
  others relayer status id _ := by simp
  legacy := by
    funext relayer status
    simp [change, remove]

theorem Content.status_of_promoted {transaction : StoredTransaction}
    (hpromoted : content.promoted id = some transaction) :
    transaction.status ≠ job.indexStatus := by
  rw [Content.promoted] at hpromoted
  split_ifs at hpromoted
  have hmisplaced := (Option.filter_eq_some_iff.mp hpromoted).2
  rw [misplaced, Bool.and_eq_true] at hmisplaced
  exact of_decide_eq_true hmisplaced.2

/-- The score that the plan for an id gives it in another index. -/
theorem scoreOf_plan (hstale : content.stale id = true) (relayer : String)
    (status : TransactionStatus) (other : String)
    (hother : ¬ (relayer = job.relayerId ∧ status = job.indexStatus)) :
    (((content.plan id).foldl Command.run repository).statusSorted relayer status).scoreOf other =
      ((if other = id then content.arrival relayer status id else none).or
        ((repository.statusSorted relayer status).scoreOf other)) := by
  rw [Content.plan, if_pos hstale, Content.arrival]
  cases content.promoted id with
  | none => simp [Command.run, change, hother]
  | some transaction =>
      by_cases hthere : transaction.relayerId = relayer ∧ transaction.status = status
      · obtain ⟨rfl, rfl⟩ := hthere
        by_cases heq : other = id <;>
          simp [Command.run, change, hother, ScoredSet.scoreOf_add, Option.filter, heq]
      · have hset : ¬ (relayer = transaction.relayerId ∧ status = transaction.status) :=
          fun hset => hthere ⟨hset.1.symm, hset.2.symm⟩
        simp [Command.run, change, hother, hset, hthere, Option.filter]

theorem Derived.plan (hderived : Derived content gone repository)
    (hstale : content.stale id = true) :
    Derived content (gone ++ [id]) ((content.plan id).foldl Command.run repository) where
  lookup := by
    rw [← hderived.lookup, Content.plan, if_pos hstale]
    cases content.promoted id <;> rfl
  bodies := by
    rw [← hderived.bodies, Content.plan, if_pos hstale]
    cases content.promoted id <;> rfl
  index := by
    rw [← ScoredSet.removeAll_removeAll, ← hderived.index, Content.plan, if_pos hstale]
    cases hpromoted : content.promoted id with
    | none => simp [Command.run, change, Repository.index]
    | some transaction =>
        have hstatus := Ne.symm (content.status_of_promoted hpromoted)
        simp [Command.run, change, Repository.index, hstatus]
  others relayer status other hother := by
    rw [scoreOf_plan hstale relayer status other hother,
      hderived.others relayer status other hother]
    by_cases heq : other = id
    · by_cases hgone : id ∈ gone <;> simp [heq, hgone, ← Option.or_assoc]
    · simp [heq]
  legacy := by
    have hplan : ((content.plan id).foldl Command.run repository).statusLegacy =
        change repository.statusLegacy job.relayerId job.indexStatus (remove [id]) := by
      rw [Content.plan, if_pos hstale]
      cases content.promoted id <;> rfl
    rw [hplan, hderived.legacy]
    funext relayer status
    rw [change, change, change]
    split_ifs
    · exact remove_remove ..
    · rfl

theorem Derived.planAll (ids : List String) (hderived : Derived content gone repository) :
    Derived content (gone ++ ids.filter content.stale)
      ((ids.flatMap content.plan).foldl Command.run repository) := by
  induction ids generalizing gone repository with
  | nil => simpa using hderived
  | cons id ids ih =>
      rw [List.flatMap_cons, List.foldl_append]
      cases hstale : content.stale id with
      | true =>
          rw [List.filter_cons_of_pos hstale, List.append_cons]
          exact ih (hderived.plan hstale)
      | false =>
          rw [List.filter_cons_of_neg (by simp [hstale]), Content.plan, if_neg (by simp [hstale])]
          exact ih hderived

end Derived

/-! ## The loop sweeps the index -/

section Sweep

variable {job : Job} {content : Content job} {repository : Repository} {gone : List String}
  {id : String} {items : List String} {offset page : ℕ}

/-- The loop and the sweep read the same page: the offset is a whole number of pages, or both
are past the end. -/
def SamePlace (items : List String) (offset page : ℕ) : Prop :=
  offset = page * staleIndexPageSize ∨
    items.drop offset = [] ∧ items.drop (page * staleIndexPageSize) = []

theorem SamePlace.pageOf_eq (hplace : SamePlace items offset page) :
    (items.drop offset).take staleIndexPageSize = pageOf staleIndexPageSize page items := by
  rcases hplace with rfl | ⟨hloop, hsweep⟩
  · rfl
  · rw [pageOf, hloop, hsweep]

theorem SamePlace.offset_eq (hplace : SamePlace items offset page)
    (hsome : pageOf staleIndexPageSize page items ≠ []) : offset = page * staleIndexPageSize := by
  rcases hplace with heq | ⟨-, hsweep⟩
  · exact heq
  · exact absurd (by rw [pageOf, hsweep]; rfl) hsome

/-- A page that is not full is the last one. -/
theorem SamePlace.next (hplace : SamePlace items offset page)
    (hsome : pageOf staleIndexPageSize page items ≠ []) :
    SamePlace items (offset + (pageOf staleIndexPageSize page items).length) (page + 1) := by
  rw [hplace.offset_eq hsome, SamePlace, List.drop_eq_nil_iff, List.drop_eq_nil_iff, pageOf,
    List.length_take, List.length_drop, Nat.succ_mul]
  omega

theorem Derived.inOrder_eq (hderived : Derived content gone repository) :
    (repository.index job).inOrder job.cutoff =
      remove gone ((content.index job).inOrder job.cutoff) := by
  rw [hderived.index, ScoredSet.inOrder_removeAll, remove]

/-- One iteration, in terms of the stale ids of its page. -/
theorem Derived.loop_succ (hderived : Derived content gone repository)
    (iterations totalRepaired : ℕ) {ids : List String}
    (hids : (repository.index job).rangeByScore job.cutoff offset staleIndexPageSize = ids) :
    reconcileLoop job (iterations + 1) offset totalRepaired repository =
      if ids = [] then ⟨repository, totalRepaired, true⟩
      else if ids.filter content.stale = [] then
        reconcileLoop job iterations (offset + ids.length) totalRepaired repository
      else
        reconcileLoop job iterations offset
          (totalRepaired + (ids.filter content.stale).length)
          ((ids.flatMap content.plan).foldl Command.run repository) := by
  have hqueued (id : String) (hmem : id ∈ ids) :
      repair job (getTransactionsByIds job repository ids) id = content.plan id :=
    hderived.toSameBodies.repair_eq hmem
  have hcount : (ids.countP fun id =>
      repair job (getTransactionsByIds job repository ids) id ≠ []) =
        (ids.filter content.stale).length := by
    rw [← countP_plan]
    exact List.countP_congr fun id hmem => by rw [hqueued id hmem]
  rw [reconcileLoop, hids]
  dsimp only
  rw [hcount, List.flatMap_congr hqueued]
  simp only [List.length_pos_iff, ne_eq, ite_not]

theorem Content.due_iff : content.due id = true ↔
    id ∈ (content.index job).inOrder job.cutoff ∧ content.stale id = true := by
  rw [Content.due, Bool.and_eq_true, ScoredSet.mem_inOrder]

/-- The loop of the repository is the sweep of the old entries of the index. -/
theorem reconcileLoop_sweeps (iterations totalRepaired : ℕ)
    (hderived : Derived content gone repository) (hdue : ∀ id ∈ gone, content.due id = true)
    (hplace : SamePlace ((repository.index job).inOrder job.cutoff) offset page) :
    let outcome := reconcileLoop job iterations offset totalRepaired repository
    let swept := sweep staleIndexPageSize (fun _ => true) content.stale iterations page
      ((repository.index job).inOrder job.cutoff)
    (∃ gone, Derived content gone outcome.repository ∧ ∀ id ∈ gone, content.due id = true) ∧
      (outcome.repository.index job).inOrder job.cutoff = swept.remaining ∧
      outcome.totalRepaired = totalRepaired + swept.removed ∧
      outcome.withinLimit = swept.finished := by
  induction iterations generalizing offset page totalRepaired gone repository with
  | zero => exact ⟨⟨gone, hderived, hdue⟩, rfl, rfl, rfl⟩
  | succ iterations ih =>
      dsimp only
      rw [hderived.loop_succ iterations totalRepaired hplace.pageOf_eq]
      have hleft := hderived.inOrder_eq
      generalize hitems : (repository.index job).inOrder job.cutoff = items at hplace hleft
      by_cases hshown : pageOf staleIndexPageSize page items = []
      · rw [if_pos hshown, sweep_stop (by simp [hshown])]
        exact ⟨⟨gone, hderived, hdue⟩, hitems, rfl, rfl⟩
      have hsome : (pageOf staleIndexPageSize page items).filter (fun _ => true) ≠ [] := by
        rwa [List.filter_true]
      rw [if_neg hshown]
      by_cases hgone : (pageOf staleIndexPageSize page items).filter content.stale = []
      · rw [if_pos hgone, sweep_next hsome hgone, ← hitems]
        exact ih totalRepaired hderived hdue (hitems ▸ hplace.next hshown)
      · rw [if_neg hgone, sweep_again hsome hgone]
        have hrepaired := hderived.planAll (pageOf staleIndexPageSize page items)
        have hlater (id : String) (hmem : id ∈ gone ++
            (pageOf staleIndexPageSize page items).filter content.stale) :
            content.due id = true := by
          rcases List.mem_append.mp hmem with hmem | hmem
          · exact hdue id hmem
          · obtain ⟨hpage, hstale⟩ := List.mem_filter.mp hmem
            have hitem : id ∈ items := (pageOf_sublist _ _ _).subset hpage
            rw [hleft] at hitem
            exact content.due_iff.mpr ⟨List.mem_of_mem_filter hitem, hstale⟩
        have hnext := ih (totalRepaired + ((pageOf staleIndexPageSize page items).filter
          content.stale).length) hrepaired hlater (.inl (hplace.offset_eq hshown))
        rw [hrepaired.inOrder_eq, ← remove_remove, ← hleft] at hnext
        obtain ⟨hlast, hremaining, htotal, hlimit⟩ := hnext
        exact ⟨hlast, hremaining, htotal.trans (Nat.add_assoc ..), hlimit⟩

theorem Content.countP_due :
    (content.index job).members.countP content.due =
      ((content.index job).inOrder job.cutoff).countP content.stale := by
  rw [(ScoredSet.inOrder_perm _ _).countP_eq, ScoredSet.members, List.countP_map,
    List.countP_map, List.countP_filter]
  refine List.countP_congr fun entry hmem => ?_
  have hscore := ScoredSet.scoreOf_eq_some.mpr hmem
  simp [Content.due, hscore, and_comm]

/-- An index with fewer entries than the limit on the iterations is read to its end. -/
theorem reconcileStatusIndex_withinLimit (content : Content job)
    (hfew : (content.index job).members.length < maxStaleIndexReconcileIterationsPerStatus) :
    (reconcileStatusIndex job content.toRepository).withinLimit = true := by
  obtain ⟨-, -, -, hfinished⟩ := reconcileLoop_sweeps maxStaleIndexReconcileIterationsPerStatus 0
    (derived_start content) nofun (.inl (Nat.zero_mul _).symm)
  refine hfinished.trans (sweep_finished (by decide)
    (standing_start (ScoredSet.nodup_inOrder _ _)) (lt_of_le_of_lt ?_ hfew))
  rw [(ScoredSet.inOrder_perm _ _).length_eq]
  exact (List.filter_sublist.map Prod.fst).length_le

/-- A run that ends before its limit repairs exactly the due entries. -/
theorem reconcileStatusIndex_repairsDue (content : Content job)
    (hlimit : (reconcileStatusIndex job content.toRepository).withinLimit = true) :
    RepairsDue content (reconcileStatusIndex job content.toRepository) := by
  obtain ⟨⟨gone, hderived, hdue⟩, hremaining, htotal, hfinished⟩ :=
    reconcileLoop_sweeps maxStaleIndexReconcileIterationsPerStatus 0 (derived_start content)
      nofun (.inl (Nat.zero_mul _).symm)
  rw [reconcileStatusIndex] at hlimit ⊢
  obtain ⟨hkept, hremoved⟩ := (sweep_exact_iff (fun _ _ => rfl)
    (ScoredSet.nodup_inOrder (content.index job) job.cutoff) (hfinished.symm.trans hlimit)).mpr
      (not_blind_of_shown (by decide) fun _ _ => rfl)
  have hgone (id : String) : id ∈ gone ↔ content.due id = true := by
    refine ⟨hdue id, fun hid => ?_⟩
    obtain ⟨hlisted, hstale⟩ := content.due_iff.mp hid
    by_contra hnot
    have hleft : id ∈ remove gone ((content.index job).inOrder job.cutoff) :=
      List.mem_filter.mpr ⟨hlisted, by simpa using hnot⟩
    rw [← hderived.inOrder_eq, hremaining, hkept] at hleft
    simp [kept, hstale] at hleft
  refine ⟨fun id => ?_, fun relayer status id hother => ?_, ?_, hderived.lookup, hderived.bodies,
    ?_⟩
  · rw [hderived.index, ScoredSet.scoreOf_removeAll]
    simp only [hgone]
  · rw [hderived.others relayer status id hother]
    simp only [hgone]
  · have hremove : remove gone = kept content.due := by
      funext ids
      exact List.filter_congr fun id _ => by simp [hgone]
    rw [hderived.legacy, hremove]
  · rw [htotal, Nat.zero_add, hremoved, content.countP_due]

end Sweep

def sampleJob : Job :=
  ⟨"relayer", .pending, 5, .promote, fun _ => some 7,
    fun text => some ⟨text, "relayer", .confirmed, "created", none, none, none⟩⟩

/-- A pending index with an entry without a body, one of a confirmed transaction and a young
one. -/
def sampleContent : Content sampleJob where
  txToRelayer _ := some "relayer"
  tx _ id := if id = "orphan" then none else some id
  statusSorted _ status :=
    if status = .pending then ((ScoredSet.empty.add "orphan" 0).add "confirmed" 1).add "young" 9
    else ScoredSet.empty
  statusLegacy _ _ := []
  keyed := by
    intro id text transaction hbody hread
    simp only [Repository.body, Option.bind_some] at hbody
    split_ifs at hbody
    cases hbody
    cases hread
    rfl

theorem reconcileStatusIndex_repairsDue_sample :
    (reconcileStatusIndex sampleJob sampleContent.toRepository).totalRepaired = 2 := by
  have hfew := reconcileStatusIndex_withinLimit sampleContent (by decide +kernel)
  exact (reconcileStatusIndex_repairsDue sampleContent hfew).count.trans (by decide +kernel)

end Relayer.IndexReconciliation
