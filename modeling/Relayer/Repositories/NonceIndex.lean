import Relayer.Evm.Status

/-!
# The nonce index of the Redis repository

Redis keeps one key for each nonce of a relayer, which names the transaction that was
written last with that nonce.  Several stored transactions can carry one nonce, such as a
failed one and the filler that takes its place.  The key should name an active one as long
as there is one, because the nonce health checks count the slot as free otherwise.

Every write of a transaction claims the key of its nonce, whatever its status, and every
deletion removes the key, whatever it names.  The index stays sound exactly as long as no
operation does this for a transaction that is not active afterwards while another active
one has the nonce.

Stored documents stand for the records they decode to.  Operations follow one another,
every command succeeds, and a read sees the writes before it, also one through `reader`.
-/

namespace Relayer.NonceIndex

open Relayer.Transaction Relayer.EvmLifecycle
open Relayer.EvmReplacement (NetworkTransactionData)

/-- The keys `tx_key`, `tx_to_relayer_key` and `relayer_nonce_key`. -/
structure RedisStore where
  transactions : String × String → Option TransactionRepoModel
  txToRelayer : String → Option String
  nonces : String × ℕ → Option String

def extractNonce (data : NetworkTransactionData) : Option ℕ :=
  match data.getEvmTransactionData with
  | .ok txData => txData.nonce
  | .error _ => none

/-- The slots of a range of nonces. -/
def occupancy (slots : ℕ → Option TransactionStatus) (fromNonce toNonce : ℕ) :
    List (ℕ × Option TransactionStatus) :=
  if toNonce ≤ fromNonce then []
  else (List.range' fromNonce (toNonce - fromNonce)).map fun nonce => (nonce, slots nonce)

def notFound (id : String) : RepositoryError :=
  .notFound s!"Transaction with ID {id} not found"

/-- The integers of the stored document are below 10¹⁴.  The script of `partial_update` decodes
and encodes the document with `cjson`, which writes a larger one as a float; the stored
document no longer decodes then.  The fees and the value are strings in it. -/
def survivesScript : NetworkTransactionData → Bool
  | .evm data =>
      data.gasLimit.all (· < 10 ^ 14) && data.nonce.all (· < 10 ^ 14) && data.chainId < 10 ^ 14
  | _ => true

def emptyId : RepositoryError := .invalidData "Transaction ID cannot be empty"

structure BatchDeleteResult where
  deletedCount : ℕ := 0
  failed : List (String × String) := []
  deriving DecidableEq, Repr

namespace RedisStore

def empty : RedisStore := ⟨fun _ => none, fun _ => none, fun _ => none⟩

def setTransaction (store : RedisStore) (relayerId id : String) (tx : TransactionRepoModel) :
    RedisStore :=
  { store with transactions := Function.update store.transactions (relayerId, id) (some tx) }

def setRelayer (store : RedisStore) (id relayerId : String) : RedisStore :=
  { store with txToRelayer := Function.update store.txToRelayer id (some relayerId) }

def setNonce (store : RedisStore) (relayerId : String) (nonce : ℕ) (id : String) : RedisStore :=
  { store with nonces := Function.update store.nonces (relayerId, nonce) (some id) }

def deleteNonce (store : RedisStore) (relayerId : String) (nonce : ℕ) : RedisStore :=
  { store with nonces := Function.update store.nonces (relayerId, nonce) none }

def deleteTransaction (store : RedisStore) (relayerId id : String) : RedisStore :=
  { store with
    transactions := Function.update store.transactions (relayerId, id) none
    txToRelayer := Function.update store.txToRelayer id none }

/-- Both lookups of `get_by_id`. -/
def lookup (store : RedisStore) (id : String) : Option TransactionRepoModel :=
  (store.txToRelayer id).bind fun relayerId => store.transactions (relayerId, id)

def getById (store : RedisStore) (id : String) : Except RepositoryError TransactionRepoModel :=
  if id = "" then .error emptyId
  else
    match store.lookup id with
    | some tx => .ok tx
    | none => .error (notFound id)

/-- The key of the nonce names the transaction from now on. -/
def claimNonce (store : RedisStore) (tx : TransactionRepoModel) : RedisStore :=
  match extractNonce tx.networkData with
  | some nonce => store.setNonce tx.relayerId nonce tx.id
  | none => store

/-- The key of a nonce that the transaction no longer has. -/
def releaseNonce (store : RedisStore) (tx old : TransactionRepoModel) : RedisStore :=
  match extractNonce old.networkData with
  | some oldNonce =>
      if some oldNonce = extractNonce tx.networkData then store
      else store.deleteNonce old.relayerId oldNonce
  | none => store

def updateIndexes (store : RedisStore) (tx : TransactionRepoModel)
    (oldTx : Option TransactionRepoModel) : RedisStore :=
  match oldTx with
  | none => store.claimNonce tx
  | some old => (store.claimNonce tx).releaseNonce tx old

def removeAllIndexes (store : RedisStore) (tx : TransactionRepoModel) : RedisStore :=
  let released :=
    match extractNonce tx.networkData with
    | some nonce => store.deleteNonce tx.relayerId nonce
    | none => store
  { released with txToRelayer := Function.update released.txToRelayer tx.id none }

def create (store : RedisStore) (entity : TransactionRepoModel) :
    Except RepositoryError TransactionRepoModel × RedisStore :=
  if entity.id = "" then (.error emptyId, store)
  else if (store.txToRelayer entity.id).isSome then
    (.error (.constraintViolation s!"Transaction with ID {entity.id} already exists"), store)
  else
    (.ok entity, ((store.setTransaction entity.relayerId entity.id entity).setRelayer entity.id
      entity.relayerId).updateIndexes entity none)

def update (store : RedisStore) (id : String) (entity : TransactionRepoModel) :
    Except RepositoryError TransactionRepoModel × RedisStore :=
  match store.getById id with
  | .error e => (.error e, store)
  | .ok old =>
      (.ok entity, (store.setTransaction entity.relayerId id entity).updateIndexes entity
        (some old))

/-- The script rewrites the document with the patch, or leaves a finished one as it is; the
indexes are updated in both cases. -/
def partialUpdate (store : RedisStore) (txId : String) (patch : TransactionUpdateRequest) :
    Except RepositoryError TransactionRepoModel × RedisStore :=
  match store.txToRelayer txId with
  | none => (.error (notFound txId), store)
  | some relayerId =>
      match store.transactions (relayerId, txId) with
      | none => (.error (notFound txId), store)
      | some original =>
          let updated := original.partialUpdate true patch
          if original.status.isFinalState && patch.status.isSome ||
              survivesScript updated.networkData then
            (.ok updated, (store.setTransaction relayerId txId updated).updateIndexes updated
              (some original))
          else
            -- The document stays, but no read of it succeeds any more.
            (.error (.invalidData s!"Failed to deserialize transaction {txId}"),
              { store with
                transactions := Function.update store.transactions (relayerId, txId) none })

def deleteById (store : RedisStore) (id : String) : Except RepositoryError Unit × RedisStore :=
  match store.getById id with
  | .error e => (.error e, store)
  | .ok tx => (.ok (), (store.deleteTransaction tx.relayerId id).removeAllIndexes tx)

def deleteRequest (store : RedisStore) (request : TransactionDeleteRequest) : RedisStore :=
  let deleted := store.deleteTransaction request.relayerId request.id
  match request.nonce with
  | some nonce => deleted.deleteNonce request.relayerId nonce
  | none => deleted

def deleteByRequests (store : RedisStore) (requests : List TransactionDeleteRequest) :
    BatchDeleteResult × RedisStore :=
  (⟨requests.length, []⟩, requests.foldl deleteRequest store)

def deleteRequestOf (tx : TransactionRepoModel) : TransactionDeleteRequest :=
  ⟨tx.id, tx.relayerId, extractNonce tx.networkData⟩

def deleteByIds (store : RedisStore) (ids : List String) : BatchDeleteResult × RedisStore :=
  let found := ids.filterMap store.lookup
  let missing := ids.filter fun id => (store.lookup id).isNone
  let (result, after) := store.deleteByRequests (found.map deleteRequestOf)
  ({ result with
      failed := result.failed ++ missing.map fun id =>
        (id, s!"Transaction with ID {id} not found") }, after)

/-- The status of the transaction that the key of the nonce names. -/
def slot (store : RedisStore) (relayerId : String) (nonce : ℕ) : Option TransactionStatus :=
  (store.nonces (relayerId, nonce)).bind fun id =>
    (store.transactions (relayerId, id)).map (·.status)

def getNonceOccupancy (store : RedisStore) (relayerId : String) (fromNonce toNonce : ℕ) :
    List (ℕ × Option TransactionStatus) :=
  occupancy (store.slot relayerId) fromNonce toNonce

end RedisStore

/-! ## Range queries -/

theorem mem_occupancy {slots : ℕ → Option TransactionStatus} {first last : ℕ}
    {slot : ℕ × Option TransactionStatus} :
    slot ∈ occupancy slots first last ↔
      first ≤ slot.1 ∧ slot.1 < last ∧ slot.2 = slots slot.1 := by
  obtain ⟨nonce, status⟩ := slot
  unfold occupancy
  split
  · next hempty =>
      refine ⟨fun hmem => (nomatch hmem), ?_⟩
      rintro ⟨hlow, hlt, -⟩
      exact absurd (hlow.trans_lt hlt) (not_lt.mpr hempty)
  · next hopen =>
      simp only [List.mem_map, List.mem_range'_1, Prod.mk.injEq]
      constructor
      · rintro ⟨other, ⟨hlow, hlt⟩, rfl, rfl⟩
        exact ⟨hlow, by omega, rfl⟩
      · rintro ⟨hlow, hlt, rfl⟩
        exact ⟨nonce, ⟨hlow, by omega⟩, rfl, rfl⟩

/-- Range queries fail or tell the slots, as they are at the time. -/
def TellsSlots (slots : ℕ → ℕ → Option TransactionStatus)
    (query : ℕ → ℕ → ℕ → Except RepositoryError (List (ℕ × Option TransactionStatus))) : Prop :=
  ∀ n fromNonce toNonce told, query n fromNonce toNonce = .ok told →
    told = occupancy (slots n) fromNonce toNonce

/-- The store tells what the keys of the nonces name, over all its states. -/
theorem tellsSlots_getNonceOccupancy (relayerId : String) (stores : ℕ → RedisStore) :
    TellsSlots (fun n => (stores n).slot relayerId) fun n fromNonce toNonce =>
      .ok ((stores n).getNonceOccupancy relayerId fromNonce toNonce) :=
  fun _ _ _ _ htold => (Except.ok.inj htold).symm

/-! ## Runs of operations -/

inductive Operation where
  | create (entity : TransactionRepoModel)
  | update (id : String) (entity : TransactionRepoModel)
  | partialUpdate (txId : String) (patch : TransactionUpdateRequest)
  | deleteById (id : String)
  | deleteByIds (ids : List String)
  deriving DecidableEq, Repr

namespace Operation

/-- The store after the operation. -/
def perform (store : RedisStore) : Operation → RedisStore
  | .create entity => (store.create entity).2
  | .update id entity => (store.update id entity).2
  | .partialUpdate txId patch => (store.partialUpdate txId patch).2
  | .deleteById id => (store.deleteById id).2
  | .deleteByIds ids => (store.deleteByIds ids).2

def run (store : RedisStore) (operations : List Operation) : RedisStore :=
  operations.foldl perform store

/-- The transactions that the operation brings in belong to the relayer, an update is told
the id of its transaction, and the integers survive the script. -/
def BelongsTo (relayerId : String) : Operation → Prop
  | .create entity => entity.relayerId = relayerId ∧ survivesScript entity.networkData = true
  | .update id entity =>
      entity.id = id ∧ entity.relayerId = relayerId ∧ survivesScript entity.networkData = true
  | .partialUpdate _ patch => ∀ data ∈ patch.networkData, survivesScript data = true
  | _ => True

/-- The ids whose records the operation replaces, and the record that takes their place. -/
def replaces (store : RedisStore) : Operation → Option (List String × Option TransactionRepoModel)
  | .create entity =>
      if entity.id = "" ∨ (store.txToRelayer entity.id).isSome then none
      else some ([entity.id], some entity)
  | .update id entity =>
      if id = "" then none else (store.lookup id).map fun _ => ([id], some entity)
  | .partialUpdate txId patch =>
      (store.lookup txId).map fun original =>
        ([txId], some (original.partialUpdate true patch))
  | .deleteById id =>
      if id = "" then none else (store.lookup id).map fun _ => ([id], none)
  | .deleteByIds ids => some (ids, none)

end Operation

/-- The transaction occupies the nonce. -/
def Occupies (tx : TransactionRepoModel) (nonce : ℕ) : Prop :=
  extractNonce tx.networkData = some nonce ∧ isActiveNonceStatus tx.status = true

/-- The key of the nonce names an active transaction that has it, and no range that is
asked for shows the slot as empty or inactive. -/
def SlotReported (relayerId : String) (store : RedisStore) (nonce : ℕ) : Prop :=
  (∃ id tx, store.nonces (relayerId, nonce) = some id ∧
    store.transactions (relayerId, id) = some tx ∧ Occupies tx nonce) ∧
  ∀ fromNonce toNonce, ∀ slot ∈ store.getNonceOccupancy relayerId fromNonce toNonce,
    slot.1 = nonce → slot.2.any isActiveNonceStatus = true

/-- Every slot that an active transaction occupies is reported. -/
def NonceIndexSound (relayerId : String) (store : RedisStore) : Prop :=
  ∀ id tx nonce, store.transactions (relayerId, id) = some tx → Occupies tx nonce →
    SlotReported relayerId store nonce

/-- One of the replaced records has the nonce, or the new one has. -/
def Touches (relayerId : String) (store : RedisStore) (ids : List String)
    (result : Option TransactionRepoModel) (nonce : ℕ) : Prop :=
  (∃ id ∈ ids, ∃ old, store.transactions (relayerId, id) = some old ∧
    extractNonce old.networkData = some nonce) ∨
  ∃ tx ∈ result, extractNonce tx.networkData = some nonce

/-- Where another active transaction has a nonce that the operation touches, the operation
leaves its own transaction active with that nonce. -/
def KeepsSlots (relayerId : String) (store : RedisStore) (operation : Operation) : Prop :=
  ∀ ids result, operation.replaces store = some (ids, result) →
    ∀ nonce, Touches relayerId store ids result nonce →
      (∃ id tx, id ∉ ids ∧ store.transactions (relayerId, id) = some tx ∧
        Occupies tx nonce) →
      ∃ tx ∈ result, Occupies tx nonce

/-- Each operation keeps the slots of the store it is performed on. -/
def KeepsSlotsThroughout (relayerId : String) (store : RedisStore) : List Operation → Prop
  | [] => True
  | operation :: rest =>
      KeepsSlots relayerId store operation ∧
        KeepsSlotsThroughout relayerId (operation.perform store) rest

/-! ## What one operation does -/

/-- Transactions are stored under their ids, found through the reverse lookup and fit for the
script. -/
structure WellFormed (relayerId : String) (store : RedisStore) : Prop where
  stored : ∀ id tx, store.transactions (relayerId, id) = some tx →
    tx.id = id ∧ tx.relayerId = relayerId ∧ store.txToRelayer id = some relayerId ∧ id ≠ "" ∧
      survivesScript tx.networkData = true
  relayer : ∀ id owner, store.txToRelayer id = some owner → owner = relayerId

/-- The records of the given ids are replaced by one, and exactly the keys of the nonces
that this touches are written. -/
structure Rewrites (relayerId : String) (store after : RedisStore) (ids : List String)
    (result : Option TransactionRepoModel) : Prop where
  kept : ∀ id, id ∉ ids →
    after.transactions (relayerId, id) = store.transactions (relayerId, id)
  replaced : ∀ id ∈ ids, after.transactions (relayerId, id) = result
  listed : ∀ tx ∈ result, tx.id ∈ ids
  untouched : ∀ nonce, ¬ Touches relayerId store ids result nonce →
    after.nonces (relayerId, nonce) = store.nonces (relayerId, nonce)
  claimed : ∀ tx ∈ result, ∀ nonce, extractNonce tx.networkData = some nonce →
    after.nonces (relayerId, nonce) = some tx.id
  released : ∀ nonce, Touches relayerId store ids result nonce →
    (∀ tx ∈ result, extractNonce tx.networkData ≠ some nonce) →
      after.nonces (relayerId, nonce) = none

section Steps

variable {relayerId : String} {store after : RedisStore} {ids : List String}
  {result : Option TransactionRepoModel} {nonce : ℕ}

theorem slotReported_of_key {id : String} {tx : TransactionRepoModel}
    (hkey : store.nonces (relayerId, nonce) = some id)
    (hstored : store.transactions (relayerId, id) = some tx) (hoccupies : Occupies tx nonce) :
    SlotReported relayerId store nonce := by
  refine ⟨⟨id, tx, hkey, hstored, hoccupies⟩, fun fromNonce toNonce slot hslot hnonce => ?_⟩
  rw [(mem_occupancy.mp hslot).2.2, hnonce, RedisStore.slot, hkey, Option.bind_some, hstored]
  exact hoccupies.2

/-- A slot that the operation does not touch stays reported. -/
theorem Rewrites.reported_of_untouched (hrewrites : Rewrites relayerId store after ids result)
    (hsound : NonceIndexSound relayerId store)
    (huntouched : ¬ Touches relayerId store ids result nonce) {id : String}
    {tx : TransactionRepoModel} (hstored : after.transactions (relayerId, id) = some tx)
    (hoccupies : Occupies tx nonce) : SlotReported relayerId after nonce := by
  by_cases hid : id ∈ ids
  · rw [hrewrites.replaced id hid] at hstored
    exact absurd (.inr ⟨tx, hstored, hoccupies.1⟩) huntouched
  · rw [hrewrites.kept id hid] at hstored
    obtain ⟨⟨owner, named, hkey, hnamed, hactive⟩, _⟩ := hsound id tx nonce hstored hoccupies
    have howner : owner ∉ ids := fun hmem =>
      huntouched (.inl ⟨owner, hmem, named, hnamed, hactive.1⟩)
    apply slotReported_of_key _ _ hactive
    · exact owner
    · rw [hrewrites.untouched nonce huntouched, hkey]
    · rw [hrewrites.kept owner howner, hnamed]

/-- The new record, where it is active, makes its slot reported. -/
theorem Rewrites.reported_of_result (hrewrites : Rewrites relayerId store after ids result)
    {tx : TransactionRepoModel} (htx : tx ∈ result) (hoccupies : Occupies tx nonce) :
    SlotReported relayerId after nonce := by
  apply slotReported_of_key (hrewrites.claimed tx htx nonce hoccupies.1) _ hoccupies
  rw [hrewrites.replaced tx.id (hrewrites.listed tx htx)]
  exact htx

/-- Whether an operation keeps the index sound depends on the touched slots alone. -/
theorem Rewrites.sound_iff (hrewrites : Rewrites relayerId store after ids result)
    (hsound : NonceIndexSound relayerId store) :
    NonceIndexSound relayerId after ↔
      ∀ nonce, Touches relayerId store ids result nonce →
        (∃ id tx, id ∉ ids ∧ store.transactions (relayerId, id) = some tx ∧
          Occupies tx nonce) →
        ∃ tx ∈ result, Occupies tx nonce := by
  constructor
  · rintro hafter nonce htouched ⟨id, tx, hid, hstored, hoccupies⟩
    rw [← hrewrites.kept id hid] at hstored
    obtain ⟨⟨owner, named, hkey, hnamed, hactive⟩, _⟩ := hafter id tx nonce hstored hoccupies
    by_cases hclaimed : ∃ tx ∈ result, extractNonce tx.networkData = some nonce
    · obtain ⟨new, hnew, hnonce⟩ := hclaimed
      rw [hrewrites.claimed new hnew nonce hnonce] at hkey
      cases hkey
      rw [hrewrites.replaced new.id (hrewrites.listed new hnew)] at hnamed
      exact ⟨named, hnamed, hactive⟩
    · push Not at hclaimed
      rw [hrewrites.released nonce htouched hclaimed] at hkey
      cases hkey
  · intro hkeeps id tx nonce hstored hoccupies
    by_cases htouched : Touches relayerId store ids result nonce
    · by_cases hid : id ∈ ids
      · rw [hrewrites.replaced id hid] at hstored
        exact hrewrites.reported_of_result hstored hoccupies
      · rw [hrewrites.kept id hid] at hstored
        obtain ⟨new, hnew, hactive⟩ :=
          hkeeps nonce htouched ⟨id, tx, hid, hstored, hoccupies⟩
        exact hrewrites.reported_of_result hnew hactive
    · exact hrewrites.reported_of_untouched hsound htouched hstored hoccupies

/-- A write that leaves its transaction active under the nonce it had keeps the slots. -/
theorem keepsSlots_write {operation : Operation} (tx : TransactionRepoModel)
    (hreplaces : operation.replaces store = some ([tx.id], some tx))
    (hactive : isActiveNonceStatus tx.status = true)
    (hsame : ∀ old ∈ store.transactions (relayerId, tx.id),
      extractNonce old.networkData = extractNonce tx.networkData) :
    KeepsSlots relayerId store operation := by
  intro ids result hresult nonce htouched _
  rw [hreplaces] at hresult
  cases hresult
  refine ⟨tx, rfl, ?_, hactive⟩
  rcases htouched with ⟨id, hid, old, hold, hnonce⟩ | ⟨new, hnew, hnonce⟩
  · cases List.mem_singleton.mp hid
    rw [← hsame old hold, hnonce]
  · cases hnew
    exact hnonce

end Steps

section Operations

variable {relayerId : String} {store : RedisStore} {tx : TransactionRepoModel}
  {old : Option TransactionRepoModel}

theorem lookup_eq (hformed : WellFormed relayerId store) (id : String) :
    store.lookup id = store.transactions (relayerId, id) := by
  rw [RedisStore.lookup]
  cases howner : store.txToRelayer id with
  | none =>
      cases hstored : store.transactions (relayerId, id) with
      | none => rfl
      | some tx =>
          rw [(hformed.stored id tx hstored).2.2.1] at howner
          cases howner
  | some owner => rw [hformed.relayer id owner howner, Option.bind_some]

theorem getById_eq (hformed : WellFormed relayerId store) (id : String) :
    store.getById id =
      if id = "" then .error emptyId
      else (store.transactions (relayerId, id)).elim (.error (notFound id)) .ok := by
  rw [RedisStore.getById, lookup_eq hformed]
  cases store.transactions (relayerId, id) with
  | none => rfl
  | some tx => rfl

theorem frame_claimNonce (store : RedisStore) (tx : TransactionRepoModel) :
    (store.claimNonce tx).transactions = store.transactions ∧
      (store.claimNonce tx).txToRelayer = store.txToRelayer := by
  rw [RedisStore.claimNonce]
  split <;> exact ⟨rfl, rfl⟩

theorem frame_releaseNonce (store : RedisStore) (tx old : TransactionRepoModel) :
    (store.releaseNonce tx old).transactions = store.transactions ∧
      (store.releaseNonce tx old).txToRelayer = store.txToRelayer := by
  rw [RedisStore.releaseNonce]
  split
  · split <;> exact ⟨rfl, rfl⟩
  · exact ⟨rfl, rfl⟩

/-- The indexes are all that is written. -/
theorem frame_updateIndexes (store : RedisStore) (tx : TransactionRepoModel)
    (old : Option TransactionRepoModel) :
    (store.updateIndexes tx old).transactions = store.transactions ∧
      (store.updateIndexes tx old).txToRelayer = store.txToRelayer := by
  obtain ⟨htransactions, hrelayer⟩ := frame_claimNonce store tx
  cases old with
  | none => exact ⟨htransactions, hrelayer⟩
  | some original =>
      obtain ⟨htransactions', hrelayer'⟩ := frame_releaseNonce (store.claimNonce tx) tx original
      exact ⟨htransactions'.trans htransactions, hrelayer'.trans hrelayer⟩

theorem nonces_claimNonce (howner : tx.relayerId = relayerId) (nonce : ℕ) :
    (store.claimNonce tx).nonces (relayerId, nonce) =
      if extractNonce tx.networkData = some nonce then some tx.id
      else store.nonces (relayerId, nonce) := by
  rw [RedisStore.claimNonce]
  cases extractNonce tx.networkData with
  | none => rfl
  | some claimed => simp [RedisStore.setNonce, Function.update_apply, howner, eq_comm]

theorem nonces_releaseNonce {original : TransactionRepoModel}
    (howner : original.relayerId = relayerId) (nonce : ℕ) :
    (store.releaseNonce tx original).nonces (relayerId, nonce) =
      if extractNonce original.networkData = some nonce ∧
          extractNonce tx.networkData ≠ some nonce then none
      else store.nonces (relayerId, nonce) := by
  rw [RedisStore.releaseNonce]
  cases extractNonce original.networkData with
  | none => simp
  | some released =>
      by_cases hsame : some released = extractNonce tx.networkData
      · simp only [if_pos hsame]
        rw [if_neg]
        rintro ⟨hnonce, hnew⟩
        exact hnew (hsame.symm.trans hnonce)
      · simp only [if_neg hsame, RedisStore.deleteNonce, Function.update_apply, howner]
        grind

/-- The nonce of the transaction is claimed, the one it had before is released. -/
theorem nonces_updateIndexes (store : RedisStore) (old : Option TransactionRepoModel)
    (howner : tx.relayerId = relayerId)
    (hold : ∀ original ∈ old, original.relayerId = relayerId) (nonce : ℕ) :
    (store.updateIndexes tx old).nonces (relayerId, nonce) =
      if extractNonce tx.networkData = some nonce then some tx.id
      else if ∃ original ∈ old, extractNonce original.networkData = some nonce then none
      else store.nonces (relayerId, nonce) := by
  cases old with
  | none => simp [RedisStore.updateIndexes, nonces_claimNonce howner]
  | some original =>
      rw [RedisStore.updateIndexes, nonces_releaseNonce (hold original rfl),
        nonces_claimNonce howner]
      simp only [Option.mem_def, Option.some.injEq, exists_eq_left']
      grind

/-- A write of one transaction. -/
theorem rewrites_write (written : RedisStore) (hformed : WellFormed relayerId store)
    (howner : tx.relayerId = relayerId)
    (hwritten : written.transactions =
      Function.update store.transactions (relayerId, tx.id) (some tx))
    (hnonces : written.nonces = store.nonces) :
    Rewrites relayerId store
      (written.updateIndexes tx (store.transactions (relayerId, tx.id))) [tx.id]
      (some tx) := by
  have htransactions := (frame_updateIndexes written tx
    (store.transactions (relayerId, tx.id))).1.trans hwritten
  have hkeys := nonces_updateIndexes written (store.transactions (relayerId, tx.id)) howner
    fun original horiginal => (hformed.stored _ original horiginal).2.1
  refine ⟨fun id hid => ?_, fun id hid => ?_, ?_, fun nonce huntouched => ?_, ?_,
    fun nonce htouched hnone => ?_⟩
  · rw [htransactions]
    apply Function.update_of_ne
    simpa using hid
  · rw [List.mem_singleton.mp hid, htransactions]
    exact Function.update_self ..
  · intro new hnew
    cases hnew
    exact List.mem_singleton.mpr rfl
  · rw [hkeys, if_neg, if_neg, hnonces]
    · rintro ⟨original, horiginal, hnonce⟩
      exact huntouched (.inl ⟨tx.id, List.mem_singleton.mpr rfl, original, horiginal, hnonce⟩)
    · exact fun hnonce => huntouched (.inr ⟨tx, rfl, hnonce⟩)
  · intro new hnew nonce hnonce
    cases hnew
    rw [hkeys, if_pos hnonce]
  · rcases htouched with ⟨id, hid, original, horiginal, hnonce⟩ | ⟨new, hnew, hnonce⟩
    · rw [List.mem_singleton.mp hid] at horiginal
      rw [hkeys, if_neg (hnone tx rfl), if_pos ⟨original, horiginal, hnonce⟩]
    · exact absurd hnonce (hnone new hnew)

theorem WellFormed.write (hformed : WellFormed relayerId store) (written : RedisStore)
    (howner : tx.relayerId = relayerId) (hid : tx.id ≠ "")
    (hsurvives : survivesScript tx.networkData = true)
    (hwritten : written.transactions =
      Function.update store.transactions (relayerId, tx.id) (some tx))
    (hrelayer : written.txToRelayer =
      Function.update store.txToRelayer tx.id (some relayerId)) :
    WellFormed relayerId (written.updateIndexes tx old) := by
  obtain ⟨htransactions, hlookups⟩ := frame_updateIndexes written tx old
  refine ⟨fun id stored hstored => ?_, fun id owner hlookup => ?_⟩
  · rw [htransactions, hwritten, Function.update_apply] at hstored
    rw [hlookups, hrelayer, Function.update_apply]
    split at hstored
    · next hsame =>
        cases hsame
        cases hstored
        exact ⟨rfl, howner, if_pos rfl, hid, hsurvives⟩
    · obtain ⟨hown, hstoredOwner, hlookup, hrest⟩ := hformed.stored id stored hstored
      refine ⟨hown, hstoredOwner, ?_, hrest⟩
      split
      · rfl
      · exact hlookup
  · rw [hlookups, hrelayer, Function.update_apply] at hlookup
    split at hlookup
    · exact (Option.some.inj hlookup).symm
    · exact hformed.relayer id owner hlookup

/-! A deletion runs through the requests of the transactions that were found. -/

theorem transactions_deleteRequest (store : RedisStore) (request : TransactionDeleteRequest) :
    (store.deleteRequest request).transactions =
      Function.update store.transactions (request.relayerId, request.id) none := by
  grind [RedisStore.deleteRequest, RedisStore.deleteTransaction, RedisStore.deleteNonce]

theorem txToRelayer_deleteRequest (store : RedisStore) (request : TransactionDeleteRequest) :
    (store.deleteRequest request).txToRelayer =
      Function.update store.txToRelayer request.id none := by
  grind [RedisStore.deleteRequest, RedisStore.deleteTransaction, RedisStore.deleteNonce]

theorem nonces_deleteRequest (store : RedisStore) (request : TransactionDeleteRequest)
    (nonce : ℕ) :
    (store.deleteRequest request).nonces (request.relayerId, nonce) =
      if request.nonce = some nonce then none
      else store.nonces (request.relayerId, nonce) := by
  rw [RedisStore.deleteRequest]
  cases request.nonce with
  | none => rfl
  | some deleted =>
      simp [RedisStore.deleteNonce, RedisStore.deleteTransaction, Function.update_apply,
        eq_comm]

/-- What the requests leave of the transactions and of the keys. -/
theorem foldl_deleteRequest (requests : List TransactionDeleteRequest)
    (howners : ∀ request ∈ requests, request.relayerId = relayerId) (store : RedisStore) :
    (∀ id, (requests.foldl RedisStore.deleteRequest store).transactions (relayerId, id) =
      if id ∈ requests.map (·.id) then none else store.transactions (relayerId, id)) ∧
    (∀ id, (requests.foldl RedisStore.deleteRequest store).txToRelayer id =
      if id ∈ requests.map (·.id) then none else store.txToRelayer id) ∧
    ∀ nonce, (requests.foldl RedisStore.deleteRequest store).nonces (relayerId, nonce) =
      if some nonce ∈ requests.map (·.nonce) then none
      else store.nonces (relayerId, nonce) := by
  induction requests generalizing store with
  | nil => simp
  | cons request rest ih =>
      have howner : request.relayerId = relayerId := howners request List.mem_cons_self
      obtain ⟨htransactions, hrelayer, hnonces⟩ :=
        ih (fun other hother => howners other (List.mem_cons_of_mem _ hother))
          (store.deleteRequest request)
      subst howner
      refine ⟨fun id => ?_, fun id => ?_, fun nonce => ?_⟩
      · rw [List.foldl_cons, htransactions, transactions_deleteRequest, Function.update_apply]
        grind
      · rw [List.foldl_cons, hrelayer, txToRelayer_deleteRequest, Function.update_apply]
        grind
      · rw [List.foldl_cons, hnonces, nonces_deleteRequest]
        grind

/-- The transactions that were found are deleted. -/
def deleteFound (store : RedisStore) (found : List TransactionRepoModel) : RedisStore :=
  (found.map RedisStore.deleteRequestOf).foldl RedisStore.deleteRequest store

theorem deleteById_eq_deleteFound (store : RedisStore) (tx : TransactionRepoModel) :
    (store.deleteTransaction tx.relayerId tx.id).removeAllIndexes tx =
      deleteFound store [tx] := by
  simp only [deleteFound, List.map_cons, List.map_nil, List.foldl_cons, List.foldl_nil,
    RedisStore.removeAllIndexes, RedisStore.deleteRequest, RedisStore.deleteRequestOf]
  cases extractNonce tx.networkData with
  | none => simp [RedisStore.deleteTransaction]
  | some nonce => simp [RedisStore.deleteTransaction, RedisStore.deleteNonce]

section Deletions

variable {found : List TransactionRepoModel} {ids : List String}

theorem requests_owner (hformed : WellFormed relayerId store)
    (hfound : ∀ tx, tx ∈ found ↔ ∃ id ∈ ids, store.transactions (relayerId, id) = some tx) :
    ∀ request ∈ found.map RedisStore.deleteRequestOf, request.relayerId = relayerId := by
  intro request hrequest
  obtain ⟨tx, htx, rfl⟩ := List.mem_map.mp hrequest
  obtain ⟨id, _, hstored⟩ := (hfound tx).mp htx
  exact (hformed.stored id tx hstored).2.1

/-- The deleted records are those that are stored under the given ids. -/
theorem transactions_deleteFound (hformed : WellFormed relayerId store)
    (hfound : ∀ tx, tx ∈ found ↔ ∃ id ∈ ids, store.transactions (relayerId, id) = some tx)
    (id : String) :
    (deleteFound store found).transactions (relayerId, id) =
      if id ∈ ids then none else store.transactions (relayerId, id) := by
  rw [deleteFound, (foldl_deleteRequest _ (requests_owner hformed hfound) store).1 id]
  cases hstored : store.transactions (relayerId, id) with
  | none => simp
  | some tx =>
      have hmem : id ∈ (found.map RedisStore.deleteRequestOf).map (·.id) ↔ id ∈ ids := by
        rw [List.map_map, List.mem_map]
        constructor
        · rintro ⟨other, hother, rfl⟩
          obtain ⟨own, hown, hother⟩ := (hfound other).mp hother
          rw [← (hformed.stored own other hother).1] at hown
          exact hown
        · intro hid
          exact ⟨tx, (hfound tx).mpr ⟨id, hid, hstored⟩, (hformed.stored id tx hstored).1⟩
      simp only [hmem]

theorem rewrites_deleteFound (hformed : WellFormed relayerId store)
    (hfound : ∀ tx, tx ∈ found ↔ ∃ id ∈ ids, store.transactions (relayerId, id) = some tx) :
    Rewrites relayerId store (deleteFound store found) ids none := by
  have htransactions := transactions_deleteFound hformed hfound
  have hkeys := (foldl_deleteRequest _ (requests_owner hformed hfound) store).2.2
  have htouches : ∀ nonce, some nonce ∈ (found.map RedisStore.deleteRequestOf).map (·.nonce) ↔
      Touches relayerId store ids none nonce := by
    intro nonce
    rw [List.map_map, List.mem_map]
    constructor
    · rintro ⟨tx, htx, hnonce⟩
      obtain ⟨id, hid, hstored⟩ := (hfound tx).mp htx
      exact .inl ⟨id, hid, tx, hstored, hnonce⟩
    · rintro (⟨id, hid, tx, hstored, hnonce⟩ | ⟨tx, htx, _⟩)
      · exact ⟨tx, (hfound tx).mpr ⟨id, hid, hstored⟩, hnonce⟩
      · cases htx
  refine ⟨fun id hid => ?_, fun id hid => ?_, fun _ htx => (nomatch htx),
    fun nonce huntouched => ?_, fun _ htx => (nomatch htx), fun nonce htouched _ => ?_⟩
  · rw [htransactions, if_neg hid]
  · rw [htransactions, if_pos hid]
  · rw [deleteFound, hkeys, if_neg (mt (htouches nonce).mp huntouched)]
  · rw [deleteFound, hkeys, if_pos ((htouches nonce).mpr htouched)]

theorem WellFormed.deleteFound (hformed : WellFormed relayerId store)
    (hfound : ∀ tx, tx ∈ found ↔ ∃ id ∈ ids, store.transactions (relayerId, id) = some tx) :
    WellFormed relayerId (deleteFound store found) := by
  have hlookups := (foldl_deleteRequest _ (requests_owner hformed hfound) store).2.1
  refine ⟨fun id tx hstored => ?_, fun id owner hlookup => ?_⟩
  · rw [transactions_deleteFound hformed hfound] at hstored
    split at hstored
    · cases hstored
    · next hid =>
        obtain ⟨hown, howner, hlookup, hrest⟩ := hformed.stored id tx hstored
        refine ⟨hown, howner, ?_, hrest⟩
        rw [NonceIndex.deleteFound, hlookups, if_neg, hlookup]
        rw [List.map_map, List.mem_map]
        rintro ⟨other, hother, rfl⟩
        obtain ⟨own, hmem, hother⟩ := (hfound other).mp hother
        rw [← (hformed.stored own other hother).1] at hmem
        exact hid hmem
  · rw [NonceIndex.deleteFound, hlookups] at hlookup
    split at hlookup
    · cases hlookup
    · exact hformed.relayer id owner hlookup

end Deletions

/-- What an operation that replaces the given records does. -/
def Effect (relayerId : String) (store after : RedisStore) :
    Option (List String × Option TransactionRepoModel) → Prop
  | none => after = store
  | some (ids, result) => WellFormed relayerId after ∧ Rewrites relayerId store after ids result

theorem effect_create {entity : TransactionRepoModel} (hformed : WellFormed relayerId store)
    (hbelongs : (Operation.create entity).BelongsTo relayerId) :
    Effect relayerId store (store.create entity).2 ((Operation.create entity).replaces store) := by
  obtain ⟨howner, hsurvives⟩ := hbelongs
  rw [Operation.replaces, RedisStore.create]
  by_cases hid : entity.id = ""
  · rw [if_pos hid, if_pos (.inl hid)]
    rfl
  by_cases hexists : (store.txToRelayer entity.id).isSome = true
  · rw [if_neg hid, if_pos hexists, if_pos (.inr hexists)]
    rfl
  have hnone : store.transactions (relayerId, entity.id) = none := by
    cases hstored : store.transactions (relayerId, entity.id) with
    | none => rfl
    | some tx =>
        rw [(hformed.stored _ tx hstored).2.2.1] at hexists
        exact absurd rfl hexists
  rw [if_neg hid, if_neg hexists, if_neg (not_or.mpr ⟨hid, hexists⟩), howner]
  have hwrite := rewrites_write
    ((store.setTransaction relayerId entity.id entity).setRelayer entity.id relayerId)
    hformed howner rfl rfl
  rw [hnone] at hwrite
  change Effect relayerId store (((store.setTransaction relayerId entity.id entity).setRelayer
    entity.id relayerId).updateIndexes entity none) (some ([entity.id], some entity))
  exact ⟨hformed.write _ howner hid hsurvives rfl rfl, hwrite⟩

/-- A transaction takes the place of a stored one with its id. -/
theorem effect_write {original : TransactionRepoModel} (hformed : WellFormed relayerId store)
    (howner : tx.relayerId = relayerId) (hsurvives : survivesScript tx.networkData = true)
    (hstored : store.transactions (relayerId, tx.id) = some original) :
    Effect relayerId store
      ((store.setTransaction relayerId tx.id tx).updateIndexes tx (some original))
      (some ([tx.id], some tx)) := by
  obtain ⟨_, _, hlookup, hid, _⟩ := hformed.stored _ original hstored
  have hwrite := rewrites_write (store.setTransaction relayerId tx.id tx) hformed howner rfl rfl
  rw [hstored] at hwrite
  refine ⟨hformed.write _ howner hid hsurvives rfl ?_, hwrite⟩
  rw [← hlookup, Function.update_eq_self]
  rfl

theorem effect_update {id : String} {entity : TransactionRepoModel}
    (hformed : WellFormed relayerId store)
    (hbelongs : (Operation.update id entity).BelongsTo relayerId) :
    Effect relayerId store (store.update id entity).2
      ((Operation.update id entity).replaces store) := by
  obtain ⟨rfl, howner, hsurvives⟩ := hbelongs
  rw [Operation.replaces, RedisStore.update, getById_eq hformed, lookup_eq hformed]
  by_cases hid : entity.id = ""
  · rw [if_pos hid, if_pos hid]
    rfl
  rw [if_neg hid, if_neg hid]
  cases hstored : store.transactions (relayerId, entity.id) with
  | none => rfl
  | some original =>
      rw [Option.map_some, howner]
      exact effect_write hformed howner hsurvives hstored

/-- A patch keeps whose record it is, and brings in no integer that does not survive. -/
theorem partialUpdate_identity {original : TransactionRepoModel}
    {patch : TransactionUpdateRequest}
    (horiginal : survivesScript original.networkData = true)
    (hpatch : ∀ data ∈ patch.networkData, survivesScript data = true) :
    (original.partialUpdate true patch).id = original.id ∧
      (original.partialUpdate true patch).relayerId = original.relayerId ∧
      survivesScript (original.partialUpdate true patch).networkData = true := by
  rcases original.partialUpdate_cases true patch with hrefused | happlied
  · rw [hrefused]
    exact ⟨rfl, rfl, horiginal⟩
  · rw [happlied]
    refine ⟨rfl, rfl, ?_⟩
    rw [TransactionRecord.TransactionRepoModel.applyPartialUpdate]
    cases hdata : patch.networkData with
    | none => exact horiginal
    | some data => exact hpatch data hdata

theorem effect_partialUpdate (hformed : WellFormed relayerId store) (txId : String)
    (patch : TransactionUpdateRequest)
    (hpatch : ∀ data ∈ patch.networkData, survivesScript data = true) :
    Effect relayerId store (store.partialUpdate txId patch).2
      ((Operation.partialUpdate txId patch).replaces store) := by
  rw [Operation.replaces, RedisStore.partialUpdate, RedisStore.lookup]
  cases hlookup : store.txToRelayer txId with
  | none => rfl
  | some owner =>
      cases hformed.relayer txId _ hlookup
      cases hstored : store.transactions (relayerId, txId) with
      | none => simp [hstored, Effect]
      | some original =>
          obtain ⟨hid, howner, _, _, horiginal⟩ := hformed.stored txId original hstored
          obtain ⟨hsameId, hsameOwner, hsurvives⟩ := partialUpdate_identity horiginal hpatch
          have hwrite := effect_write hformed (hsameOwner.trans howner) hsurvives
            (by rw [hsameId, hid, hstored])
          rw [hsameId, hid] at hwrite
          simpa [hstored, hsurvives] using hwrite

theorem effect_deleteById (hformed : WellFormed relayerId store) (id : String) :
    Effect relayerId store (store.deleteById id).2
      ((Operation.deleteById id).replaces store) := by
  rw [Operation.replaces, RedisStore.deleteById, getById_eq hformed, lookup_eq hformed]
  by_cases hid : id = ""
  · rw [if_pos hid, if_pos hid]
    rfl
  rw [if_neg hid, if_neg hid]
  cases hstored : store.transactions (relayerId, id) with
  | none => rfl
  | some tx =>
      have hown := (hformed.stored id tx hstored).1
      have hfound : ∀ other, other ∈ [tx] ↔
          ∃ owned ∈ [id], store.transactions (relayerId, owned) = some other := by
        simp [hstored, eq_comm]
      have hsame := deleteById_eq_deleteFound store tx
      rw [hown] at hsame
      change Effect relayerId store
        ((store.deleteTransaction tx.relayerId id).removeAllIndexes tx) (some ([id], none))
      rw [hsame]
      exact ⟨hformed.deleteFound hfound, rewrites_deleteFound hformed hfound⟩

theorem effect_deleteByIds (hformed : WellFormed relayerId store) (ids : List String) :
    Effect relayerId store (store.deleteByIds ids).2
      ((Operation.deleteByIds ids).replaces store) := by
  have hfound : ∀ tx, tx ∈ ids.filterMap store.lookup ↔
      ∃ id ∈ ids, store.transactions (relayerId, id) = some tx := by
    intro tx
    rw [List.mem_filterMap]
    simp only [lookup_eq hformed]
  exact ⟨hformed.deleteFound hfound, rewrites_deleteFound hformed hfound⟩

/-- Every operation leaves the store as it is or replaces the records that it says. -/
theorem effect_perform (hformed : WellFormed relayerId store) {operation : Operation}
    (howner : operation.BelongsTo relayerId) :
    Effect relayerId store (operation.perform store) (operation.replaces store) := by
  cases operation with
  | create entity => exact effect_create hformed howner
  | update id entity => exact effect_update hformed howner
  | partialUpdate txId patch => exact effect_partialUpdate hformed txId patch howner
  | deleteById id => exact effect_deleteById hformed id
  | deleteByIds ids => exact effect_deleteByIds hformed ids

end Operations

section Runs

variable {relayerId : String} {store : RedisStore}

theorem WellFormed.perform (hformed : WellFormed relayerId store) {operation : Operation}
    (howner : operation.BelongsTo relayerId) : WellFormed relayerId (operation.perform store) := by
  have heffect := effect_perform hformed howner
  cases hreplaces : operation.replaces store with
  | none =>
      rw [hreplaces] at heffect
      rw [show operation.perform store = store from heffect]
      exact hformed
  | some replaced =>
      rw [hreplaces] at heffect
      exact heffect.1

/-- One operation keeps the index sound exactly when it keeps the slots. -/
theorem sound_perform_iff (hformed : WellFormed relayerId store)
    (hsound : NonceIndexSound relayerId store) {operation : Operation}
    (howner : operation.BelongsTo relayerId) :
    NonceIndexSound relayerId (operation.perform store) ↔
      KeepsSlots relayerId store operation := by
  have heffect := effect_perform hformed howner
  rw [KeepsSlots]
  cases hreplaces : operation.replaces store with
  | none =>
      rw [hreplaces] at heffect
      rw [show operation.perform store = store from heffect]
      simp [hsound]
  | some replaced =>
      obtain ⟨ids, result⟩ := replaced
      rw [hreplaces] at heffect
      rw [heffect.2.sound_iff hsound]
      simp

theorem sound_prefixes_iff (operations : List Operation)
    (howners : ∀ operation ∈ operations, operation.BelongsTo relayerId)
    (hformed : WellFormed relayerId store) (hsound : NonceIndexSound relayerId store) :
    (∀ done, done <+: operations → NonceIndexSound relayerId (Operation.run store done)) ↔
      KeepsSlotsThroughout relayerId store operations := by
  induction operations generalizing store with
  | nil =>
      refine ⟨fun _ => trivial, fun _ done hdone => ?_⟩
      rw [List.prefix_nil.mp hdone]
      exact hsound
  | cons operation rest ih =>
      have howner := howners operation List.mem_cons_self
      have hrest := fun other hother => howners other (List.mem_cons_of_mem operation hother)
      constructor
      · intro hall
        have hfirst : NonceIndexSound relayerId (operation.perform store) :=
          hall [operation] (List.prefix_append [operation] rest)
        refine ⟨(sound_perform_iff hformed hsound howner).mp hfirst, ?_⟩
        apply (ih hrest (hformed.perform howner) hfirst).mp
        intro done hdone
        exact hall (operation :: done) ((List.prefix_cons_inj operation).mpr hdone)
      · rintro ⟨hkeeps, hthroughout⟩ done hdone
        have hfirst := (sound_perform_iff hformed hsound howner).mpr hkeeps
        cases done with
        | nil => exact hsound
        | cons other done =>
            obtain ⟨rfl, htail⟩ := List.cons_prefix_cons.mp hdone
            exact (ih hrest (hformed.perform howner) hfirst).mpr hthroughout done htail

end Runs

theorem wellFormed_empty (relayerId : String) : WellFormed relayerId .empty :=
  ⟨fun _ _ hstored => (nomatch hstored), fun _ _ hlookup => (nomatch hlookup)⟩

/-- The bodies and their reverse lookups agree after any operations of a relayer. -/
theorem wellFormed_after_operations (relayerId : String) (operations : List Operation)
    (howners : ∀ operation ∈ operations, operation.BelongsTo relayerId) :
    WellFormed relayerId (Operation.run .empty operations) := by
  induction operations using List.reverseRecOn with
  | nil => exact wellFormed_empty relayerId
  | append_singleton done operation ih =>
      rw [Operation.run, List.foldl_append]
      have hbefore := ih fun other hother => howners other (List.mem_append_left _ hother)
      exact hbefore.perform (howners operation (List.mem_append_right _ List.mem_cons_self))

/-- The index is sound all through a sequence of operations exactly when each of them keeps
the slots of the store it finds. -/
theorem nonceIndexSound_iff_keepsSlots (relayerId : String) (operations : List Operation)
    (howners : ∀ operation ∈ operations, operation.BelongsTo relayerId) :
    (∀ done, done <+: operations →
      NonceIndexSound relayerId (Operation.run RedisStore.empty done)) ↔
      KeepsSlotsThroughout relayerId .empty operations :=
  sound_prefixes_iff operations howners (wellFormed_empty relayerId)
    fun _ _ _ hstored => nomatch hstored

section Filler

/-- A transaction of the relayer with nonce seven. -/
def transfer (id : String) (status : TransactionStatus) : TransactionRepoModel :=
  { sampleRecord status (sampleTransfer (some 7) none) [] with id := id }

/-- Two transactions with one nonce are created and sent. -/
def lifetime : List Operation :=
  [.create (transfer "first" .pending), .create (transfer "second" .pending),
    .partialUpdate "first" { status := some .sent }, .update "second" (transfer "second" .sent)]

theorem transfer_survives (id : String) (status : TransactionStatus) :
    survivesScript (transfer id status).networkData = true := rfl

theorem lifetime_belongsTo : ∀ operation ∈ lifetime, operation.BelongsTo "relayer" := by
  simp only [lifetime, List.forall_mem_cons, Operation.BelongsTo, transfer_survives]
  simp [transfer, sampleRecord]

theorem wellFormed_after_lifetime : WellFormed "relayer" (Operation.run .empty lifetime) :=
  wellFormed_after_operations "relayer" lifetime lifetime_belongsTo

/-- Every write of it leaves an active transaction with the nonce. -/
theorem nonceIndexSound_lifetime :
    NonceIndexSound "relayer" (Operation.run .empty lifetime) := by
  apply (nonceIndexSound_iff_keepsSlots "relayer" lifetime lifetime_belongsTo).mpr _ _
    List.prefix_rfl
  refine ⟨keepsSlots_write (transfer "first" .pending) rfl rfl ?_,
    keepsSlots_write (transfer "second" .pending) rfl rfl ?_,
    keepsSlots_write (transfer "first" .sent) rfl rfl ?_,
    keepsSlots_write (transfer "second" .sent) rfl rfl ?_, trivial⟩
  all_goals decide

/-- A failed transaction, the filler of its nonce, and the cleanup of the failed one. -/
def cleanup : List Operation :=
  [.create (transfer "failed" .failed), .create (transfer "filler" .pending),
    .deleteById "failed"]

/-- The cleanup of a failed transaction removes the key of the nonce that its filler
occupies. -/
theorem cleanup_frees_occupied_slot :
    (∀ operation ∈ cleanup, operation.BelongsTo "relayer") ∧
      (Operation.run .empty cleanup).transactions ("relayer", "filler") =
        some (transfer "filler" .pending) ∧
      Occupies (transfer "filler" .pending) 7 ∧
      (Operation.run .empty cleanup).getNonceOccupancy "relayer" 7 8 = [(7, none)] ∧
      ¬ NonceIndexSound "relayer" (Operation.run .empty cleanup) := by
  have hstored : (Operation.run .empty cleanup).transactions ("relayer", "filler") =
      some (transfer "filler" .pending) := by decide
  have hkey : (Operation.run .empty cleanup).nonces ("relayer", 7) = none := by decide
  have hoccupies : Occupies (transfer "filler" .pending) 7 := ⟨rfl, rfl⟩
  refine ⟨?_, hstored, hoccupies, by decide, fun hsound => ?_⟩
  · simp only [cleanup, List.forall_mem_cons, Operation.BelongsTo, transfer_survives]
    simp [transfer, sampleRecord]
  · obtain ⟨⟨id, tx, hnamed, _⟩, _⟩ :=
      hsound "filler" (transfer "filler" .pending) 7 hstored hoccupies
    rw [hkey] at hnamed
    cases hnamed

end Filler

end Relayer.NonceIndex
