import Relayer.Stellar.Conduct

/-!
# The lane of a Stellar relayer

In sequential mode a relayer works on one transaction at a time: a preparation claims the
lane, and whoever finishes the transaction hands the lane to the oldest pending one or frees
it.

The jobs are those of `StellarLifecycle`, with the hand-over taken apart into its calls: the
query for the oldest pending transaction, the passing of the lane and the request for the
next job.  They keep to the conduct of the jobs: the lane is given away only once the
transaction is over, and a job that has finished its transaction settles what it owes, unless
the query fails outside of a preparation.
-/

namespace Relayer.StellarLane

open Relayer.Transaction Relayer.Interaction Relayer.StellarLifecycle

/-! ## Jobs -/

inductive Request where
  | own (request : StellarLifecycle.Request)
  | findOldestPendingForRelayer
  | passTo (next : String)
  | free
  | sendTransactionRequestJob (next : String)

@[reducible]
def Answer : Request → Type
  | .own request => StellarLifecycle.Answer request
  | .findOldestPendingForRelayer => Except RepositoryError (Option TransactionRepoModel)
  | .passTo _ => Unit
  | .free => Unit
  | .sendTransactionRequestJob _ => Except TransactionError Unit

open Program in
/-- `enqueue_next_pending_transaction` in sequential mode. -/
def enqueueNextPendingTransaction : Program Request Answer (Except TransactionError Unit) := do
  match ← ask Request.findOldestPendingForRelayer with
  | .error error => return .error error.toTransactionError
  | .ok (some next) =>
      ask (Request.passTo next.id)
      ask (Request.sendTransactionRequestJob next.id)
  | .ok none =>
      ask Request.free
      return .ok ()

/-- How the calls of the jobs are carried out. -/
def carry : (request : StellarLifecycle.Request) →
    Program Request Answer (StellarLifecycle.Answer request)
  | .enqueueNextPendingTransaction => enqueueNextPendingTransaction
  | .freeLane => Program.ask Request.free
  | request => Program.ask (Request.own request)

/-! ## The conduct on the lane -/

/-- Where the query fails, only a preparation still owes the lane: it frees it. -/
def recollect (job : Job) (seen : Sight) : (request : Request) → Answer request → Sight
  | .own request, answer => seen.remember job request answer
  | .findOldestPendingForRelayer, .error _ =>
      { seen with owing := seen.owing && decide (job = .prepare), alarmed := true }
  | .findOldestPendingForRelayer, .ok _ => seen
  | .passTo _, _ => { seen with owing := false }
  | .free, _ => { seen with owing := false }
  | .sendTransactionRequestJob _, .error _ => { seen with alarmed := true }
  | .sendTransactionRequestJob _, .ok _ => seen

def laneConduct (signedInput : Bool) (job : Job) : Protocol Request Answer Sight where
  allowed seen
    | .own request => request ≠ .enqueueNextPendingTransaction ∧ request ≠ .freeLane ∧
        Acts ⟨false, signedInput⟩ job seen request
    | .passTo _ => seen.Over
    | .free => seen.Over
    | _ => True
  possible
    | _, .own request, answer => Believable request answer
    | _, _, _ => True
  remember := recollect job

section Conduct

variable {mode : Mode} {job : Job} {seen : Sight}

/-- What a job may write does not depend on what it owes. -/
theorem writes_owing {transaction : TransactionRepoModel} {update : TransactionUpdateRequest}
    (owing : Bool) (hwrites : Writes mode job seen transaction update) :
    Writes mode job { seen with owing := owing } transaction update := by
  cases hwrites with
  | sent hjob hlatest hsaved hpending hclaimed hsigned =>
      exact .sent hjob hlatest hsaved hpending hclaimed hsigned
  | submitted hjob hlatest => exact .submitted hjob hlatest
  | reset hjob hlatest halarmed => exact .reset hjob hlatest halarmed
  | confirmed hjob => exact .confirmed hjob
  | failed halarmed => exact .failed halarmed
  | expired hexpired => exact .expired hexpired

/-- A job that owes less may do what it may do. -/
theorem acts_owing {request : StellarLifecycle.Request} {owing : Bool}
    (hless : owing = true → seen.owing = true) (hacts : Acts mode job seen request) :
    Acts mode job { seen with owing := owing } request := by
  cases hacts with
  | load => exact .load
  | plain hplain => exact .plain hplain
  | claim hjob hloaded => exact .claim hjob hloaded
  | recordTryAgainLater hjob hloaded => exact .recordTryAgainLater hjob hloaded
  | recordInsufficientFee hjob hloaded => exact .recordInsufficientFee hjob hloaded
  | send hjob hloaded hlive henvelope => exact .send hjob hloaded hlive henvelope
  | write hloaded hlive hwrites => exact .write hloaded hlive (writes_owing owing hwrites)
  | queue hjob hlatest hprepared => exact .queue hjob hlatest hprepared
  | retry hjob hlatest hlive hticket hlimit => exact .retry hjob hlatest hlive hticket hlimit
  | handOver hover => exact .handOver hover
  | free hover => exact .free hover
  | acknowledge hsettled =>
      refine .acknowledge (hsettled.imp_right fun hnone => ?_)
      exact Bool.eq_false_iff.mpr fun howing => absurd (hnone.symm.trans (hless howing)) nofun

/-- The finer calls tell a job the same, and it owes no more. -/
def Covers (seen deep : Sight) : Prop :=
  ∃ owing, deep = { seen with owing := owing } ∧ (owing = true → seen.owing = true)

theorem covers_remember {deep : Sight} (hcovers : Covers seen deep)
    (request : StellarLifecycle.Request) (answer : StellarLifecycle.Answer request)
    (hlane : request ≠ .enqueueNextPendingTransaction) :
    Covers (seen.remember job request answer) (deep.remember job request answer) := by
  obtain ⟨owing, rfl, hless⟩ := hcovers
  cases request with
  | getTransaction =>
      cases answer with
      | error error => exact ⟨owing, rfl, hless⟩
      | ok told =>
          by_cases hloaded : seen.loaded.isSome = true
          · simp only [Sight.remember, Sight.note, if_pos hloaded]
            exact ⟨owing, rfl, hless⟩
          · simp only [Sight.remember, Sight.note, if_neg hloaded]
            exact ⟨owing, rfl, hless⟩
  | partialUpdate update =>
      cases answer with
      | error error => exact ⟨owing, rfl, hless⟩
      | ok told =>
          refine ⟨owing || update.status.any TransactionStatus.isFinalState, rfl, fun howing => ?_⟩
          rcases Bool.or_eq_true_iff.mp howing with howing | hfinal
          · exact Bool.or_eq_true_iff.mpr (.inl (hless howing))
          · exact Bool.or_eq_true_iff.mpr (.inr hfinal)
  | recordTryAgainLaterRetry | recordInsufficientFeeRetry =>
      cases answer <;> exact ⟨owing, rfl, hless⟩
  | freeLane | acknowledge => exact ⟨false, rfl, fun howes => absurd howes Bool.false_ne_true⟩
  | enqueueNextPendingTransaction => exact absurd rfl hlane
  | _ => exact ⟨owing, rfl, hless⟩

theorem covers_enqueueNext {deep : Sight} {signedInput : Bool} (hcovers : Covers seen deep)
    (hover : seen.Over) :
    enqueueNextPendingTransaction.Follows (laneConduct signedInput job)
      (fun later answer => Covers (seen.remember job .enqueueNextPendingTransaction answer) later)
      deep := by
  obtain ⟨owing, rfl, hless⟩ := hcovers
  refine ⟨trivial, fun answer _ => ?_⟩
  cases answer with
  | error error =>
      refine ⟨owing && decide (job = .prepare), ?_, fun howing => ?_⟩
      · simp [laneConduct, recollect, Sight.remember, Sight.note, alarms, reportsExpiry]
      · obtain ⟨howing, hjob⟩ := Bool.and_eq_true_iff.mp howing
        exact Bool.and_eq_true_iff.mpr ⟨hless howing, hjob⟩
  | ok told =>
      cases told with
      | some next =>
          refine ⟨hover, fun _ _ => ⟨trivial, fun answer _ => ?_⟩⟩
          cases answer with
          | error error =>
              refine ⟨false, ?_, fun howes => absurd howes Bool.false_ne_true⟩
              simp [laneConduct, recollect, Sight.remember, Sight.note, alarms, reportsExpiry]
          | ok _ =>
              refine ⟨false, ?_, fun howes => absurd howes Bool.false_ne_true⟩
              simp [laneConduct, recollect, Sight.remember, Sight.note, alarms, reportsExpiry]
      | none =>
          refine ⟨hover, fun _ _ => ⟨false, ?_, fun howes => absurd howes Bool.false_ne_true⟩⟩
          simp [laneConduct, recollect, Sight.remember, Sight.note, alarms, reportsExpiry]

theorem follows_carry {signedInput : Bool} (seen deep : Sight)
    (request : StellarLifecycle.Request) (hcovers : Covers seen deep)
    (hacts : (conduct ⟨false, signedInput⟩ job).allowed seen request) :
    (carry request).Follows (laneConduct signedInput job)
      (fun later answer => (conduct ⟨false, signedInput⟩ job).possible seen request answer ∧
        Covers ((conduct ⟨false, signedInput⟩ job).remember seen request answer) later) deep := by
  have hown : request ≠ .enqueueNextPendingTransaction → request ≠ .freeLane →
      (Program.ask (Request.own request)).Follows (laneConduct signedInput job)
        (fun later answer => Believable request answer ∧
          Covers (seen.remember job request answer) later) deep := by
    intro hlane hfree
    refine ⟨⟨hlane, hfree, ?_⟩, fun answer hanswer =>
      ⟨hanswer, covers_remember hcovers request answer hlane⟩⟩
    obtain ⟨owing, rfl, hless⟩ := hcovers
    exact acts_owing hless hacts
  cases request with
  | enqueueNextPendingTransaction =>
      cases hacts with
      | plain hplain => exact hplain.elim
      | handOver hover =>
          exact (covers_enqueueNext hcovers hover).imp fun _ _ hlater => ⟨trivial, hlater⟩
  | freeLane =>
      cases hacts with
      | plain hplain => exact hplain.elim
      | free hover =>
          obtain ⟨owing, rfl, hless⟩ := hcovers
          refine ⟨hover, fun _ _ =>
            ⟨trivial, false, ?_, fun howes => absurd howes Bool.false_ne_true⟩⟩
          simp [conduct, laneConduct, recollect, Sight.remember, Sight.note, alarms, reportsExpiry]
  | _ => exact hown (by simp) (by simp)

/-- With the hand-over taken apart, a job keeps to its conduct as well. -/
theorem follows_program (signedInput : Bool) :
    ((runJob ⟨false, signedInput⟩ job).expand carry).Follows (laneConduct signedInput job)
      (fun later _ => later = {}) {} := by
  refine Program.Follows.expand follows_carry ?_ ⟨false, rfl, nofun⟩ (keeps_runJob _ job)
  rintro seen deep _ ⟨owing, rfl, hless⟩ rfl
  have hnone : owing = false := Bool.eq_false_iff.mpr fun howing => (nomatch hless howing)
  rw [hnone]

end Conduct

end Relayer.StellarLane
