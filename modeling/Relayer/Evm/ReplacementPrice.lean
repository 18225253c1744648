import Relayer.Evm.PriceCalculator

/-!
# The price of a market-priced replacement

`calculate_replacement_price` takes the capped market price with the cost computed for it,
and then raises the price to the smallest bump of the old one.  The raise comes last: neither
the cap nor the cost is looked at again.
-/

namespace Relayer.EvmReplacementPrice

open Relayer.Transaction Relayer.EvmPricing Relayer.Interaction Relayer.Checks
open Relayer.EvmPriceCalculator
open Relayer.EvmReplacement (RelayerRepoModel Call Answer calculateReplacementPrice)

/-- What a unit of gas can cost at these prices. -/
def unitPrice (params : PriceParams) : ℕ :=
  if params.maxFeePerGas.isSome && params.maxPriorityFeePerGas.isSome then
    params.maxFeePerGas.getD 0
  else params.gasPrice.getD 0

def limitOf (data : EvmTransactionData) : ℕ := data.gasLimit.getD defaultGasLimit

/-- The prices of a replacement respect the cap, the bump, the order of the two fees and the
cost that was computed. -/
structure Respects (policy : RelayerEvmPolicy) (old new : EvmTransactionData)
    (lacksMempool : Bool) (params : PriceParams) : Prop where
  cap : WithinCap (gasPriceCap policy) params
  bump : lacksMempool = false → MeetsMinBump old params
  priority : PriorityWithinMaxFee params
  cost : params.totalCost = new.value + limitOf new * unitPrice params

/-! ## The raise -/

/-- What a price is raised to at least; a network without a mempool asks for no bump. -/
def bumpFloor (lacksMempool : Bool) (oldPrice : Option ℕ) : ℕ :=
  if lacksMempool then 0 else (oldPrice.map calculateMinBump).getD 0

@[simp]
theorem bumpFloor_true (oldPrice : Option ℕ) : bumpFloor true oldPrice = 0 := rfl

@[simp]
theorem bumpFloor_some (oldPrice : ℕ) :
    bumpFloor false (some oldPrice) = calculateMinBump oldPrice := rfl

theorem bumpFloor_le_iff {oldPrice : Option ℕ} {price : ℕ} :
    bumpFloor false oldPrice ≤ price ↔ ∀ old ∈ oldPrice, calculateMinBump old ≤ price := by
  cases oldPrice with
  | none => simp [bumpFloor]
  | some old => simp

section Raise

variable {old : EvmTransactionData} {policy : RelayerEvmPolicy} {lacksMempool : Bool}
  {market params : PriceParams}

/-- Prices of both fees are each raised to their own bump. -/
theorem bumpMarketPrice_eip1559 {maxFee maxPriority : ℕ} (hgas : market.gasPrice = none)
    (hfee : market.maxFeePerGas = some maxFee)
    (hpriority : market.maxPriorityFeePerGas = some maxPriority)
    (hok : bumpMarketPrice old policy lacksMempool market = .ok params) :
    params = { market with
      maxFeePerGas := some (max maxFee (bumpFloor lacksMempool old.maxFeePerGas))
      maxPriorityFeePerGas :=
        some (max maxPriority (bumpFloor lacksMempool old.maxPriorityFeePerGas))
      isMinBumped := some true } := by
  unfold bumpMarketPrice at hok
  cases lacksMempool with
  | true =>
      rw [← Except.ok.inj hok]
      simp [← hfee, ← hpriority]
  | false =>
      simp only [Bool.false_eq_true, ↓reduceIte, hgas, hfee, hpriority] at hok
      split at hok
      · split at hok
        · rename_i hnone
          cases hnone
        · cases hok
      · split at hok
        · rename_i oldFee newFee oldPriority newPriority hold hnew holdPriority hnewPriority
          cases hnew
          cases hnewPriority
          rw [← Except.ok.inj hok, hold, holdPriority, hgas]
          rfl
        · cases hok

/-- A gas price is raised to its bump. -/
theorem bumpMarketPrice_legacy {gasPrice : ℕ} (hgas : market.gasPrice = some gasPrice)
    (hfee : market.maxFeePerGas = none)
    (hok : bumpMarketPrice old policy lacksMempool market = .ok params) :
    params = { market with
      gasPrice := some (max gasPrice (bumpFloor lacksMempool old.gasPrice))
      isMinBumped := some true } := by
  unfold bumpMarketPrice at hok
  cases lacksMempool with
  | true =>
      rw [← Except.ok.inj hok]
      simp [← hgas]
  | false =>
      simp only [Bool.false_eq_true, ↓reduceIte, hgas, hfee] at hok
      split at hok
      · split at hok
        · rename_i oldPrice newPrice hold hnew
          cases hnew
          rw [← Except.ok.inj hok, hold, hfee]
          rfl
        · cases hok
      · split at hok
        · rename_i hnone _ _
          cases hnone
        · cases hok

end Raise

/-! ## The cost -/

/-- The cost of `charged` for each unit of gas, which is what the calculator counted, is that
of `paid`: a cost that a handler gave says so itself, and in a computed one the extra fee is
all that `paid` costs more. -/
def CostCovers (new : EvmTransactionData) (settled : PriceParams) (charged paid : ℕ) : Prop :=
  if settled.totalCost = 0 then
    settled.extraFee.getD 0 = limitOf new * (paid - charged) ∧
      new.value + limitOf new * paid < 2 ^ 256
  else settled.totalCost = new.value + limitOf new * paid

/-- A sum that wraps is not the larger sum it stands for. -/
theorem wrapped_cost_eq_iff {charged paid limit value extra : ℕ} (hle : charged ≤ paid)
    (hextra : extra < 2 ^ 256) :
    (charged * limit + value + extra) % 2 ^ 256 = value + limit * paid ↔
      extra = limit * (paid - charged) ∧ value + limit * paid < 2 ^ 256 := by
  obtain ⟨more, rfl⟩ := Nat.exists_eq_add_of_le hle
  rw [Nat.add_sub_cancel_left, Nat.mul_add, Nat.mul_comm charged limit]
  constructor
  · intro heq
    have hlt : value + (limit * charged + limit * more) < 2 ^ 256 :=
      heq ▸ Nat.mod_lt _ (by positivity)
    have hdiv := Nat.div_add_mod (limit * charged + value + extra) (2 ^ 256)
    rw [heq] at hdiv
    omega
  · rintro ⟨rfl, hlt⟩
    rw [Nat.mod_eq_of_lt (by omega)]
    omega

theorem totalCost_withTotalCost_iff (new : EvmTransactionData) (settled capped : PriceParams)
    (charged paid : ℕ) (hcost : capped.totalCost = settled.totalCost)
    (hextra : capped.extraFee = settled.extraFee)
    (hcharged : (if new.isEip1559 then capped.maxFeePerGas.getD 0 else capped.gasPrice.getD 0) =
      charged)
    (hle : charged ≤ paid) (hfits : settled.extraFee.getD 0 < 2 ^ 256) :
    (withTotalCost new capped).totalCost = new.value + limitOf new * paid ↔
      CostCovers new settled charged paid := by
  unfold withTotalCost CostCovers
  rw [hcost]
  split
  · rw [← wrapped_cost_eq_iff hle hfits]
    unfold PriceParams.calculateTotalCost
    rw [hcharged, hextra]
    rfl
  · rw [hcost]

/-! ## When a replacement's price is sound -/

/-- The bump of the old prices fits under the cap, the bump of the priority fee under what
the maximum fee is raised to, and the cost counts the price that is paid in the end. -/
def Sustainable (cap : ℕ) (old new : EvmTransactionData) (lacksMempool : Bool)
    (settled : PriceParams) : Prop :=
  match settled.maxFeePerGas, settled.maxPriorityFeePerGas with
  | some maxFee, some _ =>
      let floor := bumpFloor lacksMempool old.maxFeePerGas
      let paid := max (min maxFee cap) floor
      floor ≤ cap ∧ bumpFloor lacksMempool old.maxPriorityFeePerGas ≤ paid ∧
        CostCovers new settled (if new.isEip1559 then min maxFee cap else 0) paid
  | _, _ =>
      let floor := bumpFloor lacksMempool old.gasPrice
      let price := min (settled.gasPrice.getD 0) cap
      floor ≤ cap ∧
        CostCovers new settled (if new.isEip1559 then 0 else price) (max price floor)

section Sound

variable {policy : RelayerEvmPolicy} {old new : EvmTransactionData} {lacksMempool : Bool}
  {settled params : PriceParams}

/-- Both fees, raised each on its own: the raised priority fee stays below the raised maximum
exactly when its bump does. -/
theorem respects_eip1559_iff (hfits : settled.extraFee.getD 0 < 2 ^ 256) {maxFee maxPriority : ℕ}
    (hcapped : applyGasPriceCapAndConstraints policy settled =
      { settled with
        maxFeePerGas := some (min maxFee (gasPriceCap policy))
        maxPriorityFeePerGas := some (min maxPriority (min maxFee (gasPriceCap policy)))
        gasPrice := none })
    (hparams : params =
      { withTotalCost new (applyGasPriceCapAndConstraints policy settled) with
        maxFeePerGas := some (max (min maxFee (gasPriceCap policy))
          (bumpFloor lacksMempool old.maxFeePerGas))
        maxPriorityFeePerGas := some (max (min maxPriority (min maxFee (gasPriceCap policy)))
          (bumpFloor lacksMempool old.maxPriorityFeePerGas))
        isMinBumped := some true }) :
    Respects policy old new lacksMempool params ↔
      bumpFloor lacksMempool old.maxFeePerGas ≤ gasPriceCap policy ∧
      bumpFloor lacksMempool old.maxPriorityFeePerGas ≤
        max (min maxFee (gasPriceCap policy)) (bumpFloor lacksMempool old.maxFeePerGas) ∧
      CostCovers new settled (if new.isEip1559 then min maxFee (gasPriceCap policy) else 0)
        (max (min maxFee (gasPriceCap policy)) (bumpFloor lacksMempool old.maxFeePerGas)) := by
  have hcost := totalCost_withTotalCost_iff new settled
    (applyGasPriceCapAndConstraints policy settled)
    (if new.isEip1559 then min maxFee (gasPriceCap policy) else 0)
    (max (min maxFee (gasPriceCap policy)) (bumpFloor lacksMempool old.maxFeePerGas))
    (by rw [hcapped]) (by rw [hcapped]) (by rw [hcapped]; rfl)
    (by split
        · exact le_max_left _ _
        · exact Nat.zero_le _) hfits
  have hgas : params.gasPrice = none := by rw [hparams]; simp [hcapped]
  rw [← hcost]
  subst hparams
  constructor
  · intro hrespects
    have hfee := hrespects.cap.2.1 _ rfl
    have hpriority := hrespects.priority _ rfl _ rfl
    exact ⟨le_of_max_le_right hfee, le_of_max_le_right hpriority, hrespects.cost⟩
  · rintro ⟨hfloor, hpriority, hpaid⟩
    have hfee : max (min maxFee (gasPriceCap policy))
        (bumpFloor lacksMempool old.maxFeePerGas) ≤ gasPriceCap policy :=
      max_le (min_le_right _ _) hfloor
    have horder : max (min maxPriority (min maxFee (gasPriceCap policy)))
        (bumpFloor lacksMempool old.maxPriorityFeePerGas) ≤
          max (min maxFee (gasPriceCap policy)) (bumpFloor lacksMempool old.maxFeePerGas) :=
      max_le ((min_le_right _ _).trans (le_max_left _ _)) hpriority
    refine ⟨⟨?_, ?_, ?_⟩, ?_, ?_, hpaid⟩
    · rw [hgas]
      exact fun _ hnone => nomatch hnone
    · rintro _ ⟨⟩
      exact hfee
    · rintro _ ⟨⟩
      exact horder.trans hfee
    · rintro rfl
      refine ⟨?_, ?_, ?_⟩
      · rw [hgas]
        exact fun _ hnone => nomatch hnone
      · rintro _ ⟨⟩
        exact bumpFloor_le_iff.mp (le_max_right _ _)
      · rintro _ ⟨⟩
        exact bumpFloor_le_iff.mp (le_max_right _ _)
    · rintro _ ⟨⟩ _ ⟨⟩
      exact horder

theorem respects_legacy_iff (hfits : settled.extraFee.getD 0 < 2 ^ 256)
    (hcapped : applyGasPriceCapAndConstraints policy settled =
      { settled with
        gasPrice := some (min (settled.gasPrice.getD 0) (gasPriceCap policy))
        maxFeePerGas := none
        maxPriorityFeePerGas := none })
    (hparams : params =
      { withTotalCost new (applyGasPriceCapAndConstraints policy settled) with
        gasPrice := some (max (min (settled.gasPrice.getD 0) (gasPriceCap policy))
          (bumpFloor lacksMempool old.gasPrice))
        isMinBumped := some true }) :
    Respects policy old new lacksMempool params ↔
      bumpFloor lacksMempool old.gasPrice ≤ gasPriceCap policy ∧
      CostCovers new settled
        (if new.isEip1559 then 0 else min (settled.gasPrice.getD 0) (gasPriceCap policy))
        (max (min (settled.gasPrice.getD 0) (gasPriceCap policy))
          (bumpFloor lacksMempool old.gasPrice)) := by
  have hcost := totalCost_withTotalCost_iff new settled
    (applyGasPriceCapAndConstraints policy settled)
    (if new.isEip1559 then 0 else min (settled.gasPrice.getD 0) (gasPriceCap policy))
    (max (min (settled.gasPrice.getD 0) (gasPriceCap policy))
      (bumpFloor lacksMempool old.gasPrice))
    (by rw [hcapped]) (by rw [hcapped]) (by rw [hcapped]; rfl)
    (by split
        · exact Nat.zero_le _
        · exact le_max_left _ _) hfits
  have hfee : params.maxFeePerGas = none := by rw [hparams]; simp [hcapped]
  have hpriority : params.maxPriorityFeePerGas = none := by rw [hparams]; simp [hcapped]
  have hunit : unitPrice params = max (min (settled.gasPrice.getD 0) (gasPriceCap policy))
      (bumpFloor lacksMempool old.gasPrice) := by
    rw [unitPrice, hfee, hparams]
    rfl
  rw [← hcost, ← hunit]
  constructor
  · intro hrespects
    have hprice := hrespects.cap.1 _ (by rw [hparams]; rfl)
    refine ⟨le_of_max_le_right hprice, ?_⟩
    rw [← hrespects.cost, hparams]
  · rintro ⟨hfloor, hpaid⟩
    refine ⟨⟨?_, ?_, ?_⟩, ?_, ?_, ?_⟩
    · rw [hparams]
      rintro _ ⟨⟩
      exact max_le (min_le_right _ _) hfloor
    · rw [hfee]
      exact fun _ hnone => nomatch hnone
    · rw [hpriority]
      exact fun _ hnone => nomatch hnone
    · rintro rfl
      refine ⟨?_, ?_, ?_⟩
      · rw [hparams]
        rintro _ ⟨⟩
        exact bumpFloor_le_iff.mp (le_max_right _ _)
      · rw [hfee]
        exact fun _ hnone => nomatch hnone
      · rw [hpriority]
        exact fun _ hnone => nomatch hnone
    · rw [PriorityWithinMaxFee, hfee]
      exact fun _ hnone => nomatch hnone
    · rw [← hpaid, hparams]

end Sound

/-- A replacement price is the market price raised to the bump. -/
theorem calculateReplacementPrice_ok {calculator : PriceCalculator}
    {oracle : Program.Oracle Call Answer} {relayer : RelayerRepoModel}
    {old new : EvmTransactionData} {lacksMempool : Bool} {n : ℕ} {settled params : PriceParams}
    {calls : List Call} (hcalculates : calculator.Calculates relayer.policy fun n data =>
      oracle n (.getTransactionPriceParams data))
    (hsettled : calculator.settledParams new relayer.policy = .ok settled)
    (hok : Task.exec oracle (calculateReplacementPrice old new relayer lacksMempool) n =
      (.ok params, calls)) :
    bumpMarketPrice old relayer.policy lacksMempool
      (withTotalCost new (applyGasPriceCapAndConstraints relayer.policy settled)) =
        .ok params := by
  obtain ⟨answer, asked, rest, hask, hanswer, -⟩ := Task.exec_bind_ok hok
  have hmarket : answer =
      .ok (withTotalCost new (applyGasPriceCapAndConstraints relayer.policy settled)) := by
    rw [← Except.ok.inj (Prod.mk.inj hask).1]
    refine (hcalculates n new).trans ?_
    rw [PriceCalculator.getTransactionPriceParams_eq, hsettled]
    rfl
  rw [hmarket] at hanswer
  exact (Prod.mk.inj hanswer).1

/-- The price that `calculate_replacement_price` returns is within the cap, a bump, ordered and
covered by its cost exactly when the market price it was raised from leaves room for that. -/
theorem calculateReplacementPrice_respects_iff (calculator : PriceCalculator)
    (oracle : Program.Oracle Call Answer) (relayer : RelayerRepoModel)
    (old new : EvmTransactionData) (lacksMempool : Bool) (n : ℕ) (settled params : PriceParams)
    (calls : List Call) (hcalculates : calculator.Calculates relayer.policy fun n data =>
      oracle n (.getTransactionPriceParams data))
    (hsettled : calculator.settledParams new relayer.policy = .ok settled)
    (hfits : settled.extraFee.getD 0 < 2 ^ 256)
    (hok : Task.exec oracle (calculateReplacementPrice old new relayer lacksMempool) n =
      (.ok params, calls)) :
    Respects relayer.policy old new lacksMempool params ↔
      Sustainable (gasPriceCap relayer.policy) old new lacksMempool settled := by
  have hbump := calculateReplacementPrice_ok hcalculates hsettled hok
  unfold Sustainable
  rcases applyGasPriceCapAndConstraints_cases relayer.policy settled with
    ⟨maxFee, maxPriority, hfee, hpriority, hcapped⟩ | ⟨hmissing, hcapped⟩
  · rw [hfee, hpriority]
    exact respects_eip1559_iff hfits hcapped (bumpMarketPrice_eip1559 (by simp [hcapped])
      (by simp [hcapped]) (by simp [hcapped]) hbump)
  · have hlegacy := respects_legacy_iff hfits hcapped (bumpMarketPrice_legacy
      (by simp [hcapped]) (by simp [hcapped]) hbump)
    rcases hmissing with hnone | hnone
    · rw [hnone]
      exact hlegacy
    · rw [hnone]
      cases settled.maxFeePerGas with
      | none => exact hlegacy
      | some maxFee => exact hlegacy

/-! ## A replacement at market price -/

/-- The transfer anew, at the price of the market. -/
def sampleReplacement : EvmTransactionData :=
  { EvmReplacement.sampleData with gasPrice := none, speed := some .fast, value := 5 }

def sampleRelayer (cap : ℕ) : RelayerRepoModel := ⟨"0x01", samplePolicy (some cap)⟩

/-- Services of the replacement with the calculator's prices. -/
def marketOracle (cap : ℕ) : Program.Oracle Call Answer
  | _, .getTransactionPriceParams data =>
      (sampleCalculator [] none).getTransactionPriceParams data (samplePolicy (some cap))
  | n, request => EvmReplacement.sampleOracle n request

/-- The market price of 20 is more than the bump of 10, and the cap allows it. -/
theorem replacement_within_roomy_cap :
    ∃ params calls, Task.exec (marketOracle 100)
        (calculateReplacementPrice EvmReplacement.sampleData sampleReplacement
          (sampleRelayer 100) false) 0 = (.ok params, calls) ∧
      params.gasPrice = some 20 ∧
      Respects (samplePolicy (some 100)) EvmReplacement.sampleData sampleReplacement false
        params := by
  refine ⟨_, _, rfl, rfl, ?_⟩
  apply (calculateReplacementPrice_respects_iff (sampleCalculator [] none) (marketOracle 100)
    (sampleRelayer 100) EvmReplacement.sampleData sampleReplacement false 0
    (legacyParams 20 none) _ _ (fun _ _ => rfl) rfl (by decide) rfl).mpr
  have hcost : CostCovers sampleReplacement (legacyParams 20 none) 20 20 := by
    unfold CostCovers
    decide
  have hfloor : bumpFloor false (some 10) ≤ 100 := by decide
  exact ⟨hfloor, hcost⟩

/-- Under a cap of 10 the market price is 10 and its bump is 11: the cap is exceeded. -/
theorem replacement_exceeds_cap :
    ∃ params calls, Task.exec (marketOracle 10)
        (calculateReplacementPrice EvmReplacement.sampleData sampleReplacement
          (sampleRelayer 10) false) 0 = (.ok params, calls) ∧
      params.gasPrice = some 11 ∧ params.totalCost = 5 + 21000 * 10 ∧
      ¬ Respects (samplePolicy (some 10)) EvmReplacement.sampleData sampleReplacement false
        params := by
  refine ⟨_, _, rfl, rfl, rfl, ?_⟩
  intro hrespects
  exact absurd (hrespects.cap.1 11 rfl) (by decide)

end Relayer.EvmReplacementPrice
