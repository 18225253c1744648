import Relayer.Core.Decimals
import Relayer.Models.Transaction
import Relayer.Stellar.Xdr

/-!
# Stellar policies, services and fee quotes

What a relayer allows, what it asks of its provider and exchange, and how a fee
in stroops becomes an amount of a fee token.  A service is any function from
requests to answers or failures, so results about it hold for every answer.
-/

namespace Relayer.StellarFees

open Relayer.Transaction Relayer.Xdr Relayer.Decimals

def stellarDefaultTransactionFee : UInt64 := 100
def stellarMaxOperations : ℕ := 100
def defaultConversionSlippagePercentage : Float32 := 1.0

inductive StellarFeePaymentStrategy where
  | user
  | relayer
  deriving DecidableEq, Repr

structure StellarAllowedTokensSwapConfig where
  slippagePercentage : Option Float32
  minAmount : Option UInt64
  maxAmount : Option UInt64
  retainMinAmount : Option UInt64

structure StellarAllowedTokensPolicy where
  asset : String
  /-- Decimals from the token's metadata. -/
  decimals : Option UInt32
  maxAllowedFee : Option UInt64
  swapConfig : Option StellarAllowedTokensSwapConfig

structure RelayerStellarPolicy where
  maxFee : Option UInt32
  allowedTokens : Option (List StellarAllowedTokensPolicy)
  feePaymentStrategy : Option StellarFeePaymentStrategy
  slippagePercentage : Option Float32
  feeMarginPercentage : Option Float32

namespace RelayerStellarPolicy

def getAllowedTokens (policy : RelayerStellarPolicy) : List StellarAllowedTokensPolicy :=
  policy.allowedTokens.getD []

def getAllowedTokenEntry (policy : RelayerStellarPolicy) (asset : String) :
    Option StellarAllowedTokensPolicy :=
  policy.getAllowedTokens.find? fun entry => entry.asset == asset

def getAllowedTokenDecimals (policy : RelayerStellarPolicy) (asset : String) :
    Option UInt8 :=
  (policy.getAllowedTokenEntry asset).bind fun entry =>
    entry.decimals.bind fun decimals =>
      if decimals.toNat < 256 then some decimals.toUInt8 else none

def isUserFeePayment (policy : RelayerStellarPolicy) : Bool :=
  policy.feePaymentStrategy == some .user

end RelayerStellarPolicy

/-- A simulation's answer.  Its transaction data and its results come as text that
may fail to decode. -/
structure SimulateTransactionResponse where
  error : Option String
  transactionData : Except String SorobanTransactionData
  minResourceFee : UInt64
  results : List (Except String (List SorobanAuthorizationEntry))

/-- The services around the Stellar handlers.  `clock` gives successive readings
in nanoseconds. -/
structure StellarServices where
  getAccountSequence : String → Except String Int64
  simulateTransactionEnvelope :
    TransactionEnvelope → Except String SimulateTransactionResponse
  getTokenBalance : String → String → Except String UInt64
  getXlmToTokenQuote :
    String → UInt64 → Float32 → Option UInt8 → Except String UInt64
  getAndIncrement : String → String → Except String UInt64
  clock : ℕ → ℕ

/-! ## Errors of the Stellar utilities -/

/-- The errors that the utilities below and the builders raise. -/
inductive StellarTransactionUtilsError where
  | simulationFailed (message : String)
  | simulationNoResults
  | dexQuoteFailed (message : String)
  | invalidAssetFormat (message : String)
  | assetCodeTooLong (maxLength : ℕ) (code : String)
  | tooManyOperations (maxOperations : ℕ)
  | cannotModifyFeeBump
  | cannotSetTimeBoundsOnFeeBump
  deriving DecidableEq, Repr

namespace StellarTransactionUtilsError

def toText : StellarTransactionUtilsError → String
  | simulationFailed message => s!"Failed to simulate transaction: {message}"
  | simulationNoResults => "Transaction simulation returned no results"
  | dexQuoteFailed message => s!"Failed to get DEX quote: {message}"
  | invalidAssetFormat message => s!"Invalid asset identifier format: {message}"
  | assetCodeTooLong maxLength code =>
      s!"Asset code too long (max {maxLength} characters): {code}"
  | tooManyOperations maxOperations => s!"Too many operations (max {maxOperations})"
  | cannotModifyFeeBump => "Cannot add operations to fee-bump transactions"
  | cannotSetTimeBoundsOnFeeBump => "Cannot set time bounds on fee-bump transactions"

instance : ToString StellarTransactionUtilsError := ⟨toText⟩

/-- `From<StellarTransactionUtilsError> for RelayerError`. -/
def toRelayerError : StellarTransactionUtilsError → RelayerError
  | simulationFailed message | dexQuoteFailed message => .internal message
  | simulationNoResults => .internal "Transaction simulation failed: no results returned"
  | invalidAssetFormat message => .validationError message
  | assetCodeTooLong maxLength code =>
      .validationError s!"Asset code too long (max {maxLength} characters): {code}"
  | tooManyOperations maxOperations =>
      .validationError s!"Too many operations (max {maxOperations})"
  | cannotModifyFeeBump =>
      .validationError "Cannot add operations to fee-bump transactions"
  | cannotSetTimeBoundsOnFeeBump =>
      .validationError "Cannot set time bounds on fee-bump transactions"

end StellarTransactionUtilsError

/-! ## Allowed tokens -/

/-- An empty list allows every token. -/
def validateAllowedToken (asset : String) (policy : RelayerStellarPolicy) :
    Except StellarTransactionValidationError Unit :=
  let allowedTokens := policy.getAllowedTokens
  if allowedTokens.isEmpty then .ok ()
  else if asset == "native" || asset.isEmpty then
    if allowedTokens.any fun token => token.asset == "native" || token.asset.isEmpty then
      .ok ()
    else .error (.tokenNotAllowed "Native XLM not in allowed tokens list")
  else if allowedTokens.any fun token => token.asset == asset then .ok ()
  else .error (.tokenNotAllowed s!"Token {asset} not in allowed tokens list")

/-- The token stands in the policy's list. -/
def ListsToken (policy : RelayerStellarPolicy) (asset : String) : Prop :=
  ∃ token ∈ policy.getAllowedTokens, token.asset = asset

/-- A credit asset that passes is listed, unless the list is empty. -/
theorem listsToken_of_validateAllowedToken {policy : RelayerStellarPolicy} {asset : String}
    (hcredit : ':' ∈ asset.toList) (hlist : policy.getAllowedTokens ≠ [])
    (hok : validateAllowedToken asset policy = .ok ()) : ListsToken policy asset := by
  have hnative : ¬ ((asset == "native" || asset.isEmpty) = true) := by
    intro htext
    rw [Bool.or_eq_true, beq_iff_eq, String.isEmpty_iff] at htext
    rcases htext with rfl | rfl
    · revert hcredit
      decide
    · revert hcredit
      decide
  have hempty : ¬ (policy.getAllowedTokens.isEmpty = true) := by
    simpa using hlist
  rw [validateAllowedToken, if_neg hempty, if_neg hnative] at hok
  by_cases hany : (policy.getAllowedTokens.any fun token => token.asset == asset) = true
  · obtain ⟨token, hmem, hasset⟩ := List.any_eq_true.mp hany
    exact ⟨token, hmem, beq_iff_eq.mp hasset⟩
  · rw [if_neg hany] at hok
    cases hok

def validateMaxFee (fee : UInt64) (policy : RelayerStellarPolicy) :
    Except StellarTransactionValidationError Unit :=
  match policy.maxFee with
  | some maxFee =>
      if maxFee.toUInt64 < fee then .error (.maxFeeExceeded fee) else .ok ()
  | none => .ok ()

def validateTokenMaxFee (assetId : String) (fee : UInt64)
    (policy : RelayerStellarPolicy) : Except StellarTransactionValidationError Unit :=
  match (policy.getAllowedTokenEntry assetId).bind fun entry => entry.maxAllowedFee with
  | some maxAllowedFee =>
      if maxAllowedFee < fee then .error (.maxFeeExceeded fee) else .ok ()
  | none => .ok ()

/-! ## Fees in stroops and in tokens -/

structure FeeQuote where
  feeInToken : UInt64
  feeInTokenUi : String
  feeInStroops : UInt64
  conversionRate : Float

/-- Removes the zeros at the end of a decimal fraction, and its point if nothing
is left behind it. -/
def trimFraction (text : List Char) : List Char :=
  let trimmed := (text.reverse.dropWhile (· == '0')).reverse
  if trimmed.getLast? = some '.' then trimmed.dropLast else trimmed

def amountToUiAmount (amount : UInt64) (decimals : UInt8) : String :=
  let digits := Nat.toDigits 10 amount.toNat
  if decimals = 0 then String.ofList digits
  else
    let count := decimals.toNat
    let combined :=
      if count < digits.length then
        let split := digits.length - count
        digits.take split ++ '.' :: digits.drop split
      else
        '0' :: '.' :: (List.replicate (count - digits.length) '0' ++ digits)
    let trimmed := trimFraction combined
    if trimmed.isEmpty then "0" else String.ofList trimmed

/-- The fee with the policy's margin, computed in floating point. -/
def bufferedFee (policy : RelayerStellarPolicy) (xlmFee : UInt64) : UInt64 :=
  match policy.feeMarginPercentage with
  | some margin => (xlmFee.toFloat * (1.0 + margin.toFloat / 100.0)).toUInt64
  | none => xlmFee

def conversionSlippage (policy : RelayerStellarPolicy) (feeToken : String) : Float32 :=
  let tokenSlippage := (policy.getAllowedTokenEntry feeToken).bind fun entry =>
    entry.swapConfig.bind fun config => config.slippagePercentage
  (tokenSlippage.or policy.slippagePercentage).getD defaultConversionSlippagePercentage

def convertXlmFeeToToken (services : StellarServices) (policy : RelayerStellarPolicy)
    (xlmFee : UInt64) (feeToken : String) : Except StellarTransactionUtilsError FeeQuote :=
  let buffered := bufferedFee policy xlmFee
  if feeToken == "native" || feeToken.isEmpty then
    .ok ⟨buffered, amountToUiAmount buffered 7, buffered, 1.0⟩
  else
    let decimals := policy.getAllowedTokenDecimals feeToken
    match services.getXlmToTokenQuote feeToken buffered
      (conversionSlippage policy feeToken) decimals with
    | .error e => .error (.dexQuoteFailed s!"Failed to get quote: {e}")
    | .ok outAmount =>
        let rate := if 0 < buffered then outAmount.toFloat / buffered.toFloat else 0.0
        .ok ⟨outAmount, amountToUiAmount outAmount (decimals.getD 7), buffered, rate⟩

def estimateBaseFee (numOperations : ℕ) : UInt64 :=
  UInt64.ofNat (max numOperations 1) * stellarDefaultTransactionFee

def estimateFee (services : StellarServices) (envelope : TransactionEnvelope)
    (operationsOverride : Option ℕ) : Except StellarTransactionUtilsError UInt64 :=
  if xdrNeedsSimulation envelope then
    match services.simulateTransactionEnvelope envelope with
    | .error e => .error (.simulationFailed s!"Failed to simulate transaction: {e}")
    | .ok response =>
        if response.results.isEmpty then .error .simulationNoResults
        else .ok (stellarDefaultTransactionFee + response.minResourceFee)
  else
    .ok (estimateBaseFee (operationsOverride.getD (extractOperations envelope).length))

/-! ## Amounts as users see them -/

section UiAmount

variable {whole fraction : List Char}

theorem trimFraction_point (hfraction : IsDigits fraction) :
    trimFraction (whole ++ '.' :: fraction) =
      if fraction.rdropWhile (· == '0') = [] then whole
      else whole ++ '.' :: fraction.rdropWhile (· == '0') := by
  have htrimmed : ((whole ++ '.' :: fraction).reverse.dropWhile (· == '0')).reverse =
      whole ++ '.' :: fraction.rdropWhile (· == '0') := rdropWhile_append_point whole fraction
  rw [trimFraction, htrimmed]
  split_ifs with hlast hnone hnone
  · rw [hnone, List.dropLast_concat]
  · -- the last character would be a digit of the fraction
    rw [List.getLast?_append_of_ne_nil _ (by simp), List.getLast?_cons_of_ne_nil hnone] at hlast
    have hmem := (List.rdropWhile_prefix _ _).subset (List.mem_of_getLast? hlast)
    exact absurd (hfraction _ hmem) (by decide)
  · simp [hnone] at hlast
  · rfl

/-- The digits of an amount around the point: with at least one digit before it. -/
theorem exists_parts (amount count : ℕ) (hcount : 0 < count) :
    ∃ whole fraction,
      (if count < (Nat.toDigits 10 amount).length then
          (Nat.toDigits 10 amount).take ((Nat.toDigits 10 amount).length - count) ++
            '.' :: (Nat.toDigits 10 amount).drop ((Nat.toDigits 10 amount).length - count)
        else '0' :: '.' :: (List.replicate (count - (Nat.toDigits 10 amount).length) '0' ++
          Nat.toDigits 10 amount)) = whole ++ '.' :: fraction ∧
      IsDigits whole ∧ IsDigits fraction ∧
      (whole = ['0'] ∨ whole ≠ [] ∧ whole.head? ≠ some '0') ∧
      fraction.length = count ∧ digitsValue (whole ++ fraction) = amount := by
  have hdigits : IsDigits (Nat.toDigits 10 amount) := fun _ hmem =>
    Nat.isDigit_of_mem_toDigits (by decide) (by decide) hmem
  split_ifs with hlong
  · refine ⟨_, _, rfl, ?_, ?_, ?_, ?_, ?_⟩
    · exact fun char hmem => hdigits char (List.mem_of_mem_take hmem)
    · exact fun char hmem => hdigits char (List.mem_of_mem_drop hmem)
    · have hpositive : 0 < amount := by
        refine Nat.pos_of_ne_zero ?_
        rintro rfl
        rw [Nat.toDigits_zero, List.length_singleton] at hlong
        omega
      refine .inr ⟨?_, ?_⟩
      · rw [Ne, List.take_eq_nil_iff, not_or]
        exact ⟨by omega, Nat.toDigits_ne_nil⟩
      · rw [List.head?_take, if_neg (by omega)]
        exact head?_toDigits_ne_zero hpositive
    · rw [List.length_drop]
      omega
    · rw [List.take_append_drop, digitsValue, Nat.ofDigitChars_ten_toDigits]
  · refine ⟨['0'], _, rfl, ?_, ?_, .inl rfl, ?_, ?_⟩
    · simp [IsDigits]
    · intro char hmem
      rcases List.mem_append.mp hmem with hzero | hdigit
      · rw [List.eq_of_mem_replicate hzero]
        rfl
      · exact hdigits char hdigit
    · rw [List.length_append, List.length_replicate]
      omega
    · simp [digitsValue, Nat.ofDigitChars_cons, Nat.ofDigitChars_append,
        Nat.ofDigitChars_replicate_zero, Nat.ofDigitChars_ten_toDigits]

theorem exists_decimal (amount : UInt64) (decimals : UInt8) :
    ∃ decimal : Decimal, (amountToUiAmount amount decimals).toList = decimal.text ∧
      fractionValue decimal.whole decimal.fraction = amount.toNat / 10 ^ decimals.toNat := by
  unfold amountToUiAmount
  by_cases hzero : decimals = 0
  · have hdigits : IsDigits (Nat.toDigits 10 amount.toNat) := fun _ hmem =>
      Nat.isDigit_of_mem_toDigits (by decide) (by decide) hmem
    have hnone : IsDigits [] := fun _ hmem => (nomatch hmem)
    refine ⟨Decimal.ofParts (Nat.toDigits 10 amount.toNat) [] hdigits hnone ?_, ?_, ?_⟩
    · rcases Nat.eq_zero_or_pos amount.toNat with hvalue | hpositive
      · exact .inl (by rw [hvalue, Nat.toDigits_zero])
      · exact .inr ⟨Nat.toDigits_ne_nil, head?_toDigits_ne_zero hpositive⟩
    · rw [if_pos hzero, String.toList_ofList]
      rfl
    · rw [Decimal.fractionValue_ofParts, List.append_nil, digitsValue,
        Nat.ofDigitChars_ten_toDigits, hzero]
      rfl
  · have hcount : 0 < decimals.toNat :=
      Nat.pos_of_ne_zero fun h => hzero (UInt8.toNat_inj.mp h)
    obtain ⟨whole, fraction, hcombined, hwhole, hfraction, hleading, hlength, hvalue⟩ :=
      exists_parts amount.toNat decimals.toNat hcount
    refine ⟨Decimal.ofParts whole fraction hwhole hfraction hleading, ?_, ?_⟩
    · have htext : (if fraction.rdropWhile (· == '0') = [] then whole
          else whole ++ '.' :: fraction.rdropWhile (· == '0')) =
            (Decimal.ofParts whole fraction hwhole hfraction hleading).text := rfl
      simp only [if_neg hzero, hcombined, trimFraction_point hfraction, htext]
      rw [if_neg (by simpa using Decimal.text_ne_nil _), String.toList_ofList]
    · rw [Decimal.fractionValue_ofParts, hvalue, hlength]

end UiAmount

/-- The text is the canonical decimal fraction for the amount divided by its power of ten: reading
it gives the amount back, and different amounts have different texts. -/
theorem amountToUiAmount_exact (amount : UInt64) (decimals : UInt8) :
    (∃ decimal : Decimal, (amountToUiAmount amount decimals).toList = decimal.text) ∧
      readDecimal (amountToUiAmount amount decimals).toList =
        some ((amount.toNat : ℚ) / 10 ^ decimals.toNat) ∧
      (readDecimal (amountToUiAmount amount decimals).toList).map (· * 10 ^ decimals.toNat) =
        some (amount.toNat : ℚ) ∧
      ∀ other : UInt64, amountToUiAmount other decimals = amountToUiAmount amount decimals →
        other = amount := by
  have hpower : (10 : ℚ) ^ decimals.toNat ≠ 0 := by positivity
  have hread : ∀ value : UInt64, readDecimal (amountToUiAmount value decimals).toList =
      some ((value.toNat : ℚ) / 10 ^ decimals.toNat) := by
    intro value
    obtain ⟨decimal, htext, hvalue⟩ := exists_decimal value decimals
    rw [htext, decimal.readDecimal_text, hvalue]
  obtain ⟨decimal, htext, -⟩ := exists_decimal amount decimals
  refine ⟨⟨decimal, htext⟩, hread amount, ?_, ?_⟩
  · rw [hread, Option.map_some, div_mul_cancel₀ _ hpower]
  · intro other hother
    have hvalue := hread other
    rw [hother, hread, Option.some_inj, div_left_inj' hpower, Nat.cast_inj] at hvalue
    exact UInt64.toNat_inj.mp hvalue.symm

end Relayer.StellarFees
