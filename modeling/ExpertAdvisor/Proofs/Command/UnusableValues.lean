import ExpertAdvisor.Proofs.Command.NativeValues
import ExpertAdvisor.Proofs.Number.DecimalReading
import ExpertAdvisor.Proofs.Number.IntegerRange

namespace ExpertAdvisor

open Text Number

/-!
# Unusable values

A value that stands for no finite number falls back to what its place provides
for: a default, zero, or nothing.  Normalising fails for one kind of value only,
an integer beyond the range of binary64, and for that in every place.
-/

namespace Value

/-- An integer that no finite number is near enough to. -/
def IsOversized (value : Value) : Prop :=
  ∃ whole : Int, value = .integer whole ∧ Binary64.rangeEnd ≤ whole.natAbs

/-- The finite number that a value stands for, where flags stand for none. -/
def standsFor? : Value → Option FiniteBinary64
  | .integer whole => (Binary64.ofInt whole).finite?
  | .real number => number.finite?
  | .text content => (real? decimalDigit? content.toList).bind Binary64.finite?
  | .bytes content =>
      ((asciiCharacters? content).bind (real? asciiDigit?)).bind Binary64.finite?
  | .null | .boolean _ | .unpaired _ | .moment _ | .list _ | .record _ | .misnamed _ _ => none

end Value

/-! Blank texts stand for no number. -/

namespace Number

/-- A blank is neither a digit nor a mark, and begins no name. -/
theorem unread_of_isBlank
    {character : Char}
    (blank : isBlank character = true) :
    decimalDigit? character = none ∧ character ∉ ['+', '-'] ∧ character ∉ ['.', '_'] ∧
      character.toLower ∉ ['i', 'n'] := by
  have excluded : ∀ codePoint ∈ blankCodePoints,
      decimalDigit? (Char.ofNat codePoint) = none ∧ Char.ofNat codePoint ∉ ['+', '-'] ∧
        Char.ofNat codePoint ∉ ['.', '_'] ∧ (Char.ofNat codePoint).toLower ∉ ['i', 'n'] := by
    decide +kernel
  have known := excluded _ (mem_blankCodePoints_of_isBlank blank)
  rwa [Char.ofNat_toNat] at known

/-- A blank text is no number. -/
theorem real?_of_blank
    {characters : List Char}
    (blank : Within isBlank characters) :
    real? decimalDigit? characters = none := by
  have trimmedBlank : Within isBlank (trimWhere isWhiteSpace characters) := within_trimWhere blank
  rw [real?]
  generalize trimWhere isWhiteSpace characters = trimmed at trimmedBlank ⊢
  cases trimmed with
  | nil => decide
  | cons first more =>
      obtain ⟨noDigit, noSign, noMark, noName⟩ :=
        unread_of_isBlank (Within.cons_iff.mp trimmedBlank).1
      have noRun : digitRun decimalDigit? [] (first :: more) = ([], first :: more) := by
        simp [digitRun, noDigit]
      have noPoint : first ≠ '.' := fun isPoint => noMark (by simp [isPoint])
      rw [splitSign_of_start noSign]
      simp only [namedReal?_of_start false noName, unsignedReal?, noRun]
      split
      case h_1 shape => exact absurd (List.cons.inj shape).1 noPoint
      case h_2 => rfl

end Number

namespace Normalize

variable {settings : Settings} {value : Value}

/-! The finite number of a value. -/

theorem finiteNumber_of_oversized (oversized : value.IsOversized) :
    finiteNumber value = .error .oversized := by
  obtain ⟨whole, rfl, outside⟩ := oversized
  have infinite : (Binary64.ofInt whole).finite? = none := by
    have notFinite := mt (Binary64.isFinite_ofInt_iff whole).mp (Nat.not_lt.mpr outside)
    rwa [Binary64.isFinite, Option.not_isSome_iff_eq_none] at notFinite
  have read : Value.toReal (.integer whole) = .error .oversized := by
    rw [Value.toReal, Value.realOfInteger, Value.finiteReal, infinite]
  exact congrArg finiteOutcome read

/-- Every other value yields the number that it stands for, if any. -/
theorem finiteNumber_of_fitting (fits : ¬ value.IsOversized) :
    finiteNumber value = .ok value.standsFor? := by
  cases value with
  | null | boolean _ | real _ | unpaired _ | moment _ | list _ | record _ | misnamed _ _ => rfl
  | integer whole =>
      have inside : (Binary64.ofInt whole).isFinite = true := by
        rw [Binary64.isFinite_ofInt_iff]
        by_contra outside
        exact fits ⟨whole, rfl, Nat.le_of_not_lt outside⟩
      obtain ⟨number, isNumber⟩ := Option.isSome_iff_exists.mp inside
      have read : Value.toReal (.integer whole) = .ok (.finite number) := by
        rw [Value.toReal, Value.realOfInteger, Value.finiteReal, isNumber]
      rw [Value.standsFor?, isNumber]
      exact congrArg finiteOutcome read
  | text content =>
      change finiteOutcome (Value.toReal (.text content)) = _
      rw [Value.toReal, Value.standsFor?]
      cases real? decimalDigit? content.toList <;> rfl
  | bytes content =>
      change finiteOutcome (Value.toReal (.bytes content)) = _
      rw [Value.toReal, Value.standsFor?]
      cases (Value.asciiCharacters? content).bind (real? asciiDigit?) <;> rfl

/-- A value that stands for a number fits. -/
theorem fits_of_standsFor?
    {number : FiniteBinary64}
    (stands : value.standsFor? = some number) :
    ¬ value.IsOversized := by
  rintro ⟨whole, rfl, outside⟩
  have inside : (Binary64.ofInt whole).isFinite = true := Option.isSome_of_mem stands
  exact Nat.not_lt.mpr outside ((Binary64.isFinite_ofInt_iff whole).mp inside)

/-- A blank text is no threshold in any case. -/
theorem threshold_eq_finiteNumber (value : Value) : threshold value = finiteNumber value := by
  cases value with
  | text content =>
      rw [threshold]
      split
      case isTrue blank =>
        have within : Within isBlank content.toList := fun character member =>
          List.all_eq_true.mp blank character member
        have fits : ¬ (Value.text content).IsOversized := nofun
        rw [finiteNumber_of_fitting fits, Value.standsFor?, real?_of_blank within]
        rfl
      case isFalse => rfl
  | _ => rfl

end Normalize

/-! What becomes of a value in each place. -/

/-- A value cannot be normalised in any place. -/
structure Normalize.Fails (settings : Settings) (value : Value) : Prop where
  isLots : Normalize.isLots value = .error .oversized
  isPoints : Normalize.isPoints value = .error .oversized
  lots : Normalize.lots settings value = .error .oversized
  points : Normalize.points value = .error .oversized
  bufferIndex : Normalize.bufferIndex value = .error .oversized
  threshold : Normalize.threshold value = .error .oversized

/-- In every place a value is valued like none: by the default, by zero, or by nothing. -/
structure Normalize.FallsBack (settings : Settings) (value : Value) : Prop where
  isLots : Normalize.isLots value = .ok false
  isPoints : Normalize.isPoints value = .ok false
  lots : Normalize.lots settings value = .ok settings.lots
  points : Normalize.points value = .ok 0
  bufferIndex : Normalize.bufferIndex value = .ok 0
  threshold : Normalize.threshold value = .ok none

/-- In every place a value is the finite number that it stands for, if that is in range there. -/
structure Normalize.CountsAs
    (settings : Settings)
    (value : Value)
    (number : FiniteBinary64) : Prop where
  isLots : Normalize.isLots value = .ok number.isPositive
  isPoints : Normalize.isPoints value = .ok number.isNonnegative
  lots : Normalize.lots settings value =
    .ok (if number.isPositive then .finite number else settings.lots)
  points : Normalize.points value =
    .ok (if number.isNonnegative then number.truncated.toNat else 0)
  bufferIndex : Normalize.bufferIndex value = .ok number.truncated.toNat
  threshold : Normalize.threshold value = .ok (some number)

namespace Normalize

variable {settings : Settings} {value : Value}

/-- An oversized integer fails in every place. -/
theorem fails_of_oversized (oversized : value.IsOversized) : Fails settings value := by
  have noNumber := finiteNumber_of_oversized oversized
  constructor
  case threshold => rw [threshold_eq_finiteNumber, noNumber]
  all_goals simp only [isLots, isPoints, lots, points, bufferIndex, wholeNumber, noNumber]; rfl

theorem fallsBack_of_fitting
    (fits : ¬ value.IsOversized)
    (noNumber : value.standsFor? = none) :
    FallsBack settings value := by
  have none := finiteNumber_of_fitting fits
  rw [noNumber] at none
  constructor
  case threshold => rw [threshold_eq_finiteNumber, none]
  all_goals simp only [isLots, isPoints, lots, points, bufferIndex, wholeNumber, none]; rfl

/-- A value that stands for a number counts as it in every place. -/
theorem countsAs_of_standsFor?
    {number : FiniteBinary64}
    (stands : value.standsFor? = some number) :
    CountsAs settings value number := by
  have read := finiteNumber_of_fitting (fits_of_standsFor? stands)
  rw [stands] at read
  constructor
  case threshold => rw [threshold_eq_finiteNumber, read]
  case bufferIndex =>
    rw [bufferIndex, wholeNumber, read]
    rfl
  case isLots =>
    rw [isLots, read, Except.map, asLots, Option.filter_some]
    cases number.isPositive <;> rfl
  case lots =>
    rw [lots, read, Except.map, asLots, Option.filter_some]
    cases number.isPositive <;> rfl
  case isPoints =>
    rw [isPoints, read, Except.map, asPoints, Option.filter_some]
    cases number.isNonnegative <;> rfl
  case points =>
    rw [points, read, Except.map, asPoints, Option.filter_some]
    cases number.isNonnegative <;> rfl

/-! One place fails for an oversized value, or yields what it makes of the number. -/

section Place

variable (value : Value)

/-- What is made of a value's number fails for oversized integers alone. -/
theorem map_finiteNumber_cases (make : Option FiniteBinary64 → β) :
    value.IsOversized ∧ (finiteNumber value).map make = .error .oversized ∨
      ¬ value.IsOversized ∧ (finiteNumber value).map make = .ok (make value.standsFor?) := by
  by_cases oversized : value.IsOversized
  · rw [finiteNumber_of_oversized oversized]
    exact .inl ⟨oversized, rfl⟩
  · rw [finiteNumber_of_fitting oversized]
    exact .inr ⟨oversized, rfl⟩

theorem wholeNumber_cases :
    value.IsOversized ∧ wholeNumber value = .error .oversized ∨
      ¬ value.IsOversized ∧
        wholeNumber value = .ok (value.standsFor?.map FiniteBinary64.truncated) :=
  map_finiteNumber_cases value _

theorem lots_cases (settings : Settings) :
    value.IsOversized ∧ lots settings value = .error .oversized ∨
      ¬ value.IsOversized ∧ ∃ volume, lots settings value = .ok volume :=
  (map_finiteNumber_cases value _).imp_right (And.imp_right fun made => ⟨_, made⟩)

theorem points_cases :
    value.IsOversized ∧ points value = .error .oversized ∨
      ¬ value.IsOversized ∧ ∃ distance, points value = .ok distance :=
  (map_finiteNumber_cases value _).imp_right (And.imp_right fun made => ⟨_, made⟩)

end Place

end Normalize

namespace RawRisk

variable {settings : Settings}

/-- All values of raw risk settings. -/
def values (raw : RawRisk) : List Value :=
  [raw.lots, raw.slippage, raw.stopLoss, raw.takeProfit, raw.magicNumber]

/-- Risk settings whose parts are what the raw values are normalised to, each in its place. -/
structure NormalizesTo (settings : Settings) (raw : RawRisk) (risk : Risk) : Prop where
  whole : raw.normalize settings = .ok risk
  lots : Normalize.lots settings raw.lots = .ok risk.lots
  slippage :
    risk.slippage = (raw.slippage.standsFor?.map FiniteBinary64.truncated).getD settings.slippage
  stopLoss : Normalize.points raw.stopLoss = .ok risk.stopLoss
  takeProfit : Normalize.points raw.takeProfit = .ok risk.takeProfit
  magicNumber :
    risk.magicNumber =
      (raw.magicNumber.standsFor?.map FiniteBinary64.truncated).getD settings.magicNumber

/-- Risk settings cannot be normalised when one of their values cannot, and else all are. -/
theorem normalize_cases
    (settings : Settings)
    (raw : RawRisk) :
    (∃ value ∈ raw.values, value.IsOversized) ∧ raw.normalize settings = .error .oversized ∨
      (∀ value ∈ raw.values, ¬ value.IsOversized) ∧ ∃ risk, NormalizesTo settings raw risk := by
  simp only [values, List.mem_cons, List.not_mem_nil, or_false, exists_eq_or_imp,
    exists_eq_left, forall_eq_or_imp, forall_eq]
  rcases Normalize.wholeNumber_cases raw.slippage with
      ⟨oversized, fails⟩ | ⟨slippageFits, slippage⟩
  · exact .inl ⟨.inr (.inl oversized), by rw [normalize, fails, Outcome.error_bind]⟩
  rcases Normalize.wholeNumber_cases raw.magicNumber with
      ⟨oversized, fails⟩ | ⟨magicNumberFits, magicNumber⟩
  · refine .inl ⟨.inr (.inr (.inr (.inr oversized))), ?_⟩
    rw [normalize, slippage, Outcome.ok_bind, fails, Outcome.error_bind]
  rcases Normalize.lots_cases raw.lots settings with
      ⟨oversized, fails⟩ | ⟨lotsFit, volume, lots⟩
  · refine .inl ⟨.inl oversized, ?_⟩
    rw [normalize, slippage, Outcome.ok_bind, magicNumber, Outcome.ok_bind, fails,
      Outcome.error_bind]
  rcases Normalize.points_cases raw.stopLoss with
      ⟨oversized, fails⟩ | ⟨stopLossFits, stopDistance, stopLoss⟩
  · refine .inl ⟨.inr (.inr (.inl oversized)), ?_⟩
    rw [normalize, slippage, Outcome.ok_bind, magicNumber, Outcome.ok_bind, lots,
      Outcome.ok_bind, fails, Outcome.error_bind]
  rcases Normalize.points_cases raw.takeProfit with
      ⟨oversized, fails⟩ | ⟨takeProfitFits, takeDistance, takeProfit⟩
  · refine .inl ⟨.inr (.inr (.inr (.inl oversized))), ?_⟩
    rw [normalize, slippage, Outcome.ok_bind, magicNumber, Outcome.ok_bind, lots,
      Outcome.ok_bind, stopLoss, Outcome.ok_bind, fails, Outcome.error_bind]
  refine .inr ⟨⟨lotsFit, slippageFits, stopLossFits, takeProfitFits, magicNumberFits⟩,
    ⟨volume, _, stopDistance, takeDistance, _⟩, ?_, lots, rfl, stopLoss, takeProfit, rfl⟩
  rw [normalize, slippage, Outcome.ok_bind, magicNumber, Outcome.ok_bind, lots,
    Outcome.ok_bind, stopLoss, Outcome.ok_bind, takeProfit, Outcome.ok_bind]
  rfl

/-- Risk settings fail exactly for an oversized integer among them. -/
theorem normalize_eq_oversized_iff
    {settings : Settings}
    {raw : RawRisk} :
    raw.normalize settings = .error .oversized ↔ ∃ value ∈ raw.values, value.IsOversized := by
  rcases raw.normalize_cases settings with ⟨someOversized, fails⟩ | ⟨fit, risk, normalizes⟩
  · exact iff_of_true fails someOversized
  · refine iff_of_false ?_ ?_
    · rw [normalizes.whole]
      exact nofun
    · rintro ⟨value, member, oversized⟩
      exact fit value member oversized

/-- Risk settings that were normalised have each of their parts normalised. -/
theorem normalizesTo_of_normalize
    {settings : Settings}
    {raw : RawRisk}
    {risk : Risk}
    (normalized : raw.normalize settings = .ok risk) :
    NormalizesTo settings raw risk := by
  rcases raw.normalize_cases settings with ⟨_, failed⟩ | ⟨_, own, normalizes⟩
  · rw [failed] at normalized
    cases normalized
  · obtain rfl : own = risk := Except.ok.inj (normalizes.whole.symm.trans normalized)
    exact normalizes

end RawRisk

/--
Normalising a value fails exactly for integers beyond the range of binary64, and
for these in every place; risk settings fail as a whole when one of their values
does.  Every other value that stands for no finite number falls back to the
default, to zero or to nothing, whatever its place provides for.
-/
theorem Normalize.fails_iff_oversized (settings : Settings) :
    (∀ value : Value,
      (value.IsOversized → Fails settings value) ∧
      (¬ value.IsOversized → value.standsFor? = none → FallsBack settings value) ∧
      ∀ number, value.standsFor? = some number → CountsAs settings value number) ∧
    ∀ raw : RawRisk,
      (raw.normalize settings = .error .oversized ↔ ∃ value ∈ raw.values, value.IsOversized) ∧
      ((∀ value ∈ raw.values, ¬ value.IsOversized) →
        ∃ risk, RawRisk.NormalizesTo settings raw risk) := by
  refine ⟨fun value => ⟨fails_of_oversized, fallsBack_of_fitting,
    fun _ => countsAs_of_standsFor?⟩,
    fun raw => ⟨RawRisk.normalize_eq_oversized_iff, fun fit => ?_⟩⟩
  rcases raw.normalize_cases settings with ⟨⟨value, member, oversized⟩, _⟩ | ⟨_, normalizes⟩
  · exact absurd oversized (fit value member)
  · exact normalizes

/-- Risk settings of which only the magic number stands for a number. -/
def sparseRisk : RawRisk where
  lots := .null
  slippage := .text "much"
  stopLoss := .list []
  takeProfit := .real .nan
  magicNumber := .integer 7

/-- Words fall back, and numbers count. -/
theorem Normalize.fails_iff_oversized_sparseRisk :
    FallsBack .standard (.text "much") ∧
      (∃ number, CountsAs .standard (.integer 7) number ∧ number.truncated = 7) ∧
      ∃ risk, RawRisk.NormalizesTo .standard sparseRisk risk ∧ risk.slippage = 3 := by
  obtain ⟨values, risks⟩ := fails_iff_oversized .standard
  have noNumber : (Value.text "much").standsFor? = none := by decide +kernel
  have stands : (Value.integer 7).standsFor? = some ⟨false, 7 * 2 ^ 50, 1024, by decide,
      by decide, by decide⟩ := by
    decide +kernel
  have sevenFits := fits_of_standsFor? stands
  have fit : ∀ value ∈ sparseRisk.values, ¬ value.IsOversized := by
    simp only [sparseRisk, RawRisk.values, List.mem_cons, List.not_mem_nil, or_false,
      forall_eq_or_imp, forall_eq]
    exact ⟨nofun, nofun, nofun, nofun, sevenFits⟩
  obtain ⟨risk, normalizes⟩ := (risks sparseRisk).2 fit
  refine ⟨(values (.text "much")).2.1 nofun noNumber,
    ⟨_, (values (.integer 7)).2.2 _ stands, by decide +kernel⟩, risk, normalizes, ?_⟩
  rw [normalizes.slippage]
  exact congrArg (fun number? => (Option.map FiniteBinary64.truncated number?).getD 3) noNumber

/-- An integer far beyond the range of binary64. -/
def enormousValue : Value := .integer (Nat.pow 10 400)

/-- An integer beyond the range is a fault in every place, in spite of all defaults. -/
theorem Normalize.fails_enormousValue :
    Fails .standard enormousValue ∧
      RawRisk.normalize .standard ⟨.null, .null, .null, .null, enormousValue⟩ =
        .error .oversized := by
  have oversized : enormousValue.IsOversized := ⟨_, rfl, by decide +kernel⟩
  exact ⟨fails_of_oversized oversized,
    RawRisk.normalize_eq_oversized_iff.mpr ⟨enormousValue, by simp [RawRisk.values], oversized⟩⟩

end ExpertAdvisor
