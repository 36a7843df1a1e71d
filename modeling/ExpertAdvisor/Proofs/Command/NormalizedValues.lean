import ExpertAdvisor.Proofs.Command.NativeValues
import ExpertAdvisor.Proofs.Payload.TakenFields

namespace ExpertAdvisor

/-!
# Normalised values

Whatever normalisation yields is exact: a whole number that binary64 holds, a
finite number, or a positive one.  A payload takes such values over as they are,
and normalising them once more changes nothing.
-/

namespace Normalize

variable {value : Value} {settings : Settings}

/-! What normalisation yields. -/

/-- What an integer is normalised to, binary64 holds. -/
theorem isExact_of_wholeNumber
    {integer : Int}
    (normalized : wholeNumber value = .ok (some integer)) :
    Binary64.IsExact integer := by
  obtain ⟨number, _, truncated⟩ := Outcome.map_eq_ok_iff.mp normalized
  obtain ⟨finite, _, rfl⟩ := Option.map_eq_some_iff.mp truncated
  exact Binary64.isExact_truncated finite

/-- A whole number, or the default where there is none, is exact. -/
theorem isExact_getD
    {whole : Option Int}
    {standard : Int}
    (normalized : wholeNumber value = .ok whole)
    (bounded : standard.natAbs ≤ 2 ^ 53) :
    Binary64.IsExact (whole.getD standard) := by
  cases whole with
  | none => exact Binary64.isExact_of_bounded bounded
  | some integer => exact isExact_of_wholeNumber normalized

/-- What is left of an exact integer when it may not be negative is exact. -/
theorem isExact_toNat
    {integer : Int}
    (exact : Binary64.IsExact integer) :
    Binary64.IsExact integer.toNat := by
  by_cases nonnegative : 0 ≤ integer
  · rw [Int.toNat_of_nonneg nonnegative]
    exact exact
  · rw [Int.toNat_of_nonpos (Int.le_of_not_le nonnegative)]
    exact Binary64.isExact_of_bounded (by decide)

theorem isExact_of_bufferIndex
    {index : Nat}
    (normalized : bufferIndex value = .ok index) :
    Binary64.IsExact index := by
  obtain ⟨whole, isWhole, rfl⟩ := Outcome.map_eq_ok_iff.mp normalized
  exact isExact_toNat (isExact_getD isWhole (by decide))

theorem isExact_of_points
    {number : Nat}
    (normalized : points value = .ok number) :
    Binary64.IsExact number := by
  obtain ⟨finite, _, isNumber⟩ := Outcome.map_eq_ok_iff.mp normalized
  cases valid : asPoints finite with
  | some kept =>
      rw [valid] at isNumber
      rw [← isNumber]
      exact isExact_toNat (Binary64.isExact_truncated kept)
  | none =>
      rw [valid] at isNumber
      rw [← isNumber]
      exact Binary64.isExact_of_bounded (by decide)

/-- A normalised order volume is positive, provided that the default one is. -/
theorem exists_lots_of_normalized
    {standard : Lots}
    {volume : Binary64}
    (usable : settings.lots = .finite standard.val)
    (normalized : Normalize.lots settings value = .ok volume) :
    ∃ lots : Lots, volume = .finite lots.val := by
  obtain ⟨finite, _, isVolume⟩ := Outcome.map_eq_ok_iff.mp normalized
  cases valid : asLots finite with
  | some kept =>
      rw [valid] at isVolume
      exact ⟨⟨kept, (Option.filter_eq_some_iff.mp valid).2⟩, isVolume.symm⟩
  | none =>
      rw [valid] at isVolume
      exact ⟨standard, isVolume.symm.trans usable⟩

end Normalize

namespace Risk

/-- Risk settings to be normalised once more. -/
def toRaw (risk : Risk) : RawRisk where
  lots := .real risk.lots
  slippage := .integer risk.slippage
  stopLoss := .integer risk.stopLoss
  takeProfit := .integer risk.takeProfit
  magicNumber := .integer risk.magicNumber

end Risk

/-! Payloads and strategies that are made of normalised values. -/

theorem Payload.takenOver
    {name : FieldName}
    {value : Value}
    {Admits : Value → Prop}
    {single : Value → Checked β}
    {accepted_iff : ∀ value, (∃ content, single value = .accepted content) ↔ Admits value}
    {stored : Payload → β}
    {content absent : β}
    (member : FieldRule.ofCheck name false single Admits accepted_iff ∈ fieldRules)
    (part : ∀ record payload, ofRecord record = .accepted payload →
      name.optional single absent record = .accepted (stored payload))
    (passes : single value = .accepted content) :
    name.TakenOver value ofRecord stored content := by
  have distinct : FieldName.AreDistinct (fieldRules.map FieldRule.name) := areDistinct_fieldNames
  exact FieldName.takenOver_of_check distinct (by decide) faults_ofRecord member part passes

/-- A field of a strategy that is accepted by itself is taken over into the strategy. -/
theorem Strategy.takenOver
    {kind : StrategyKind}
    {name : FieldName}
    {value : Value}
    {Admits : Value → Prop}
    {single : Value → Checked β}
    {accepted_iff : ∀ value, (∃ content, single value = .accepted content) ↔ Admits value}
    {check : Record → Checked α}
    {wrap : α → Strategy}
    {stored : α → β}
    {content absent : β}
    (checked : ∀ record, ofRecord kind record = (check record).map wrap)
    (member : FieldRule.ofCheck name false single Admits accepted_iff ∈ fieldRules kind)
    (part : ∀ record strategy, check record = .accepted strategy →
      name.optional single absent record = .accepted (stored strategy))
    (passes : single value = .accepted content) :
    name.TakenOver value check stored content := by
  have distinct := areDistinct_fieldNames kind
  have eachOnce : ((fieldRules kind).map FieldRule.name).Nodup := by
    cases kind <;> decide
  rw [← map_name_fieldRules] at distinct
  refine FieldName.takenOver_of_check distinct eachOnce (fun record => ?_) member part passes
  rw [← faults_ofRecord, checked, Checked.faults_map]

/-- A payload takes each of the risk settings over as it is. -/
structure Risk.IsTaken (risk : Risk) : Prop where
  lots :
    Field.lots.TakenOver (.real risk.lots) Payload.ofRecord
      (fun payload => Binary64.finite payload.lots.val) risk.lots
  slippage :
    Field.slippage.TakenOver (.integer risk.slippage) Payload.ofRecord Payload.slippage
      risk.slippage
  stopLoss :
    Field.stopLoss.TakenOver (.integer risk.stopLoss) Payload.ofRecord Payload.stopLoss
      risk.stopLoss
  takeProfit :
    Field.takeProfit.TakenOver (.integer risk.takeProfit) Payload.ofRecord Payload.takeProfit
      risk.takeProfit
  magicNumber :
    Field.magicNumber.TakenOver (.integer risk.magicNumber) Payload.ofRecord Payload.magicNumber
      risk.magicNumber

/-- Risk settings with a positive order volume are taken over; the integers may be any. -/
theorem Risk.isTaken_of_positive
    {risk : Risk}
    {lots : Lots}
    (isLots : risk.lots = .finite lots.val) :
    risk.IsTaken where
  lots := by
    rw [isLots]
    have taken := Payload.takenOver (List.mem_of_getElem? (i := 3) rfl)
      (fun record payload accepted => (Payload.ofRecord_eq_accepted_iff.mp accepted).2.2.2.1)
      (Scalar.positiveNumber_toValue lots)
    exact taken.map fun lots : Lots => Binary64.finite lots.val
  slippage :=
    Payload.takenOver (List.mem_of_getElem? (i := 4) rfl)
      (fun record payload accepted => (Payload.ofRecord_eq_accepted_iff.mp accepted).2.2.2.2.1) rfl
  stopLoss :=
    Payload.takenOver (List.mem_of_getElem? (i := 5) rfl)
      (fun record payload accepted => (Payload.ofRecord_eq_accepted_iff.mp accepted).2.2.2.2.2.1)
      (Scalar.natural_natCast _)
  takeProfit :=
    Payload.takenOver (List.mem_of_getElem? (i := 6) rfl)
      (fun record payload accepted => (Payload.ofRecord_eq_accepted_iff.mp accepted).2.2.2.2.2.2.1)
      (Scalar.natural_natCast _)
  magicNumber :=
    Payload.takenOver (List.mem_of_getElem? (i := 7) rfl)
      (fun record payload accepted =>
        (Payload.ofRecord_eq_accepted_iff.mp accepted).2.2.2.2.2.2.2.1) rfl

/-- Every buffer of a crossover strategy is taken over. -/
theorem CrossoverStrategy.buffers_takenOver (index : Nat) :
    Field.fastBuffer.TakenOver (.integer index) ofRecord fastBuffer index ∧
      Field.slowBuffer.TakenOver (.integer index) ofRecord slowBuffer index := by
  have checked (record : Record) :
      Strategy.ofRecord .crossover record = (ofRecord record).map .crossover := rfl
  constructor
  · exact Strategy.takenOver checked (List.mem_of_getElem? (i := 1) rfl)
      (fun record settings accepted => (ofRecord_eq_accepted_iff.mp accepted).2.1)
      (Scalar.natural_natCast index)
  · exact Strategy.takenOver checked (List.mem_of_getElem? (i := 2) rfl)
      (fun record settings accepted => (ofRecord_eq_accepted_iff.mp accepted).2.2.1)
      (Scalar.natural_natCast index)

theorem ThresholdStrategy.buffer_takenOver (index : Nat) :
    Field.buffer.TakenOver (.integer index) ofRecord buffer index := by
  have checked (record : Record) :
      Strategy.ofRecord .threshold record = (ofRecord record).map .threshold := rfl
  exact Strategy.takenOver checked (List.mem_of_getElem? (i := 1) rfl)
    (fun record settings accepted => (ofRecord_eq_accepted_iff.mp accepted).2.1)
    (Scalar.natural_natCast index)

theorem ThresholdStrategy.levels_takenOver (level : Option FiniteBinary64) :
    Field.upper.TakenOver (.ofOption FiniteBinary64.toValue level) ofRecord upper level ∧
      Field.lower.TakenOver (.ofOption FiniteBinary64.toValue level) ofRecord lower level := by
  have checked (record : Record) :
      Strategy.ofRecord .threshold record = (ofRecord record).map .threshold := rfl
  constructor
  · exact Strategy.takenOver checked (List.mem_of_getElem? (i := 2) rfl)
      (fun record settings accepted => (ofRecord_eq_accepted_iff.mp accepted).2.2.1)
      (Scalar.optional_ofOption level)
  · exact Strategy.takenOver checked (List.mem_of_getElem? (i := 3) rfl)
      (fun record settings accepted => (ofRecord_eq_accepted_iff.mp accepted).2.2.2.1)
      (Scalar.optional_ofOption level)

/-! Normalising once more. -/

/-- Normalised risk settings have a positive order volume and come back as they are. -/
theorem RawRisk.normalized
    {settings : Settings}
    {standard : Lots}
    {raw : RawRisk}
    {risk : Risk}
    (lots : settings.lots = .finite standard.val)
    (slippage : settings.slippage.natAbs ≤ 2 ^ 53)
    (magicNumber : settings.magicNumber.natAbs ≤ 2 ^ 53)
    (normalized : raw.normalize settings = .ok risk) :
    (∃ lots : Lots, risk.lots = .finite lots.val) ∧ risk.toRaw.normalize settings = .ok risk := by
  obtain ⟨ownSlippage, isSlippage, normalized⟩ := Outcome.bind_eq_ok_iff.mp normalized
  obtain ⟨ownMagicNumber, isMagicNumber, normalized⟩ := Outcome.bind_eq_ok_iff.mp normalized
  obtain ⟨volume, isVolume, normalized⟩ := Outcome.bind_eq_ok_iff.mp normalized
  obtain ⟨stopLoss, isStopLoss, normalized⟩ := Outcome.bind_eq_ok_iff.mp normalized
  obtain ⟨takeProfit, isTakeProfit, normalized⟩ := Outcome.bind_eq_ok_iff.mp normalized
  obtain rfl := Except.ok.inj normalized
  obtain ⟨positive, rfl⟩ := Normalize.exists_lots_of_normalized lots isVolume
  have again := Normalize.lots_of_isNumber (.inl ⟨positive.val, rfl⟩)
    (Scalar.positiveNumber_toValue positive) settings
  have same := RawRisk.normalize_of_exact again (Normalize.isExact_getD isSlippage slippage)
    (Normalize.isExact_of_points isStopLoss) (Normalize.isExact_of_points isTakeProfit)
    (Normalize.isExact_getD isMagicNumber magicNumber)
  exact ⟨⟨positive, rfl⟩, same⟩

/--
Payloads and strategies take all normalised values over as they are, without a
fault in the fields that hold them, and normalising the values once more changes
none of them.  The settings' own order volume must be positive, and their
integers must be at most `2 ^ 53` in size, since they are not rounded at first.
-/
theorem Normalize.takenOver_and_kept
    {settings : Settings}
    {standard : Lots}
    (lots : settings.lots = .finite standard.val)
    (slippage : settings.slippage.natAbs ≤ 2 ^ 53)
    (magicNumber : settings.magicNumber.natAbs ≤ 2 ^ 53) :
    (∀ raw risk, RawRisk.normalize settings raw = .ok risk →
      risk.IsTaken ∧ risk.toRaw.normalize settings = .ok risk) ∧
    (∀ value index, bufferIndex value = .ok index →
      (Field.fastBuffer.TakenOver (.integer index) CrossoverStrategy.ofRecord
          CrossoverStrategy.fastBuffer index ∧
        Field.slowBuffer.TakenOver (.integer index) CrossoverStrategy.ofRecord
          CrossoverStrategy.slowBuffer index ∧
        Field.buffer.TakenOver (.integer index) ThresholdStrategy.ofRecord
          ThresholdStrategy.buffer index) ∧
      bufferIndex (.integer index) = .ok index) ∧
    ∀ value level, threshold value = .ok level →
      (Field.upper.TakenOver (.ofOption FiniteBinary64.toValue level) ThresholdStrategy.ofRecord
          ThresholdStrategy.upper level ∧
        Field.lower.TakenOver (.ofOption FiniteBinary64.toValue level) ThresholdStrategy.ofRecord
          ThresholdStrategy.lower level) ∧
      threshold (.ofOption FiniteBinary64.toValue level) = .ok level := by
  refine ⟨?_, ?_, ?_⟩
  · intro raw risk normalized
    obtain ⟨⟨positive, isLots⟩, again⟩ := RawRisk.normalized lots slippage magicNumber normalized
    exact ⟨Risk.isTaken_of_positive isLots, again⟩
  · intro value index normalized
    obtain ⟨fast, slow⟩ := CrossoverStrategy.buffers_takenOver index
    exact ⟨⟨fast, slow, ThresholdStrategy.buffer_takenOver index⟩,
      bufferIndex_natural (isExact_of_bufferIndex normalized)⟩
  · intro value level _
    refine ⟨ThresholdStrategy.levels_takenOver level, ?_⟩
    cases level <;> rfl

/-- Raw settings that a number stands for only in part. -/
def carelessRisk : RawRisk where
  lots := .text "many"
  slippage := .boolean true
  stopLoss := .integer (-5)
  takeProfit := .real (.finite (.zero true))
  magicNumber := .text " 7.9 "

/-- Careless values are normalised to what a payload takes over. -/
theorem Normalize.takenOver_and_kept_carelessRisk :
    carelessRisk.normalize .standard = .ok ⟨.finite Payload.tenthOfLot.val, 3, 0, 0, 7⟩ ∧
    Risk.IsTaken ⟨.finite Payload.tenthOfLot.val, 3, 0, 0, 7⟩ ∧
    bufferIndex (.text "2") = .ok 2 ∧ bufferIndex (.integer 2) = .ok 2 ∧
    threshold (.text " ") = .ok none ∧ threshold .null = .ok none := by
  have normalized : carelessRisk.normalize .standard =
      .ok ⟨.finite Payload.tenthOfLot.val, 3, 0, 0, 7⟩ := by
    decide +kernel
  have index : bufferIndex (.text "2") = .ok 2 := by decide +kernel
  have level : threshold (.text " ") = .ok none := by decide +kernel
  obtain ⟨risks, indices, levels⟩ := @takenOver_and_kept .standard Payload.tenthOfLot rfl
    (by decide) (by decide)
  exact ⟨normalized, (risks _ _ normalized).1, index, (indices _ _ index).2, level,
    (levels _ _ level).2⟩

end ExpertAdvisor
