import ExpertAdvisor.Proofs.Advisor.SettingLines
import ExpertAdvisor.Proofs.Command.Delivery
import ExpertAdvisor.Proofs.Command.UnusableValues
import ExpertAdvisor.Proofs.Number.IntegerReading
import ExpertAdvisor.Proofs.Number.RoundedIntegers

namespace ExpertAdvisor

open Text Number Code Command

/-!
# Kept integers

Normalising takes an integer through binary64, so an integer is kept where
binary64 holds it.  A payload takes its integers over as they are.  So the magic
number of a generated expert advisor is the payload's for the integers that are
kept, and for no other ones.
-/

namespace Value

/-- A value is an integer, or its decimal text. -/
def Spells
    (value : Value)
    (whole : Int) : Prop :=
  value = .integer whole ∨ value = .text (integerText whole)

variable {value : Value} {whole : Int}

/-- Spelt either way an integer stands for the number nearest to it. -/
theorem Spells.standsFor?
    (spells : value.Spells whole)
    (isLong : IsLong whole) :
    value.standsFor? = (Binary64.ofInt whole).finite? := by
  rcases spells with rfl | rfl
  · rfl
  · have short := Nat.le_trans (decimalLength_le_of_isLong isLong) (show 19 ≤ 310 by decide)
    rw [Value.standsFor?, real?_integerText decimalDigit?_of_isDigit short, Option.bind_some]

/-- Spelt either way an integer is accepted as the integer that it is. -/
theorem Spells.accepted
    (spells : value.Spells whole)
    (isLong : IsLong whole) :
    Scalar.integer value = .accepted whole := by
  rcases spells with rfl | rfl
  · rfl
  · have short : ¬ Scalar.digitLimit < decimalLength whole.natAbs :=
      Nat.not_lt.mpr (Nat.le_trans (decimalLength_le_of_isLong isLong) (by decide))
    have read := integralNumeral?_integerText (fun _ => asciiDigit?_of_isDigit) whole
    simp only [Scalar.integer, Scalar.words?, Scalar.integerOfWords, Option.bind_some, read,
      if_neg short]

end Value

/-! What an integer is normalised to. -/

namespace Normalize

variable {value : Value} {number : FiniteBinary64} {whole : Int}

/-- What is not negative is a distance and an index as it is, but for its fraction. -/
theorem exists_points_and_bufferIndex
    (stands : value.standsFor? = some number)
    (sign : number.negative = decide (whole < 0))
    (notBelow : 0 ≤ whole) :
    ∃ kept : Nat, kept = number.truncated ∧ points value = .ok kept ∧
      bufferIndex value = .ok kept := by
  have counts := @countsAs_of_standsFor? .standard _ _ stands
  have unsigned : number.negative = false := by
    rw [sign, decide_eq_false_iff_not]
    exact Int.not_lt.mpr notBelow
  have nonnegative : number.isNonnegative = true := by
    rw [FiniteBinary64.isNonnegative, unsigned]
    rfl
  have truncatedNotBelow : 0 ≤ number.truncated := by
    rw [FiniteBinary64.truncated, unsigned]
    exact Int.natCast_nonneg _
  refine ⟨number.truncated.toNat, Int.toNat_of_nonneg truncatedNotBelow, ?_, counts.bufferIndex⟩
  rw [counts.points, if_pos nonnegative]

end Normalize

namespace RawRisk

/--
Where raw risk settings give a value that spells an integer, the settings made of
them have another integer instead; as a distance only if it is not negative.
-/
structure Replaces
    (raw : RawRisk)
    (risk : Risk)
    (value : Value)
    (whole kept : Int) : Prop where
  slippage : raw.slippage = value → risk.slippage = kept
  magicNumber : raw.magicNumber = value → risk.magicNumber = kept
  stopLoss : 0 ≤ whole → raw.stopLoss = value → risk.stopLoss = kept
  takeProfit : 0 ≤ whole → raw.takeProfit = value → risk.takeProfit = kept

/-- The number for a value replaces it in the risk settings that it is part of. -/
theorem NormalizesTo.replaces
    {settings : Settings}
    {raw : RawRisk}
    {risk : Risk}
    {value : Value}
    {whole : Int}
    {number : FiniteBinary64}
    (normalizes : NormalizesTo settings raw risk)
    (stands : value.standsFor? = some number)
    (sign : number.negative = decide (whole < 0)) :
    raw.Replaces risk value whole number.truncated := by
  have distance
      {own : Value}
      {points : Nat}
      (normalized : Normalize.points own = .ok points)
      (notBelow : 0 ≤ whole)
      (same : own = value) :
      points = number.truncated := by
    obtain ⟨kept, isKept, isPoints, _⟩ :=
      Normalize.exists_points_and_bufferIndex stands sign notBelow
    rw [same, isPoints] at normalized
    rw [← Except.ok.inj normalized, isKept]
  constructor
  case slippage =>
    rintro rfl
    rw [normalizes.slippage, stands, Option.map_some, Option.getD_some]
  case magicNumber =>
    rintro rfl
    rw [normalizes.magicNumber, stands, Option.map_some, Option.getD_some]
  case stopLoss => exact distance normalizes.stopLoss
  case takeProfit => exact distance normalizes.takeProfit

end RawRisk

/-! The magic number of generated code. -/

namespace Command

/-- Two expert advisors declare their magic number on the same line. -/
def AgreeOnMagicNumber (first second : String) : Prop :=
  ∃ line, declaringLine? first.toList "MagicNumber" = some line ∧
    declaringLine? second.toList "MagicNumber" = some line

/-- Lines of different magic numbers are different. -/
theorem agreeOnMagicNumber_iff
    {first second : String}
    {firstNumber secondNumber : Int}
    (isFirst : declaringLine? first.toList "MagicNumber" =
      some (Payload.magicNumberLine firstNumber).toList)
    (isSecond : declaringLine? second.toList "MagicNumber" =
      some (Payload.magicNumberLine secondNumber).toList) :
    AgreeOnMagicNumber first second ↔ firstNumber = secondNumber := by
  constructor
  · rintro ⟨line, onFirst, onSecond⟩
    rw [isFirst, ← onSecond, isSecond, Option.some.injEq, String.toList_inj] at onFirst
    unfold Payload.magicNumberLine at onFirst
    rw [String.append_left_inj, String.append_right_inj] at onFirst
    exact integerText_injective onFirst
  · rintro rfl
    exact ⟨_, isFirst, isSecond⟩

/-- Generated code declares the magic number that the raw one is normalised to. -/
theorem declaringLine?_of_composedCode
    {settings : Settings}
    {surroundings : Surroundings}
    {source code : String}
    {options : GenerationOptions}
    {request : GenerationRequest}
    (gathered : GenerationRequest.gather settings surroundings source options = .ok request)
    (composed : composedCode settings surroundings source options = .ok code) :
    ∃ risk, request.rawRisk.normalize request.settings = .ok risk ∧
      declaringLine? code.toList "MagicNumber" =
        some (Payload.magicNumberLine risk.magicNumber).toList := by
  rw [composedCode, gathered, Outcome.ok_bind] at composed
  obtain ⟨record, isRecord, composed⟩ := Outcome.bind_eq_ok_iff.mp composed
  obtain ⟨risk, isRisk, written⟩ := Outcome.bind_eq_ok_iff.mp isRecord
  obtain ⟨strategy, _, written⟩ := Outcome.bind_eq_ok_iff.mp written
  obtain rfl := Except.ok.inj written
  refine ⟨risk, Outcome.mapError_eq_ok_iff.mp isRisk, ?_⟩
  exact Composition.declaringLine?_magicNumber (.inr rfl) rfl
    (Outcome.mapError_eq_ok_iff.mp composed)

end Command

/--
Normalising replaces an integer of 64 binary digits by one integer in all places,
and by the integer itself exactly where binary64 holds that.  It does not matter
whether the integer or its decimal text is given.  So a generated expert advisor
has the same magic number as one composed from a payload with the integer exactly
where the integer is held.
-/
theorem Normalize.kept_iff_holds
    {whole : Int}
    (isLong : IsLong whole) :
    ∃ kept : Int, (kept = whole ↔ Binary64.Holds whole) ∧
      ∀ value : Value, value.Spells whole →
        (∀ settings raw, (∀ other ∈ RawRisk.values raw, ¬ other.IsOversized) →
          ∃ risk, raw.normalize settings = .ok risk ∧ raw.Replaces risk value whole kept) ∧
        (0 ≤ whole → ∃ index : Nat, bufferIndex value = .ok index ∧ index = kept) ∧
        ∀ settings surroundings source options request code,
          GenerationRequest.gather settings surroundings source options = .ok request →
          request.rawRisk.magicNumber = value →
          composedCode settings surroundings source options = .ok code →
          declaringLine? code.toList "MagicNumber" = some (Payload.magicNumberLine kept).toList ∧
            ∀ other record given posted, Value.Spells other whole →
              Field.magicNumber.Gives record other →
              Composition.ofValue (.record record) given = .ok posted →
              (AgreeOnMagicNumber code posted ↔ Binary64.Holds whole) := by
  obtain ⟨number, rounded, kept, sign⟩ := Binary64.exists_rounded isLong
  refine ⟨number.truncated, kept, fun value spells => ?_⟩
  have stands : value.standsFor? = some number := by
    rw [spells.standsFor? isLong, rounded]
    rfl
  refine ⟨?_, ?_, ?_⟩
  · intro settings raw fit
    rcases raw.normalize_cases settings with ⟨⟨other, member, oversized⟩, _⟩ | ⟨_, risk, normalizes⟩
    · exact absurd oversized (fit other member)
    · exact ⟨risk, normalizes.whole, normalizes.replaces stands sign⟩
  · intro notBelow
    obtain ⟨index, isKept, _, isIndex⟩ := exists_points_and_bufferIndex stands sign notBelow
    exact ⟨index, isIndex, isKept⟩
  · intro settings surroundings source options request code gathered chosen composed
    obtain ⟨risk, isRisk, declared⟩ := declaringLine?_of_composedCode gathered composed
    have replaced : risk.magicNumber = number.truncated :=
      ((RawRisk.normalizesTo_of_normalize isRisk).replaces stands sign).magicNumber chosen
    rw [replaced] at declared
    refine ⟨declared, fun other record given posted spelt gives isPosted => ?_⟩
    have expected := Composition.declaringLine?_magicNumber gives (spelt.accepted isLong) isPosted
    exact (agreeOnMagicNumber_iff declared expected).trans kept

/-! Two magic numbers of the same size, of which binary64 holds only the even one. -/

/-- An even number beyond two to the power of 53. -/
def heldNumber : Int := 9007199254740994

/-- The odd number before it. -/
def unheldNumber : Int := 9007199254740993

namespace Command

/-- Options that choose the magic number and nothing else. -/
def numberedOptions (magicNumber : Int) : GenerationOptions :=
  { savingOptions with output := none, magicNumber := some magicNumber }

/-- A payload with the magic number as text. -/
def numberedRecord (magicNumber : Int) : Record :=
  [("indicatorName", .text "RSI"), ("magicNumber", .text (integerText magicNumber)),
    ("logicConfig", .record [("kind", .text "crossover")])]

theorem gives_numberedRecord (magicNumber : Int) :
    Field.magicNumber.Gives (numberedRecord magicNumber) (.text (integerText magicNumber)) :=
  .inl rfl

/-- Both numbers are composed, on either surface. -/
theorem exists_composed_numbered
    {magicNumber : Int}
    (usable : magicNumber = heldNumber ∨ magicNumber = unheldNumber) :
    ∃ request code posted,
      GenerationRequest.gather .standard (periodWorkspace.surroundings []) "RSI.mq4"
          (numberedOptions magicNumber) = .ok request ∧
        request.rawRisk.magicNumber = .integer magicNumber ∧
        composedCode .standard (periodWorkspace.surroundings []) "RSI.mq4"
          (numberedOptions magicNumber) = .ok code ∧
        Composition.ofValue (.record (numberedRecord magicNumber)) none = .ok posted := by
  obtain ⟨code, composed⟩ : ∃ code, composedCode .standard (periodWorkspace.surroundings [])
      "RSI.mq4" (numberedOptions magicNumber) = .ok code := by
    refine Outcome.exists_of_isOk ?_
    rcases usable with rfl | rfl <;> decide +kernel
  obtain ⟨posted, isPosted⟩ : ∃ posted,
      Composition.ofValue (.record (numberedRecord magicNumber)) none = .ok posted := by
    refine Outcome.exists_of_isOk ?_
    rcases usable with rfl | rfl <;> decide +kernel
  obtain ⟨request, gathered, _⟩ := Outcome.bind_eq_ok_iff.mp composed
  refine ⟨request, code, posted, gathered, ?_, composed, isPosted⟩
  obtain ⟨text, _, gathered⟩ := Outcome.bind_eq_ok_iff.mp gathered
  obtain ⟨config, _, gathered⟩ := Outcome.bind_eq_ok_iff.mp gathered
  obtain ⟨strategy, _, gathered⟩ := Outcome.bind_eq_ok_iff.mp gathered
  rw [← Except.ok.inj gathered]
  rfl

end Command

/-- A magic number of 54 binary digits that ends in a zero is kept everywhere. -/
theorem Normalize.kept_iff_holds_heldNumber :
    (∃ risk, RawRisk.normalize .standard ⟨.null, .null, .null, .null, .integer heldNumber⟩ =
        .ok risk ∧ risk.magicNumber = heldNumber) ∧
      (∃ index : Nat, bufferIndex (.integer heldNumber) = .ok index ∧ index = heldNumber) ∧
      ∃ code posted,
        composedCode .standard (periodWorkspace.surroundings []) "RSI.mq4"
            (numberedOptions heldNumber) = .ok code ∧
          Composition.ofValue (.record (numberedRecord heldNumber)) none = .ok posted ∧
          AgreeOnMagicNumber code posted := by
  have isLong : IsLong heldNumber := ⟨by decide, by decide⟩
  have held : Binary64.Holds heldNumber := ⟨2 ^ 52 + 1, 1, by decide, by decide⟩
  obtain ⟨kept, same, places⟩ := kept_iff_holds isLong
  obtain rfl := same.mpr held
  obtain ⟨risks, indices, codes⟩ := places (.integer heldNumber) (.inl rfl)
  have fit : ∀ other ∈ RawRisk.values ⟨.null, .null, .null, .null, .integer heldNumber⟩,
      ¬ other.IsOversized := by
    rintro _ member ⟨own, rfl, outside⟩
    obtain rfl : own = heldNumber := by simpa [RawRisk.values] using member
    exact absurd outside (by decide +kernel)
  obtain ⟨risk, normalized, replaces⟩ := risks .standard _ fit
  obtain ⟨request, code, posted, gathered, given, composed, isPosted⟩ :=
    exists_composed_numbered (.inl rfl)
  refine ⟨⟨risk, normalized, replaces.magicNumber rfl⟩, indices (by decide), code, posted, composed,
    isPosted, ?_⟩
  exact ((codes _ _ _ _ _ _ gathered given composed).2 _ _ _ _ (.inr rfl)
    (gives_numberedRecord _) isPosted).mpr held

/-- An odd magic number of 54 binary digits is changed by one, but not in the payload. -/
theorem Normalize.changed_unheldNumber :
    RawRisk.normalize .standard ⟨.null, .null, .null, .null, .integer unheldNumber⟩ =
        .ok ⟨.finite Payload.tenthOfLot.val, 3, 0, 0, 9007199254740992⟩ ∧
      bufferIndex (.text "9007199254740993") = .ok 9007199254740992 ∧
      ∃ code posted,
        composedCode .standard (periodWorkspace.surroundings []) "RSI.mq4"
            (numberedOptions unheldNumber) = .ok code ∧
          Composition.ofValue (.record (numberedRecord unheldNumber)) none = .ok posted ∧
          ¬ AgreeOnMagicNumber code posted := by
  refine ⟨by decide +kernel, by decide +kernel, ?_⟩
  obtain ⟨request, code, posted, gathered, given, composed, isPosted⟩ :=
    exists_composed_numbered (.inr rfl)
  refine ⟨code, posted, composed, isPosted, ?_⟩
  obtain ⟨risk, isRisk, declared⟩ := declaringLine?_of_composedCode gathered composed
  have accepted : Scalar.integer (.text (integerText unheldNumber)) = .accepted unheldNumber := by
    decide +kernel
  have expected := Composition.declaringLine?_magicNumber (gives_numberedRecord _) accepted isPosted
  have stands : (Value.integer unheldNumber).standsFor?.map FiniteBinary64.truncated =
      some 9007199254740992 := by
    decide +kernel
  rw [agreeOnMagicNumber_iff declared expected,
    (RawRisk.normalizesTo_of_normalize isRisk).magicNumber, given, stands, Option.getD_some]
  decide

end ExpertAdvisor
