import ExpertAdvisor.Proofs.Json.Parts
import ExpertAdvisor.Service.Refusal

namespace ExpertAdvisor

/-!
# Values that can be shown

A refusal shows values without their internal fields.  It can show a value in
which every number is finite and no text or name has half of a surrogate pair.
Both are tests of the parts of a value, and what passes such a test still passes
it when fields are left out.
-/

namespace Value

/--
A test that every list and every record passes as such.  A misnamed record that
passes does so for its names: no selection of them fails, nor does the first
misname.
-/
structure IsPlainTest (test : Value → Bool) : Prop where
  list (items : List Value) : test (.list items) = true
  record (fields : Record) : test (.record fields) = true
  selection {names selected : List (List Text.CodePoint)} {values others : List Value} :
    selected ⊆ names → test (.misnamed names values) = true →
      test (.misnamed selected others) = true
  misname {names : List (List Text.CodePoint)} {values : List Value} :
    test (.misnamed names values) = true →
      test (.unpaired (Misnamed.firstMisname names)) = true

variable {test : Value → Bool}

/-- A value that passes a test with all its parts passes it by itself. -/
theorem test_of_all
    {value : Value}
    (passes : value.all test = true) :
    test value = true := by
  cases value with
  | list items => exact (Bool.and_eq_true_iff.mp passes).1
  | record fields => exact (Bool.and_eq_true_iff.mp passes).1
  | misnamed names values => exact (Bool.and_eq_true_iff.mp passes).1
  | _ => exact passes

/-- Each part of a value that passes with all its parts passes. -/
theorem IsPart.test_of_all
    {part value : Value}
    (isPart : part.IsPart value)
    (plain : IsPlainTest test)
    (passes : value.all test = true) :
    test part = true := by
  induction isPart with
  | whole => exact Value.test_of_all passes
  | item member _ inductionHypothesis =>
      rw [all, Bool.and_eq_true, allItems_iff] at passes
      exact inductionHypothesis (passes.2 _ member)
  | field member _ inductionHypothesis =>
      rw [all, Bool.and_eq_true, allFields_iff] at passes
      exact inductionHypothesis (passes.2 _ member)
  | misnamedField member _ inductionHypothesis =>
      rw [all, Bool.and_eq_true, allItems_iff] at passes
      exact inductionHypothesis (passes.2 _ member)
  | misname _ inductionHypothesis =>
      exact inductionHypothesis (plain.misname (Value.test_of_all passes))

mutual

/-- A value passes with all its parts when each of them passes. -/
theorem all_of_parts
    (value : Value)
    (passes : ∀ part, part.IsPart value → test part = true) :
    value.all test = true :=
  match value with
  | .list items =>
      Bool.and_eq_true_iff.mpr ⟨passes _ .whole, allItems_of_parts items
        fun _ member part isPart => passes part (.item member isPart)⟩
  | .record fields =>
      Bool.and_eq_true_iff.mpr ⟨passes _ .whole, allFields_of_parts fields
        fun _ member part isPart => passes part (.field member isPart)⟩
  | .misnamed _ values =>
      Bool.and_eq_true_iff.mpr ⟨passes _ .whole, allItems_of_parts values
        fun _ member part isPart => passes part (.misnamedField member isPart)⟩
  | .null | .boolean _ | .integer _ | .real _ | .text _ | .unpaired _ | .bytes _ | .moment _ =>
      passes _ .whole

theorem allItems_of_parts
    (items : List Value)
    (passes : ∀ item ∈ items, ∀ part, IsPart part item → test part = true) :
    allItems test items = true :=
  match items with
  | [] => rfl
  | item :: rest =>
      have ⟨itemPasses, restPasses⟩ := List.forall_mem_cons.mp passes
      Bool.and_eq_true_iff.mpr ⟨all_of_parts item itemPasses, allItems_of_parts rest restPasses⟩

theorem allFields_of_parts
    (fields : List (String × Value))
    (passes : ∀ field ∈ fields, ∀ part, IsPart part field.2 → test part = true) :
    allFields test fields = true :=
  match fields with
  | [] => rfl
  | (_, value) :: rest =>
      have ⟨valuePasses, restPasses⟩ := List.forall_mem_cons.mp passes
      Bool.and_eq_true_iff.mpr
        ⟨all_of_parts value valuePasses, allFields_of_parts rest restPasses⟩

end

/-- A plain test of a value and of what is inside it is a test of its parts. -/
theorem all_iff
    (plain : IsPlainTest test)
    {value : Value} :
    value.all test = true ↔ ∀ part, part.IsPart value → test part = true :=
  ⟨fun passes _ isPart => isPart.test_of_all plain passes, all_of_parts value⟩

/-- Fields whose names and values pass make a record that passes. -/
theorem all_ofDistinctFields
    {fields : List (List Text.CodePoint × Value)}
    (plain : IsPlainTest test)
    (names : test (.misnamed (fields.map Prod.fst) (fields.map Prod.snd)) = true)
    (values : ∀ field ∈ fields, field.2.all test = true) :
    (ofDistinctFields fields).all test = true := by
  have allPass : ∀ value ∈ fields.map Prod.snd, value.all test = true :=
    List.forall_mem_map.mpr values
  unfold ofDistinctFields
  split
  case h_1 isNamed =>
    rw [← map_snd_of_named? isNamed, List.forall_mem_map] at allPass
    rw [all, plain.record, Bool.true_and, allFields_iff]
    exact allPass
  case h_2 =>
    rw [all, names, Bool.true_and, allItems_iff]
    exact allPass

end Value

namespace Service

open Value

variable {test : Value → Bool}

/-! Internal fields. -/

mutual

/-- What passes a plain test passes it without its internal fields too. -/
theorem all_withoutInternal
    (plain : IsPlainTest test)
    (value : Value)
    (passes : value.all test = true) :
    (withoutInternal value).all test = true :=
  match value with
  | .list items =>
      Bool.and_eq_true_iff.mpr ⟨plain.list _,
        allItems_withoutInternal plain items (Bool.and_eq_true_iff.mp passes).2⟩
  | .record fields =>
      Bool.and_eq_true_iff.mpr ⟨plain.record _,
        allFields_withoutInternal plain fields (Bool.and_eq_true_iff.mp passes).2⟩
  | .misnamed names values => by
      have ⟨namesPass, valuesPass⟩ := Bool.and_eq_true_iff.mp passes
      have kept := allItems_iff.mp (allItems_withoutInternal plain values valuesPass)
      refine all_ofDistinctFields plain (plain.selection ?_ namesPass) fun field member => ?_
      · intro name member
        obtain ⟨field, isField, rfl⟩ := List.mem_map.mp member
        exact (List.of_mem_zip (List.mem_filter.mp isField).1).1
      · exact kept _ (List.of_mem_zip (List.mem_filter.mp member).1).2
  | .null | .boolean _ | .integer _ | .real _ | .text _ | .unpaired _ | .bytes _ | .moment _ =>
      passes

theorem allItems_withoutInternal
    (plain : IsPlainTest test)
    (items : List Value)
    (passes : allItems test items = true) :
    allItems test (itemsWithoutInternal items) = true :=
  match items with
  | [] => rfl
  | item :: rest =>
      have ⟨itemPasses, restPasses⟩ := Bool.and_eq_true_iff.mp passes
      Bool.and_eq_true_iff.mpr ⟨all_withoutInternal plain item itemPasses,
        allItems_withoutInternal plain rest restPasses⟩

theorem allFields_withoutInternal
    (plain : IsPlainTest test)
    (fields : List (String × Value))
    (passes : allFields test fields = true) :
    allFields test (fieldsWithoutInternal fields) = true :=
  match fields with
  | [] => rfl
  | (name, value) :: rest => by
      have ⟨valuePasses, restPasses⟩ := Bool.and_eq_true_iff.mp passes
      have restKept := allFields_withoutInternal plain rest restPasses
      rw [fieldsWithoutInternal]
      split
      · exact restKept
      · exact Bool.and_eq_true_iff.mpr
          ⟨all_withoutInternal plain value valuePasses, restKept⟩

end

/-! What can be shown. -/

/-- Whether every number in a value is finite, at any depth. -/
def IsFinite (value : Value) : Prop :=
  ∀ number, Value.IsPart (.real number) value → number.isFinite = true

/-- Whether no text and no name in a value has half of a surrogate pair, at any depth. -/
def IsPaired (value : Value) : Prop :=
  ∀ part, Value.IsPart part value → part.isPairedHere = true

/-- A value that a refusal can show as it is. -/
structure CanBeShown (value : Value) : Prop where
  finite : IsFinite value
  paired : IsPaired value

/-- Whether a value is finite is asked of numbers alone. -/
theorem isPlainTest_isFiniteHere : IsPlainTest isFiniteHere where
  list _ := rfl
  record _ := rfl
  selection _ _ := rfl
  misname _ := rfl

/-- Whether a value is paired is asked of texts and names alone. -/
theorem isPlainTest_isPairedHere : IsPlainTest isPairedHere where
  list _ := rfl
  record _ := rfl
  selection among paired := List.all_eq_true.mpr fun name selected =>
    List.all_eq_true.mp paired name (among selected)
  misname {names _} paired := by
    rw [isPairedHere, Misnamed.firstMisname]
    cases found : names.find? fun name => (Text.ofCodePoints? name).isNone with
    | none => rfl
    | some name => exact List.all_eq_true.mp paired name (List.mem_of_find?_eq_some found)

/-- A value passes with all its parts when its numbers are finite. -/
theorem isFinite_iff {value : Value} : value.all isFiniteHere = true ↔ IsFinite value := by
  rw [all_iff isPlainTest_isFiniteHere]
  refine ⟨fun finite number isPart => finite _ isPart, fun finite part isPart => ?_⟩
  cases part with
  | real number => exact finite number isPart
  | _ => rfl

/-- A value is paired when no text or name in it has half of a surrogate pair. -/
theorem isPaired_iff {value : Value} : value.isPaired = true ↔ IsPaired value :=
  all_iff isPlainTest_isPairedHere

/-- A value can be shown when its tests say so. -/
theorem canBeShown_iff {value : Value} :
    CanBeShown value ↔ value.all isFiniteHere = true ∧ value.isPaired = true := by
  rw [isFinite_iff, isPaired_iff]
  exact ⟨fun shown => ⟨shown.finite, shown.paired⟩, fun shown => ⟨shown.1, shown.2⟩⟩

/-- What can be shown has parts that can be shown. -/
theorem CanBeShown.of_isPart
    {part value : Value}
    (shown : CanBeShown value)
    (isPart : part.IsPart value) :
    CanBeShown part where
  finite number inside := shown.finite number (inside.trans isPart)
  paired _ inside := shown.paired _ (inside.trans isPart)

/-- A value that can be shown can be shown without its internal fields. -/
theorem CanBeShown.withoutInternal
    {value : Value}
    (shown : CanBeShown value) :
    CanBeShown (withoutInternal value) := by
  rw [canBeShown_iff] at shown ⊢
  exact ⟨all_withoutInternal isPlainTest_isFiniteHere value shown.1,
    all_withoutInternal isPlainTest_isPairedHere value shown.2⟩

end Service

end ExpertAdvisor
