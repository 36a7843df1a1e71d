import ExpertAdvisor.Proofs.Payload.RespelledPayload

namespace ExpertAdvisor

/-!
# Field rules

A rule says of one field whether it is required, which values it admits, and
which faults it finds in the others.  What a document reports is what the rules
of its fields find, each in its own field, and one fault for every key that is
unknown or spells a field a second time.  So a document is accepted exactly when
it fits its rules.
-/

namespace FieldName

/-- A key that spells none of the fields. -/
def IsUnknown
    (names : List FieldName)
    (key : String) : Prop :=
  ∀ name ∈ names, name.spells key = false

/-- A key in snake case of a field that the record gives in camel case too. -/
def IsSecondSpelling
    (names : List FieldName)
    (record : Record)
    (key : String) : Prop :=
  ∃ name ∈ names, key = name.snake ∧ key ≠ name.camel ∧ Record.has record name.camel = true

/-- A key that gives no field: an unknown one, or a second spelling. -/
def IsSurplus
    (names : List FieldName)
    (record : Record)
    (key : String) : Prop :=
  IsUnknown names key ∨ IsSecondSpelling names record key

/-- Whether a key is unknown can be decided. -/
instance (names : List FieldName) (key : String) : Decidable (IsUnknown names key) :=
  inferInstanceAs (Decidable (∀ name ∈ names, _))

/-- Whether a key is a second spelling can be decided. -/
instance (names : List FieldName) (record : Record) (key : String) :
    Decidable (IsSecondSpelling names record key) :=
  inferInstanceAs (Decidable (∃ name ∈ names, _))

/-- Whether a key is surplus can be decided. -/
instance (names : List FieldName) (record : Record) (key : String) :
    Decidable (IsSurplus names record key) :=
  inferInstanceAs (Decidable (_ ∨ _))

/-- One fault for every surplus key, in the order of the keys. -/
def surplusFaults
    (names : List FieldName)
    (record : Record) : List Fault :=
  (record.filter fun entry => IsSurplus names record entry.1).map fun entry =>
    ⟨[.key entry.1], .unknownField, entry.2⟩

variable {names : List FieldName} {name : FieldName} {record : Record} {key : String}
  {value : Value}

/-- Fewer of distinct names are distinct. -/
theorem AreDistinct.subset
    {fewer : List FieldName}
    (distinct : AreDistinct names)
    (subset : fewer ⊆ names) :
    AreDistinct fewer :=
  fun name member other otherMember =>
    distinct name (subset member) other (subset otherMember)

theorem AreDistinct.areApart (distinct : AreDistinct names) : AreApart names := by
  intro name member other otherMember sameSpelling
  apply distinct name member other otherMember
  rcases sameSpelling with sameCamel | sameSnake
  · exact .inl (spells_iff.mpr (.inr sameCamel.symm))
  · exact .inr (spells_iff.mpr (.inr sameSnake.symm))

theorem has_of_mem
    {entry : String × Value}
    (member : entry ∈ record) :
    Record.has record entry.1 = true :=
  List.any_eq_true.mpr ⟨entry, member, beq_self_eq_true _⟩

/-- What is found of a field is given for it. -/
theorem gives_of_found? (found : name.found? record = some (key, value)) :
    name.Gives record value := by
  rw [found?] at found
  cases camelGiven : Record.get? record name.camel with
  | some camelValue =>
      rw [camelGiven] at found
      cases found
      exact .inl camelGiven
  | none =>
      rw [camelGiven] at found
      obtain ⟨_, snakeGiven, same⟩ := Option.map_eq_some_iff.mp found
      cases same
      exact .inr snakeGiven

/-- A field is found under a key of the record in camel case, or else in snake case. -/
theorem exists_found?_iff (present : Record.has record key = true) :
    (∃ value, name.found? record = some (key, value)) ↔
      key = name.camel ∨ key = name.snake ∧ Record.has record name.camel = false := by
  rw [Record.has_eq_isSome_get?] at present ⊢
  rw [found?]
  cases camelGiven : Record.get? record name.camel with
  | some value => simp [eq_comm]
  | none =>
      have notCamel : key ≠ name.camel := by
        rintro rfl
        rw [camelGiven] at present
        exact Bool.false_ne_true present
      constructor
      · rintro ⟨value, found⟩
        obtain ⟨_, _, same⟩ := Option.map_eq_some_iff.mp found
        cases same
        exact .inr ⟨rfl, rfl⟩
      · intro spelled
        obtain ⟨rfl, _⟩ := spelled.resolve_left notCamel
        obtain ⟨value, given⟩ := Option.isSome_iff_exists.mp present
        exact ⟨value, by rw [given, Option.map_some]⟩

/-- A key of the record gives a field exactly when it is not surplus. -/
theorem mem_foundKeys_iff
    (distinct : AreDistinct names)
    (present : Record.has record key = true) :
    key ∈ foundKeys names record ↔ ¬ IsSurplus names record key := by
  have keyed : key ∈ foundKeys names record ↔
      ∃ name ∈ names, ∃ value, name.found? record = some (key, value) := by
    simp [foundKeys, List.mem_filterMap]
  rw [keyed]
  constructor
  · rintro ⟨name, member, found⟩ surplus
    have spelled := (exists_found?_iff present).mp found
    have spells : name.spells key = true := spells_iff.mpr (spelled.imp_right And.left)
    rcases surplus with unknown | ⟨other, otherMember, isSnake, notCamel, camelGiven⟩
    · exact Bool.false_ne_true ((unknown name member).symm.trans spells)
    · -- A key spells one field only, so the second spelling is one of the field that was found.
      obtain rfl := distinct.eq_of_spells member otherMember spells (spells_iff.mpr (.inr isSnake))
      obtain ⟨_, camelMissing⟩ := spelled.resolve_left notCamel
      exact Bool.false_ne_true (camelMissing.symm.trans camelGiven)
  · intro notSurplus
    have known : ¬ IsUnknown names key := fun unknown => notSurplus (.inl unknown)
    simp only [IsUnknown, not_forall, Bool.not_eq_false] at known
    obtain ⟨name, member, spells⟩ := known
    refine ⟨name, member, (exists_found?_iff present).mpr ?_⟩
    rcases spells_iff.mp spells with isCamel | isSnake
    · exact .inl isCamel
    · by_cases isCamel : key = name.camel
      · exact .inl isCamel
      · refine .inr ⟨isSnake, Bool.eq_false_iff.mpr fun camelGiven => ?_⟩
        exact notSurplus (.inr ⟨name, member, isSnake, isCamel, camelGiven⟩)

/-- The faults of stray entries are those of surplus keys. -/
theorem strayFaults_eq_surplusFaults (distinct : AreDistinct names) :
    strayFaults names record = surplusFaults names record := by
  refine congrArg (List.map _) (List.filter_congr fun entry member => ?_)
  have keyed := mem_foundKeys_iff distinct (has_of_mem member)
  by_cases surplus : IsSurplus names record entry.1
  · simp [surplus, mt keyed.mp (not_not_intro surplus)]
  · simp [surplus, keyed.mpr surplus]

/-- No fault is a surplus exactly when no key is. -/
theorem surplusFaults_eq_nil_iff :
    surplusFaults names record = [] ↔ ∀ entry ∈ record, ¬ IsSurplus names record entry.1 := by
  rw [surplusFaults, List.map_eq_nil_iff, List.filter_eq_nil_iff]
  simp only [decide_eq_true_eq]

/-- Without surplus keys a given field is found. -/
theorem exists_found?_of_gives
    (distinct : AreDistinct names)
    (member : name ∈ names)
    (keysKnown : ∀ entry ∈ record, ¬ IsSurplus names record entry.1)
    (gives : name.Gives record value) :
    ∃ key, name.found? record = some (key, value) := by
  have noFaults := surplusFaults_eq_nil_iff.mpr keysKnown
  rw [← strayFaults_eq_surplusFaults distinct, strayFaults_eq_nil_iff] at noFaults
  exact (found_of_gives distinct.areApart member noFaults gives).1

end FieldName

namespace Checked

/-- A check without faults accepts. -/
theorem faults_eq_nil_iff
    {checked : Checked α} :
    checked.faults = [] ↔ ∃ value, checked = .accepted value := by
  cases checked <;> simp [faults]

theorem faults_refused
    {checked : Checked α}
    {fault : Fault}
    {more : List Fault}
    (refused : checked = .refused fault more) :
    checked.faults = fault :: more := by
  rw [refused]
  rfl

end Checked

namespace FieldName

/--
The faults of a field in a record: those of its value, under the key that gives
it, or the absence of a required one, which shows the record.
-/
def faultsIn
    (name : FieldName)
    (isRequired : Bool)
    (faults : Value → List Fault)
    (record : Record) : List Fault :=
  match name.found? record with
  | some (key, value) => (faults value).map (Fault.under (.key key))
  | none => if isRequired then [⟨[.key name.camel], .missing, .record record⟩] else []

variable {name : FieldName} {check : Value → Checked α} {record : Record}

/-- A required field has the faults that its rule finds. -/
theorem faults_required :
    (name.required check record).faults =
      name.faultsIn true (fun value => (check value).faults) record := by
  rw [required, requiredOf, faultsIn]
  cases name.found? record with
  | none => rfl
  | some entry => exact Checked.faults_under _ _

theorem faults_optional
    {absent : α} :
    (name.optional check absent record).faults =
      name.faultsIn false (fun value => (check value).faults) record := by
  rw [optional, faultsIn]
  cases name.found? record with
  | none => rfl
  | some entry => exact Checked.faults_under _ _

end FieldName

/-- What is checked of one field: the faults found in its value, and the values without any. -/
structure FieldRule where
  name : FieldName
  isRequired : Bool
  faults : Value → List Fault
  Admits : Value → Prop
  faults_eq_nil_iff : ∀ value, faults value = [] ↔ Admits value

namespace FieldRule

/-- The rule of a field whose value is checked, and accepted under a condition. -/
def ofCheck
    (name : FieldName)
    (isRequired : Bool)
    (check : Value → Checked α)
    (Admits : Value → Prop)
    (accepted_iff : ∀ value, (∃ content, check value = .accepted content) ↔ Admits value) :
    FieldRule where
  name := name
  isRequired := isRequired
  faults := fun value => (check value).faults
  Admits := Admits
  faults_eq_nil_iff := fun value => Checked.faults_eq_nil_iff.trans (accepted_iff value)

/-- The faults that a rule finds in a record. -/
def faultsIn
    (rule : FieldRule)
    (record : Record) : List Fault :=
  rule.name.faultsIn rule.isRequired rule.faults record

variable {rule : FieldRule} {record : Record}

/-- A field has no faults when it is there, if it must be, and what gives it is admitted. -/
theorem faultsIn_eq_nil_iff :
    rule.faultsIn record = [] ↔
      (rule.isRequired = true → ∃ key value, rule.name.found? record = some (key, value)) ∧
      ∀ key value, rule.name.found? record = some (key, value) → rule.Admits value := by
  rw [faultsIn, FieldName.faultsIn]
  cases rule.name.found? record with
  | none => simp
  | some entry =>
      obtain ⟨key, value⟩ := entry
      simp [rule.faults_eq_nil_iff]

end FieldRule

namespace Record

/--
A record fits rules: no key is surplus, what is required is given, and what is
given admitted.
-/
structure Fits
    (rules : List FieldRule)
    (record : Record) : Prop where
  keys : ∀ entry ∈ record, ¬ FieldName.IsSurplus (rules.map FieldRule.name) record entry.1
  required : ∀ rule ∈ rules, rule.isRequired = true → ∃ value, rule.name.Gives record value
  admitted : ∀ rule ∈ rules, ∀ value, rule.name.Gives record value → rule.Admits value

/-- All that rules report of a record: the faults of the fields in order, then the surplus keys. -/
def faults
    (rules : List FieldRule)
    (record : Record) : List Fault :=
  rules.flatMap (fun rule => rule.faultsIn record) ++
    FieldName.surplusFaults (rules.map FieldRule.name) record

/-- Nothing is reported of a record exactly when it fits the rules. -/
theorem faults_eq_nil_iff
    {rules : List FieldRule}
    {record : Record}
    (distinct : FieldName.AreDistinct (rules.map FieldRule.name)) :
    faults rules record = [] ↔ Fits rules record := by
  rw [faults, List.append_eq_nil_iff, List.flatMap_eq_nil_iff,
    FieldName.surplusFaults_eq_nil_iff]
  constructor
  · rintro ⟨fieldsClear, keys⟩
    refine ⟨keys, ?_, ?_⟩
    · intro rule member isRequired
      have present := (FieldRule.faultsIn_eq_nil_iff.mp (fieldsClear rule member)).1
      obtain ⟨key, value, found⟩ := present isRequired
      exact ⟨value, FieldName.gives_of_found? found⟩
    · intro rule member value gives
      have admitted := (FieldRule.faultsIn_eq_nil_iff.mp (fieldsClear rule member)).2
      obtain ⟨key, found⟩ :=
        FieldName.exists_found?_of_gives distinct (List.mem_map_of_mem member) keys gives
      exact admitted key value found
  · intro fits
    refine ⟨fun rule member => FieldRule.faultsIn_eq_nil_iff.mpr ⟨?_, ?_⟩, fits.keys⟩
    · intro isRequired
      obtain ⟨value, gives⟩ := fits.required rule member isRequired
      obtain ⟨key, found⟩ :=
        FieldName.exists_found?_of_gives distinct (List.mem_map_of_mem member) fits.keys gives
      exact ⟨key, value, found⟩
    · intro key value found
      exact fits.admitted rule member value (FieldName.gives_of_found? found)

end Record

end ExpertAdvisor
