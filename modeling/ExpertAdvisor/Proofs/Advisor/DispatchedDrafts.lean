import ExpertAdvisor.Advisor.Draft
import ExpertAdvisor.Proofs.Advisor.Outcomes

namespace ExpertAdvisor

/-!
# Dispatched drafts

Composition first looks at the kind that a draft's strategy tells and at the
class of the strategy.  Where both belong together, the draft is composed as one
of that kind.  Everywhere else composition ends there: the fault is told by the
kind and the class alone, whatever else the draft holds, and nothing is noted in
the journal.
-/

namespace Value

/-- Whether a value holds other values; such a value cannot be looked up in a table. -/
def holdsValues : Value → Bool
  | .list _ | .record _ | .misnamed _ _ => true
  | _ => false

end Value

/-- Whether a fault is one of the dispatch. -/
def DraftFault.isOfDispatch : DraftFault → Bool
  | .refused (.unknownKind _) | .refused (.mismatchedStrategy _) | .unhashableKind _ => true
  | _ => false

namespace Draft

variable {draft : Draft} {kind : StrategyKind} {fault : DraftFault}

/-- A draft's strategy tells a kind and has the class of this kind. -/
structure Fits
    (draft : Draft)
    (kind : StrategyKind) : Prop where
  tells : draft.givenKind = .text kind.name
  isOfClass : draft.strategyClass = some kind

/-- What composition does with a draft once its kind is settled. -/
def composeAs
    (draft : Draft)
    (kind : StrategyKind)
    (given : Option (List Parameter)) : Except DraftFault String := do
  let parameters ← draft.parameters given
  match Parameter.clashes parameters with
  | [] => return (← draft.scaffold kind parameters).text
  | name :: more => .error (.refused (.reservedNames (name :: more)))

/-- A draft is composed as its kind, once it is known. -/
theorem composeWith_eq_bind
    (draft : Draft)
    (given : Option (List Parameter)) :
    draft.composeWith given = draft.kind >>= fun kind => draft.composeAs kind given := rfl

/--
Every draft whose strategy tells the same kind and has the same class ends in the
same fault, with any parameters given, and leaves no entry in the journal.
-/
def EndsInDispatch
    (draft : Draft)
    (fault : DraftFault) : Prop :=
  ∀ other : Draft, other.givenKind = draft.givenKind → other.strategyClass = draft.strategyClass →
    (∀ given, other.composeWith given = .error fault) ∧ other.journal = []

/-! Behind the dispatch. -/

/-- An attempt has no fault of the dispatch. -/
def IsDispatched (attempt : Except DraftFault α) : Prop :=
  ∀ fault, attempt = .error fault → fault.isOfDispatch = false

namespace IsDispatched

theorem ok (value : α) : IsDispatched (.ok value) := nofun

theorem pure (value : α) : IsDispatched (Pure.pure value) := nofun

theorem bind
    {attempt : Except DraftFault α}
    {next : α → Except DraftFault β}
    (dispatched : IsDispatched attempt)
    (nextDispatched : ∀ value, IsDispatched (next value)) :
    IsDispatched (attempt >>= next) := by
  intro fault failed
  cases attempt with
  | error firstFault => exact dispatched fault (congrArg Except.error (Except.error.inj failed))
  | ok value => exact nextDispatched value fault failed

theorem map
    {attempt : Except DraftFault α}
    (dispatched : IsDispatched attempt)
    (change : α → β) :
    IsDispatched (attempt.map change) := by
  intro fault failed
  cases attempt with
  | error firstFault => exact dispatched fault (congrArg Except.error (Except.error.inj failed))
  | ok value => cases failed

theorem payloadField
    (draft : Draft)
    (name : String) :
    IsDispatched (draft.payloadField name) := by
  intro fault failed
  rw [Draft.payloadField] at failed
  split at failed
  · cases failed
  · cases failed
    rfl

theorem strategyField
    (draft : Draft)
    (kind : StrategyKind)
    (name : String) :
    IsDispatched (draft.strategyField kind name) := by
  intro fault failed
  rw [Draft.strategyField] at failed
  split at failed
  · cases failed
  · cases failed
    rfl

theorem literalOf (value : Value) : IsDispatched (literalOf value) := by
  intro fault failed
  rw [Draft.literalOf] at failed
  split at failed
  · cases failed
  · cases failed
    rfl

theorem pieceOf
    (position : Nat)
    (value : Value) :
    IsDispatched (pieceOf position value) := by
  intro fault failed
  cases value <;> cases failed <;> rfl

theorem indicatorText (name : Value) : IsDispatched (indicatorText name) := by
  intro fault failed
  cases name <;> cases failed <;> rfl

theorem levelLiteral
    (watched : Bool)
    (level : Value) :
    IsDispatched (levelLiteral watched level) := by
  rw [Draft.levelLiteral]
  split
  · exact (literalOf level).map some
  · exact ok none

theorem directionName (draft : Draft) : IsDispatched draft.directionName := by
  intro fault failed
  rw [Draft.directionName] at failed
  split at failed
  · cases failed
  · cases failed
    rfl

theorem crossoverFragment (draft : Draft) : IsDispatched draft.crossoverFragment := by
  rw [Draft.crossoverFragment]
  refine (strategyField draft _ _).bind fun _ => ?_
  refine (strategyField draft _ _).bind fun _ => ?_
  refine (strategyField draft _ _).bind fun _ => ?_
  exact (strategyField draft _ _).bind fun _ => pure _

theorem thresholdFragment (draft : Draft) : IsDispatched draft.thresholdFragment := by
  rw [Draft.thresholdFragment]
  refine (strategyField draft _ _).bind fun _ => ?_
  refine (levelLiteral _ _).bind fun _ => ?_
  refine (strategyField draft _ _).bind fun _ => ?_
  refine (levelLiteral _ _).bind fun _ => ?_
  refine (strategyField draft _ _).bind fun _ => ?_
  refine (strategyField draft _ _).bind fun _ => ?_
  dsimp only
  apply iteInduction
  · exact fun _ => (directionName draft).bind fun _ => pure _
  · exact fun _ => (ok "").bind fun _ => pure _

/-- What any strategy adds is written without a fault of another kind. -/
theorem fragment
    (draft : Draft)
    (kind : StrategyKind) :
    IsDispatched (draft.fragment kind) := by
  cases kind with
  | crossover => exact (crossoverFragment draft).bind fun _ => pure _
  | threshold => exact (thresholdFragment draft).bind fun _ => pure _
  | custom => exact (strategyField draft _ _).bind fun _ => pure _

theorem risk (draft : Draft) : IsDispatched draft.risk := by
  rw [Draft.risk]
  refine (payloadField draft _).bind fun _ => ?_
  refine (literalOf _).bind fun _ => ?_
  refine (payloadField draft _).bind fun _ => ?_
  refine (payloadField draft _).bind fun _ => ?_
  refine (payloadField draft _).bind fun _ => ?_
  exact (payloadField draft _).bind fun _ => pure _

/-- The parts of an expert advisor are written without a fault of another kind. -/
theorem scaffold
    (draft : Draft)
    (kind : StrategyKind)
    (parameters : List Parameter) :
    IsDispatched (draft.scaffold kind parameters) := by
  rw [Draft.scaffold]
  refine (fragment draft kind).bind fun _ => ?_
  refine (payloadField draft _).bind fun _ => ?_
  refine (risk draft).bind fun _ => ?_
  refine (indicatorText _).bind fun _ => ?_
  refine (payloadField draft _).bind fun _ => ?_
  refine (pieceOf _ _).bind fun _ => ?_
  exact (pieceOf _ _).bind fun _ => pure _

theorem parameters
    (draft : Draft)
    (given : Option (List Parameter)) :
    IsDispatched (draft.parameters given) := by
  cases given with
  | some parameters => exact ok parameters
  | none =>
      refine (payloadField draft _).bind fun source => ?_
      intro fault failed
      cases source <;> cases failed <;> rfl

/-- Behind the dispatch no kind and no class is refused. -/
theorem composeAs
    (draft : Draft)
    (kind : StrategyKind)
    (given : Option (List Parameter)) :
    IsDispatched (draft.composeAs kind given) := by
  rw [Draft.composeAs]
  refine (parameters draft given).bind fun carried => ?_
  split
  · exact (scaffold draft kind carried).bind fun _ => pure _
  · intro fault failed
    cases failed
    rfl

end IsDispatched

/-! Outcomes of the dispatch. -/

/-- A draft whose kind and class belong together is of this kind. -/
theorem kind_of_fits (fits : draft.Fits kind) : draft.kind = .ok kind := by
  have selected := Strategy.selectedKind?_eq_some_iff.mpr fits.tells
  rw [fits.tells] at selected
  simp [Draft.kind, fits.tells, selected, fits.isOfClass]

/-- A draft whose kind names another class than its own is refused. -/
theorem kind_of_mismatch
    (tells : draft.givenKind = .text kind.name)
    (otherClass : draft.strategyClass ≠ some kind) :
    draft.kind = .error (.refused (.mismatchedStrategy kind)) := by
  have selected := Strategy.selectedKind?_eq_some_iff.mpr tells
  rw [tells] at selected
  simp [Draft.kind, tells, selected, otherClass]

/-- A kind that is plain but names none is refused as unknown. -/
theorem kind_of_unknown
    (plain : draft.givenKind.holdsValues = false)
    (unknown : ∀ kind : StrategyKind, draft.givenKind ≠ .text kind.name) :
    draft.kind = .error (.refused (.unknownKind draft.givenKind)) := by
  have noneSelected : Strategy.selectedKind? draft.givenKind = none :=
    Option.eq_none_iff_forall_ne_some.mpr fun kind selected =>
      unknown kind (Strategy.selectedKind?_eq_some_iff.mp selected)
  rw [Draft.kind]
  cases given : draft.givenKind with
  | list _ => rw [given] at plain; cases plain
  | record _ => rw [given] at plain; cases plain
  | misnamed _ _ => rw [given] at plain; cases plain
  | _ => rw [given] at noneSelected; simp [noneSelected]

/-- A kind that holds values cannot be looked up. -/
theorem kind_of_holdsValues (holds : draft.givenKind.holdsValues = true) :
    draft.kind = .error (.unhashableKind draft.givenKind.kindName) := by
  rw [Draft.kind]
  cases given : draft.givenKind with
  | list _ => rfl
  | record _ => rfl
  | misnamed _ _ => rfl
  | _ => rw [given] at holds; cases holds

/-- The dispatch looks at the kind and the class of a strategy only. -/
theorem kind_congr
    {other : Draft}
    (sameKind : other.givenKind = draft.givenKind)
    (sameClass : other.strategyClass = draft.strategyClass) :
    other.kind = draft.kind := by
  rw [Draft.kind, Draft.kind, sameKind, sameClass]

/-- Where the dispatch fails, composition has failed. -/
theorem endsInDispatch_of_kind
    (failed : draft.kind = .error fault) :
    draft.EndsInDispatch fault := by
  intro other sameKind sameClass
  have otherFailed := (kind_congr sameKind sameClass).trans failed
  constructor
  · intro given
    rw [composeWith_eq_bind, otherFailed, Outcome.error_bind]
  · rw [journal, otherFailed]

/--
A draft is composed as one of a kind exactly when its strategy tells the kind and
has its class.  If the class alone does not fit, or the strategy tells another
plain value or none, the draft is refused before anything else is looked at; a
list or a record as the kind makes the dispatch itself fail.
-/
theorem composeWith_dispatches (draft : Draft) :
    (∃ kind, draft.Fits kind ∧ ∀ given, draft.composeWith given = draft.composeAs kind given ∧
      IsDispatched (draft.composeWith given)) ∨
    (∃ kind : StrategyKind, draft.givenKind = .text kind.name ∧ draft.strategyClass ≠ some kind ∧
      draft.EndsInDispatch (.refused (.mismatchedStrategy kind)) ∧
      (DraftFault.refused (.mismatchedStrategy kind)).className = "ConversionError") ∨
    ((∀ kind : StrategyKind, draft.givenKind ≠ .text kind.name) ∧
      draft.givenKind.holdsValues = false ∧
      draft.EndsInDispatch (.refused (.unknownKind draft.givenKind)) ∧
      (DraftFault.refused (.unknownKind draft.givenKind)).className = "UnknownLogicKindError") ∨
    (draft.givenKind.holdsValues = true ∧
      draft.EndsInDispatch (.unhashableKind draft.givenKind.kindName) ∧
      (DraftFault.unhashableKind draft.givenKind.kindName).className = "TypeError") := by
  by_cases known : ∃ kind : StrategyKind, draft.givenKind = .text kind.name
  · obtain ⟨kind, tells⟩ := known
    by_cases isOfClass : draft.strategyClass = some kind
    · have fits : draft.Fits kind := ⟨tells, isOfClass⟩
      refine .inl ⟨kind, fits, fun given => ?_⟩
      rw [composeWith_eq_bind, kind_of_fits fits, Outcome.ok_bind]
      exact ⟨rfl, .composeAs draft kind given⟩
    · exact .inr (.inl ⟨kind, tells, isOfClass,
        endsInDispatch_of_kind (kind_of_mismatch tells isOfClass), rfl⟩)
  · have unknown (kind : StrategyKind) : draft.givenKind ≠ .text kind.name := fun tells =>
      known ⟨kind, tells⟩
    cases holds : draft.givenKind.holdsValues with
    | false =>
        exact .inr (.inr (.inl ⟨unknown, rfl,
          endsInDispatch_of_kind (kind_of_unknown holds unknown), rfl⟩))
    | true =>
        exact .inr (.inr (.inr ⟨rfl, endsInDispatch_of_kind (kind_of_holdsValues holds), rfl⟩))

/-- A strategy of no known class whose kind is a list. -/
def listedDraft : Draft where
  strategyClass := none
  strategy := [("kind", .list [.text "crossover"])]
  payload := [("indicator_name", .text "MyIndicator")]

/-- A list as the kind is not told to be an unknown kind. -/
theorem dispatch_fails_listedDraft :
    (∀ kind : StrategyKind, listedDraft.givenKind ≠ .text kind.name) ∧
      listedDraft.compose = .error (.unhashableKind "list") ∧
      (DraftFault.unhashableKind "list").className = "TypeError" := by
  refine ⟨fun kind => ?_, ?_, rfl⟩
  · cases kind <;> decide
  · rfl

end Draft

end ExpertAdvisor
