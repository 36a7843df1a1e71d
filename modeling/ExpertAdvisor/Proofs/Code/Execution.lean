import ExpertAdvisor.Advisor.Order
import ExpertAdvisor.Proofs.Code.Instruction

namespace ExpertAdvisor

/-!
# Running instructions

Instructions run in a session, which knows variables and open positions and
keeps the orders given so far.  The indicator gives an arbitrary number for each
buffer and bar.  Numbers compare as binary64 numbers do, so a value that is not
a number compares with nothing.  Running fails where code has no meaning: where
a variable is unknown, a value does not fit, or a function does not exist.
-/

namespace FiniteBinary64

/-- The number, counted in the least positive number. -/
def signedMagnitude (number : FiniteBinary64) : Int :=
  if number.negative then -(number.magnitude : Int) else number.magnitude

end FiniteBinary64

namespace Binary64

/-- How two numbers stand to each other; what is not a number stands nowhere. -/
def compare? : Binary64 → Binary64 → Option Ordering
  | .nan, _ | _, .nan => none
  | .infinite first, .infinite second => some (compare second first)
  | .infinite negative, .finite _ => some (if negative then .lt else .gt)
  | .finite _, .infinite negative => some (if negative then .gt else .lt)
  | .finite first, .finite second => some (compare first.signedMagnitude second.signedMagnitude)

end Binary64

/-- An order that an expert advisor gives: it closes a side's positions, or opens one more. -/
inductive Order where
  | closing (side : Side)
  | opening (side : Side)
  deriving Repr, DecidableEq

namespace Order

/-- The positions that are open after an order. -/
def apply (positions : List Side) : Order → List Side
  | .closing side => positions.filter fun position => position != side
  | .opening side => side :: positions

end Order

/-- What the market shows on a tick: the indicator's numbers, and the number for a missing one. -/
structure Market where
  indicator : Int → Int → Binary64
  emptyValue : Binary64

namespace Code

/-- Whether two numbers compare in a given way. -/
def Comparator.holds
    (comparator : Comparator)
    (first second : Binary64) : Bool :=
  match comparator, Binary64.compare? first second with
  | .equal, some .eq => true
  | .less, some .lt => true
  | .atMost, some ordering => ordering.isLE
  | .greater, some .gt => true
  | .atLeast, some ordering => ordering.isGE
  | _, _ => false

/-- What a variable can hold. -/
inductive Datum where
  | number (value : Binary64)
  | integer (value : Int)
  | flag (value : Bool)
  deriving Repr, DecidableEq

namespace Datum

/-- The number that a datum is. -/
def number? : Datum → Option Binary64
  | .number value => some value
  | _ => none

/-- The integer that a datum is. -/
def integer? : Datum → Option Int
  | .integer value => some value
  | _ => none

/-- The flag that a datum is. -/
def flag? : Datum → Option Bool
  | .flag value => some value
  | _ => none

end Datum

/-- Whether a variable of a type can hold a value. -/
def ValueType.admits : ValueType → Datum → Bool
  | .double, .number _ | .bool, .flag _ => true
  | _, _ => false

/-- Variables, the latest first, with the open positions and the orders given so far. -/
structure Session where
  bindings : List (String × Datum)
  positions : List Side
  orders : List Order
  deriving Repr, DecidableEq

namespace Session

/-- The datum that a name is bound to. -/
def datum?
    (session : Session)
    (name : String) : Option Datum :=
  session.bindings.lookup name

/-- Binds a name to a datum; an earlier binding is hidden. -/
def declare
    (session : Session)
    (name : String)
    (value : Datum) : Session :=
  { session with bindings := (name, value) :: session.bindings }

/-- The session after an order. -/
def give
    (session : Session)
    (order : Order) : Session :=
  { session with
    positions := order.apply session.positions
    orders := session.orders ++ [order] }

theorem datum?_mk
    (bindings : List (String × Datum))
    (positions : List Side)
    (orders : List Order)
    (name : String) :
    Session.datum? ⟨bindings, positions, orders⟩ name = bindings.lookup name :=
  rfl

theorem datum?_declare
    (session : Session)
    (name other : String)
    (value : Datum) :
    (session.declare name value).datum? other =
      if other = name then some value else session.datum? other := by
  by_cases same : other = name
  · simp [datum?, declare, same]
  · have apart : (other == name) = false := beq_eq_false_iff_ne.mpr same
    simp [datum?, declare, List.lookup_cons, apart, same]

@[simp]
theorem positions_declare
    (session : Session)
    (name : String)
    (value : Datum) :
    (session.declare name value).positions = session.positions :=
  rfl

@[simp]
theorem orders_declare
    (session : Session)
    (name : String)
    (value : Datum) :
    (session.declare name value).orders = session.orders :=
  rfl

/-- The session with a variable for each of some items. -/
def declareAll
    (session : Session)
    (name : α → String)
    (value : α → Datum)
    (items : List α) : Session :=
  items.foldl (fun earlier item => earlier.declare (name item) (value item)) session

section DeclareAll

variable {session : Session} {name : α → String} {value : α → Datum} {items : List α}

/-- Binding names changes no position. -/
@[simp]
theorem positions_declareAll :
    (session.declareAll name value items).positions = session.positions := by
  induction items generalizing session with
  | nil => rfl
  | cons item rest inductionHypothesis => exact inductionHypothesis

@[simp]
theorem orders_declareAll :
    (session.declareAll name value items).orders = session.orders := by
  induction items generalizing session with
  | nil => rfl
  | cons item rest inductionHypothesis => exact inductionHypothesis

theorem datum?_declareAll_of_ne
    {other : String}
    (differs : ∀ item ∈ items, other ≠ name item) :
    (session.declareAll name value items).datum? other = session.datum? other := by
  induction items generalizing session with
  | nil => rfl
  | cons item rest inductionHypothesis =>
      obtain ⟨itemDiffers, restDiffers⟩ := List.forall_mem_cons.mp differs
      have goesOn := @inductionHypothesis (session.declare (name item) (value item)) restDiffers
      rwa [datum?_declare, if_neg itemDiffers] at goesOn

/-- Each of several names means its own datum, when the names differ. -/
theorem datum?_declareAll
    {item : α}
    (injective : Function.Injective name)
    (member : item ∈ items) :
    (session.declareAll name value items).datum? (name item) = some (value item) := by
  induction items generalizing session with
  | nil => exact absurd member List.not_mem_nil
  | cons first rest inductionHypothesis =>
      by_cases inRest : item ∈ rest
      · exact inductionHypothesis inRest
      · obtain rfl := (List.mem_cons.mp member).resolve_right inRest
        have apart : ∀ other ∈ rest, name item ≠ name other := fun other isOther same =>
          inRest (injective same ▸ isOther)
        have kept := @datum?_declareAll_of_ne _ (session.declare (name item) (value item)) name
          value rest (name item) apart
        rwa [datum?_declare, if_pos rfl] at kept

end DeclareAll

/-- Giving an order changes no name. -/
@[simp]
theorem datum?_give
    (session : Session)
    (order : Order)
    (name : String) :
    (session.give order).datum? name = session.datum? name :=
  rfl

end Session

/-- The side for which a direction stands. -/
def directedSide? (direction : Int) : Option Side :=
  if 0 < direction then some .buy else if direction < 0 then some .sell else none

/-- The side on which a type of order opens a position. -/
def orderedSide? : Int → Option Side
  | 0 => some .buy
  | 1 => some .sell
  | _ => none

/-- What a function gives that leaves the session as it is. -/
def called?
    (indicator : Int → Int → Binary64)
    (positions : List Side)
    (function : String)
    (arguments : List Datum) : Option Datum :=
  match function, arguments with
  | "GetIndicatorValue", [.integer buffer, .integer shift] =>
      some (.number (indicator buffer shift))
  | "HasOpenPosition", [.integer direction] =>
      (directedSide? direction).map fun side => .flag (positions.contains side)
  | _, _ => none

/-- The order that a call of a function gives. -/
def ordered?
    (function : String)
    (arguments : List Datum) : Option Order :=
  match function, arguments with
  | "ClosePositions", [.integer direction] => (directedSide? direction).map .closing
  | "OpenOrder", [.integer orderType] => (orderedSide? orderType).map .opening
  | _, _ => none

section Evaluation

variable (indicator : Int → Int → Binary64) (session : Session)

/-- What a term means in a session. -/
def Term.value? : Term → Option Datum
  | .name word => session.datum? word
  | .integer value => some (.integer value)

/-- What an atom means in a session; a call may ask the indicator or the positions. -/
def Atom.value? : Atom → Option Datum
  | .term content => content.value? session
  | .call function arguments => do
      called? indicator session.positions function (← arguments.mapM (Term.value? session))

/-- What a test means in a session: a flag, unless it is a plain atom. -/
def Test.value? : Test → Option Datum
  | .plain atom => atom.value? indicator session
  | .negated atom => do
      let held ← (← atom.value? indicator session).flag?
      return .flag !held
  | .compared left comparator right => do
      let first ← (← left.value? indicator session).number?
      let second ← (← right.value? indicator session).number?
      return .flag (comparator.holds first second)

end Evaluation

/-- Evaluates items up to the first that has the deciding value; an item alone may be no flag. -/
def decided?
    (deciding : Bool)
    (value? : α → Option Datum) :
    List α → Option Datum
  | [] => none
  | [item] => value? item
  | item :: next :: more => do
      let held ← (← value? item).flag?
      if held = deciding then
        return .flag deciding
      else
        let later ← (← decided? deciding value? (next :: more)).flag?
        return .flag later

/-- The value of a condition: an alternative must hold with all its tests. -/
def conditionValue?
    (indicator : Int → Int → Binary64)
    (session : Session)
    (condition : Condition) : Option Datum :=
  decided? true (decided? false (Test.value? indicator session)) condition

/-- Whether a run goes on after an instruction, or has left the function. -/
inductive Course where
  | onward
  | finished
  deriving Repr, DecidableEq

mutual

/-- Runs an instruction, and says whether the tick goes on behind it. -/
def Instruction.run?
    (indicator : Int → Int → Binary64)
    (session : Session) :
    Instruction → Option (Course × Session)
  | .declare type name value => do
      let datum ← conditionValue? indicator session value
      if type.admits datum then return (.onward, session.declare name datum) else none
  | .leave => some (.finished, session)
  | .perform function arguments => do
      let order ← ordered? function (← arguments.mapM (Term.value? session))
      return (.onward, session.give order)
  | .block body => do
      -- The variables of a block end with it.
      let (course, later) ← runAll? indicator session body
      return (course, { later with bindings := session.bindings })
  | .choose condition accepted => do
      let held ← (← conditionValue? indicator session condition).flag?
      if held then accepted.run? indicator session else return (.onward, session)
  | .chooseOr condition accepted otherwise => do
      let held ← (← conditionValue? indicator session condition).flag?
      if held then accepted.run? indicator session else otherwise.run? indicator session

/-- Runs instructions one after another, until one finishes the tick. -/
def runAll?
    (indicator : Int → Int → Binary64)
    (session : Session) :
    List Instruction → Option (Course × Session)
  | [] => some (.onward, session)
  | instruction :: rest => do
      match ← instruction.run? indicator session with
      | (.finished, later) => return (.finished, later)
      | (.onward, later) => runAll? indicator later rest

end

section Running

variable {indicator : Int → Int → Binary64} {session later : Session}
variable {first second : List Instruction}

/-- A branch is run exactly when its condition holds. -/
theorem run?_choose
    {condition : Condition}
    {accepted : Instruction}
    {held : Bool}
    (known : conditionValue? indicator session condition = some (.flag held)) :
    (Instruction.choose condition accepted).run? indicator session =
      if held then accepted.run? indicator session else some (.onward, session) := by
  simp [Instruction.run?, known, Datum.flag?]

/-- One of two branches is run, as the condition tells. -/
theorem run?_chooseOr
    {condition : Condition}
    {accepted otherwise : Instruction}
    {held : Bool}
    (known : conditionValue? indicator session condition = some (.flag held)) :
    (Instruction.chooseOr condition accepted otherwise).run? indicator session =
      if held then accepted.run? indicator session else otherwise.run? indicator session := by
  simp [Instruction.run?, known, Datum.flag?]

/-- Behind an instruction that goes on, the rest is run. -/
theorem runAll?_cons_of_onward
    {instruction : Instruction}
    (ran : instruction.run? indicator session = some (.onward, later)) :
    runAll? indicator session (instruction :: second) = runAll? indicator later second := by
  simp [runAll?, ran]

/-- A run that goes on through the first instructions goes on with the second. -/
theorem runAll?_append_of_onward
    (ran : runAll? indicator session first = some (.onward, later)) :
    runAll? indicator session (first ++ second) = runAll? indicator later second := by
  induction first generalizing session with
  | nil =>
      rw [runAll?, Option.some.injEq, Prod.mk.injEq] at ran
      rw [List.nil_append, ran.2]
  | cons instruction rest inductionHypothesis =>
      rw [runAll?] at ran
      rw [List.cons_append, runAll?]
      rcases step : instruction.run? indicator session with _ | ⟨course, next⟩
      · simp [step] at ran
      · cases course with
        | onward =>
            simp only [step, Option.bind_eq_bind, Option.bind_some] at ran
            simpa using inductionHypothesis ran
        | finished => simp [step] at ran

/-- A run that leaves the function in the first instructions does not reach the second. -/
theorem runAll?_append_of_finished
    (ran : runAll? indicator session first = some (.finished, later)) :
    runAll? indicator session (first ++ second) = some (.finished, later) := by
  induction first generalizing session with
  | nil => simp [runAll?] at ran
  | cons instruction rest inductionHypothesis =>
      rw [runAll?] at ran
      rw [List.cons_append, runAll?]
      rcases step : instruction.run? indicator session with _ | ⟨course, next⟩
      · simp [step] at ran
      · cases course with
        | onward =>
            simp only [step, Option.bind_eq_bind, Option.bind_some] at ran
            simpa using inductionHypothesis ran
        | finished => simpa [step] using ran

/-- A decision over changed items is one over the items themselves. -/
theorem decided?_map
    (deciding : Bool)
    (value? : β → Option Datum)
    (change : α → β)
    (items : List α) :
    decided? deciding value? (items.map change) =
      decided? deciding (fun item => value? (change item)) items := by
  induction items with
  | nil => rfl
  | cons item rest inductionHypothesis =>
      cases rest with
      | nil => rfl
      | cons next more =>
          rw [List.map_cons] at inductionHypothesis
          simp only [List.map_cons, decided?, inductionHypothesis]

/-- Items that are all flags: all must hold, or any, as the deciding value says. -/
theorem decided?_eq_flag
    {deciding : Bool}
    {items : List α}
    {value? : α → Option Datum}
    {holds : α → Bool}
    (someItems : items ≠ [])
    (known : ∀ item ∈ items, value? item = some (.flag (holds item))) :
    decided? deciding value? items =
      some (.flag (if deciding then items.any holds else items.all holds)) := by
  induction items with
  | nil => exact absurd rfl someItems
  | cons item more inductionHypothesis =>
      obtain ⟨itemKnown, moreKnown⟩ := List.forall_mem_cons.mp known
      cases more with
      | nil => simpa [decided?] using itemKnown
      | cons next others =>
          have goesOn := inductionHypothesis (List.cons_ne_nil _ _) moreKnown
          cases deciding <;> cases shape : holds item <;>
            simp [decided?, itemKnown, goesOn, Datum.flag?, shape]

end Running

end Code

end ExpertAdvisor
