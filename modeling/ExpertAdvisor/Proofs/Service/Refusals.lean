import ExpertAdvisor.Proofs.Advisor.Outcomes
import ExpertAdvisor.Proofs.Payload.ShownParts
import ExpertAdvisor.Proofs.Service.Answers
import ExpertAdvisor.Proofs.Service.ShownValues

namespace ExpertAdvisor.Service

/-!
# Answers to invalid bodies

A body that its model rejects is answered with the faults found in it.  Every
fault shows a part of the body without its internal fields.  A number that is not
finite cannot be shown, nor can half of a surrogate pair: the refusal then fails
and the service answers with an error of its own.
-/

open Value (all allItems allFields allItems_iff allFields_iff IsPlainTest)

/-! Refusals. -/

/-- A fault as a refusal tells it when its value has no bytes. -/
def toldFault (fault : Fault) : Value :=
  .record (faultRecord fault (withoutInternal fault.input))

/-- The content of a refusal that shows all of the faults. -/
def refusalContent (faults : List Fault) : Content :=
  .json (.record (refusalRecord (faults.map toldFault)))

/-- Of what a fault tells, a plain test that its words pass asks for its value alone. -/
theorem all_toldFault
    {test : Value → Bool}
    (plain : IsPlainTest test)
    (text : ∀ content, test (.text content) = true)
    (integer : ∀ number, test (.integer number) = true)
    {fault : Fault}
    (context : allFields test fault.problem.context = true) :
    (toldFault fault).all test = (withoutInternal fault.input).all test := by
  have path : allItems test (fault.path.map Step.toValue) = true := by
    rw [allItems_iff, List.forall_mem_map]
    rintro (name | position) _
    · exact text name
    · exact integer position
  rw [Bool.eq_iff_iff, toldFault, all, plain.record, Bool.true_and, allFields_iff, faultRecord,
    List.forall_mem_append]
  simp only [List.forall_mem_cons, all, text, plain.list, path, Bool.and_true, true_and]
  refine (and_iff_left ?_).trans (and_iff_left (List.forall_mem_nil _))
  split
  · exact List.forall_mem_nil _
  · refine List.forall_mem_singleton.mpr ?_
    rw [all, plain.record, context, Bool.and_true]

/-- What a fault tells is finite when its value is. -/
theorem all_isFiniteHere_toldFault (fault : Fault) :
    (toldFault fault).all isFiniteHere = (withoutInternal fault.input).all isFiniteHere :=
  all_toldFault isPlainTest_isFiniteHere (fun _ => rfl) (fun _ => rfl)
    (by cases fault.problem <;> rfl)

theorem all_isPairedHere_toldFault (fault : Fault) :
    (toldFault fault).all Value.isPairedHere = (withoutInternal fault.input).isPaired :=
  all_toldFault isPlainTest_isPairedHere (fun _ => rfl) (fun _ => rfl)
    (by cases fault.problem <;> rfl)

/-- A fault whose value a refusal can show, without its internal fields. -/
def CanBeTold (fault : Fault) : Prop :=
  CanBeShown (withoutInternal fault.input)

/-- A fault can be told when what it tells passes both tests. -/
theorem canBeTold_iff {fault : Fault} :
    CanBeTold fault ↔ (toldFault fault).all isFiniteHere = true ∧
      (toldFault fault).all Value.isPairedHere = true := by
  rw [all_isFiniteHere_toldFault, all_isPairedHere_toldFault]
  exact canBeShown_iff

/-- Faults can be told when what they tell passes both tests. -/
theorem forall_canBeTold_iff {faults : List Fault} :
    (∀ fault ∈ faults, CanBeTold fault) ↔
      allItems isFiniteHere (faults.map toldFault) = true ∧
        allItems Value.isPairedHere (faults.map toldFault) = true := by
  simp only [allItems_iff, List.forall_mem_map, canBeTold_iff]
  exact ⟨fun told => ⟨fun fault member => (told fault member).1,
    fun fault member => (told fault member).2⟩,
    fun passes fault member => ⟨passes.1 fault member, passes.2 fault member⟩⟩

/-- A value without bytes is shown as it is, apart from its internal fields. -/
theorem shownInput_of_byteFree
    {input : Value}
    (free : input.ByteFree) :
    shownInput input = .ok (withoutInternal input) := by
  cases input with
  | bytes content => exact absurd .whole (free content)
  | _ => rfl

/-- Faults without bytes are told one by one, and telling them does not fail. -/
theorem mapM_faultRecord
    {faults : List Fault}
    (free : ∀ fault ∈ faults, fault.input.ByteFree) :
    (faults.mapM fun fault => do
        let input ← shownInput fault.input
        return Value.record (faultRecord fault input) : Except Failure (List Value)) =
      .ok (faults.map toldFault) := by
  induction faults with
  | nil => rfl
  | cons fault rest inductionHypothesis =>
      obtain ⟨faultFree, restFree⟩ := List.forall_mem_cons.mp free
      rw [List.mapM_cons, inductionHypothesis restFree, shownInput_of_byteFree faultFree]
      rfl

/-- Faults without bytes are all told, or the refusal fails. -/
theorem refusal_cases
    {faults : List Fault}
    (free : ∀ fault ∈ faults, fault.input.ByteFree) :
    ((∀ fault ∈ faults, CanBeTold fault) ∧
        refusal faults = .ok ⟨422, [], refusalContent faults⟩) ∨
      ((¬ ∀ fault ∈ faults, CanBeTold fault) ∧
        ∃ failure, refusal faults = .error failure) := by
  rw [forall_canBeTold_iff, refusal, mapM_faultRecord free]
  cases finite : allItems isFiniteHere (faults.map toldFault) with
  | false =>
      exact .inr ⟨by simp, Failure.outOfRange, by simp only [bind, Except.bind, finite]; rfl⟩
  | true =>
      cases paired : allItems Value.isPairedHere (faults.map toldFault) with
      | false => exact .inr ⟨by simp, _, by simp only [bind, Except.bind, finite, paired]; rfl⟩
      | true => exact .inl ⟨⟨rfl, rfl⟩, by simp only [bind, Except.bind, finite, paired]; rfl⟩

/-! Rejected documents. -/

/-- A body with a document is checked as its document. -/
theorem Body.check?_of_document?
    {body : Body}
    {document : Value}
    (isDocument : body.document? = some document)
    (nullBody : NullBody)
    (check : Value → Checked α) :
    body.check? nullBody check = some (checkDocument nullBody check document) := by
  cases body <;> cases isDocument <;> rfl

/-- What the check of a body accepts, its model accepts. -/
theorem Body.accepted_of_checkDocument
    {nullBody : NullBody}
    {check : Value → Checked α}
    {document : Value}
    {content : α}
    (accepted : checkDocument nullBody check document = .accepted content) :
    check document = .accepted content := by
  unfold checkDocument at accepted
  split at accepted
  · cases nullBody <;> cases accepted
  · exact Checked.under_eq_accepted_iff.mp accepted
  · exact Checked.under_eq_accepted_iff.mp accepted
  · cases accepted

/-- The check of a body shows parts of its document. -/
theorem Body.showsParts_checkDocument
    {check : Value → Checked α}
    (shows : ∀ value, (check value).ShowsParts value)
    (nullBody : NullBody)
    (document : Value) :
    (checkDocument nullBody check document).ShowsParts document := by
  have single (problem : Problem) :
      (Checked.refused ⟨[step], problem, document⟩ [] : Checked α).ShowsParts document :=
    List.forall_mem_singleton.mpr .whole
  unfold checkDocument
  split
  · cases nullBody
    · exact single .missing
    · exact single .notRecord
  · exact (shows _).under .whole
  · exact (shows _).under .whole
  · exact single .notRecord

/-- A rejected document has faults, and is refused for them. -/
theorem withBody_of_rejected
    {request : Request}
    {document : Value}
    {check : Value → Checked α}
    (isDocument : (Body.ofRequest request).document? = some document)
    (rejected : ∀ content, check document ≠ .accepted content)
    (nullBody : NullBody)
    (path : String)
    (next : α → Journaled Outcome) :
    (Body.checkDocument nullBody check document).faults ≠ [] ∧
      withBody nullBody request path check next =
        refuse request.method path (Body.checkDocument nullBody check document).faults := by
  cases checked : Body.checkDocument nullBody check document with
  | accepted content => exact absurd (Body.accepted_of_checkDocument checked) (rejected content)
  | refused fault more =>
      refine ⟨List.cons_ne_nil _ _, ?_⟩
      rw [withBody, Body.check?_of_document? isDocument, checked]
      rfl

/-- The document of a request has no bytes. -/
theorem byteFree_of_ofRequest
    {request : Request}
    {document : Value}
    (isDocument : (Body.ofRequest request).document? = some document) :
    document.ByteFree := by
  have ofJson {bytes : List UInt8} (read : (Body.ofJson bytes).document? = some document) :
      document.ByteFree := by
    unfold Body.ofJson at read
    repeat' split at read
    all_goals cases read
    all_goals exact Json.byteFree_of_readPoints ‹_›
  unfold Body.ofRequest at isDocument
  repeat' split at isDocument
  all_goals first
    | exact ofJson isDocument
    | cases isDocument

/-- The model of the operation at a path rejects a document. -/
def Rejects (path : String) (document : Value) : Prop :=
  (path = "/api/converter/generate" ∧
      ∀ payload, Payload.ofValue document ≠ .accepted payload) ∨
    (path = "/api/converter/inputs" ∧
      ∀ asked, InputsRequest.ofValue document ≠ .accepted asked)

/-- The faults that the operation at a path finds in a document. -/
def faultsAt
    (nullBody : NullBody)
    (path : String)
    (document : Value) : List Fault :=
  if path = "/api/converter/generate" then
    (Body.checkDocument nullBody Payload.ofValue document).faults
  else
    (Body.checkDocument nullBody InputsRequest.ofValue document).faults

/-- Every fault in a document shows a part of it. -/
theorem isPart_of_mem_faultsAt
    (nullBody : NullBody)
    (path : String)
    (document : Value) :
    ∀ fault ∈ faultsAt nullBody path document, fault.input.IsPart document := by
  rw [faultsAt]
  split
  · exact Body.showsParts_checkDocument Payload.showsParts_ofValue nullBody document
  · exact Body.showsParts_checkDocument InputsRequest.showsParts_ofValue nullBody document

/-- A rejected document has faults; it is refused for them, and the refusal may fail. -/
theorem run_answersLike_refuse
    (application : Application)
    {request : Request}
    {document : Value}
    (posted : request.method = "POST")
    (isDocument : (Body.ofRequest request).document? = some document)
    (rejected : Rejects request.path document) :
    let faults := faultsAt application.nullBody request.path document
    faults ≠ [] ∧
      (application.run request).result.AnswersLike
        (refuse request.method request.path faults).result.response := by
  rcases rejected with ⟨isGenerate, rejects⟩ | ⟨isInputs, rejects⟩
  · have found := application.endpointAt?_generate
    rw [← isGenerate] at found
    have answer := Application.run_answersLike_perform posted found rfl
    have ended := withBody_of_rejected isDocument rejects application.nullBody request.path
      (generate application.steps request.path)
    rw [Application.perform, ended.2] at answer
    rw [faultsAt, if_pos isGenerate]
    exact ⟨ended.1, answer⟩
  · have found := application.endpointAt?_inputs
    rw [← isInputs] at found
    have answer := Application.run_answersLike_perform posted found rfl
    have ended := withBody_of_rejected isDocument rejects application.nullBody request.path
      (listInputs application.steps request.path)
    rw [Application.perform, ended.2] at answer
    rw [faultsAt, if_neg (by rw [isInputs]; decide)]
    exact ⟨ended.1, answer⟩

/-- A refusal of faults without bytes tells them all, or fails for one that cannot be told. -/
theorem refuse_cases
    {faults : List Fault}
    (free : ∀ fault ∈ faults, fault.input.ByteFree)
    (method path : String) :
    ((∀ fault ∈ faults, CanBeTold fault) ∧
        (refuse method path faults).result.response = ⟨422, [], refusalContent faults⟩) ∨
      ((¬ ∀ fault ∈ faults, CanBeTold fault) ∧
        (refuse method path faults).result.response = failureResponse) := by
  rcases refusal_cases free with ⟨allTold, refused⟩ | ⟨notTold, failure, failed⟩
  · exact .inl ⟨allTold, by rw [refuse, refused]; rfl⟩
  · exact .inr ⟨notTold, by rw [refuse, failed]; rfl⟩

/--
A posted document that its model rejects is answered with all the faults found
in it, of which there is at least one, exactly when the parts that the faults
show, without their internal fields, have finite numbers only and no half of a
surrogate pair.  Otherwise the answer is an error of the service.  A document in
which every number is finite and no surrogate stands alone is never answered so.
-/
theorem answer_to_rejected
    (application : Application)
    {request : Request}
    {document : Value}
    (posted : request.method = "POST")
    (isDocument : (Body.ofRequest request).document? = some document)
    (rejected : Rejects request.path document) :
    let answer := (application.run request).result
    let faults := faultsAt application.nullBody request.path document
    faults ≠ [] ∧
      (answer.status = 422 ∧ answer.content = refusalContent faults ↔
        ∀ fault ∈ faults, CanBeTold fault) ∧
      (answer.status = 500 ↔ ∃ fault ∈ faults, ¬ CanBeTold fault) ∧
      (CanBeShown document → answer.status = 422 ∧ answer.content = refusalContent faults) := by
  intro answer faults
  have parts : ∀ fault ∈ faults, fault.input.IsPart document := isPart_of_mem_faultsAt _ _ _
  have free : ∀ fault ∈ faults, fault.input.ByteFree := fun fault member content part =>
    byteFree_of_ofRequest isDocument content (part.trans (parts fault member))
  obtain ⟨faulty, answered⟩ := run_answersLike_refuse application posted isDocument rejected
  have whole (shown : CanBeShown document) : ∀ fault ∈ faults, CanBeTold fault :=
    fun fault member => (shown.of_isPart (parts fault member)).withoutInternal
  refine ⟨faulty, ?_⟩
  rcases refuse_cases free request.method request.path with
    ⟨allTold, refused⟩ | ⟨notTold, failed⟩
  · have told : answer.status = 422 ∧ answer.content = refusalContent faults := by
      rw [answered.status, answered.content, refused]
      exact ⟨rfl, rfl⟩
    refine ⟨iff_of_true told allTold, iff_of_false ?_ ?_, fun _ => told⟩
    · rw [told.1]
      decide
    · rintro ⟨fault, member, notTold⟩
      exact notTold (allTold fault member)
  · have status : answer.status = 500 := by
      rw [answered.status, failed]
      rfl
    refine ⟨iff_of_false ?_ notTold, iff_of_true status (by simpa using notTold),
      fun shown => absurd (whole shown) notTold⟩
    rw [status]
    exact fun told => absurd told.1 (by decide)

/-! Requests with bodies that are rejected. -/

/-- A service with the settings that hold unless something else is set. -/
def standardApplication : Application :=
  (Application.create .standard .shipped (.standard .standard)).result

/-- A request for an indicator's parameters, with a body of JSON. -/
def inputsRequest (body : String) : Request :=
  ⟨"POST", "/api/converter/inputs", none, [], Text.encodeText body⟩

/-- A body without an indicator is refused for the field that is missing. -/
theorem answer_to_rejected_empty_record :
    (standardApplication.run (inputsRequest "\x7b\x7d")).result.status = 422 ∧
      (standardApplication.run (inputsRequest "\x7b\x7d")).result.content =
        refusalContent [⟨[.key "body", .key "indicatorCode"], .missing, .record []⟩] := by
  have isDocument : (Body.ofRequest (inputsRequest "\x7b\x7d")).document? = some (.record []) := by
    decide +kernel
  have rejected : Rejects "/api/converter/inputs" (.record []) :=
    .inr ⟨rfl, fun asked => nofun⟩
  have shown : CanBeShown (.record []) := canBeShown_iff.mpr ⟨rfl, rfl⟩
  exact (answer_to_rejected standardApplication rfl isDocument rejected).2.2.2 shown

-- The refusal would show the whole record, and half of a surrogate pair in it.
example :
    (standardApplication.run (inputsRequest "\x7b\"x\": \"\\ud800\"\x7d")).result.status =
      500 := by
  decide +kernel

-- An internal field is not shown, whatever it holds.
example :
    (standardApplication.run (inputsRequest "\x7b\"_sax\": NaN\x7d")).result.status = 422 := by
  decide +kernel

/-- A body with NaN for its indicator is rejected, but the refusal cannot show it and fails. -/
theorem answer_to_rejected_not_a_number :
    Rejects "/api/converter/inputs" (.record [("indicatorCode", .real .nan)]) ∧
      Body.ofRequest (inputsRequest "\x7b\"indicatorCode\": NaN\x7d") =
        .document (.record [("indicatorCode", .real .nan)]) ∧
      (standardApplication.run (inputsRequest "\x7b\"indicatorCode\": NaN\x7d")).result.status =
        500 := by
  have rejected : Rejects "/api/converter/inputs" (.record [("indicatorCode", .real .nan)]) :=
    .inr ⟨rfl, fun asked => nofun⟩
  exact ⟨rejected, by decide +kernel, by decide +kernel⟩

end ExpertAdvisor.Service
