import ExpertAdvisor.Service.Application

namespace ExpertAdvisor.Service

/-!
# Answers of the service

A response answers with its status and its content; its headers only tell who
may read it.  The answer to a request for an operation is how the operation
ends, wherever the request comes from and whatever the settings are.
-/

/-- Responses that answer alike, apart from their headers. -/
structure Response.AnswersLike (first second : Response) : Prop where
  status : first.status = second.status
  content : first.content = second.content

/-- The response in which an outcome ends. -/
def Outcome.response : Outcome → Response
  | .answered response => response
  | .failed _ => failureResponse

/-- Opening a response to an origin adds headers only. -/
theorem openTo_answersLike
    (settings : Settings)
    (request : Request)
    (origin : String)
    (response : Response) :
    (openTo settings request origin response).AnswersLike response := by
  rw [openTo]
  split
  · exact ⟨rfl, rfl⟩
  · exact ⟨rfl, rfl⟩

namespace Application

/-- However a response is finished, it answers like the outcome. -/
theorem conclude_answersLike
    {finish : Response → Response}
    (request : Request)
    (keeps : ∀ response, (finish response).AnswersLike response)
    (outcome : Outcome) :
    (conclude request finish outcome).result.AnswersLike outcome.response := by
  cases outcome with
  | answered response => exact keeps response
  | failed failure => exact ⟨rfl, rfl⟩

/-- A posted request is answered with the end of its endpoint's operation. -/
theorem run_answersLike_perform
    {application : Application}
    {request : Request}
    {endpoint : Endpoint}
    (posted : request.method = "POST")
    (found : application.endpointAt? request.path = some endpoint)
    (takesPosts : endpoint.methods.contains "POST" = true) :
    (application.run request).result.AnswersLike
      (application.perform endpoint request).result.response := by
  have dispatched : application.dispatch request = application.perform endpoint request := by
    rw [dispatch, found]
    simp only [posted, takesPosts, if_true]
  have isSent (response : Response) : sent request response = response := by
    rw [sent, posted]
    rfl
  have noQuestion : (request.method == "OPTIONS") = false := by
    rw [posted]
    decide
  rw [run, isSent, respond, dispatched, noQuestion]
  cases request.header? "origin" with
  | none => exact conclude_answersLike request (fun _ => ⟨rfl, rfl⟩) _
  | some origin =>
      exact conclude_answersLike request
        (openTo_answersLike application.settings request origin) _

/-- Every service generates at its path. -/
theorem endpointAt?_generate (application : Application) :
    application.endpointAt? "/api/converter/generate" =
      some ⟨"/api/converter/generate", ["POST"], .generate⟩ := by
  rw [endpointAt?, endpoints]
  cases application.settings.isProduction <;> decide

theorem endpointAt?_inputs (application : Application) :
    application.endpointAt? "/api/converter/inputs" =
      some ⟨"/api/converter/inputs", ["POST"], .listInputs⟩ := by
  rw [endpointAt?, endpoints]
  cases application.settings.isProduction <;> decide

end Application

end ExpertAdvisor.Service
