import Scholia.Oracle.Registry
import Scholia.Oracle.Retry

/-! # Asking for comments

A comment is asked for by the bundle of a declaration. A kept response is served if there is one;
otherwise the provider is asked until it gives a usable reply, and a comment is kept. All this is done
step by step, so that requests can overlap. That a request may have to wait at the gate makes no
difference but to when its next step comes.
-/

namespace Scholia

/-- What may be chosen for one request. -/
structure GenerationOptions where
  modelId : Option String := none
  /-- Serve no kept response. -/
  forceFresh : Bool := false
  maxRetries : Option Int := none
  temperature : Option Number := none
  maxTokens : Option Int := none

namespace Oracle

variable {σ : Type}

/-- The key of a response in the cache. -/
def cacheKey (unitId modelId : String) : String :=
  s!"jsdoc:{unitId}:{modelId}"

/-- The request for a comment: what is chosen comes before the settings of the model, and these
    before the general ones. -/
def commentRequest (oracle : Oracle) (entry : Registered) (bundle : Bundle)
    (options : GenerationOptions) : CompletionRequest :=
  entry.endpoint.completion (Prompt.messages bundle oracle.examples)
    ((options.temperature.or entry.model.temperature).getD oracle.settings.temperature)
    ((options.maxTokens.or entry.model.maxTokens).getD oracle.settings.maxTokens)
    entry.model.stop entry.model.topP

def retries (oracle : Oracle) (chosen : Option Int) : Int :=
  chosen.getD oracle.settings.maxRetries

/-- Judge a reply: a fence is taken off, and the word for declining is told from a comment. -/
def judge (modelId reply : String) : Except OracleFailure Response :=
  let text := Reply.stripFence reply.toList
  if text = Reply.decline then .ok (.skipped "Oracle declined to document" modelId)
  else
    match Reply.fault? text with
    | some fault => .error (.unusable fault)
    | none => .ok (.ok (String.ofList text) modelId)

def kept (oracle : Oracle) (entry : Registered) (bundle : Bundle) (options : GenerationOptions)
    (session : Session σ) : Option Response × Session σ :=
  if options.forceFresh then (none, session)
  else
    let (value, session) := session.lookUp oracle.cache (cacheKey bundle.id entry.model.id)
      (some bundle.snippet.toList)
    ((value.bind oracle.form.read).map fun response => { response with cached := true }, session)

/-- Keep a response if it is a comment. -/
def keepComment (oracle : Oracle) (entry : Registered) (bundle : Bundle) (response : Response)
    (session : Session σ) : Session σ :=
  if response.isSuccess then
    session.keep oracle.cache (cacheKey bundle.id entry.model.id) (oracle.form.write response)
      (some bundle.snippet.toList)
  else session

/-- The response after a number of attempts that all failed. -/
def exhausted (modelId : String) (retries : Int) (last : Option OracleFailure) : Response :=
  let reason := OracleFailure.lastText (last.map (·.message))
  .failed s!"Failed after {retries + 1} attempts: {reason}" (some modelId)

/-- Send a call, have it answered, and judge the reply. -/
def askCourse (provider : Provider σ) (entry : Registered) (request : CompletionRequest) :
    Course (Session σ) (Except OracleFailure Response) := do
  Course.once fun session => ((), session.send (.completion request))
  let reply ← Course.once fun session => session.answer provider request
  let heard ← Course.once fun session => session.hear entry.endpoint request reply
  return heard.bind (judge entry.model.id)

/-- Ask the provider, again and again if need be. -/
def freshCourse (provider : Provider σ) (oracle : Oracle) (entry : Registered) (bundle : Bundle)
    (options : GenerationOptions) : Course (Session σ) (Except Tokens.Overflow Response) := do
  let retries := oracle.retries options.maxRetries
  let request := oracle.commentRequest entry bundle options
  Course.once fun session => ((), session.enter)
  let result ← Retry.course oracle.settings.retryDelayMs (askCourse provider entry request)
    (Retry.attempts retries) 0 none
  Course.once fun session => ((), session.leave)
  match result with
  | .done response =>
    Course.once fun session => ((), oracle.keepComment entry bundle response session)
    return .ok response
  | .gaveUp last => return .ok (exhausted entry.model.id retries last)
  | .overflow reason => return .error reason

/-- Ask for a comment on the declaration of a bundle. -/
def course (provider : Provider σ) (oracle : Oracle) (bundle : Bundle)
    (options : GenerationOptions) : Course (Session σ) (Except Tokens.Overflow Response) := do
  match oracle.resolve options.modelId generationType with
  | .error reason => return .ok (.failed reason.message options.modelId)
  | .ok entry =>
    match ← Course.once fun session => oracle.kept entry bundle options session with
    | some response => return .ok response
    | none => freshCourse provider oracle entry bundle options

/-- Ask for a comment without an interruption. -/
def generate (provider : Provider σ) (oracle : Oracle) (bundle : Bundle)
    (options : GenerationOptions) (session : Session σ) :
    Except Tokens.Overflow Response × Session σ :=
  (course provider oracle bundle options).run session

end Oracle

end Scholia
