import Scholia.Json.Basic

/-! # Responses of the oracle

A response is a comment, or tells why there is none. It is kept in the cache as a JSON value; how
it is written as one, and which values are read as responses, is left to a form.
-/

namespace Scholia

/-- What became of a request for a comment. -/
inductive ResponseStatus where
  | success
  | skip
  | error
  deriving Repr, DecidableEq, BEq

namespace ResponseStatus

def label : ResponseStatus → String
  | success => "success"
  | skip => "skip"
  | error => "error"

/-- The status that a word stands for. -/
def ofLabel? (word : String) : Option ResponseStatus :=
  [success, skip, error].find? (·.label = word)

end ResponseStatus

/-- The response to a request for a comment. -/
structure Response where
  status : ResponseStatus
  content : Option String := none
  reason : Option String := none
  modelId : Option String := none
  /-- The response was kept from an earlier request. -/
  cached : Bool := false
  deriving Repr, DecidableEq, BEq

namespace Response

def ok (content modelId : String) : Response :=
  { status := .success, content := some content, modelId := some modelId }

def skipped (reason modelId : String) : Response :=
  { status := .skip, reason := some reason, modelId := some modelId }

/-- There is no comment for some reason. -/
def failed (reason : String) (modelId : Option String) : Response :=
  { status := .error, reason := some reason, modelId }

/-- The response is a comment. -/
def isSuccess (response : Response) : Bool :=
  response.status = .success

/-- How responses are written as JSON values, and read from them. -/
structure Form where
  write : Response → Json
  read : Json → Option Response

end Response

end Scholia
