import Scholia.Oracle.Cost
import Scholia.Oracle.Provider
import Scholia.Reply
import Scholia.Text.Quoted

/-! # Failures of the oracle

A request fails because the provider reports an error, because the reply is of no use, or because
there is no model to send it to.
-/

namespace Scholia

/-- Why there is no model for a request. -/
inductive Unresolved where
  | noDefault (type : String)
  | notAvailable (id : String)
  | wrongType (id type : String)
  deriving Repr, DecidableEq

def Unresolved.message : Unresolved → String
  | noDefault type => s!"No default {type} model is available"
  | notAvailable id => s!"Model {quote id} is not available"
  | wrongType id type => s!"Model {quote id} is not a {type} model"

/-- Why a request failed. -/
inductive OracleFailure where
  | authentication (reason : String)
  | rateLimit (reason : String)
  | connection (reason : String)
  | api (reason : String)
  | foreign (reason : String)
  | unusable (fault : Reply.Fault)
  | wrongCount (expected actual : Nat)
  | unresolved (reason : Unresolved)
  /-- No attempt to embed succeeded; the message of the last one is given. -/
  | exhausted (attempts : Int) (last : Option String)
  /-- A delay is beyond the range of floating-point numbers. -/
  | overflow (reason : Tokens.Overflow)
  deriving Repr, DecidableEq

namespace OracleFailure

/-- The failure that an error of a provider leads to. -/
def ofProvider (error : ProviderError) : OracleFailure :=
  match error.kind with
  | .authentication => authentication error.message
  | .rateLimit => rateLimit error.message
  | .connection => connection error.message
  | .api => api error.message
  | .foreign => foreign error.message

/-- The message of the last attempt of several, a word standing for none. -/
def lastText (last : Option String) : String :=
  last.getD "None"

def message : OracleFailure → String
  | authentication reason => s!"Authentication failed: {reason}"
  | rateLimit reason => s!"Rate limit exceeded: {reason}"
  | connection reason => s!"Connection failed: {reason}"
  | api reason => s!"LLM API error: {reason}"
  | foreign reason => reason
  | unusable fault => fault.message
  | wrongCount expected actual => s!"Expected {expected} embeddings, got {actual}"
  | unresolved reason => reason.message
  | exhausted attempts last => s!"Embedding failed after {attempts} attempts: {lastText last}"
  | overflow reason => reason.message

/-- The failure is one of the oracle: nothing foreign, and no accident of arithmetic. -/
def isOwn : OracleFailure → Bool
  | foreign _ | overflow _ => false
  | _ => true

end OracleFailure

end Scholia
