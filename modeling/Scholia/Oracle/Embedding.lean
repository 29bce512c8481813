import Scholia.Json.Printer
import Scholia.Oracle.Registry
import Scholia.Oracle.Retry

/-! # Embedding texts

Texts are embedded together, one vector for each. The vectors are kept by the digest of the texts,
and come back from the cache as they were kept.
-/

namespace Scholia

/-- What may be chosen for one request. -/
structure EmbeddingOptions where
  modelId : Option String := none
  /-- Serve kept vectors, and keep new ones. -/
  cacheable : Bool := true
  maxRetries : Option Int := none

namespace Oracle

variable {σ : Type}

/-- The key of the vectors of texts in the cache. -/
def embeddingKey (texts : List String) (modelId : String) : String :=
  s!"embeddings:{Sha256.hashText (Json.write (.texts texts))}:{modelId}"

/-- Kept vectors, if they are as many as the texts. -/
def fitting? (texts : List String) (value : Option Json) : Option (List Json) :=
  (value.bind Json.list?).filter fun vectors => vectors.length = texts.length

/-- Ask the provider once for as many vectors as there are texts. -/
def askVectors (provider : Provider σ) (entry : Registered) (texts : List String)
    (session : Session σ) : Except OracleFailure (List Json) × Session σ :=
  let request := entry.endpoint.embedding texts entry.model.dimensions
  match session.embed provider entry.endpoint request with
  | (.ok vectors, session) =>
    if vectors.length = texts.length then (.ok (vectors.map .ofVector), session)
    else (.error (.wrongCount texts.length vectors.length), session)
  | (.error failure, session) => (.error failure, session)

/-- Ask the provider for vectors, again and again if need be. -/
def freshVectors (provider : Provider σ) (oracle : Oracle) (entry : Registered)
    (texts : List String) (maxRetries : Option Int) (session : Session σ) :
    Except OracleFailure (List Json) × Session σ :=
  let retries := maxRetries.getD oracle.settings.maxRetries
  let (result, session) :=
    Retry.run oracle.settings.retryDelayMs (askVectors provider entry texts)
      (Retry.attempts retries) 0 none session.enter
  let session := session.leave
  match result with
  | .done vectors => (.ok vectors, session)
  | .gaveUp last => (.error (.exhausted (retries + 1) (last.map (·.message))), session)
  | .overflow reason => (.error (.overflow reason), session)

def embed (provider : Provider σ) (oracle : Oracle) (texts : List String)
    (options : EmbeddingOptions) (session : Session σ) :
    Except OracleFailure (List Json) × Session σ :=
  if texts.isEmpty then (.ok [], session)
  else
    match oracle.resolve options.modelId embeddingType with
    | .error reason => (.error (.unresolved reason), session)
    | .ok entry =>
      let cache := if options.cacheable then oracle.cache else none
      let key := embeddingKey texts entry.model.id
      let (value, session) := session.lookUp cache key none
      match fitting? texts value with
      | some vectors => (.ok vectors, session)
      | none =>
        match freshVectors provider oracle entry texts options.maxRetries session with
        | (.ok vectors, session) => (.ok vectors, session.keep cache key (.array vectors) none)
        | (.error failure, session) => (.error failure, session)

def embedOne (provider : Provider σ) (oracle : Oracle) (text : String)
    (options : EmbeddingOptions) (session : Session σ) : Except OracleFailure Json × Session σ :=
  let (result, session) := embed provider oracle [text] options session
  (result.map fun vectors => vectors.headD .null, session)

end Oracle

end Scholia
