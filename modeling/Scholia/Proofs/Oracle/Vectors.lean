import Scholia.Oracle.Embedding
import Scholia.Proofs.Oracle.Asking

/-! # The vectors of texts

Where every reply of a provider is by a fixed function of the texts, so are the vectors that come
of a request, whatever was tried before. No vectors come only if the oracle fails by itself, or if
a delay between two attempts is beyond the range of floating-point numbers.
-/

namespace Scholia

theorem Json.toVector_ofVector (vector : List Float) :
    (Json.ofVector vector).toVector = vector := by
  have each (values : List Float) : (values.map Json.float).map Json.toFloat = values := by
    rw [List.map_map]
    exact List.map_id values
  exact each vector

namespace Provider

variable {σ : Type}

/-- Every reply has the vectors of the texts by a fixed function. -/
def EmbedsBy (provider : Provider σ) (vector : String → List Float) : Prop :=
  ∀ request state vectors, (provider.embed request state).1 = .ok vectors →
    vectors = request.input.map vector

/-- A request to embed texts is never refused. -/
def Embeds (provider : Provider σ) : Prop :=
  ∀ request state, ∃ vectors, (provider.embed request state).1 = .ok vectors

end Provider

namespace Retry

variable {σ α : Type} {baseMs : Int}
  {attempt : Session σ → Except OracleFailure α × Session σ}

/-- A value that comes of trying is the value of an attempt. -/
theorem exists_attempt {left number : Nat} {last : Option OracleFailure} {session after : Session σ}
    {value : α} (done : run baseMs attempt left number last session = (.done value, after)) :
    ∃ session, (attempt session).1 = .ok value := by
  induction left generalizing number last session with
  | zero => cases done
  | succ left ih =>
      rw [run_succ] at done
      cases tried : attempt session with
      | mk result next =>
          rw [tried] at done
          cases result with
          | ok found =>
              cases done
              exact ⟨session, by rw [tried]⟩
          | error failure =>
              dsimp only at done
              split at done
              · cases done
              · split at done
                · cases done
                · exact ih done

/-- Trying ends with a delay beyond measure only if one of the delays is. -/
theorem exists_overflow {left number : Nat} {last : Option OracleFailure}
    {session after : Session σ} {reason : Tokens.Overflow}
    (ended : run baseMs attempt left number last session = (.overflow reason, after)) :
    ∃ index, index + 1 < number + left ∧ delay baseMs index = .error reason := by
  induction left generalizing number last session with
  | zero => cases ended
  | succ left ih =>
      rw [run_succ] at ended
      cases tried : attempt session with
      | mk result next =>
          rw [tried] at ended
          cases result with
          | ok found => cases ended
          | error failure =>
              dsimp only at ended
              split at ended
              · cases ended
              · next more =>
                split at ended
                · next beyond =>
                  cases ended
                  exact ⟨number, by omega, beyond⟩
                · obtain ⟨index, inside, beyond⟩ := ih ended
                  exact ⟨index, by omega, beyond⟩

/-- Nothing is tried again where the first attempt succeeds. -/
theorem run_first {left number : Nat} {last : Option OracleFailure} {session next : Session σ}
    {value : α} (succeeds : attempt session = (.ok value, next)) :
    run baseMs attempt (left + 1) number last session = (.done value, next) := by
  rw [run_succ, succeeds]

end Retry

namespace Oracle

variable {σ : Type} {provider : Provider σ} {vector : String → List Float} {oracle : Oracle}
  {entry : Registered} {texts : List String}

/-- What comes of one attempt is told by the reply of the provider. -/
theorem askVectors_fst (session : Session σ) : (askVectors provider entry texts session).1 =
    match (provider.embed (entry.endpoint.embedding texts entry.model.dimensions)
        session.provider).1 with
    | .ok vectors =>
      if vectors.length = texts.length then .ok (vectors.map .ofVector)
      else .error (.wrongCount texts.length vectors.length)
    | .error error => .error (.ofProvider error) := by
  unfold askVectors Session.embed Session.receiveEmbeddings Session.settle
  cases replied : provider.embed (entry.endpoint.embedding texts entry.model.dimensions)
      session.provider with
  | mk reply state =>
      cases reply with
      | ok vectors =>
          simp only [Session.send, replied]
          split
          · rfl
          · rfl
      | error error => simp only [Session.send, replied]

/-- The vectors of texts by a fixed function, as they are kept. -/
def vectorsOf (vector : String → List Float) (texts : List String) : List Json :=
  texts.map fun text => .ofVector (vector text)

theorem askVectors_ok (embeds : provider.EmbedsBy vector) {session : Session σ}
    {values : List Json} (asked : (askVectors provider entry texts session).1 = .ok values) :
    values = vectorsOf vector texts := by
  rw [askVectors_fst] at asked
  split at asked
  · next vectors replied =>
    split at asked
    · cases asked
      rw [embeds _ _ _ replied, Endpoint.embedding, List.map_map]
      rfl
    · cases asked
  · cases asked

/-- A request that is never refused is accepted at once. -/
theorem askVectors_first (embeds : provider.EmbedsBy vector) (always : provider.Embeds)
    (session : Session σ) :
    ∃ next, askVectors provider entry texts session = (.ok (vectorsOf vector texts), next) := by
  obtain ⟨vectors, replied⟩ := always (entry.endpoint.embedding texts entry.model.dimensions)
    session.provider
  obtain rfl := embeds _ _ _ replied
  refine ⟨(askVectors provider entry texts session).2, Prod.ext ?_ rfl⟩
  rw [askVectors_fst, replied]
  simp only [Endpoint.embedding, List.length_map, if_true, List.map_map]
  rfl

theorem freshVectors_ok (embeds : provider.EmbedsBy vector) {retries : Option Int}
    {session : Session σ} {values : List Json}
    (asked : (freshVectors provider oracle entry texts retries session).1 = .ok values) :
    values = vectorsOf vector texts := by
  unfold freshVectors at asked
  dsimp only at asked
  cases ran : Retry.run oracle.settings.retryDelayMs (askVectors provider entry texts)
      (Retry.attempts (retries.getD oracle.settings.maxRetries)) 0 none session.enter with
  | mk result after =>
      rw [ran] at asked
      cases result with
      | gaveUp last => cases asked
      | overflow reason => cases asked
      | done found =>
          cases asked
          obtain ⟨session, attempted⟩ := Retry.exists_attempt ran
          exact askVectors_ok embeds attempted

/-- No vectors come only if the oracle fails by itself, or if a delay cannot be waited for. -/
theorem freshVectors_error {retries : Option Int} {session : Session σ} {failure : OracleFailure}
    (asked : (freshVectors provider oracle entry texts retries session).1 = .error failure) :
    failure.isOwn = true ∨ ∃ (number : Nat) (reason : Tokens.Overflow),
      number < retries.getD oracle.settings.maxRetries ∧
      Retry.delay oracle.settings.retryDelayMs number = .error reason := by
  unfold freshVectors at asked
  dsimp only at asked
  cases ran : Retry.run oracle.settings.retryDelayMs (askVectors provider entry texts)
      (Retry.attempts (retries.getD oracle.settings.maxRetries)) 0 none session.enter with
  | mk result after =>
      rw [ran] at asked
      cases result with
      | done found => cases asked
      | gaveUp last =>
          cases asked
          exact .inl rfl
      | overflow reason =>
          obtain ⟨number, inside, beyond⟩ := Retry.exists_overflow ran
          rw [Retry.attempts] at inside
          exact .inr ⟨number, reason, by omega, beyond⟩

theorem freshVectors_first (embeds : provider.EmbedsBy vector) (always : provider.Embeds)
    {retries : Option Int} (tries : 0 ≤ retries.getD oracle.settings.maxRetries)
    (session : Session σ) : (freshVectors provider oracle entry texts retries session).1 =
      .ok (vectorsOf vector texts) := by
  obtain ⟨next, first⟩ := @askVectors_first _ _ _ entry texts embeds always session.enter
  obtain ⟨left, some⟩ : ∃ left, Retry.attempts (retries.getD oracle.settings.maxRetries) =
      left + 1 := ⟨(retries.getD oracle.settings.maxRetries).toNat, by rw [Retry.attempts]; omega⟩
  unfold freshVectors
  dsimp only
  rw [some, Retry.run_first first]

section Uncached

variable (uncached : oracle.cache = none) {options : EmbeddingOptions} {session : Session σ}

include uncached

/-- Without a cache the vectors of some texts are always asked for. -/
theorem embed_fst (some : texts.isEmpty = false)
    (resolves : oracle.resolve options.modelId embeddingType = .ok entry) :
    (embed provider oracle texts options session).1 =
      (freshVectors provider oracle entry texts options.maxRetries session).1 := by
  have absent : (if options.cacheable then oracle.cache else none) = none := by
    rw [uncached, ite_self]
  unfold embed
  rw [if_neg (by simp [some]), resolves]
  dsimp only
  rw [absent]
  dsimp only [Session.lookUp, Session.keep]
  have none : fitting? texts Option.none = Option.none := rfl
  rw [none]
  dsimp only
  split
  · next same => rw [same]
  · next same => rw [same]

/-- The vectors that come of a request are those of its texts. -/
theorem embed_ok (embeds : provider.EmbedsBy vector) {values : List Json}
    (asked : (embed provider oracle texts options session).1 = .ok values) :
    values = vectorsOf vector texts := by
  cases some : texts.isEmpty with
  | true =>
      obtain rfl := List.isEmpty_iff.mp some
      cases asked
      rfl
  | false =>
      cases resolves : oracle.resolve options.modelId embeddingType with
      | ok entry =>
          rw [embed_fst uncached some resolves] at asked
          exact freshVectors_ok embeds asked
      | error reason =>
          rw [embed, if_neg (by simp [some]), resolves] at asked
          cases asked

theorem embed_error {failure : OracleFailure}
    (asked : (embed provider oracle texts options session).1 = .error failure) :
    failure.isOwn = true ∨ ∃ (number : Nat) (reason : Tokens.Overflow),
      number < options.maxRetries.getD oracle.settings.maxRetries ∧
      Retry.delay oracle.settings.retryDelayMs number = .error reason := by
  cases some : texts.isEmpty with
  | true =>
      obtain rfl := List.isEmpty_iff.mp some
      cases asked
  | false =>
      cases resolves : oracle.resolve options.modelId embeddingType with
      | ok entry =>
          rw [embed_fst uncached some resolves] at asked
          exact freshVectors_error asked
      | error reason =>
          rw [embed, if_neg (by simp [some]), resolves] at asked
          cases asked
          exact .inl rfl

theorem embed_first (embeds : provider.EmbedsBy vector) (always : provider.Embeds)
    (resolves : oracle.resolve options.modelId embeddingType = .ok entry)
    (tries : 0 ≤ options.maxRetries.getD oracle.settings.maxRetries) :
    (embed provider oracle texts options session).1 = .ok (vectorsOf vector texts) := by
  cases some : texts.isEmpty with
  | true =>
      obtain rfl := List.isEmpty_iff.mp some
      rfl
  | false =>
      rw [embed_fst uncached some resolves]
      exact freshVectors_first embeds always tries session

end Uncached

end Oracle

end Scholia
