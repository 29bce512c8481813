import Scholia.Oracle.Generation
import Scholia.Proofs.Course
import Scholia.Proofs.Text.Trimming

/-! # What comes of asking for a comment

A request ends in one of three ways: no model is found for it, a kept response is served, or the
provider is asked. Only the last one counts the request and changes what is kept: a comment is
kept, and a comment is always trimmed and has passed the check of replies.
-/

namespace Scholia

theorem Reply.trim_stripFence (text : Text) : Text.trim (stripFence text) = stripFence text := by
  unfold stripFence fenced?
  dsimp only
  split
  · split
    · exact Text.trim_trim _
    · exact Text.trim_trim _
  · exact Text.trim_trim _

namespace Response

/-- The content is trimmed, and nothing is wrong with it as a comment. -/
def HasComment (response : Response) : Prop :=
  ∃ content, response.content = some content ∧ Text.trim content.toList = content.toList ∧
    Reply.fault? content.toList = none

/-- What a response is written as is read back as this very response. -/
def Form.Keeps (form : Form) (response : Response) : Prop :=
  form.read (form.write response) = some response

end Response

namespace Retry

variable {σ α β : Type} {attempt : Session σ → Except OracleFailure α × Session σ}

/-- After an attempt that failed there is a delay, and then the others follow. -/
theorem run_succ (baseMs : Int) (left number : Nat) (last : Option OracleFailure)
    (session : Session σ) : run baseMs attempt (left + 1) number last session =
      match attempt session with
      | (.ok value, session) => (.done value, session)
      | (.error failure, session) =>
        if left = 0 then (.gaveUp (some failure), session)
        else
          match delay baseMs number with
          | .error reason => (.overflow reason, session)
          | .ok seconds =>
            run baseMs attempt left (number + 1) (some failure) (session.sleep seconds) := by
  rw [run, course, Course.run_bind, Course.run_once]
  cases attempt session with
  | mk result next =>
      cases result with
      | ok value => rfl
      | error failure =>
          dsimp only
          split
          · rfl
          · cases delay baseMs number with
            | error reason => rfl
            | ok seconds => rfl

/-- What a course comes to that is tried again and again depends on what it comes to by itself. -/
theorem run_course (baseMs : Int) (attempt : Course (Session σ) (Except OracleFailure α))
    (left number : Nat) (last : Option OracleFailure) (session : Session σ) :
    (course baseMs attempt left number last).run session =
      run baseMs attempt.run left number last session := by
  induction left generalizing number last session with
  | zero => rfl
  | succ left ih =>
      rw [run_succ, course, Course.run_bind]
      cases attempt.run session with
      | mk result next =>
          cases result with
          | ok value => rfl
          | error failure =>
              dsimp only
              split
              · rfl
              · cases delay baseMs number with
                | error reason => rfl
                | ok seconds => exact ih _ _ _

/-- What neither an attempt nor a delay changes is the same after all attempts. -/
theorem run_same (view : Session σ → β) (tried : ∀ session, view (attempt session).2 = view session)
    (slept : ∀ seconds session, view (session.sleep seconds) = view session) (baseMs : Int)
    (left number : Nat) (last : Option OracleFailure) (session : Session σ) :
    view (run baseMs attempt left number last session).2 = view session := by
  induction left generalizing number last session with
  | zero => rfl
  | succ left ih =>
      have here := tried session
      rw [run_succ]
      split
      · next same => rwa [same] at here
      · next failure next same =>
        rw [same] at here
        split
        · exact here
        · split
          · exact here
          · rw [ih, slept, here]

/-- What every value of an attempt has, a value that comes of trying has too. -/
theorem run_done {property : α → Prop} (baseMs : Int)
    (tried : ∀ session value next, attempt session = (.ok value, next) → property value)
    {left number : Nat} {last : Option OracleFailure} {session next : Session σ} {value : α}
    (done : run baseMs attempt left number last session = (.done value, next)) :
    property value := by
  induction left generalizing number last session with
  | zero => cases done
  | succ left ih =>
      rw [run_succ] at done
      split at done
      · next same =>
        cases done
        exact tried _ _ _ same
      · split at done
        · cases done
        · split at done
          · cases done
          · exact ih done

end Retry

namespace Session

variable {σ : Type}

/-- What of a session a conversation with a provider leaves alone. -/
def kept (session : Session σ) : Directory × Nat × Int :=
  (session.directory, session.requests, session.now)

/-- Judging a reply changes at most the query log. -/
theorem exists_log_settle {α : Type} (endpoint : Endpoint) (request : Json)
    (reply : Except ProviderError α) (write : α → Json) (session : Session σ) :
    ∃ log, (settle endpoint request reply write session).2 = { session with log } := by
  have written (entry : Json) : ∃ log, session.write endpoint entry = { session with log } := by
    unfold Session.write
    split
    · exact ⟨_, rfl⟩
    · exact ⟨session.log, rfl⟩
  unfold settle
  cases reply with
  | ok value => exact written _
  | error error =>
      dsimp only
      split
      · exact ⟨session.log, rfl⟩
      · exact written _

theorem exists_log_complete (provider : Provider σ) (endpoint : Endpoint)
    (request : CompletionRequest) (session : Session σ) :
    ∃ log, (session.complete provider endpoint request).2 =
      { session.send (.completion request) with
        provider := (provider.complete request session.provider).2
        pending := session.pending + 1 - 1
        log } :=
  exists_log_settle endpoint (QueryLog.completionJson request)
    ((provider.complete request session.provider).1.map fun content : Option String =>
      content.getD "") .str
    { session.send (.completion request) with
      provider := (provider.complete request session.provider).2
      pending := session.pending + 1 - 1 }

theorem kept_complete (provider : Provider σ) (endpoint : Endpoint) (request : CompletionRequest)
    (session : Session σ) : (session.complete provider endpoint request).2.kept = session.kept := by
  obtain ⟨log, same⟩ := exists_log_complete provider endpoint request session
  rw [same]
  rfl

end Session

namespace Oracle

variable {σ : Type} (provider : Provider σ) (oracle : Oracle) (entry : Registered)
  (bundle : Bundle) (options : GenerationOptions) (session : Session σ)

/-- Ask the provider once, without an interruption. -/
def ask (provider : Provider σ) (entry : Registered) (request : CompletionRequest)
    (session : Session σ) : Except OracleFailure Response × Session σ :=
  match session.complete provider entry.endpoint request with
  | (.ok reply, session) => (judge entry.model.id reply, session)
  | (.error failure, session) => (.error failure, session)

theorem run_askCourse (request : CompletionRequest) :
    (askCourse provider entry request).run session = ask provider entry request session := by
  have heard : (askCourse provider entry request).run session =
      ((session.complete provider entry.endpoint request).1.bind (judge entry.model.id),
        (session.complete provider entry.endpoint request).2) := rfl
  rw [heard, ask]
  cases session.complete provider entry.endpoint request with
  | mk result next =>
      cases result with
      | ok reply => rfl
      | error failure => rfl

/-- Ask the provider, again and again if need be, without an interruption. -/
def fresh (provider : Provider σ) (oracle : Oracle) (entry : Registered) (bundle : Bundle)
    (options : GenerationOptions) (session : Session σ) :
    Except Tokens.Overflow Response × Session σ :=
  let retries := oracle.retries options.maxRetries
  let request := oracle.commentRequest entry bundle options
  let (result, session) :=
    Retry.run oracle.settings.retryDelayMs (ask provider entry request)
      (Retry.attempts retries) 0 none session.enter
  let session := session.leave
  match result with
  | .done response => (.ok response, oracle.keepComment entry bundle response session)
  | .gaveUp last => (.ok (exhausted entry.model.id retries last), session)
  | .overflow reason => (.error reason, session)

theorem run_freshCourse : (freshCourse provider oracle entry bundle options).run session =
    fresh provider oracle entry bundle options session := by
  have asks : (askCourse provider entry (oracle.commentRequest entry bundle options)).run =
      ask provider entry (oracle.commentRequest entry bundle options) :=
    funext fun session => run_askCourse provider entry session _
  rw [freshCourse, fresh]
  simp only [Course.run_bind, Course.run_once, Retry.run_course, asks]
  cases Retry.run oracle.settings.retryDelayMs
      (ask provider entry (oracle.commentRequest entry bundle options))
      (Retry.attempts (oracle.retries options.maxRetries)) 0 none session.enter with
  | mk result next =>
      cases result with
      | done response => rfl
      | gaveUp last => rfl
      | overflow reason => rfl

/-- Without an interruption, a kept response is served, or the provider is asked. -/
theorem generate_eq : generate provider oracle bundle options session =
    match oracle.resolve options.modelId generationType with
    | .error reason => (.ok (.failed reason.message options.modelId), session)
    | .ok entry =>
      match oracle.kept entry bundle options session with
      | (some response, session) => (.ok response, session)
      | (none, session) => fresh provider oracle entry bundle options session := by
  unfold generate course
  cases oracle.resolve options.modelId generationType with
  | error reason => rfl
  | ok entry =>
      dsimp only
      rw [Course.run_bind, Course.run_once]
      cases oracle.kept entry bundle options session with
      | mk served next =>
          cases served with
          | some response => rfl
          | none => exact run_freshCourse provider oracle entry bundle options next

theorem judge_ok {modelId reply : String} {response : Response}
    (accepted : judge modelId reply = .ok response) :
    response.cached = false ∧ (response.isSuccess = true → response.HasComment) := by
  unfold judge at accepted
  dsimp only at accepted
  split at accepted
  · cases accepted
    exact ⟨rfl, fun impossible => by cases impossible⟩
  · split at accepted
    · cases accepted
    · next fine =>
      cases accepted
      refine ⟨rfl, fun _ => ⟨_, rfl, ?_, ?_⟩⟩
      · rw [String.toList_ofList, Reply.trim_stripFence]
      · rwa [String.toList_ofList]

theorem ask_ok {request : CompletionRequest} {next : Session σ} {response : Response}
    (accepted : ask provider entry request session = (.ok response, next)) :
    response.cached = false ∧ (response.isSuccess = true → response.HasComment) := by
  unfold ask at accepted
  split at accepted
  · exact judge_ok (Prod.mk.inj accepted).1
  · cases accepted

theorem kept_ask (request : CompletionRequest) :
    (ask provider entry request session).2.kept = session.kept := by
  have same := Session.kept_complete provider entry.endpoint request session
  unfold ask
  split
  · next answer => rwa [answer] at same
  · next answer => rwa [answer] at same

/-- The provider was asked: the request is counted, and what came of it is kept if it is a
    comment. -/
structure Asked (before after : Session σ) (result : Except Tokens.Overflow Response) : Prop where
  counted : after.requests = before.requests + 1
  uncached : ∀ response, result = .ok response → response.cached = false
  comment : ∀ response, result = .ok response → response.isSuccess = true →
    response.HasComment ∧ after.directory = (before.keep oracle.cache
      (cacheKey bundle.id entry.model.id) (oracle.form.write response)
      (some bundle.snippet.toList)).directory
  nothing : (∀ response, result = .ok response → response.isSuccess = false) →
    after.directory = before.directory

theorem requests_keepComment (response : Response) :
    (oracle.keepComment entry bundle response session).requests = session.requests := by
  unfold keepComment Session.keep
  split
  · split
    · rfl
    · rfl
  · rfl

theorem directory_keep {cache : Option Cache.Store} {key : String} {value : Json}
    {content : Option Text} {first second : Session σ} (directory : first.directory = second.directory)
    (now : first.now = second.now) :
    (first.keep cache key value content).directory =
      (second.keep cache key value content).directory := by
  cases cache with
  | none => exact directory
  | some store =>
      dsimp only [Session.keep]
      rw [directory, now]

theorem asked_fresh : Asked oracle entry bundle session
    (fresh provider oracle entry bundle options session).2
    (fresh provider oracle entry bundle options session).1 := by
  have same := Retry.run_same Session.kept
    (fun session => kept_ask provider entry session (oracle.commentRequest entry bundle options))
    (fun _ _ => rfl) oracle.settings.retryDelayMs
    (Retry.attempts (oracle.retries options.maxRetries)) 0 none session.enter
  unfold fresh
  dsimp only
  cases tried : Retry.run _ _ _ _ _ _ with
  | mk result next =>
      rw [tried] at same
      have fields : next.leave.directory = session.directory ∧
          next.leave.requests = session.requests + 1 ∧ next.leave.now = session.now := by
        simpa [Session.kept, Session.enter, Session.leave] using same
      cases result with
      | gaveUp last =>
          refine ⟨fields.2.1, ?_, ?_, fun _ => fields.1⟩
          · rintro _ ⟨⟩
            rfl
          · rintro _ ⟨⟩ ⟨⟩
      | overflow reason =>
          refine ⟨fields.2.1, ?_, ?_, fun _ => fields.1⟩
          · rintro _ ⟨⟩
          · rintro _ ⟨⟩
      | done response =>
          have good := Retry.run_done oracle.settings.retryDelayMs
            (fun _ _ _ => ask_ok provider entry _) tried
          obtain ⟨directory, requests, now⟩ := fields
          refine ⟨?_, ?_, ?_, ?_⟩
          · exact (requests_keepComment oracle entry bundle _ response).trans requests
          · rintro _ ⟨⟩
            exact good.1
          · rintro _ ⟨⟩ success
            refine ⟨good.2 success, ?_⟩
            simp only [keepComment, success, if_true]
            exact directory_keep directory now
          · intro none
            have failed := none response rfl
            simpa [keepComment, failed] using directory

/-- The session after a look-up for a bundle, if there is a cache. -/
def lookedUp (store : Cache.Store) (before : Session σ) : Session σ :=
  { before with directory := (store.get before.now (cacheKey bundle.id entry.model.id)
    (some bundle.snippet.toList) before.directory).2 }

/-- A look-up may have come before the provider was asked. -/
def Looked (before looked : Session σ) : Prop :=
  looked = before ∨ ∃ store, oracle.cache = some store ∧ looked = lookedUp entry bundle store before

namespace Looked

variable {oracle : Oracle} {entry : Registered} {bundle : Bundle} {before looked : Session σ}

theorem requests (looking : Looked oracle entry bundle before looked) :
    looked.requests = before.requests := by
  rcases looking with rfl | ⟨store, -, rfl⟩
  · rfl
  · rfl

theorem now (looking : Looked oracle entry bundle before looked) : looked.now = before.now := by
  rcases looking with rfl | ⟨store, -, rfl⟩
  · rfl
  · rfl

end Looked

/-- A kept response is served: the cache has a value that reads as one. -/
structure Serves (store : Cache.Store) (before : Session σ) (response : Response) : Prop where
  cache : oracle.cache = some store
  value : ∃ value, oracle.form.read value = some response ∧
    (store.get before.now (cacheKey bundle.id entry.model.id) (some bundle.snippet.toList)
      before.directory).1 = some value

theorem kept_cases :
    (∃ looked, oracle.kept entry bundle options session = (none, looked) ∧
      Looked oracle entry bundle session looked) ∨
    ∃ store response, Serves oracle entry bundle store session response ∧
      oracle.kept entry bundle options session =
        (some { response with cached := true }, lookedUp entry bundle store session) := by
  unfold kept Session.lookUp
  cases options.forceFresh with
  | true => exact .inl ⟨session, rfl, .inl rfl⟩
  | false =>
      cases cache : oracle.cache with
      | none => exact .inl ⟨session, rfl, .inl rfl⟩
      | some store =>
          cases hit : (store.get session.now (cacheKey bundle.id entry.model.id)
              (some bundle.snippet.toList) session.directory).1.bind oracle.form.read with
          | none =>
              refine .inl ⟨lookedUp entry bundle store session, ?_, .inr ⟨store, cache, rfl⟩⟩
              simp [hit, lookedUp]
          | some response =>
              obtain ⟨value, found, read⟩ := Option.bind_eq_some_iff.mp hit
              refine .inr ⟨store, response, ⟨cache, value, read, found⟩, ?_⟩
              simp [hit, lookedUp]

/-- A request ends in one of three ways: there is no model for it, a kept response is served, or
    the provider is asked after the look-up. -/
inductive Ending (before : Session σ) : Except Tokens.Overflow Response → Session σ → Prop where
  | unresolved {reason : Unresolved}
      (missing : oracle.resolve options.modelId generationType = .error reason) :
      Ending before (.ok (.failed reason.message options.modelId)) before
  | served {entry : Registered} {store : Cache.Store} {response : Response}
      (found : oracle.resolve options.modelId generationType = .ok entry)
      (serves : Serves oracle entry bundle store before response) :
      Ending before (.ok { response with cached := true }) (lookedUp entry bundle store before)
  | asked {entry : Registered} {looked after : Session σ}
      {result : Except Tokens.Overflow Response}
      (found : oracle.resolve options.modelId generationType = .ok entry)
      (looking : Looked oracle entry bundle before looked)
      (asked : Asked oracle entry bundle looked after result) :
      Ending before result after

theorem ending_generate : Ending oracle bundle options session
    (oracle.generate provider bundle options session).1
    (oracle.generate provider bundle options session).2 := by
  rw [generate_eq]
  cases found : oracle.resolve options.modelId generationType with
  | error reason => exact .unresolved found
  | ok entry =>
      dsimp only
      rcases kept_cases oracle entry bundle options session with
        ⟨looked, same, looking⟩ | ⟨store, response, serves, same⟩
      · rw [same]
        exact .asked found looking (asked_fresh provider oracle entry bundle options looked)
      · rw [same]
        exact .served found serves

end Oracle

end Scholia
