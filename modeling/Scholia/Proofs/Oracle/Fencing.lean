import Scholia.Proofs.Oracle.Fairness
import Scholia.Proofs.Oracle.Retrying
import Scholia.Proofs.Reply

/-! # Replies in fences

Two providers may reply alike but for fences around some of the replies. A request for a comment
goes the same with both: a fence is off before a reply is judged, so that what is in it is
accepted, counts as declining or is refused as it would be without. Only the query log, which holds
replies as they came, tells them apart.
-/

namespace Scholia

variable {σ α β : Type}

/-- The second text is the first in a fence, with blanks around it. -/
def Reply.Wraps (text wrapped : Text) : Prop :=
  ∃ before language after, Text.isBlankText before = true ∧
    (∀ c ∈ language, isLanguageChar c = true) ∧ Text.isBlankText after = true ∧
    wrapped = before ++ inFence language text ++ after

theorem Reply.stripFence_of_wraps {text wrapped : Text} (wraps : Wraps text wrapped) :
    stripFence wrapped = Text.trim text := by
  obtain ⟨before, language, after, left, name, right, rfl⟩ := wraps
  exact stripFence_inFence text left name right

/-- The replies are the same, or a text that is in no fence, and this text in one. -/
inductive Completion.Refenced : Completion → Completion → Prop where
  | same (reply : Completion) : Refenced reply reply
  | wrapped {text wrapped : String} (bare : Reply.Unfenced text.toList)
      (wraps : Reply.Wraps text.toList wrapped.toList) :
      Refenced (.ok (some text)) (.ok (some wrapped))

/-- The providers reply alike but for fences. -/
def Provider.Refenced (bare fenced : Provider σ) : Prop :=
  ∀ request state,
    Completion.Refenced (bare.complete request state).1 (fenced.complete request state).1 ∧
      (bare.complete request state).2 = (fenced.complete request state).2

/-- The provider with all its replies in fences. -/
def Provider.fencing (language : Text) (provider : Provider σ) : Provider σ where
  complete request state :=
    let (reply, next) := provider.complete request state
    (reply.map (Option.map fun text => String.ofList (Reply.inFence language text.toList)), next)
  embed := provider.embed

theorem Provider.refenced_fencing {provider : Provider σ} {language : Text}
    (name : ∀ c ∈ language, Reply.isLanguageChar c = true)
    (bare : ∀ request state text, (provider.complete request state).1 = .ok (some text) →
      Reply.Unfenced text.toList) : provider.Refenced (provider.fencing language) := by
  intro request state
  refine ⟨?_, rfl⟩
  have unfenced := bare request state
  unfold fencing
  dsimp only
  generalize (provider.complete request state).1 = reply at unfenced ⊢
  match reply, unfenced with
  | .error error, _ => exact .same _
  | .ok none, _ => exact .same _
  | .ok (some text), unfenced =>
      refine .wrapped (unfenced text rfl) ⟨[], language, [], rfl, name, rfl, ?_⟩
      simp

namespace QueryLog

/-- An entry without the response. -/
def wordless : Json → Json
  | .object fields => .object (fields.filter fun field => field.1 != "response")
  | value => value

theorem wordless_entry (endpoint : Endpoint) (request response other : Json) :
    wordless (entry endpoint request response none) =
      wordless (entry endpoint request other none) := by
  simp [wordless, entry]

/-- What is written to the log for a reply to a request. -/
def entries (endpoint : Endpoint) (request : CompletionRequest) (reply : Completion) : List Json :=
  if endpoint.logs then
    match reply with
    | .ok content => [entry endpoint (completionJson request) (.str (content.getD "")) none]
    | .error error =>
      if error.kind = .foreign then [] else [entry endpoint (completionJson request) .null error]
  else []

theorem wordless_entries {bare fenced : Completion} (refenced : Completion.Refenced bare fenced)
    (endpoint : Endpoint) (request : CompletionRequest) :
    (entries endpoint request bare).map wordless =
      (entries endpoint request fenced).map wordless := by
  cases refenced with
  | same => rfl
  | @wrapped text wrapped =>
      unfold entries
      split
      · exact congrArg (fun entry => [entry]) (wordless_entry endpoint _ (.str text) (.str wrapped))
      · rfl

end QueryLog

/-! ## Sessions in step -/

namespace Session

/-- The sessions are the same but for the responses in the query log. -/
structure Akin (first second : Session σ) : Prop where
  rest : first = { second with log := first.log }
  log : first.log.map QueryLog.wordless = second.log.map QueryLog.wordless

/-- What is done comes to the same in sessions that are akin. -/
def InStep (one two : Session σ → α × Session σ) : Prop :=
  ∀ first second, Akin first second →
    (one first).1 = (two second).1 ∧ Akin (one first).2 (two second).2

/-- What is done does not look at the query log, and leaves it alone. -/
def Silent (action : Session σ → α × Session σ) : Prop :=
  ∀ session log, action { session with log } =
    ((action session).1, { (action session).2 with log })

theorem Silent.inStep {action : Session σ → α × Session σ} (silent : Silent action) :
    InStep action action := by
  rintro first second ⟨rest, log⟩
  rw [rest, silent second first.log]
  refine ⟨rfl, rfl, ?_⟩
  have kept : (action second).2.log = second.log :=
    congrArg (fun result => result.2.log) (silent second second.log)
  rwa [kept]

theorem InStep.andThen {one two : Session σ → α × Session σ}
    {whole other : Session σ → β × Session σ}
    (first : InStep one two) (next after : α → Session σ → β × Session σ)
    (second : ∀ value, InStep (next value) (after value))
    (steps : ∀ session, whole session = next (one session).1 (one session).2)
    (others : ∀ session, other session = after (two session).1 (two session).2) :
    InStep whole other := by
  intro left right akin
  obtain ⟨same, between⟩ := first left right akin
  rw [steps, others, same]
  exact second _ _ _ between

theorem Akin.enter {first second : Session σ} (akin : Akin first second) :
    Akin first.enter second.enter :=
  ⟨congrArg Session.enter akin.rest, akin.log⟩

theorem Akin.leave {first second : Session σ} (akin : Akin first second) :
    Akin first.leave second.leave :=
  ⟨congrArg Session.leave akin.rest, akin.log⟩

theorem Akin.sleep {first second : Session σ} (akin : Akin first second) (seconds : Float) :
    Akin (first.sleep seconds) (second.sleep seconds) :=
  ⟨congrArg (Session.sleep seconds) akin.rest, akin.log⟩

theorem keep_log (cache : Option Cache.Store) (key : String) (value : Json) (content : Option Text)
    (session : Session σ) (log : List Json) :
    ({ session with log } : Session σ).keep cache key value content =
      { session.keep cache key value content with log } := by
  cases cache with
  | none => rfl
  | some store => rfl

/-- What judging a reply does to a session: it writes entries to the query log. -/
theorem settle_completion_snd (endpoint : Endpoint) (request : CompletionRequest)
    (reply : Completion) (session : Session σ) :
    (settle endpoint (QueryLog.completionJson request) (reply.map fun content => content.getD "")
        .str session).2 =
      { session with log := session.log ++ QueryLog.entries endpoint request reply } := by
  cases reply with
  | ok content =>
      simp only [settle, Except.map, Session.write, QueryLog.entries]
      split
      · rfl
      · simp
  | error error =>
      simp only [settle, Except.map, Session.write, QueryLog.entries]
      split
      · split <;> simp
      · split <;> simp

end Session

open Session

theorem Retry.inStep_run {one two : Session σ → Except OracleFailure α × Session σ}
    (step : InStep one two) (baseMs : Int) (left number : Nat) (last : Option OracleFailure) :
    InStep (run baseMs one left number last) (run baseMs two left number last) := by
  induction left generalizing number last with
  | zero => exact fun first second akin => ⟨rfl, akin⟩
  | succ left ih =>
      intro first second akin
      obtain ⟨same, after⟩ := step first second akin
      rw [run_succ, run_succ]
      cases here : one first with
      | mk result next =>
        cases there : two second with
        | mk other later =>
          rw [here, there] at same after
          obtain rfl : result = other := same
          cases result with
          | ok value => exact ⟨rfl, after⟩
          | error failure =>
              dsimp only
              split
              · exact ⟨rfl, after⟩
              · split
                · exact ⟨rfl, after⟩
                · exact ih _ _ _ _ (after.sleep _)

namespace Oracle

/-! ## One attempt -/

theorem judge_wrapped {text wrapped : String} (bare : Reply.Unfenced text.toList)
    (wraps : Reply.Wraps text.toList wrapped.toList) (modelId : String) :
    judge modelId wrapped = judge modelId text := by
  rw [judge, judge, Reply.stripFence_of_wraps wraps, Reply.stripFence_of_unfenced bare]

theorem verdict_refenced {bare fenced : Completion} (refenced : Completion.Refenced bare fenced)
    (modelId : String) : verdict modelId fenced = verdict modelId bare := by
  cases refenced with
  | same => rfl
  | wrapped bare wraps => exact judge_wrapped bare wraps modelId

/-- All that an attempt changes, with what is written to the query log. -/
theorem ask_snd (provider : Provider σ) (entry : Registered) (request : CompletionRequest)
    (session : Session σ) : (ask provider entry request session).2 =
      { session.send (.completion request) with
        provider := (provider.complete request session.provider).2
        pending := session.pending + 1 - 1
        log := session.log ++ QueryLog.entries entry.endpoint request
          (provider.complete request session.provider).1 } := by
  have conversed : (ask provider entry request session).2 =
      (session.complete provider entry.endpoint request).2 := by
    unfold ask
    split
    · next same => rw [same]
    · next same => rw [same]
  rw [conversed]
  exact settle_completion_snd entry.endpoint request
    (provider.complete request session.provider).1
    { session.send (.completion request) with
      provider := (provider.complete request session.provider).2
      pending := session.pending + 1 - 1 }

theorem inStep_ask {bare fenced : Provider σ} (refenced : bare.Refenced fenced)
    (entry : Registered) (request : CompletionRequest) :
    InStep (ask fenced entry request) (ask bare entry request) := by
  rintro first second ⟨rest, log⟩
  have state : first.provider = second.provider := by rw [rest]
  obtain ⟨replies, states⟩ := refenced request second.provider
  constructor
  · rw [ask_fst, ask_fst, state]
    exact verdict_refenced replies entry.model.id
  · rw [ask_snd, ask_snd, state, states]
    refine ⟨?_, ?_⟩
    · rw [rest]
      rfl
    · simp only [List.map_append, log, QueryLog.wordless_entries replies]

/-! ## Whole requests -/

section

variable (provider : Provider σ) (oracle : Oracle) (entry : Registered)

/-- What comes of trying for a comment. -/
def concluded (bundle : Bundle) (retries : Int) (result : Retry.Result Response)
    (session : Session σ) : Except Tokens.Overflow Response × Session σ :=
  match result with
  | .done response => (.ok response, oracle.keepComment entry bundle response session)
  | .gaveUp last => (.ok (exhausted entry.model.id retries last), session)
  | .overflow reason => (.error reason, session)

theorem fresh_eq (bundle : Bundle) (options : GenerationOptions) (session : Session σ) :
    fresh provider oracle entry bundle options session =
      oracle.concluded entry bundle (oracle.retries options.maxRetries)
        (oracle.tries (ask provider entry (oracle.commentRequest entry bundle options))
          (oracle.retries options.maxRetries) session).1
        (oracle.tries (ask provider entry (oracle.commentRequest entry bundle options))
          (oracle.retries options.maxRetries) session).2 := by
  unfold fresh tries
  dsimp only
  cases Retry.run _ _ _ _ _ _ with
  | mk result next => cases result <;> rfl

end

theorem inStep_tries (oracle : Oracle) {one two : Session σ → Except OracleFailure α × Session σ}
    (step : InStep one two) (retries : Int) :
    InStep (oracle.tries one retries) (oracle.tries two retries) := by
  intro first second akin
  obtain ⟨same, after⟩ := Retry.inStep_run step oracle.settings.retryDelayMs
    (Retry.attempts retries) 0 none _ _ akin.enter
  exact ⟨same, after.leave⟩

theorem silent_concluded (oracle : Oracle) (entry : Registered) (bundle : Bundle) (retries : Int)
    (result : Retry.Result Response) :
    Silent (σ := σ) (oracle.concluded entry bundle retries result) := by
  intro session log
  cases result with
  | gaveUp last => rfl
  | overflow reason => rfl
  | done response =>
      unfold concluded keepComment
      dsimp only
      split
      · rw [keep_log]
      · rfl

theorem silent_kept (oracle : Oracle) (entry : Registered) (bundle : Bundle)
    (options : GenerationOptions) : Silent (σ := σ) (oracle.kept entry bundle options) := by
  intro session log
  unfold kept lookUp
  split
  · rfl
  · cases oracle.cache with
    | none => rfl
    | some store => rfl

theorem inStep_fresh {bare fenced : Provider σ} (refenced : bare.Refenced fenced) (oracle : Oracle)
    (entry : Registered) (bundle : Bundle) (options : GenerationOptions) :
    InStep (fresh fenced oracle entry bundle options) (fresh bare oracle entry bundle options) :=
  (inStep_tries oracle (inStep_ask refenced entry _) _).andThen _ _
    (fun result => (silent_concluded oracle entry bundle _ result).inStep)
    (fresh_eq fenced oracle entry bundle options) (fresh_eq bare oracle entry bundle options)

/-- A kept response is served, and a new one is asked for otherwise. -/
def served (provider : Provider σ) (oracle : Oracle) (entry : Registered) (bundle : Bundle)
    (options : GenerationOptions) (found : Option Response) :
    Session σ → Except Tokens.Overflow Response × Session σ :=
  found.elim (fresh provider oracle entry bundle options) fun response session =>
    (.ok response, session)

theorem generate_of_resolve {provider : Provider σ} {oracle : Oracle} {entry : Registered}
    {options : GenerationOptions} (found : oracle.resolve options.modelId generationType = .ok entry)
    (bundle : Bundle) (session : Session σ) : oracle.generate provider bundle options session =
      served provider oracle entry bundle options (oracle.kept entry bundle options session).1
        (oracle.kept entry bundle options session).2 := by
  rw [generate_eq, found]
  dsimp only
  cases oracle.kept entry bundle options session with
  | mk found next => cases found <;> rfl

theorem inStep_generate {bare fenced : Provider σ} (refenced : bare.Refenced fenced)
    (oracle : Oracle) (bundle : Bundle) (options : GenerationOptions) :
    InStep (oracle.generate fenced bundle options) (oracle.generate bare bundle options) := by
  cases found : oracle.resolve options.modelId generationType with
  | error reason =>
      intro first second akin
      rw [generate_eq, generate_eq, found]
      exact ⟨rfl, akin⟩
  | ok entry =>
      refine (silent_kept oracle entry bundle options).inStep.andThen
        (served fenced oracle entry bundle options) (served bare oracle entry bundle options)
        (fun kept? => ?_) (generate_of_resolve found bundle) (generate_of_resolve found bundle)
      cases kept? with
      | some response => exact fun first second akin => ⟨rfl, akin⟩
      | none => exact inStep_fresh refenced oracle entry bundle options

/-- A fence around a text is taken off with the blanks around it, whatever fences the text holds,
    and a text without a fence at both ends is only trimmed. So a request comes to the same, after
    the same calls and delays, whether replies that are in no fence themselves come in one or
    without, be they accepted, refused, or the word for declining. -/
theorem fence_transparent :
    (∀ text wrapped, Reply.Wraps text wrapped → Reply.stripFence wrapped = Text.trim text) ∧
    (∀ text, Text.startsWith Reply.fence (Text.trim text) = false ∨
      Text.endsWith Reply.fence (Text.trim text) = false →
        Reply.stripFence text = Text.trim text) ∧
    ∀ (σ : Type) (bare fenced : Provider σ), bare.Refenced fenced →
      ∀ (oracle : Oracle) (bundle : Bundle) (options : GenerationOptions) (session : Session σ),
        (oracle.generate fenced bundle options session).1 =
            (oracle.generate bare bundle options session).1 ∧
          Akin (oracle.generate fenced bundle options session).2
            (oracle.generate bare bundle options session).2 := by
  refine ⟨?_, ?_, ?_⟩
  · intro text wrapped wraps
    exact Reply.stripFence_of_wraps wraps
  · intro text lacks
    exact Reply.stripFence_of_unfenced (Reply.unfenced_of_open lacks)
  · intro σ bare fenced refenced oracle bundle options session
    exact inStep_generate refenced oracle bundle options session session ⟨rfl, rfl⟩

/-- A provider that replies without a star first, then with a comment, and declines ever after. -/
def hesitant : Provider Nat where
  complete _ count :=
    (.ok (some (match count with | 0 => "Adds." | 1 => "/** Adds. */" | _ => "SKIP")), count + 1)
  embed _ count := (.ok [], count)

/-- The fences of a text stay in the text, and with one retry there is the same comment at the
    second attempt, or the same declining, with fences around the replies and without. -/
theorem fence_transparent_hesitant :
    let bundle : Bundle := { id := "add", snippet := "f()" }
    let options : GenerationOptions := { maxRetries := some 1 }
    let before (count : Nat) : Session Nat := { provider := count, gate := single.gate }
    let comes (provider : Provider Nat) (count : Nat) :=
      (single.generate provider bundle options (before count)).1.toOption
    let fenced := hesitant.fencing "ts".toList
    Reply.stripFence "\n```ts\n/** A. */\n```\n``` ".toList = "/** A. */\n```".toList ∧
      Reply.stripFence " ```ts\n/** A. */".toList = "```ts\n/** A. */".toList ∧
      comes fenced 0 = some (.ok "/** Adds. */" "m") ∧
      comes fenced 2 = some (.skipped "Oracle declined to document" "m") ∧
      comes fenced 0 = comes hesitant 0 ∧ comes fenced 2 = comes hesitant 2 := by
  intro bundle options before comes fenced
  obtain ⟨off, trimmed, same⟩ := fence_transparent
  have name : ∀ c ∈ "ts".toList, Reply.isLanguageChar c = true :=
    List.all_eq_true.mp (by decide)
  have bare : hesitant.Refenced fenced := by
    refine Provider.refenced_fencing name ?_
    intro request count text said
    match count, said with
    | 0, rfl => exact (by decide : Reply.Unfenced "Adds.".toList)
    | 1, rfl => exact (by decide : Reply.Unfenced "/** Adds. */".toList)
    | _ + 2, rfl => exact (by decide : Reply.Unfenced "SKIP".toList)
  have alike (count : Nat) : comes fenced count = comes hesitant count :=
    congrArg Except.toOption (same Nat hesitant fenced bare single bundle options (before count)).1
  refine ⟨off "/** A. */\n```".toList _ ?_, trimmed _ (by decide), ?_, ?_, alike 0, alike 2⟩
  · exact ⟨['\n'], "ts".toList, [' '], rfl, name, rfl, rfl⟩
  · decide +kernel
  · decide +kernel

end Oracle

end Scholia
