import Mathlib.Tactic.Choose
import Scholia.Proofs.Binary64
import Scholia.Proofs.Oracle.Keeping

/-! # The course of a request

A request that no kept response serves is made again until a reply is accepted or no attempt is
left, with the delays between the attempts in their order. The course of it is told by the replies
alone: how many calls are made, which delays come between them, and what the result is.
-/

namespace Scholia

theorem Gate.leave_enter (gate : Gate) :
    gate.enter.leave = { gate with peak := max gate.peak (gate.active + 1) } := by
  simp [enter, leave]

namespace Provider

variable {σ : Type}

/-- The state of a provider after it has been asked one thing a number of times. -/
def after (provider : Provider σ) (request : CompletionRequest) : Nat → σ → σ
  | 0, state => state
  | count + 1, state => provider.after request count (provider.complete request state).2

/-- The reply to a request after a number of earlier ones. -/
def reply (provider : Provider σ) (request : CompletionRequest) (state : σ) (number : Nat) :
    Completion :=
  (provider.complete request (provider.after request number state)).1

theorem after_add (provider : Provider σ) (request : CompletionRequest) (first second : Nat)
    (state : σ) : provider.after request (first + second) state =
      provider.after request second (provider.after request first state) := by
  induction first generalizing state with
  | zero => rw [Nat.zero_add, after]
  | succ first ih => rw [Nat.add_right_comm, after, after, ih]

theorem reply_add (provider : Provider σ) (request : CompletionRequest) (first second : Nat)
    (state : σ) : provider.reply request state (first + second) =
      provider.reply request (provider.after request first state) second := by
  rw [reply, reply, after_add]

end Provider

namespace Oracle

/-- What comes of a reply: a response, or the failure that another attempt is made for. -/
def verdict (modelId : String) : Completion → Except OracleFailure Response
  | .ok content => judge modelId (content.getD "")
  | .error error => .error (.ofProvider error)

/-- A reply is accepted exactly if it is the word for declining or a comment, without a fence. -/
theorem verdict_ok_iff {modelId : String} {reply : Completion} {response : Response} :
    verdict modelId reply = .ok response ↔ ∃ content text, reply = .ok content ∧
      text = Reply.stripFence (content.getD "").toList ∧
      (text = Reply.decline ∧ response = .skipped "Oracle declined to document" modelId ∨
        text ≠ Reply.decline ∧ Reply.fault? text = none ∧
          response = .ok (String.ofList text) modelId) := by
  cases reply with
  | error error => simp [verdict]
  | ok content =>
      simp only [verdict, judge, Except.ok.injEq, exists_and_left, exists_eq_left']
      split
      · next declined =>
        simp [declined, eq_comm]
      · next text =>
        split
        · next fault bad => simp [text, bad]
        · next fine => simp [text, fine, eq_comm]

end Oracle

namespace Session

variable {σ : Type}

/-- What a number of calls with delays between them make of a session. -/
structure Tried (provider : Provider σ) (request : CompletionRequest) (count : Nat)
    (delays : List Float) (before after : Session σ) : Prop where
  calls : after.calls = before.calls ++ List.replicate count (.completion request)
  sleeps : after.sleeps = before.sleeps ++ delays
  provider : after.provider = provider.after request count before.provider
  gate : after.gate = before.gate

variable {provider : Provider σ} {request : CompletionRequest} {before middle after : Session σ}

theorem Tried.refl (session : Session σ) : Tried provider request 0 [] session session :=
  ⟨by simp, by simp, rfl, rfl⟩

theorem Tried.trans {first second : Nat} {early late : List Float}
    (left : Tried provider request first early before middle)
    (right : Tried provider request second late middle after) :
    Tried provider request (first + second) (early ++ late) before after where
  calls := by rw [right.calls, left.calls, List.append_assoc, List.replicate_append_replicate]
  sleeps := by rw [right.sleeps, left.sleeps, List.append_assoc]
  provider := by rw [right.provider, left.provider, Provider.after_add]
  gate := right.gate.trans left.gate

theorem tried_sleep (seconds : Float) (session : Session σ) :
    Tried provider request 0 [seconds] session (session.sleep seconds) :=
  ⟨by simp [sleep], rfl, rfl, rfl⟩

theorem tried_complete (endpoint : Endpoint) (session : Session σ) :
    Tried provider request 1 [] session (session.complete provider endpoint request).2 := by
  obtain ⟨log, same⟩ := exists_log_complete provider endpoint request session
  rw [same]
  exact ⟨rfl, (List.append_nil _).symm, rfl, rfl⟩

end Session

/-! ## Attempts -/

namespace Oracle

variable {σ : Type} {provider : Provider σ} {entry : Registered} {request : CompletionRequest}

theorem ask_fst (session : Session σ) : (ask provider entry request session).1 =
    verdict entry.model.id (provider.reply request session.provider 0) := by
  unfold ask Session.complete Session.receiveCompletion Session.answer Session.hear Session.settle
  cases replied : provider.complete request session.provider with
  | mk reply state =>
      cases reply with
      | ok content =>
          simp [replied, verdict, Provider.reply, Provider.after, Session.send, Except.map]
      | error error =>
          simp [replied, verdict, Provider.reply, Provider.after, Session.send, Except.map]

theorem tried_ask (entry : Registered) (session : Session σ) :
    Session.Tried provider request 1 [] session (ask provider entry request session).2 := by
  have tried := @Session.tried_complete _ provider request entry.endpoint session
  unfold ask
  split
  · next same => rwa [same] at tried
  · next same => rwa [same] at tried

end Oracle

namespace Retry

/-- The delays after the attempts from a number on. -/
def Waits (baseMs : Int) (number : Nat) (delays : List Float) : Prop :=
  ∀ index seconds, delays[index]? = some seconds → delay baseMs (number + index) = .ok seconds

theorem waits_cons {baseMs : Int} {number : Nat} {seconds : Float} {delays : List Float} :
    Waits baseMs number (seconds :: delays) ↔
      delay baseMs number = .ok seconds ∧ Waits baseMs (number + 1) delays := by
  constructor
  · intro waits
    refine ⟨waits 0 seconds rfl, ?_⟩
    intro index other here
    rw [Nat.add_assoc, Nat.add_comm 1]
    exact waits (index + 1) other here
  · intro ⟨first, waits⟩ index other here
    cases index with
    | zero =>
        cases here
        exact first
    | succ index =>
        rw [Nat.add_comm index 1, ← Nat.add_assoc]
        exact waits index other here

variable {σ : Type} {provider : Provider σ} {entry : Registered} {request : CompletionRequest}
variable {baseMs : Int}

/-- The attempt with a number fails. -/
def Refused (provider : Provider σ) (entry : Registered) (request : CompletionRequest) (state : σ)
    (number : Nat) : Prop :=
  ∃ failure, Oracle.verdict entry.model.id (provider.reply request state number) = .error failure

/-- Attempts that fail, each with a delay behind it, come before the one that matters. -/
theorem run_refused {delays : List Float} {number : Nat} {last : Option OracleFailure}
    {session : Session σ} (waits : Waits baseMs number delays)
    (refused : ∀ index < delays.length, Refused provider entry request session.provider index)
    (left : Nat) : ∃ final next,
      run baseMs (Oracle.ask provider entry request) (left + 1 + delays.length) number last
          session =
        run baseMs (Oracle.ask provider entry request) (left + 1) (number + delays.length) final
          next ∧
        Session.Tried provider request delays.length delays session next := by
  -- each delay belongs to the failed attempt in front of it, so that the induction is on the delays
  induction delays generalizing number last session with
  | nil => exact ⟨last, session, rfl, .refl session⟩
  | cons seconds delays ih =>
      obtain ⟨here, later⟩ := waits_cons.mp waits
      obtain ⟨failure, failed⟩ := refused 0 (Nat.zero_lt_succ _)
      rw [← Oracle.ask_fst session] at failed
      have tried := @Oracle.tried_ask _ provider request entry session
      cases asked : Oracle.ask provider entry request session with
      | mk result after =>
          rw [asked] at failed tried
          obtain rfl : result = .error failure := failed
          have refusedLater : ∀ index < delays.length,
              Refused provider entry request (after.sleep seconds).provider index := by
            intro index inside
            have fails := refused (1 + index) (by rw [List.length_cons]; omega)
            rwa [Refused, Provider.reply_add, ← tried.provider] at fails
          obtain ⟨final, next, same, rest⟩ := @ih (number + 1) (some failure) _ later refusedLater
          refine ⟨final, next, ?_, ?_⟩
          · have more : left + 1 + delays.length ≠ 0 := by omega
            rw [List.length_cons, ← Nat.add_assoc, run_succ, asked]
            simp only [more, if_false, here]
            rw [same, Nat.add_assoc, Nat.add_comm 1]
          · have whole := (tried.trans (Session.tried_sleep seconds after)).trans rest
            rwa [Nat.add_zero, Nat.add_comm] at whole

/-- The attempt that matters is made after those that fail, and tells what comes next. -/
theorem exists_ask {delays : List Float} {session : Session σ} (waits : Waits baseMs 0 delays)
    (refused : ∀ number < delays.length, Refused provider entry request session.provider number)
    (left : Nat) : ∃ last early late,
      run baseMs (Oracle.ask provider entry request) (left + 1 + delays.length) 0 none session =
          run baseMs (Oracle.ask provider entry request) (left + 1) delays.length last early ∧
        Oracle.ask provider entry request early =
          (Oracle.verdict entry.model.id
            (provider.reply request session.provider delays.length), late) ∧
        Session.Tried provider request (delays.length + 1) delays session late := by
  obtain ⟨last, early, same, tried⟩ := @run_refused _ _ _ _ _ _ _ none _ waits refused left
  rw [Nat.zero_add] at same
  refine ⟨last, early, (Oracle.ask provider entry request early).2, same, ?_, ?_⟩
  · refine Prod.ext ?_ rfl
    rw [Oracle.ask_fst, tried.provider, ← Provider.reply_add, Nat.add_zero]
  · have whole := tried.trans (Oracle.tried_ask entry early)
    rwa [List.append_nil] at whole

section Endings

variable {delays : List Float} {session : Session σ} (waits : Waits baseMs 0 delays)
  (refused : ∀ number < delays.length, Refused provider entry request session.provider number)

include waits refused

theorem run_accepted {retries : Nat} {response : Response} (within : delays.length ≤ retries)
    (accepted : Oracle.verdict entry.model.id
      (provider.reply request session.provider delays.length) = .ok response) :
    ∃ next, run baseMs (Oracle.ask provider entry request) (retries + 1) 0 none session =
        (.done response, next) ∧
      Session.Tried provider request (delays.length + 1) delays session next := by
  obtain ⟨left, rfl⟩ := Nat.exists_eq_add_of_le' within
  obtain ⟨last, early, late, same, asked, tried⟩ := exists_ask waits refused left
  refine ⟨late, ?_, tried⟩
  rw [Nat.add_right_comm, same, run_succ, asked, accepted]

theorem run_exhausted {failure : OracleFailure}
    (failed : Oracle.verdict entry.model.id
      (provider.reply request session.provider delays.length) = .error failure) :
    ∃ next, run baseMs (Oracle.ask provider entry request) (delays.length + 1) 0 none session =
        (.gaveUp (some failure), next) ∧
      Session.Tried provider request (delays.length + 1) delays session next := by
  obtain ⟨last, early, late, same, asked, tried⟩ := exists_ask waits refused 0
  refine ⟨late, ?_, tried⟩
  rw [Nat.zero_add, Nat.add_comm] at same
  rw [same, run_succ, asked, failed]
  rfl

theorem run_overflow {retries : Nat} {failure : OracleFailure} {reason : Tokens.Overflow}
    (within : delays.length < retries)
    (failed : Oracle.verdict entry.model.id
      (provider.reply request session.provider delays.length) = .error failure)
    (beyond : delay baseMs delays.length = .error reason) :
    ∃ next, run baseMs (Oracle.ask provider entry request) (retries + 1) 0 none session =
        (.overflow reason, next) ∧
      Session.Tried provider request (delays.length + 1) delays session next := by
  obtain ⟨left, rfl⟩ := Nat.exists_eq_add_of_le' within
  obtain ⟨last, early, late, same, asked, tried⟩ := exists_ask waits refused (left + 1)
  refine ⟨late, ?_, tried⟩
  have regroup : left + (delays.length + 1) + 1 = left + 1 + 1 + delays.length := by omega
  rw [regroup, same, run_succ, asked, failed]
  simp only [Nat.add_one_ne_zero, if_false, beyond]

end Endings

theorem delay_overflow {baseMs : Nat}
    (great : ¬Binary64.quotientBits baseMs 1000 < Binary64.infinityBits) :
    delay baseMs 0 = .error .quotient := by
  have whole : ((baseMs : Int) * (Binary64.twoTo 0 : Nat)).natAbs = baseMs := by
    rw [Int.natAbs_mul, Int.natAbs_natCast, Int.natAbs_natCast]
    exact Nat.mul_one baseMs
  rw [delay, Binary64.ofQuotient?, whole, if_neg great]

/-- A delay is in the range of floating-point numbers unless the base delay has too many bits. -/
theorem exists_delay {number : Nat} (moderate : baseMs.natAbs.log2 + number ≤ 1027) :
    ∃ seconds, delay baseMs number = .ok seconds := by
  have short : (baseMs * Binary64.twoTo number).natAbs.log2 ≤ 1027 := by
    rw [Int.natAbs_mul, Int.natAbs_natCast]
    exact Nat.le_trans (Binary64.log2_mul_twoTo_le _ _) moderate
  obtain ⟨seconds, nearest⟩ := @Binary64.exists_ofQuotient _ 1000 (by decide) short
  exact ⟨seconds, by rw [delay, nearest]⟩

/-- As long as the base delay and the number of retries are not both beyond measure, all delays can
    be waited for. -/
theorem exists_waits {retries : Nat} (moderate : baseMs.natAbs.log2 + retries ≤ 1027) :
    ∃ delays, delays.length = retries ∧ Waits baseMs 0 delays := by
  have finite (number : Nat) (inside : number < retries) :
      ∃ seconds, delay baseMs number = .ok seconds :=
    exists_delay (by omega)
  choose! wait waits using finite
  refine ⟨(List.range retries).map wait, by simp, ?_⟩
  intro index seconds here
  rw [List.getElem?_map, Option.map_eq_some_iff] at here
  obtain ⟨number, listed, rfl⟩ := here
  obtain ⟨inside, rfl⟩ := List.getElem?_eq_some_iff.mp listed
  rw [Nat.zero_add, List.getElem_range]
  rw [List.length_range] at inside
  exact waits index inside

end Retry

/-! ## Requests -/

namespace Oracle

variable {σ : Type}

/-- What a request that no kept response serves does: it makes a number of calls, with delays
    between them, passes the gate once, and what comes of it is kept if it is a comment. -/
structure Requested (provider : Provider σ) (oracle : Oracle) (entry : Registered) (bundle : Bundle)
    (options : GenerationOptions) (before looked : Session σ) (count : Nat) (delays : List Float)
    (after : Session σ) (result : Except Tokens.Overflow Response) : Prop
    extends Asked oracle entry bundle looked after result where
  requests : after.requests = before.requests + 1
  calls : after.calls = before.calls ++
    List.replicate count (.completion (oracle.commentRequest entry bundle options))
  sleeps : after.sleeps = before.sleeps ++ delays
  provider : after.provider =
    provider.after (oracle.commentRequest entry bundle options) count before.provider
  released : after.gate =
    { before.gate with peak := max before.gate.peak (before.gate.active + 1) }

theorem exists_directory_keepComment (oracle : Oracle) (entry : Registered) (bundle : Bundle)
    (response : Response) (session : Session σ) :
    ∃ directory, oracle.keepComment entry bundle response session = { session with directory } := by
  unfold keepComment Session.keep
  split
  · split
    · exact ⟨session.directory, rfl⟩
    · exact ⟨_, rfl⟩
  · exact ⟨session.directory, rfl⟩

theorem exists_directory_of_missed {oracle : Oracle} {entry : Registered} {bundle : Bundle}
    {options : GenerationOptions} {before looked : Session σ}
    (missed : oracle.kept entry bundle options before = (none, looked)) :
    ∃ directory, looked = { before with directory } := by
  rcases kept_cases oracle entry bundle options before with
    ⟨other, same, rfl | ⟨store, -, rfl⟩⟩ | ⟨store, response, -, same⟩
  · cases same.symm.trans missed
    exact ⟨looked.directory, rfl⟩
  · cases same.symm.trans missed
    exact ⟨_, rfl⟩
  · cases same.symm.trans missed

/-- The result that what came of trying leads to. -/
def conclusion (modelId : String) (retries : Int) :
    Retry.Result Response → Except Tokens.Overflow Response
  | .done response => .ok response
  | .gaveUp last => .ok (exhausted modelId retries last)
  | .overflow reason => .error reason

theorem fresh_of_run {provider : Provider σ} {oracle : Oracle} {entry : Registered}
    {bundle : Bundle} {options : GenerationOptions} {session next : Session σ} {retries : Int}
    {result : Retry.Result Response} (chosen : oracle.retries options.maxRetries = retries)
    (ran : Retry.run oracle.settings.retryDelayMs
      (ask provider entry (oracle.commentRequest entry bundle options)) (Retry.attempts retries) 0
      none session.enter = (result, next)) :
    (fresh provider oracle entry bundle options session).1 =
        conclusion entry.model.id retries result ∧
      ∃ directory, (fresh provider oracle entry bundle options session).2 =
        { next.leave with directory } := by
  unfold fresh
  simp only [chosen, ran]
  cases result with
  | done response =>
      exact ⟨rfl, exists_directory_keepComment oracle entry bundle response next.leave⟩
  | gaveUp last => exact ⟨rfl, next.leave.directory, rfl⟩
  | overflow reason => exact ⟨rfl, next.leave.directory, rfl⟩

/-- A request comes to a result after a number of calls with delays between them. -/
def Ends (provider : Provider σ) (oracle : Oracle) (entry : Registered) (bundle : Bundle)
    (options : GenerationOptions) (before looked : Session σ) (count : Nat) (delays : List Float)
    (result : Except Tokens.Overflow Response) : Prop :=
  (oracle.generate provider bundle options before).1 = result ∧
    Requested provider oracle entry bundle options before looked count delays
      (oracle.generate provider bundle options before).2 result

section Ends

variable {provider : Provider σ} {oracle : Oracle} {entry : Registered} {bundle : Bundle}
  {options : GenerationOptions} {before looked : Session σ} {retries : Nat}
  (found : oracle.resolve options.modelId generationType = .ok entry)
  (missed : oracle.kept entry bundle options before = (none, looked))
  (chosen : oracle.retries options.maxRetries = (retries : Int))

include found missed chosen

/-- How a request goes is told by how its attempts go. -/
theorem requested_of_run {count : Nat} {delays : List Float} {result : Retry.Result Response}
    (ends : ∃ next, Retry.run oracle.settings.retryDelayMs
        (ask provider entry (oracle.commentRequest entry bundle options)) (retries + 1) 0 none
        looked.enter = (result, next) ∧
      Session.Tried provider (oracle.commentRequest entry bundle options) count delays
        looked.enter next) :
    Ends provider oracle entry bundle options before looked count delays
      (conclusion entry.model.id retries result) := by
  obtain ⟨next, ran, tried⟩ := ends
  have asked := asked_fresh provider oracle entry bundle options looked
  obtain ⟨directory, rfl⟩ := exists_directory_of_missed missed
  have generated : oracle.generate provider bundle options before =
      fresh provider oracle entry bundle options { before with directory } := by
    simp only [generate_eq, found, missed]
  obtain ⟨result_eq, kept, after_eq⟩ := fresh_of_run chosen ran
  rw [result_eq] at asked
  rw [Ends, generated]
  refine ⟨result_eq, asked, asked.counted, ?_, ?_, ?_, ?_⟩
  · rw [after_eq]
    exact tried.calls
  · rw [after_eq]
    exact tried.sleeps
  · rw [after_eq]
    exact tried.provider
  · rw [after_eq]
    have released := congrArg Gate.leave tried.gate
    exact released.trans (Gate.leave_enter before.gate)

/-- A request makes attempts in turn, as many as there are retries and one more, until a reply is
    accepted. It makes no call after that, waits between the calls only, and comes to what the
    reply says, or to the failure of the last attempt. The only other way to end is a delay that
    cannot be waited for, which takes a base delay beyond measure. -/
theorem generate_retries :
    let verdict (number : Nat) := verdict entry.model.id
      (provider.reply (oracle.commentRequest entry bundle options) before.provider number)
    let refused (number : Nat) := ∃ failure, verdict number = .error failure
    let baseMs := oracle.settings.retryDelayMs
    (∀ first delays response, first ≤ retries → (∀ number < first, refused number) →
      verdict first = .ok response → delays.length = first → Retry.Waits baseMs 0 delays →
        Ends provider oracle entry bundle options before looked (first + 1) delays
          (.ok response)) ∧
    (∀ delays failure, (∀ number < retries, refused number) → verdict retries = .error failure →
      delays.length = retries → Retry.Waits baseMs 0 delays →
        Ends provider oracle entry bundle options before looked (retries + 1) delays
          (.ok (.failed s!"Failed after {retries + 1} attempts: {failure.message}"
            (some entry.model.id)))) ∧
    (∀ last delays reason, last < retries → (∀ number ≤ last, refused number) →
      delays.length = last → Retry.Waits baseMs 0 delays →
      Retry.delay baseMs last = .error reason →
        Ends provider oracle entry bundle options before looked (last + 1) delays
          (.error reason)) ∧
    (baseMs.natAbs.log2 + retries ≤ 1027 →
      ∃ delays, delays.length = retries ∧ Retry.Waits baseMs 0 delays) := by
  have same : before.provider = looked.enter.provider := by
    obtain ⟨directory, rfl⟩ := exists_directory_of_missed missed
    rfl
  rw [same]
  intro verdict refused baseMs
  have requested {count : Nat} {delays : List Float} {result : Retry.Result Response} :=
    @requested_of_run _ provider _ _ _ _ _ _ _ found missed chosen count delays result
  refine ⟨?accepted, ?exhausted, ?overflow, Retry.exists_waits⟩
  case accepted =>
    rintro _ delays response within refused accepted rfl waits
    exact requested (Retry.run_accepted waits refused within accepted)
  case exhausted =>
    rintro delays failure refused failed rfl waits
    exact requested (Retry.run_exhausted waits refused failed)
  case overflow =>
    rintro _ delays reason within refused rfl waits beyond
    obtain ⟨failure, failed⟩ := refused delays.length (Nat.le_refl _)
    have earlier number (less : number < delays.length) := refused number (Nat.le_of_lt less)
    exact requested (Retry.run_overflow waits earlier within failed beyond)

end Ends

/-- A provider whose state is the replies to come, and that is out of reach after them. -/
def scripted : Provider (List Completion) where
  complete _ replies :=
    (replies.headD (.error ⟨.connection, "down", none, none, none⟩), replies.tail)
  embed _ replies := (.ok [], replies)

/-- With one retry, a comment comes of the second reply, or the failure of the second attempt. -/
theorem generate_retries_second :
    let bundle : Bundle := { id := "add", snippet := "f()" }
    let options : GenerationOptions := { maxRetries := some 1 }
    let before (replies : List Completion) : Session (List Completion) :=
      { provider := replies, gate := single.gate }
    let empty := before [.ok none, .ok (some "/** A. */")]
    let down := before []
    ∃ entry, single.resolve options.modelId generationType = .ok entry ∧
      single.kept entry bundle options empty = (none, empty) ∧
      single.kept entry bundle options down = (none, down) ∧
      ∃ delays, delays.length = 1 ∧ Retry.Waits 1000 0 delays ∧
        Ends scripted single entry bundle options empty empty 2 delays
          (.ok (.ok "/** A. */" "m")) ∧
        Ends scripted single entry bundle options down down 2 delays
          (.ok (.failed "Failed after 2 attempts: Connection failed: down" (some "m"))) := by
  intro bundle options before empty down
  obtain ⟨entry, found⟩ : ∃ entry, single.resolve options.modelId generationType = .ok entry :=
    ⟨_, rfl⟩
  cases found
  obtain ⟨accepted, -, -, waited⟩ :=
    @generate_retries _ scripted single _ bundle options empty empty 1 rfl rfl rfl
  obtain ⟨-, exhausted, -, -⟩ :=
    @generate_retries _ scripted single _ bundle options down down 1 rfl rfl rfl
  obtain ⟨delays, long, waits⟩ := waited (by decide +kernel)
  refine ⟨_, rfl, rfl, rfl, delays, long, waits, ?_, ?_⟩
  · refine accepted 1 delays _ (Nat.le_refl 1) ?_ (by decide +kernel) long waits
    intro number first
    obtain rfl := Nat.lt_one_iff.mp first
    exact ⟨_, rfl⟩
  · refine exhausted delays (.connection "down") ?_ rfl long waits
    intro number first
    obtain rfl := Nat.lt_one_iff.mp first
    exact ⟨_, rfl⟩

/-- With a base delay of more digits than floating-point numbers reach, both attempts would fail,
    but there is neither a second one nor a response that tells of it. -/
theorem generate_delay_overflows :
    let oracle := { single with settings := { retryDelayMs := Binary64.tenTo 400 } }
    let bundle : Bundle := { id := "f" }
    let options : GenerationOptions := { maxRetries := some 1 }
    let session : Session (List Completion) := { provider := [], gate := single.gate }
    ∃ entry, oracle.resolve options.modelId generationType = .ok entry ∧
      (∀ number ≤ 1, ∃ failure, verdict entry.model.id (scripted.reply
        (oracle.commentRequest entry bundle options) session.provider number) = .error failure) ∧
      (oracle.generate scripted bundle options session).1 = .error .quotient ∧
      (oracle.generate scripted bundle options session).2.calls =
        [.completion (oracle.commentRequest entry bundle options)] := by
  intro oracle bundle options session
  have beyond : Retry.delay (Binary64.tenTo 400 : Nat) 0 = .error .quotient :=
    Retry.delay_overflow (by decide +kernel)
  have requested := @requested_of_run _ scripted oracle _ bundle options session session 1 rfl rfl rfl
    _ _ _ (@Retry.run_overflow _ scripted _ _ _ [] _ (by simp [Retry.Waits]) (by simp) 1 _ _
      Nat.zero_lt_one rfl beyond)
  refine ⟨_, rfl, ?_, requested.1, requested.2.calls⟩
  intro number few
  obtain rfl | rfl : number = 0 ∨ number = 1 := by omega
  · exact ⟨_, rfl⟩
  · exact ⟨_, rfl⟩

end Oracle

end Scholia
