import Scholia.Oracle.Embedding
import Scholia.Proofs.Disk.Likeness
import Scholia.Proofs.Oracle.Asking
import Scholia.Proofs.Oracle.Steps

/-! # What requests see of the directory of the cache

The directory of the cache may hold other files besides the entries. A request reads and changes
entries only, and a conversation with the provider has nothing to do with the directory at all. So
requests do the same in two sessions whose directories differ in other files only, and leave these
files alone.
-/

namespace Scholia

namespace Directory

theorem get?_put_other {name other : String} (differ : other ≠ name) (content : List UInt8)
    (directory : Directory) :
    (directory.put name content).entries.get? other = directory.entries.get? other := by
  cases directory with
  | missing => exact if_neg differ.symm
  | blocked => rfl
  | present table =>
      rw [put]
      split
      · rfl
      · exact Table.get?_set_other _ _ differ.symm

theorem get?_remove_other {name other : String} (differ : other ≠ name) (directory : Directory) :
    (directory.remove name).entries.get? other = directory.entries.get? other := by
  cases directory with
  | missing | blocked => rfl
  | present table =>
      rw [remove]
      split
      · rfl
      · exact Table.get?_erase_other _ differ.symm

namespace Like

variable {differ : String → Prop} {first second : Directory}

/-- Directories that are alike are both missing, both blocked, or tables that are alike. -/
theorem cases (like : Like differ first second) :
    first = .missing ∧ second = .missing ∨ first = .blocked ∧ second = .blocked ∨
      ∃ one two, first = .present one ∧ second = .present two ∧
        ∀ name, Likened (differ name) (one.get? name) (two.get? name) := by
  cases first with
  | missing => exact .inl ⟨rfl, like.missing.mpr rfl⟩
  | blocked => exact .inr (.inl ⟨rfl, like.blocked.mpr rfl⟩)
  | present one =>
      cases second with
      | missing => cases like.missing.mp rfl
      | blocked => cases like.blocked.mp rfl
      | present two => exact .inr (.inr ⟨one, two, rfl, rfl, like.entries⟩)

theorem refl (differ : String → Prop) (directory : Directory) : Like differ directory directory :=
  ⟨Iff.rfl, Iff.rfl, fun _ => .refl _ _⟩

theorem of_tables {one two : Table DiskEntry}
    (like : ∀ name, Likened (differ name) (one.get? name) (two.get? name)) :
    Like differ (.present one) (.present two) :=
  ⟨by simp, by simp, like⟩

theorem put (like : Like differ first second) {name : String} (same : ¬differ name)
    (content : List UInt8) : Like differ (first.put name content) (second.put name content) := by
  rcases like.cases with ⟨rfl, rfl⟩ | ⟨rfl, rfl⟩ | ⟨one, two, rfl, rfl, tables⟩
  · exact .refl _ _
  · exact .refl _ _
  · rw [Directory.put, Directory.put, isOccupied, isOccupied, (tables name).eq_of_not same]
    split
    · exact like
    · refine .of_tables fun other => ?_
      by_cases here : other = name
      · rw [here, Table.get?_set_same, Table.get?_set_same]
        exact .refl _ _
      · rw [Table.get?_set_other _ _ (Ne.symm here), Table.get?_set_other _ _ (Ne.symm here)]
        exact tables other

theorem remove (like : Like differ first second) {name : String} (same : ¬differ name) :
    Like differ (first.remove name) (second.remove name) := by
  rcases like.cases with ⟨rfl, rfl⟩ | ⟨rfl, rfl⟩ | ⟨one, two, rfl, rfl, tables⟩
  · exact .refl _ _
  · exact .refl _ _
  · rw [Directory.remove, Directory.remove, isOccupied, isOccupied, (tables name).eq_of_not same]
    split
    · exact like
    · refine .of_tables fun other => ?_
      by_cases here : other = name
      · rw [here, Table.get?_erase_same, Table.get?_erase_same]
        exact .refl _ _
      · rw [Table.get?_erase_other _ (Ne.symm here), Table.get?_erase_other _ (Ne.symm here)]
        exact tables other

end Like

end Directory

namespace Cache

/-- None of the names is that of an entry. -/
def Avoids (names : String → Prop) : Prop :=
  ∀ key, ¬names (fileName key)

namespace Store

variable {differ : String → Prop} (avoids : Avoids differ) (store : Store) (now : Int)
  (key : String) (content : Option Text)

include avoids

theorem like_get {first second : Directory} (like : Directory.Like differ first second) :
    (store.get now key content second).1 = (store.get now key content first).1 ∧
      Directory.Like differ (store.get now key content first).2
        (store.get now key content second).2 := by
  have same := (like.entries (fileName key)).eq_of_not (avoids key)
  have removed := like.remove (avoids key)
  unfold get
  rw [same]
  split
  · exact ⟨rfl, like⟩
  · split
    · exact ⟨rfl, removed⟩
    · split
      · exact ⟨rfl, like⟩
      · split
        · exact ⟨rfl, like⟩
        · exact ⟨rfl, removed⟩

theorem like_set {first second : Directory} (like : Directory.Like differ first second)
    (data : Json) : Directory.Like differ (store.set now key data content first)
      (store.set now key data content second) := by
  unfold set
  split
  · exact like.put (avoids key) _
  · exact like

theorem get?_get (directory : Directory) {name : String} (other : differ name) :
    (store.get now key content directory).2.entries.get? name = directory.entries.get? name := by
  have elsewhere : name ≠ fileName key := fun same => avoids key (same ▸ other)
  have removed := Directory.get?_remove_other elsewhere directory
  unfold get
  split
  · rfl
  · split
    · exact removed
    · split
      · rfl
      · split
        · rfl
        · exact removed

theorem get?_set (directory : Directory) (data : Json) {name : String} (other : differ name) :
    (store.set now key data content directory).entries.get? name = directory.entries.get? name := by
  have elsewhere : name ≠ fileName key := fun same => avoids key (same ▸ other)
  unfold set
  split
  · exact Directory.get?_put_other elsewhere _ directory
  · rfl

end Store

end Cache

namespace Session

variable {σ α β : Type} {differ : String → Prop}

/-- Two sessions are the same but for some files in the directory of the cache. -/
structure Like (differ : String → Prop) (first second : Session σ) : Prop where
  rest : first = { second with directory := first.directory }
  directory : Directory.Like differ first.directory second.directory

/-- What is done comes to the same in sessions that are alike, and touches no file in which they
    may differ. -/
structure Fair (differ : String → Prop) (action : Session σ → α × Session σ) : Prop where
  alike : ∀ {first second}, Like differ first second →
    (action first).1 = (action second).1 ∧ Like differ (action first).2 (action second).2
  spares : ∀ session name, differ name →
    (action session).2.directory.entries.get? name = session.directory.entries.get? name

/-- What is done does not look at the directory of the cache, and leaves it alone. -/
def Blind (action : Session σ → α × Session σ) : Prop :=
  ∀ session directory, action { session with directory } =
    ((action session).1, { (action session).2 with directory })

namespace Blind

variable {action : Session σ → α × Session σ}

theorem directory_eq (blind : Blind action) (session : Session σ) :
    (action session).2.directory = session.directory :=
  congrArg (fun result => result.2.directory) (blind session session.directory)

theorem fair (blind : Blind action) (differ : String → Prop) : Fair differ action where
  alike := by
    intro first second like
    obtain ⟨rest, directory⟩ := like
    rw [rest, blind second first.directory]
    refine ⟨rfl, rfl, ?_⟩
    rwa [blind.directory_eq]
  spares session name _ := by rw [blind.directory_eq]

/-- A request passes the gate. -/
theorem gated (blind : Blind action) :
    Blind fun session => ((action session.enter).1, (action session.enter).2.leave) := by
  intro session directory
  have same : (session.enter.directory = session.directory) := rfl
  change ((action { session.enter with directory }).1,
    (action { session.enter with directory }).2.leave) = _
  rw [blind session.enter directory]
  rfl

end Blind

theorem Fair.andThen {action : Session σ → α × Session σ} {whole : Session σ → β × Session σ}
    (first : Fair differ action) (next : α → Session σ → β × Session σ)
    (second : ∀ value, Fair differ (next value))
    (steps : ∀ session, whole session = next (action session).1 (action session).2) :
    Fair differ whole where
  alike like := by
    obtain ⟨same, between⟩ := first.alike like
    rw [steps, steps, same]
    exact (second _).alike between
  spares session name other := by
    rw [steps, (second _).spares _ name other, first.spares session name other]

theorem Fair.pure (differ : String → Prop) (value : α) :
    Fair (σ := σ) differ fun session => (value, session) where
  alike like := ⟨rfl, like⟩
  spares _ _ _ := rfl

section

variable (avoids : Cache.Avoids differ) (cache : Option Cache.Store) (key : String)
  (content : Option Text)

include avoids

theorem fair_lookUp : Fair (σ := σ) differ (lookUp cache key content) := by
  cases cache with
  | none => exact .pure differ none
  | some store =>
      refine ⟨fun {first second} like => ?_, fun session name other => ?_⟩
      · obtain ⟨rest, directory⟩ := like
        have now : first.now = second.now := by rw [rest]
        obtain ⟨value, after⟩ := store.like_get avoids second.now key content directory
        dsimp only [lookUp]
        rw [now]
        exact ⟨value.symm, by rw [rest], after⟩
      · exact store.get?_get avoids session.now key content _ other

theorem fair_keep (value : Json) :
    Fair (σ := σ) differ fun session => ((), session.keep cache key value content) := by
  cases cache with
  | none => exact .pure differ ()
  | some store =>
      refine ⟨fun {first second} like => ?_, fun session name other => ?_⟩
      · obtain ⟨rest, directory⟩ := like
        have now : first.now = second.now := by rw [rest]
        dsimp only [keep]
        rw [now]
        exact ⟨rfl, by rw [rest], store.like_set avoids second.now key content directory value⟩
      · exact store.get?_set avoids session.now key content _ value other

end

theorem blind_settle (endpoint : Endpoint) (request : Json) (reply : Except ProviderError α)
    (write : α → Json) : Blind (σ := σ) (settle endpoint request reply write) := by
  have written (session : Session σ) (directory : Directory) (entry : Json) :
      ({ session with directory } : Session σ).write endpoint entry =
        { session.write endpoint entry with directory } := by
    unfold Session.write
    split
    · rfl
    · rfl
  intro session directory
  unfold settle
  cases reply with
  | ok value => exact congrArg (Prod.mk _) (written session directory _)
  | error error =>
      dsimp only
      split
      · rfl
      · exact congrArg (Prod.mk _) (written session directory _)

theorem blind_answer (provider : Provider σ) (request : CompletionRequest) :
    Blind fun session => session.answer provider request :=
  fun _ _ => rfl

theorem blind_hear (endpoint : Endpoint) (request : CompletionRequest)
    (reply : Except ProviderError (Option String)) :
    Blind (σ := σ) (hear endpoint request reply) :=
  fun session directory => blind_settle endpoint _ _ _
    { session with pending := session.pending - 1 } directory

theorem blind_embed (provider : Provider σ) (endpoint : Endpoint) (request : EmbeddingRequest) :
    Blind (embed provider endpoint request) := by
  intro session directory
  let sent := session.send (.embedding request)
  let state := (provider.embed request session.provider).2
  exact blind_settle endpoint _ _ _
    { sent with provider := state, pending := sent.pending - 1 } directory

end Session

open Session

variable {σ α : Type}

theorem Retry.blind_run {attempt : Session σ → Except OracleFailure α × Session σ}
    (blind : Blind attempt) (baseMs : Int) (left number : Nat) (last : Option OracleFailure) :
    Blind (run baseMs attempt left number last) := by
  induction left generalizing number last with
  | zero => exact fun session directory => rfl
  | succ left ih =>
      intro session directory
      rw [run_succ, run_succ, blind session directory]
      cases attempt session with
      | mk result next =>
          cases result with
          | ok value => rfl
          | error failure =>
              dsimp only
              split
              · rfl
              · split
                · rfl
                · exact ih _ _ (next.sleep _) directory

namespace Oracle

variable (provider : Provider σ) (oracle : Oracle) (entry : Registered)

theorem blind_askVectors (texts : List String) : Blind (askVectors provider entry texts) := by
  intro session directory
  rw [askVectors, askVectors, blind_embed provider entry.endpoint _ session directory]
  dsimp only
  cases session.embed provider entry.endpoint _ with
  | mk result next =>
      cases result with
      | ok vectors =>
          dsimp only
          split
          · rfl
          · rfl
      | error failure => rfl

/-- Trying, as a request that passes the gate. -/
def tries (attempt : Session σ → Except OracleFailure α × Session σ) (retries : Int)
    (session : Session σ) : Retry.Result α × Session σ :=
  let tried := Retry.run oracle.settings.retryDelayMs attempt (Retry.attempts retries) 0 none
    session.enter
  (tried.1, tried.2.leave)

theorem blind_tries {attempt : Session σ → Except OracleFailure α × Session σ}
    (blind : Blind attempt) (retries : Int) : Blind (oracle.tries attempt retries) :=
  fun session directory =>
    (Retry.blind_run blind oracle.settings.retryDelayMs (Retry.attempts retries) 0 none).gated
      session directory

/-- What comes of trying for vectors. -/
def gotten (retries : Int) (result : Retry.Result (List Json)) (session : Session σ) :
    Except OracleFailure (List Json) × Session σ :=
  match result with
  | .done vectors => (.ok vectors, session)
  | .gaveUp last => (.error (.exhausted (retries + 1) (last.map (·.message))), session)
  | .overflow reason => (.error (.overflow reason), session)

/-- Vectors that were asked for are kept. -/
def keepVectors (cache : Option Cache.Store) (key : String) (result : Except OracleFailure (List Json))
    (session : Session σ) : Except OracleFailure (List Json) × Session σ :=
  match result with
  | .ok vectors => (.ok vectors, session.keep cache key (.array vectors) none)
  | .error failure => (.error failure, session)

/-- Vectors that are kept are served, others are asked for. -/
def serveVectors (cache : Option Cache.Store) (key : String) (texts : List String)
    (maxRetries : Option Int) (served : Option (List Json)) (session : Session σ) :
    Except OracleFailure (List Json) × Session σ :=
  match served with
  | some vectors => (.ok vectors, session)
  | none =>
    let (result, session) := freshVectors provider oracle entry texts maxRetries session
    keepVectors cache key result session

theorem freshVectors_eq (texts : List String) (maxRetries : Option Int) (session : Session σ) :
    freshVectors provider oracle entry texts maxRetries session =
      gotten (maxRetries.getD oracle.settings.maxRetries)
        (oracle.tries (askVectors provider entry texts)
          (maxRetries.getD oracle.settings.maxRetries) session).1
        (oracle.tries (askVectors provider entry texts)
          (maxRetries.getD oracle.settings.maxRetries) session).2 := by
  unfold freshVectors tries
  dsimp only
  cases Retry.run _ _ _ _ _ _ with
  | mk result next => cases result <;> rfl

section

variable {differ : String → Prop} (avoids : Cache.Avoids differ)

theorem fair_freshVectors (texts : List String) (maxRetries : Option Int) :
    Fair differ (freshVectors provider oracle entry texts maxRetries) := by
  refine Fair.andThen ((oracle.blind_tries (blind_askVectors provider entry texts) _).fair differ)
    (gotten _) (fun result => ?_) (freshVectors_eq provider oracle entry texts maxRetries)
  cases result with
  | done _ | gaveUp _ | overflow _ => exact .pure differ _

include avoids

theorem fair_kept (bundle : Bundle) (options : GenerationOptions) :
    Fair (σ := σ) differ (oracle.kept entry bundle options) := by
  unfold kept
  split
  · exact .pure differ _
  · exact (fair_lookUp avoids oracle.cache _ _).andThen
      (fun value session =>
        ((value.bind oracle.form.read).map fun response => { response with cached := true }, session))
      (fun _ => .pure differ _) fun _ => rfl

theorem fair_keepComment (bundle : Bundle) (response : Response) :
    Fair (σ := σ) differ fun session => ((), oracle.keepComment entry bundle response session) := by
  unfold keepComment
  split
  · exact fair_keep avoids oracle.cache _ _ _
  · exact .pure differ ()

/-- A step of a request for a comment sees and changes nothing of the directory but entries. -/
theorem fair_step {β : Type} {action : Session σ → β × Session σ}
    (step : Step provider oracle β action) : Fair differ action := by
  cases step with
  | kept entry bundle options => exact fair_kept oracle entry avoids bundle options
  | answer request => exact (blind_answer provider request).fair differ
  | hear endpoint request reply => exact (blind_hear endpoint request reply).fair differ
  | keep entry bundle response => exact fair_keepComment oracle entry avoids bundle response
  | enter | send _ | sleep _ | leave => exact Blind.fair (fun _ _ => rfl) differ

theorem fair_keepVectors (cache : Option Cache.Store) (key : String)
    (result : Except OracleFailure (List Json)) :
    Fair (σ := σ) differ (keepVectors cache key result) := by
  cases result with
  | error failure => exact .pure differ _
  | ok vectors =>
      exact (fair_keep avoids cache key none (.array vectors)).andThen
        (fun _ session => (.ok vectors, session)) (fun _ => .pure differ _) fun _ => rfl

theorem fair_serveVectors (cache : Option Cache.Store) (key : String) (texts : List String)
    (maxRetries : Option Int) (served : Option (List Json)) :
    Fair differ (serveVectors provider oracle entry cache key texts maxRetries served) := by
  cases served with
  | some vectors => exact .pure differ _
  | none =>
      exact (fair_freshVectors provider oracle entry texts maxRetries).andThen
        (keepVectors cache key) (fair_keepVectors avoids cache key) fun _ => rfl

/-- So does a request for vectors. -/
theorem fair_embed (texts : List String) (options : EmbeddingOptions) :
    Fair differ (embed provider oracle texts options) := by
  unfold embed
  split
  · exact .pure differ _
  · cases oracle.resolve options.modelId embeddingType with
    | error reason => exact .pure differ _
    | ok entry =>
        dsimp only
        generalize embeddingKey texts entry.model.id = key
        generalize (if options.cacheable = true then oracle.cache else none) = cache
        refine (fair_lookUp avoids cache key none).andThen
          (fun value => serveVectors provider oracle entry cache key texts options.maxRetries
            (fitting? texts value))
          (fun value => fair_serveVectors provider oracle entry avoids cache key texts _ _) ?_
        intro session
        unfold serveVectors
        dsimp only
        cases fitting? texts _ with
        | some vectors => rfl
        | none =>
            dsimp only
            cases freshVectors provider oracle entry texts options.maxRetries _ with
            | mk result next => cases result <;> rfl

end

end Oracle

end Scholia
