import Mathlib.Data.List.Induction
import Mathlib.Logic.Function.Basic
import Scholia.Proofs.Oracle.Lenient

/-! # The cache is a map with expiry

Stores with their own versions and ages share one directory. What they answer is told by a map from
keys to what was stored last: the steps on the directory are simulated by steps on the map, and
what the map has for a key is what the most recent step that stored something there has stored,
unless a later step removed it or found it invalid.
-/

namespace Scholia.Cache

/-- What was stored under a key: when, under which version and for which content. -/
structure Stored where
  data : Json
  time : Int
  version : String
  content : Option Text

namespace Stored

def entry (stored : Stored) : Entry where
  data := stored.data
  timestamp := stored.time
  version := stored.version
  hash := (stored.content.map Sha256.hashText).getD ""

/-- The file that a codec writes for it. -/
def file? (codec : Codec) (stored : Stored) : Option DiskEntry :=
  (codec.write stored.entry).map .file

/-- It was stored for a content, and is asked for without any. -/
def isHidden (stored : Stored) (content : Option Text) : Bool :=
  stored.content.isSome && content.isNone

/-- It is young enough, of the version of a store, and for no content or for this very one. -/
def isValid (store : Store) (now : Int) (stored : Stored) (content : Option Text) : Bool :=
  now - stored.time ≤ store.maxAge && stored.version = store.version &&
    (stored.content = none || stored.content = content)

/-- It is found invalid: it cannot be read, or it is not valid and not hidden. -/
def isLost (store : Store) (now : Int) (stored : Stored) (content : Option Text) : Bool :=
  !store.codec.isReadable stored.entry || !(stored.isHidden content || stored.isValid store now content)

@[simp] theorem data_entry (stored : Stored) : stored.entry.data = stored.data := rfl

theorem isBound_entry (stored : Stored) : stored.entry.isBound = stored.content.isSome := by
  cases same : stored.content with
  | none => simp [Entry.isBound, entry, same]
  | some text => simp [Entry.isBound, entry, same, Sha256.hashText_ne_empty]

/-- Contents are told apart by their digests. -/
theorem fits_entry {texts : List Text} (free : Sha256.CollisionFree texts) {stored : Stored}
    (known : ∀ text ∈ stored.content, text ∈ texts) {content : Option Text}
    (asked : ∀ text ∈ content, text ∈ texts) :
    stored.entry.fits content = (decide (stored.content = none) || decide (stored.content = content)) := by
  rw [Entry.fits, isBound_entry]
  cases same : stored.content with
  | none => rfl
  | some text =>
      cases content with
      | none => rfl
      | some other =>
          have equal : Sha256.hashText text = Sha256.hashText other ↔ text = other :=
            ⟨free text (known text same) other (asked other rfl), congrArg Sha256.hashText⟩
          simp [entry, same, equal]

end Stored

/-- What a store puts into a file. -/
def Store.stored (store : Store) (now : Int) (data : Json) (content : Option Text) : Stored :=
  ⟨data, now, store.version, content⟩

theorem Store.entry_stored (store : Store) (now : Int) (data : Json) (content : Option Text) :
    (store.stored now data content).entry = store.entryFor now data content := rfl

/-- A map from keys to what was stored under them. -/
abbrev Ledger := String → Option Stored

/-- Look a key up in the map; what is found invalid is removed. -/
def Ledger.get (store : Store) (now : Int) (key : String) (content : Option Text)
    (ledger : Ledger) : Option Json × Ledger :=
  match ledger key with
  | none => (none, ledger)
  | some stored =>
    if stored.isLost store now content then (none, Function.update ledger key none)
    else if stored.isHidden content then (none, ledger)
    else (stored.entry.value?, ledger)

/-- A call on a store. -/
inductive Op where
  | set (key : String) (data : Json) (content : Option Text)
  | get (key : String) (content : Option Text)
  | has (key : String) (content : Option Text)
  | delete (key : String)
  | clear

/-- The key and the content that a call is about. -/
def Op.texts : Op → List Text
  | set key _ content | get key content | has key content => key.toList :: content.toList
  | delete key => [key.toList]
  | clear => []

/-- A call on a store at a time. -/
structure Step where
  store : Store
  now : Int
  op : Op

namespace Step

/-- The directory after a call. -/
def run (directory : Directory) (step : Step) : Directory :=
  match step.op with
  | .set key data content => step.store.set step.now key data content directory
  | .get key content => (step.store.get step.now key content directory).2
  | .has key content => (step.store.has step.now key content directory).2
  | .delete key => delete key directory
  | .clear => (clear directory).2

/-- The map after a call; what cannot be written is not stored. -/
def record (ledger : Ledger) (step : Step) : Ledger :=
  match step.op with
  | .set key data content =>
    match step.store.codec.write (step.store.entryFor step.now data content) with
    | some _ => Function.update ledger key (some (step.store.stored step.now data content))
    | none => ledger
  | .get key content | .has key content => (ledger.get step.store step.now key content).2
  | .delete key => Function.update ledger key none
  | .clear => fun _ => none

/-- What a call is to store is read back as it is, or not at all. -/
def Honest (step : Step) : Prop :=
  ∀ key data content, step.op = .set key data content →
    step.store.codec.Honest (step.store.entryFor step.now data content)

/-- The call stores something under a key. -/
def Stores (step : Step) (key : String) (stored : Stored) : Prop :=
  ∃ data content, step.op = .set key data content ∧
    stored = step.store.stored step.now data content ∧
    (step.store.codec.write stored.entry).isSome = true

/-- The call neither replaces nor removes what is stored under a key. -/
def Spares (step : Step) (key : String) (stored : Stored) : Prop :=
  match step.op with
  | .set other data content =>
    other = key → step.store.codec.write (step.store.entryFor step.now data content) = none
  | .get other content | .has other content =>
    other = key → stored.isLost step.store step.now content = false
  | .delete other => other ≠ key
  | .clear => False

end Step

/-- The directory after some calls. -/
def runAll (steps : List Step) (directory : Directory) : Directory :=
  steps.foldl Step.run directory

/-- The map after some calls on an empty one. -/
def Ledger.ofSteps (steps : List Step) : Ledger :=
  steps.foldl Step.record fun _ => none

/-- The most recent call that stored something under a key, and that no later call touched. -/
def Current (steps : List Step) (key : String) (stored : Stored) : Prop :=
  ∃ before step after, steps = before ++ step :: after ∧ step.Stores key stored ∧
    ∀ later ∈ after, later.Spares key stored

/-! ## The directory follows the map -/

/-- Something was stored for a content among some texts, and its file is read back as it is, or not
    at all. -/
structure Stored.Sound (codec : Codec) (texts : List Text) (stored : Stored) : Prop where
  written : (codec.write stored.entry).isSome = true
  honest : codec.Honest stored.entry
  known : ∀ text ∈ stored.content, text ∈ texts

/-- What is read from the file of something stored. -/
theorem Stored.Sound.read {codec : Codec} {texts : List Text} {stored : Stored}
    (sound : stored.Sound codec texts) : ∃ found, stored.file? codec = some found ∧
      entry? codec found = if codec.isReadable stored.entry then some stored.entry else none := by
  obtain ⟨bytes, writes⟩ := Option.isSome_iff_exists.mp sound.written
  exact ⟨.file bytes, by rw [Stored.file?, writes]; rfl, sound.honest.read writes⟩

/-- The directory has for each key the file of what the map has. -/
structure Refines (codec : Codec) (texts : List Text) (directory : Directory) (ledger : Ledger) :
    Prop where
  plain : directory.Plain
  holds : ∀ key : String, key.toList ∈ texts →
    directory.entries.get? (fileName key) = (ledger key).bind (Stored.file? codec)
  sound : ∀ key stored, ledger key = some stored → stored.Sound codec texts

namespace Refines

variable {codec : Codec} {texts : List Text} {directory : Directory} {ledger : Ledger}

theorem empty (codec : Codec) (texts : List Text) {directory : Directory}
    (nothing : directory = .missing ∨ directory = .present []) :
    Refines codec texts directory fun _ => none where
  plain := Directory.plain_of_empty nothing
  holds := by
    intro key _
    rcases nothing with rfl | rfl
    · rfl
    · rfl
  sound := by simp

theorem put (refines : Refines codec texts directory ledger) (free : Sha256.CollisionFree texts)
    {key : String} (inside : key.toList ∈ texts) {stored : Stored}
    (sound : stored.Sound codec texts) {bytes : List UInt8}
    (writes : codec.write stored.entry = some bytes) :
    Refines codec texts (directory.put (fileName key) bytes)
      (Function.update ledger key (some stored)) where
  plain := refines.plain.put _ _
  holds := by
    intro other there
    rw [Directory.get?_put refines.plain, Function.update_apply]
    simp only [fileName_inj free there inside]
    split
    · rw [Option.bind_some, Stored.file?, writes]
      rfl
    · exact refines.holds other there
  sound := by
    intro other old same
    rw [Function.update_apply] at same
    split at same
    · cases same
      exact sound
    · exact refines.sound other old same

theorem remove (refines : Refines codec texts directory ledger) (free : Sha256.CollisionFree texts)
    {key : String} (inside : key.toList ∈ texts) :
    Refines codec texts (directory.remove (fileName key)) (Function.update ledger key none) where
  plain := refines.plain.remove _
  holds := by
    intro other there
    rw [Directory.get?_remove refines.plain, Function.update_apply]
    simp only [fileName_inj free there inside]
    split
    · rfl
    · exact refines.holds other there
  sound := by
    intro other old same
    rw [Function.update_apply] at same
    split at same
    · cases same
    · exact refines.sound other old same

theorem clear (refines : Refines codec texts directory ledger) :
    Refines codec texts (clear directory).2 fun _ => none where
  plain := plain_clear refines.plain
  holds := fun key _ => get?_clear refines.plain key
  sound := by simp

/-- A look-up answers as the map does, and leaves what the map is left with. -/
theorem get (refines : Refines codec texts directory ledger) (free : Sha256.CollisionFree texts)
    {store : Store} (shared : store.codec = codec) (now : Int) {key : String}
    (inside : key.toList ∈ texts) {content : Option Text}
    (asked : ∀ text ∈ content, text ∈ texts) :
    (store.get now key content directory).1 = (ledger.get store now key content).1 ∧
      Refines codec texts (store.get now key content directory).2
        (ledger.get store now key content).2 := by
  subst shared
  rw [Store.get, Ledger.get, refines.holds key inside]
  cases found : ledger key with
  | none => exact ⟨rfl, refines⟩
  | some stored =>
      have sound := refines.sound key stored found
      have fits := Stored.fits_entry free sound.known asked
      have valid : store.isValid now stored.entry content = stored.isValid store now content := by
        rw [Store.isValid, fits]
        rfl
      have bound : (stored.entry.isBound && content.isNone) = stored.isHidden content := by
        rw [Stored.isBound_entry]
        rfl
      obtain ⟨file, there, read⟩ := sound.read
      cases readable : store.codec.isReadable stored.entry with
      | false =>
          simp only [Option.bind_some, there, read, readable, Stored.isLost]
          exact ⟨rfl, refines.remove free inside⟩
      | true =>
          simp only [Option.bind_some, there, read, readable, if_true, bound, valid, Stored.isLost]
          cases stored.isHidden content with
          | true => exact ⟨rfl, refines⟩
          | false =>
              cases stored.isValid store now content with
              | true => exact ⟨rfl, refines⟩
              | false => exact ⟨rfl, refines.remove free inside⟩

/-- One call keeps the directory in step with the map. -/
theorem step (refines : Refines codec texts directory ledger) (free : Sha256.CollisionFree texts)
    {step : Step} (shared : step.store.codec = codec) (honest : step.Honest)
    (inside : ∀ text ∈ step.op.texts, text ∈ texts) :
    Refines codec texts (step.run directory) (step.record ledger) := by
  obtain ⟨store, now, op⟩ := step
  subst shared
  cases op with
  | set key data content =>
      have here : key.toList ∈ texts := inside _ List.mem_cons_self
      have known : ∀ text ∈ content, text ∈ texts := fun text member =>
        inside text (List.mem_cons_of_mem _ (Option.mem_toList.mpr member))
      simp only [Step.run, Step.record, Store.set]
      cases writes : store.codec.write (store.entryFor now data content) with
      | none => exact refines
      | some bytes =>
          have sound : (store.stored now data content).Sound store.codec texts :=
            ⟨Option.isSome_of_eq_some writes, honest key data content rfl, known⟩
          exact refines.put free here sound writes
  | get key content | has key content =>
      have here : key.toList ∈ texts := inside _ List.mem_cons_self
      have asked : ∀ text ∈ content, text ∈ texts := fun text member =>
        inside text (List.mem_cons_of_mem _ (Option.mem_toList.mpr member))
      exact (refines.get free rfl now here asked).2
  | delete key => exact refines.remove free (inside _ List.mem_cons_self)
  | clear => exact refines.clear

theorem run {steps : List Step} (refines : Refines codec texts directory ledger)
    (free : Sha256.CollisionFree texts) (shared : ∀ step ∈ steps, step.store.codec = codec)
    (honest : ∀ step ∈ steps, step.Honest)
    (inside : ∀ step ∈ steps, ∀ text ∈ step.op.texts, text ∈ texts) :
    Refines codec texts (runAll steps directory) (steps.foldl Step.record ledger) := by
  induction steps generalizing directory ledger with
  | nil => exact refines
  | cons first rest ih =>
      obtain ⟨sharedFirst, shared⟩ := List.forall_mem_cons.mp shared
      obtain ⟨honestFirst, honest⟩ := List.forall_mem_cons.mp honest
      obtain ⟨insideFirst, inside⟩ := List.forall_mem_cons.mp inside
      exact ih (refines.step free sharedFirst honestFirst insideFirst) shared honest inside

end Refines

/-! ## What the map has -/

theorem Ledger.get_eq_some_iff (store : Store) (now : Int) (other : String)
    (content : Option Text) (ledger : Ledger) (key : String) (stored : Stored) :
    (ledger.get store now other content).2 key = some stored ↔
      ledger key = some stored ∧ (other = key → stored.isLost store now content = false) := by
  by_cases same : other = key
  · subst same
    rw [get]
    cases found : ledger other with
    | none => simp [found]
    | some old =>
        cases lost : old.isLost store now content with
        | true =>
            simp only [lost, if_true, Function.update_self]
            constructor
            · intro impossible
              cases impossible
            · rintro ⟨⟨⟩, kept⟩
              rw [kept trivial] at lost
              cases lost
        | false =>
            have left : (if old.isHidden content then (none, ledger)
                else (old.entry.value?, ledger)).2 other = some old := by
              split
              · exact found
              · exact found
            simp only [lost, Bool.false_eq_true, if_false, left]
            constructor
            · rintro ⟨⟩
              exact ⟨rfl, fun _ => lost⟩
            · exact And.left
  · have untouched : (ledger.get store now other content).2 key = ledger key := by
      rw [get]
      split
      · rfl
      · split
        · exact Function.update_of_ne (Ne.symm same) _ _
        · split
          · rfl
          · rfl
    rw [untouched]
    simp [same]

/-- What the map has for a key after a call: what the call stores there, or what it spares. -/
theorem record_eq_some_iff (ledger : Ledger) (step : Step) (key : String) (stored : Stored) :
    step.record ledger key = some stored ↔
      step.Stores key stored ∨ (ledger key = some stored ∧ step.Spares key stored) := by
  obtain ⟨store, now, op⟩ := step
  cases op with
  | set other data content =>
      simp only [Step.record, Step.Stores, Step.Spares, Op.set.injEq]
      cases writes : store.codec.write (store.entryFor now data content) with
      | none =>
        constructor
        · exact fun old => .inr ⟨old, fun _ => rfl⟩
        · rintro (⟨_, _, ⟨-, rfl, rfl⟩, rfl, written⟩ | ⟨old, -⟩)
          · rw [Store.entry_stored, writes] at written
            cases written
          · exact old
      | some bytes =>
        simp only [Function.update_apply]
        by_cases same : key = other
        · rw [if_pos same]
          constructor
          · rintro ⟨⟩
            exact .inl ⟨data, content, ⟨same.symm, rfl, rfl⟩, rfl, Option.isSome_of_eq_some writes⟩
          · rintro (⟨_, _, ⟨-, rfl, rfl⟩, rfl, -⟩ | ⟨-, spared⟩)
            · rfl
            · cases spared same.symm
        · rw [if_neg same]
          constructor
          · exact fun old => .inr ⟨old, fun equal => absurd equal.symm same⟩
          · rintro (⟨_, _, ⟨equal, -⟩, -⟩ | ⟨old, -⟩)
            · exact absurd equal.symm same
            · exact old
  | get other content | has other content =>
      simp only [Step.record, Step.Stores, Step.Spares, Ledger.get_eq_some_iff, reduceCtorEq,
        false_and, exists_false, false_or]
  | delete other =>
      simp only [Step.record, Step.Stores, Step.Spares, reduceCtorEq, false_and, exists_false,
        false_or, Function.update_apply]
      by_cases same : key = other
      · simp [same]
      · simp [same, Ne.symm same]
  | clear => simp [Step.record, Step.Stores, Step.Spares]

theorem current_concat (steps : List Step) (step : Step) (key : String) (stored : Stored) :
    Current (steps ++ [step]) key stored ↔
      step.Stores key stored ∨ (Current steps key stored ∧ step.Spares key stored) := by
  constructor
  · rintro ⟨before, setter, after, cut, stores, spares⟩
    rcases List.eq_nil_or_concat after with rfl | ⟨front, last, rfl⟩
    · obtain ⟨-, single⟩ := List.append_inj' cut rfl
      cases single
      exact .inl stores
    · rw [List.concat_eq_append] at cut spares
      have split : steps ++ [step] = (before ++ setter :: front) ++ [last] := by
        rw [cut]
        simp
      obtain ⟨rfl, single⟩ := List.append_inj' split rfl
      cases single
      refine .inr ⟨⟨before, setter, front, rfl, stores, ?_⟩, spares _ (by simp)⟩
      exact fun later member => spares later (List.mem_append_left _ member)
  · rintro (stores | ⟨⟨before, setter, after, rfl, stores, spares⟩, spared⟩)
    · exact ⟨steps, step, [], rfl, stores, by simp⟩
    · refine ⟨before, setter, after ++ [step], by simp, stores, fun later member => ?_⟩
      rcases List.mem_append.mp member with earlier | here
      · exact spares later earlier
      · rwa [List.mem_singleton.mp here]

/-- The map has what the most recent call stored that no later one touched. -/
theorem ofSteps_eq_some_iff (steps : List Step) (key : String) (stored : Stored) :
    Ledger.ofSteps steps key = some stored ↔ Current steps key stored := by
  induction steps using List.reverseRecOn with
  | nil => simp [Ledger.ofSteps, Current]
  | append_singleton steps step ih =>
      rw [current_concat, ← ih, Ledger.ofSteps, List.foldl_append]
      exact record_eq_some_iff _ step key stored

theorem Entry.value?_eq_some_iff (entry : Entry) (value : Json) :
    entry.value? = some value ↔ value ≠ .null ∧ entry.data = value := by
  unfold value?
  split
  · next empty =>
    rw [empty]
    constructor
    · intro impossible
      cases impossible
    · rintro ⟨filled, rfl⟩
      exact absurd rfl filled
  · next data filled =>
    constructor
    · rintro ⟨⟩
      exact ⟨filled, rfl⟩
    · rintro ⟨-, rfl⟩
      rfl

/-- The map answers with a value that is neither lost nor hidden. -/
theorem Ledger.get_fst_eq_some_iff (store : Store) (now : Int) (key : String)
    (content : Option Text) (ledger : Ledger) (value : Json) :
    (ledger.get store now key content).1 = some value ↔
      value ≠ .null ∧ ∃ stored, ledger key = some stored ∧ stored.data = value ∧
        store.codec.isReadable stored.entry = true ∧ stored.isValid store now content = true := by
  rw [get]
  cases found : ledger key with
  | none => simp
  | some stored =>
      simp only [Option.some.injEq, exists_eq_left']
      cases readable : store.codec.isReadable stored.entry with
      | false => simp [Stored.isLost, readable]
      | true =>
          cases valid : stored.isValid store now content with
          | true =>
              have seen : stored.isHidden content = false := by
                simp only [Stored.isValid, Bool.and_eq_true, Bool.or_eq_true,
                  decide_eq_true_eq] at valid
                rcases valid.2 with bare | same
                · rw [Stored.isHidden, bare]
                  rfl
                · rw [Stored.isHidden, same]
                  cases content <;> rfl
              have answer := stored.entry.value?_eq_some_iff value
              simpa [Stored.isLost, readable, valid, seen] using answer
          | false =>
              cases hidden : stored.isHidden content with
              | true => simp [Stored.isLost, readable, valid, hidden]
              | false => simp [Stored.isLost, readable, valid, hidden]

/-- Nothing is there for a key any more once it was found invalid, until it is stored again. -/
theorem not_current_of_isLost {steps later : List Step} {key : String} {stored : Stored}
    (current : Current steps key stored) {store : Store} {now : Int} {content : Option Text}
    (lost : stored.isLost store now content = true)
    (unset : ∀ step ∈ later, ∀ other, ¬step.Stores key other) (other : Stored) :
    ¬Current (steps ++ ⟨store, now, .get key content⟩ :: later) key other := by
  rw [← ofSteps_eq_some_iff]
  induction later using List.reverseRecOn with
  | nil =>
      rw [ofSteps_eq_some_iff, current_concat]
      rintro (⟨_, _, impossible, -⟩ | ⟨old, spared⟩)
      · cases impossible
      · rw [← ofSteps_eq_some_iff] at current old
        obtain rfl : stored = other := Option.some.inj (current.symm.trans old)
        rw [spared rfl] at lost
        cases lost
  | append_singleton later step ih =>
      rw [← List.cons_append, ← List.append_assoc, ofSteps_eq_some_iff, current_concat]
      rintro (stores | ⟨old, -⟩)
      · exact unset step (by simp) other stores
      · rw [← ofSteps_eq_some_iff] at old
        exact ih (fun earlier member => unset earlier (List.mem_append_left _ member)) old

/-- A look-up after any calls on stores that share a directory and a codec answers with a value
    exactly if the most recent call that stored something under the key has stored this value,
    readable, under the version of the store, not too long ago, and for no content or for this very
    one, and no later call removed it or found it invalid. What is asked for without the content it
    was stored for stays, and what was found invalid does not come back before it is stored again.
    It is assumed that the codec reads what it wrote for a call as what the call stored, or does not
    read it at all. -/
theorem get_runAll_iff {steps : List Step} {directory : Directory}
    (nothing : directory = .missing ∨ directory = .present []) (store : Store)
    (shared : ∀ step ∈ steps, step.store.codec = store.codec)
    (honest : ∀ step ∈ steps, step.Honest) (now : Int) (key : String) (content : Option Text)
    (free : Sha256.CollisionFree
      (steps.flatMap (·.op.texts) ++ key.toList :: content.toList)) :
    (∀ value, (store.get now key content (runAll steps directory)).1 = some value ↔
      value ≠ .null ∧ ∃ stored, Current steps key stored ∧ stored.data = value ∧
        stored.version = store.version ∧ now - stored.time ≤ store.maxAge ∧
        (stored.content = none ∨ stored.content = content) ∧
        store.codec.isReadable stored.entry = true) ∧
    ((store.has now key content (runAll steps directory)).1 = true ↔
      ∃ value, (store.get now key content (runAll steps directory)).1 = some value) ∧
    (∀ stored, Current steps key stored → store.codec.isReadable stored.entry = true →
      stored.isHidden content = true →
      store.get now key content (runAll steps directory) = (none, runAll steps directory)) ∧
    ∀ stored, Current steps key stored → stored.isLost store now content = true →
      ∀ later, (∀ step ∈ later, ∀ other, ¬step.Stores key other) →
        ∀ other, ¬Current (steps ++ ⟨store, now, .get key content⟩ :: later) key other := by
  have refines := (Refines.empty store.codec
    (steps.flatMap (·.op.texts) ++ key.toList :: content.toList) nothing).run free shared honest (by
      intro step member text inside
      exact List.mem_append_left _ (List.mem_flatMap.mpr ⟨step, member, inside⟩))
  have inside : key.toList ∈ steps.flatMap (·.op.texts) ++ key.toList :: content.toList := by simp
  have asked : ∀ text ∈ content,
      text ∈ steps.flatMap (·.op.texts) ++ key.toList :: content.toList := by
    intro text member
    exact List.mem_append_right _ (List.mem_cons_of_mem _ (Option.mem_toList.mpr member))
  have answer := (refines.get free rfl now inside asked).1
  refine ⟨fun value => ?_, ?_, ?_, fun stored current lost later unset other =>
    not_current_of_isLost current lost unset other⟩
  · rw [answer, Ledger.get_fst_eq_some_iff]
    simp only [← ofSteps_eq_some_iff, Stored.isValid, Bool.and_eq_true, Bool.or_eq_true,
      decide_eq_true_eq]
    constructor
    · rintro ⟨filled, stored, current, data, readable, ⟨young, version⟩, same⟩
      exact ⟨filled, stored, current, data, version, young, same, readable⟩
    · rintro ⟨filled, stored, current, data, version, young, same, readable⟩
      exact ⟨filled, stored, current, data, readable, ⟨young, version⟩, same⟩
  · exact Option.isSome_iff_exists
  · intro stored current readable hidden
    have known := (ofSteps_eq_some_iff steps key stored).mpr current
    obtain ⟨file, there, read⟩ := (refines.sound key stored known).read
    have found := refines.holds key inside
    rw [← Ledger.ofSteps, known, Option.bind_some, there] at found
    have bound : (stored.entry.isBound && content.isNone) = true := by
      rwa [Stored.isBound_entry]
    rw [Store.get, found]
    simp only [read, readable, if_true, bound]

/-- What is stored for a content is found again by this content, also after it was asked for
    without one. -/
theorem get_runAll_bound :
    let store : Store := ⟨Lenient.codec, 10, "v1"⟩
    let steps : List Step := [⟨store, 0, .set "k" (.int 7) (some "c".toList)⟩,
      ⟨⟨Lenient.codec, 0, "v2"⟩, 5, .get "k" none⟩]
    (∀ step ∈ steps, step.store.codec = store.codec) ∧ (∀ step ∈ steps, step.Honest) ∧
      Sha256.CollisionFree (steps.flatMap (·.op.texts) ++ ["k".toList, "c".toList]) ∧
      (store.get 10 "k" (some "c".toList) (runAll steps .missing)).1 = some (.int 7) := by
  intro store steps
  have keeps : Lenient.codec.Keeps (store.entryFor 0 (.int 7) (some "c".toList)) :=
    Lenient.codec_keeps ⟨by decide, by decide⟩ ⟨by decide, by decide⟩
  have shared : ∀ step ∈ steps, step.store.codec = store.codec := by simp [steps, store]
  have honest : ∀ step ∈ steps, step.Honest := by
    simp only [steps, List.forall_mem_cons]
    refine ⟨?_, ?_, by simp⟩
    · rintro _ _ _ ⟨⟩
      exact keeps.honest
    · rintro _ _ _ ⟨⟩
  have free : Sha256.CollisionFree (steps.flatMap (·.op.texts) ++ ["k".toList, "c".toList]) := by
    unfold Sha256.CollisionFree
    decide +kernel
  refine ⟨shared, honest, free, ((get_runAll_iff (.inl rfl) store shared honest 10 "k"
    (some "c".toList) free).1 _).mpr ⟨by simp, ⟨.int 7, 0, "v1", some "c".toList⟩, ?_, rfl, rfl,
      by decide, .inr rfl, keeps.isReadable⟩⟩
  obtain ⟨bytes, writes, -⟩ := keeps
  refine ⟨[], _, _, rfl, ⟨_, _, rfl, rfl, Option.isSome_of_eq_some writes⟩, ?_⟩
  simp only [List.mem_singleton, forall_eq]
  exact fun _ => by decide +kernel

/-! ## Values that are too deep -/

/-- A value in a number of arrays. -/
def nested : Nat → Json
  | 0 => .int 1
  | depth + 1 => .array [nested depth]

/-- A value in two hundred arrays is written and cannot be read: it is not found although nothing
    touched it since it was stored. -/
theorem deep_value_lost :
    let store : Store := ⟨Lenient.codec, 10, "v1"⟩
    let steps : List Step := [⟨store, 0, .set "k" (nested 200) none⟩]
    (∀ step ∈ steps, step.Honest) ∧ Current steps "k" ⟨nested 200, 0, "v1", none⟩ ∧
      nested 200 ≠ .null ∧ (store.get 0 "k" none (runAll steps .missing)).1 = none := by
  intro store steps
  have written : (Lenient.codec.write (store.entryFor 0 (nested 200) none)).isSome = true := by
    decide +kernel
  have unread : Lenient.codec.isReadable (store.entryFor 0 (nested 200) none) = false := by
    decide +kernel
  refine ⟨?_, ⟨[], _, [], rfl, ⟨_, _, rfl, rfl, written⟩, by simp⟩, Json.noConfusion, ?_⟩
  · simp only [steps, List.mem_singleton, forall_eq]
    rintro _ _ _ ⟨⟩ bytes writes
    rw [Codec.isReadable, writes] at unread
    exact .inr (Option.not_isSome_iff_eq_none.mp (by simpa using unread))
  · exact Option.isNone_iff_eq_none.mp (by decide +kernel)

end Scholia.Cache
