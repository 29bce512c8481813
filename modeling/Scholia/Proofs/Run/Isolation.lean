import Scholia.Proofs.Oracle.Keeping
import Scholia.Proofs.Run.Turns
import Scholia.Proofs.Source.Surroundings

/-! # Units do not touch each other

Two runs over one document that treat the bundles of all units but one alike end all other units
in the same way, and write the same everywhere but in the region of that one. A unit that did not
succeed keeps the comment that it had.
-/

namespace Scholia

open RunM Utf8

variable {σ ρ : Type}

namespace Units

/-- The turns of the units of a file. -/
def turnsIn (plan : Plan σ) (path : Path) (world : World σ) : List (Turn σ) :=
  match plan.reader.open? world.disk path with
  | .ok document => turns plan (Selection.units world.extractor.settings document) document world
  | .error _ => []

variable {plan : Plan σ} {path : Path} {world : World σ} {document : Document}

theorem turnsIn_eq (opened : plan.reader.open? world.disk path = .ok document) :
    turnsIn plan path world =
      turns plan (Selection.units world.extractor.settings document) document world := by
  unfold turnsIn
  rw [opened]

/-- Each unit of a file has one turn. -/
theorem map_index_turnsIn (opened : plan.reader.open? world.disk path = .ok document) :
    (turnsIn plan path world).map (·.index) =
      Selection.units world.extractor.settings document := by
  rw [turnsIn_eq opened]
  exact map_index_turns plan (fun _ member => Selection.lt_length_of_mem_units member) world

theorem undisturbed_of_mem_turnsIn (opened : plan.reader.open? world.disk path = .ok document)
    (isOpen : world.stats.finished = false) {turn : Turn σ}
    (member : turn ∈ turnsIn plan path world) : turn.Undisturbed plan document world := by
  rw [turnsIn_eq opened] at member
  exact Turn.undisturbed_of_mem plan (Selection.nodup_units _ _) isOpen member

/-- A document is revised to what the turns of its units have made of it. -/
structure Revised (plan : Plan σ) (path : Path) (world : World σ) (document result : Document) :
    Prop where
  /-- Each unit has one turn. -/
  indices : (turnsIn plan path world).map (·.index) =
    Selection.units world.extractor.settings document
  /-- The units are considered, and what they come to is then saved or not. -/
  run : ∃ after, (revise plan path).run world = (.ok (.processed result), after) ∧
    (processFile plan path).run world =
      (Upshot.isChanged <$> StepM.inOneGo (close plan path (.processed result))).run after
  sites : result.sites = document.sites
  turned : ∀ turn ∈ turnsIn plan path world,
    result.declarations[turn.index]? = some turn.changed
  untouched : ∀ index, index ∉ (turnsIn plan path world).map (·.index) →
    result.declarations[index]? = document.declarations[index]?

theorem revised_afterTurns (opened : plan.reader.open? world.disk path = .ok document)
    (isOpen : world.stats.finished = false) :
    Revised plan path world document (afterTurns document (turnsIn plan path world)) := by
  have turned := turnsIn_eq opened
  constructor
  case indices => exact map_index_turnsIn opened
  case run =>
    obtain ⟨between, considered, still⟩ := run_considerAll plan
      (Selection.units world.extractor.settings document) document isOpen
    obtain ⟨_, result, after, counted, -, fine⟩ :=
      charges_countFile (afterTurns document (turnsIn plan path world)) between still
    cases result with
    | error failure => exact False.elim fine
    | ok value =>
        have ran : (revise plan path).run world =
            (.ok (.processed (afterTurns document (turnsIn plan path world))), after) := by
          rw [revise_eq, run_bind_ok _ (run_takeUp plan opened)]
          dsimp only
          rw [run_bind_ok _ considered, ← turned, run_bind_ok _ counted]
          rfl
        refine ⟨after, ran, ?_⟩
        rw [processFile_eq, run_bind_ok _ ran]
  case sites =>
    rw [turned]
    exact sites_afterTurns plan _ document isOpen
  case turned =>
    intro turn member
    have distinct : ((turnsIn plan path world).map (·.index)).Nodup := by
      rw [map_index_turnsIn opened]
      exact Selection.nodup_units _ _
    exact getElem?_afterTurns_of_mem distinct member
      (undisturbed_of_mem_turnsIn opened isOpen member).unit
  case untouched =>
    intro index absent
    exact getElem?_afterTurns_of_not_mem absent document

end Units

open Scholia.Units

/-- Two runs over one document come to the same but for the comment of one declaration. -/
structure Isolated (document : Document) (index : Nat) (first : List (Turn σ))
    (second : List (Turn ρ)) (left right : Document) : Prop where
  /-- The same units take their turns. -/
  indices : first.map (·.index) = second.map (·.index)
  /-- Every other unit ends in the same way. -/
  outcomes : ∀ mine ∈ first, ∀ other ∈ second, mine.index = other.index → mine.index ≠ index →
    mine.changed = other.changed ∧ ∃ verdict, mine.Ended verdict ∧ other.Ended verdict
  /-- Every other declaration has the same comment. -/
  others : ∀ place, place ≠ index → left.declarations[place]? = right.declarations[place]?
  /-- The unit itself ends in some way, and keeps its comment unless it has succeeded. -/
  own : ∀ turn ∈ first, turn.index = index → ∃ verdict, turn.Ended verdict ∧
    (verdict ≠ .succeeded → left.declarations[index]? = document.declarations[index]?)
  own' : ∀ turn ∈ second, turn.index = index → ∃ verdict, turn.Ended verdict ∧
    (verdict ≠ .succeeded → right.declarations[index]? = document.declarations[index]?)
  /-- What is written differs in the region of its comment only. -/
  rendered : ∃ mine other front back, left.declarations[index]? = some mine ∧
    right.declarations[index]? = some other ∧ mine.anchor = other.anchor ∧
    front = left.front mine.anchor ∧ front = right.front other.anchor ∧
    back = left.back mine.anchor ∧ back = right.back other.anchor ∧
    encode left.render = front ++ left.within mine ++ back ∧
    encode right.render = front ++ right.within other ++ back

section

variable {first : Plan σ} {second : Plan ρ} {path : Path} {one : World σ} {two : World ρ}
  {document left right : Document}

/-- Turns of one unit come to the same if its bundle is treated alike. -/
theorem Turn.Undisturbed.alike {mine : Turn σ} {other : Turn ρ}
    (undisturbed : mine.Undisturbed first document one)
    (undisturbed' : other.Undisturbed second document two)
    (rules : second.reconciler = first.reconciler) (sees : two.extractor = one.extractor)
    (same : mine.index = other.index)
    (treated : mine.bundle = other.bundle → mine.treatment first = other.treatment second) :
    mine.changed = other.changed ∧ ∃ verdict, mine.Ended verdict ∧ other.Ended verdict := by
  have unit : mine.unit = other.unit := by
    have here := undisturbed.unit
    rw [same, undisturbed'.unit] at here
    exact (Option.some.inj here).symm
  have bundles : mine.bundle = other.bundle := by
    rw [undisturbed.bundle_eq, undisturbed'.bundle_eq, sees, unit]
  have treatments := treated bundles
  have changed := undisturbed'.changed
  have ended := undisturbed'.ended
  rw [rules, ← treatments, ← unit] at changed ended
  exact ⟨undisturbed.changed.trans changed.symm, _, undisturbed.ended, ended⟩

/-- A unit ends in some way, and keeps its comment unless it has succeeded. -/
theorem Units.Revised.own (revised : Revised first path one document left)
    (opened : first.reader.open? one.disk path = .ok document)
    (isOpen : one.stats.finished = false) {turn : Turn σ} (member : turn ∈ turnsIn first path one) :
    ∃ verdict, turn.Ended verdict ∧ (verdict ≠ .succeeded →
      left.declarations[turn.index]? = document.declarations[turn.index]?) := by
  have undisturbed := undisturbed_of_mem_turnsIn opened isOpen member
  refine ⟨_, undisturbed.ended, fun unsuccessful => ?_⟩
  rw [revised.turned turn member, undisturbed.unit,
    undisturbed.changed_eq undisturbed.ended unsuccessful]

/-- Declarations are the same where the same turns have been taken, and where none has. -/
theorem Units.Revised.others {index : Nat} (revised : Revised first path one document left)
    (revised' : Revised second path two document right)
    (indices : (turnsIn first path one).map (·.index) = (turnsIn second path two).map (·.index))
    (outcomes : ∀ mine ∈ turnsIn first path one, ∀ other ∈ turnsIn second path two,
      mine.index = other.index → mine.index ≠ index → mine.changed = other.changed)
    {place : Nat} (away : place ≠ index) :
    left.declarations[place]? = right.declarations[place]? := by
  by_cases listed : place ∈ (turnsIn first path one).map (·.index)
  · obtain ⟨mine, member, rfl⟩ := List.mem_map.mp listed
    obtain ⟨other, member', same⟩ := List.mem_map.mp (indices ▸ listed)
    rw [revised.turned mine member, outcomes mine member other member' same.symm away, ← same]
    exact (revised'.turned other member').symm
  · rw [revised.untouched place listed]
    exact (revised'.untouched place (indices ▸ listed)).symm

end

/-- Documents that are the same but for one declaration are written the same but in its region. -/
theorem Document.Separate.rendered {document left right : Document} {text : Text} {index : Nat}
    (separate : document.Separate) (sound : document.Sound text) {unit : Declaration}
    (here : document.declarations[index]? = some unit)
    (sites : left.sites = document.sites) (sites' : right.sites = document.sites)
    (others : ∀ place, place ≠ index → left.declarations[place]? = right.declarations[place]?) :
    ∃ mine other front back, left.declarations[index]? = some mine ∧
      right.declarations[index]? = some other ∧ mine.anchor = other.anchor ∧
      front = left.front mine.anchor ∧ front = right.front other.anchor ∧
      back = left.back mine.anchor ∧ back = right.back other.anchor ∧
      encode left.render = front ++ left.within mine ++ back ∧
      encode right.render = front ++ right.within other ++ back := by
  have sited := (sound.settled.sited unit (List.mem_of_getElem? here)).order
  rw [sound.source] at sited
  have found {result : Document} (same : result.sites = document.sites) :
      ∃ d, result.declarations[index]? = some d ∧ d.anchor = unit.anchor := by
    have there := getElem?_of_sites same index
    rw [here, Option.map_some, Option.map_eq_some_iff] at there
    obtain ⟨d, there, site⟩ := there
    have anchor : d.site.anchor = unit.site.anchor := by rw [site]
    exact ⟨d, there, anchor⟩
  obtain ⟨mine, there, anchor⟩ := found sites
  obtain ⟨other, there', anchor'⟩ := found sites'
  have members : ∀ e : Declaration, e.anchor ≠ unit.anchor →
      (e ∈ left.declarations ↔ e ∈ right.declarations) := by
    intro e apart
    rw [List.mem_iff_getElem?, List.mem_iff_getElem?]
    refine exists_congr fun place => ?_
    rcases eq_or_ne place index with rfl | away
    · rw [there, there', Option.some.injEq, Option.some.injEq]
      constructor
      · rintro rfl
        exact absurd anchor apart
      · rintro rfl
        exact absurd anchor' apart
    · rw [others place away]
  obtain ⟨front, back⟩ := (separate.of_sites sites).around_eq (separate.of_sites sites')
    (sound.of_sites sites) (sound.of_sites sites') members sited
  have written := (separate.of_sites sites).encode_render (sound.of_sites sites)
    (List.mem_of_getElem? there)
  have written' := (separate.of_sites sites').encode_render (sound.of_sites sites')
    (List.mem_of_getElem? there')
  rw [anchor] at written
  rw [anchor', ← front, ← back] at written'
  refine ⟨mine, other, left.front unit.anchor, left.back unit.anchor, there, there',
    anchor.trans anchor'.symm, ?_, ?_, ?_, ?_, written, written'⟩
  · rw [anchor]
  · rw [anchor', front]
  · rw [anchor]
  · rw [anchor', back]

namespace Units

variable {first : Plan σ} {second : Plan ρ} {path : Path} {one : World σ} {two : World ρ}
  {document : Document} {index : Nat}

/-- Two runs that treat the bundles of all units but one alike come to the same but for that one. -/
theorem isolated_of_alike {text : Text} {unit : Declaration}
    (rules : second.reconciler = first.reconciler) (sees : two.extractor = one.extractor)
    (isOpen : one.stats.finished = false) (isOpen' : two.stats.finished = false)
    (opened : first.reader.open? one.disk path = .ok document)
    (opened' : second.reader.open? two.disk path = .ok document)
    (sound : document.Sound text) (separate : document.Separate)
    (here : document.declarations[index]? = some unit)
    (alike : ∀ mine ∈ turnsIn first path one, ∀ other ∈ turnsIn second path two,
      mine.index = other.index → mine.index ≠ index → mine.bundle = other.bundle →
        mine.treatment first = other.treatment second) :
    Isolated document index (turnsIn first path one) (turnsIn second path two)
      (afterTurns document (turnsIn first path one))
      (afterTurns document (turnsIn second path two)) := by
  have revised := revised_afterTurns opened isOpen
  have revised' := revised_afterTurns opened' isOpen'
  have indices : (turnsIn first path one).map (·.index) =
      (turnsIn second path two).map (·.index) := by
    rw [revised.indices, revised'.indices, sees]
  have outcomes : ∀ mine ∈ turnsIn first path one, ∀ other ∈ turnsIn second path two,
      mine.index = other.index → mine.index ≠ index →
        mine.changed = other.changed ∧ ∃ verdict, mine.Ended verdict ∧ other.Ended verdict :=
    fun mine member other member' same away =>
      (undisturbed_of_mem_turnsIn opened isOpen member).alike
        (undisturbed_of_mem_turnsIn opened' isOpen' member') rules sees same
        (alike mine member other member' same away)
  have others : ∀ place, place ≠ index → _ := fun place away =>
    revised.others revised' indices
      (fun mine member other member' same away => (outcomes mine member other member' same away).1)
      away
  refine ⟨indices, outcomes, others, ?_, ?_,
    separate.rendered sound here revised.sites revised'.sites others⟩
  · rintro turn member rfl
    exact revised.own opened isOpen member
  · rintro turn member rfl
    exact revised'.own opened' isOpen' member

/-- Whatever two runs make of the bundle of one unit: if they treat the bundles of all others
    alike, these end in the same way and with the same comments, the texts that are written differ
    only in the region of the comment of that unit, and wherever the unit did not succeed it has
    the comment that it had before. Only with finished statistics nothing is done at all. -/
theorem processFile_isolated {unit : Declaration}
    (rules : second.reconciler = first.reconciler) (sees : two.extractor = one.extractor)
    (finished : two.stats.finished = one.stats.finished)
    (formed : first.reader.Forms one.disk path)
    (opened : first.reader.open? one.disk path = .ok document)
    (opened' : second.reader.open? two.disk path = .ok document)
    (separate : document.Separate) (here : document.declarations[index]? = some unit)
    (alike : ∀ mine ∈ turnsIn first path one, ∀ other ∈ turnsIn second path two,
      mine.index = other.index → mine.index ≠ index → mine.bundle = other.bundle →
        mine.treatment first = other.treatment second) :
    (one.stats.finished = true →
      (processFile first path).run one = (.error (.statistics .readOnly), one) ∧
      (processFile second path).run two = (.error (.statistics .readOnly), two)) ∧
    (one.stats.finished = false → ∃ left right,
      Revised first path one document left ∧ Revised second path two document right ∧
      Isolated document index (turnsIn first path one) (turnsIn second path two) left right) := by
  constructor
  · intro closed
    exact ⟨run_processFile_finished first closed opened,
      run_processFile_finished second (finished.trans closed) opened'⟩
  · intro isOpen
    have isOpen' := finished.trans isOpen
    obtain ⟨bytes, text, root, read, decoded, parsed, made⟩ := SourceReader.exists_parse opened
    have sound := Document.sound_of_parse (formed bytes text root read decoded parsed) made
    exact ⟨_, _, revised_afterTurns opened isOpen, revised_afterTurns opened' isOpen',
      isolated_of_alike rules sees isOpen isOpen' opened opened' sound separate here alike⟩

/-! ## Two functions, one of which a handler refuses -/

/-- A source with two functions. -/
def pairSource : Text :=
  "function f() {}\nfunction g() {}\n".toList

/-- The tree of the source. -/
def pairTree : Node :=
  ⟨"program", 0, 32, true, none, [Document.indentedFunction 0, Document.indentedFunction 16]⟩

theorem siblings_pairTree : Node.Siblings pairSource pairTree.children := by
  have function (offset : Nat) (name : Node.WellFormed pairSource
        ⟨"identifier", offset + 9, offset + 10, true, some "name", []⟩)
      (opens : Boundary pairSource offset) (closes : Boundary pairSource (offset + 15)) :
      (Document.indentedFunction offset).WellFormed pairSource := by
    refine .intro (Nat.lt_add_of_pos_right (by decide)) opens closes ?_
      (by simp [Document.indentedFunction]) ?_ (by simpa [Document.indentedFunction] using name)
    · simp only [Document.indentedFunction, List.mem_singleton, forall_eq]
      omega
    · intro _ body _ has
      cases has
  have first := function 0 (.leaf (by decide) ⟨9, by decide⟩ ⟨10, by decide⟩ rfl)
    ⟨0, by decide⟩ ⟨15, by decide⟩
  have second := function 16 (.leaf (by decide) ⟨25, by decide⟩ ⟨26, by decide⟩ rfl)
    ⟨16, by decide⟩ ⟨31, by decide⟩
  constructor
  · simpa [pairTree] using ⟨first, second⟩
  · simp [pairTree, Document.indentedFunction]

/-- A handler that fails for the first function. -/
def refusing : Handler Bundle where
  name := "refusing"
  run bundle := (bundle, if bundle.name = "f" then .fail "no comment on f" else .keep)

def pairPlan (before : List (Handler Bundle)) : Plan Unit where
  provider :=
    { complete := fun _ state => (.ok (some "/** Adds. */"), state)
      embed := fun _ state => (.ok [], state) }
  oracle := { Oracle.single with cache := none }
  reader := { parse := fun text => if text = pairSource then .ok pairTree else .error "no tree" }
  reconciler := { minLength := 0, policy := ⟨false, true, false, false⟩ }
  hooks := fun _ => { before }

def pairWorld : World Unit where
  session := { provider := (), gate := ⟨1, 0, 0⟩ }
  disk := { entries := [(["a.ts"], .file (Utf8.encode pairSource))] }
  features := { flags := ⟨false, false, false⟩ }
  extractor := { settings := {} }

/-- The refused function fails and the other one gets its comment, as it does where none is
    refused. -/
theorem processFile_isolated_pair :
    (turnsIn (pairPlan [refusing]) (.ofString "/a.ts") pairWorld).map
        (fun turn => (turn.index, turn.changed.doc, turn.after.stats.counts .unitsFailed)) =
      [(0, none, 1), (1, some "/** Adds. */".toList, 1)] ∧
    (turnsIn (pairPlan []) (.ofString "/a.ts") pairWorld).map
        (fun turn => (turn.index, turn.changed.doc, turn.after.stats.counts .unitsFailed)) =
      [(0, some "/** Adds. */".toList, 0), (1, some "/** Adds. */".toList, 0)] ∧
    ∃ document left right,
      (pairPlan []).reader.open? pairWorld.disk (.ofString "/a.ts") = .ok document ∧
      document.Separate ∧
      Isolated document 0 (turnsIn (pairPlan [refusing]) (.ofString "/a.ts") pairWorld)
        (turnsIn (pairPlan []) (.ofString "/a.ts") pairWorld) left right := by
  refine ⟨by decide +kernel, by decide +kernel, ?_⟩
  have formed : (pairPlan [refusing]).reader.Forms pairWorld.disk (.ofString "/a.ts") := by
    intro bytes text root _ _ parsed
    change (if text = pairSource then Except.ok pairTree else .error "no tree") = _ at parsed
    split at parsed
    · next same =>
      cases parsed
      rw [same]
      exact siblings_pairTree
    · cases parsed
  have starts : ((pairPlan []).reader.open? pairWorld.disk (.ofString "/a.ts")).toOption.map
      (fun document => document.declarations.map (·.anchor.start)) = some [0, 16] := by
    decide +kernel
  have alike : ∀ mine ∈ turnsIn (pairPlan [refusing]) (.ofString "/a.ts") pairWorld,
      ∀ other ∈ turnsIn (pairPlan []) (.ofString "/a.ts") pairWorld,
        mine.index = other.index → mine.index ≠ 0 →
          mine.treatment (pairPlan [refusing]) = other.treatment (pairPlan []) := by
    decide +kernel
  cases opened : (pairPlan []).reader.open? pairWorld.disk (.ofString "/a.ts") with
  | error fault =>
      rw [opened] at starts
      cases starts
  | ok document =>
      rw [opened] at starts
      have starts' : document.declarations.map (·.anchor.start) = [0, 16] :=
        Option.some.inj starts
      have separate : document.Separate := by
        refine List.Nodup.of_map (·.start) ?_
        rw [List.map_map]
        exact starts' ▸ (by decide)
      have length : document.declarations.length = 2 := by
        rw [← List.length_map, starts']
        rfl
      have here := List.getElem?_eq_getElem (length ▸ by decide : 0 < document.declarations.length)
      obtain ⟨left, right, -, -, isolated⟩ :=
        (@processFile_isolated _ _ (pairPlan [refusing]) (pairPlan []) (.ofString "/a.ts") pairWorld
          pairWorld document 0 _ rfl rfl rfl formed opened opened separate here
          fun mine member other member' same away _ =>
            alike mine member other member' same away).2 rfl
      exact ⟨document, left, right, rfl, separate, isolated⟩

end Units

end Scholia
