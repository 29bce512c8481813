import Scholia.Proofs.Run.FileAccounting
import Scholia.Proofs.Source.Opening
import Scholia.Proofs.Source.Sites

/-! # The turns of units

The units of a file take turns, each in the document and the world that the ones before have left.
What a turn sees of the document is where the declarations stand, which no turn changes, and the
comment of its own unit, which no other turn changes. So every turn goes as if it were the first.
-/

namespace Scholia

/-- A bundle shows the sites of a document, and of comments only that of its own declaration. -/
theorem Extractor.bundle_of_sites (extractor : Extractor) {document other : Document}
    (same : other.sites = document.sites) (d : Declaration) :
    extractor.bundle other d = extractor.bundle document d := by
  have source : other.source = document.source := congrArg (·.source) same
  have path : other.path = document.path := congrArg (·.path) same
  have imports : other.imports = document.imports := congrArg (·.imports) same
  have around : extractor.surrounding other d = extractor.surrounding document d := by
    have shown (seen : Document) (source' : seen.source = document.source) :
        extractor.surrounding seen d =
          (d.parent.bind fun parent => seen.declarations[parent]?.map Declaration.site).bind
            fun parent =>
              if parent.kind.isSurrounding then
                some (excerpt document.source parent.node extractor.settings.surroundingMaxLength
                  surroundingMarker)
              else none := by
      rw [surrounding, source']
      cases d.parent with
      | none => rfl
      | some parent =>
          simp only [Option.bind_some]
          cases seen.declarations[parent]? <;> rfl
    rw [shown other source, shown document rfl]
    refine congrArg (Option.bind · _) (congrArg (Option.bind _) (funext fun parent => ?_))
    exact Document.getElem?_of_sites same parent
  unfold bundle
  rw [source, path, imports, around]

namespace Selection

theorem firstOfSpan_sublist (document : Document) (seen : List (Nat × Nat)) (listing : List Nat) :
    (firstOfSpan document seen listing).Sublist listing := by
  induction listing generalizing seen with
  | nil => exact .refl _
  | cons index rest ih =>
      rw [firstOfSpan]
      split
      · exact (ih seen).cons index
      · split
        · exact (ih seen).cons index
        · exact (ih _).cons_cons index

/-- The units are some of the positions in a document, in their order. -/
theorem units_sublist (settings : DocSettings) (document : Document) :
    (units settings document).Sublist (List.range document.declarations.length) :=
  List.filter_sublist.trans (firstOfSpan_sublist document [] _)

theorem nodup_units (settings : DocSettings) (document : Document) :
    (units settings document).Nodup :=
  (units_sublist settings document).nodup List.nodup_range

theorem lt_length_of_mem_units {settings : DocSettings} {document : Document} {index : Nat}
    (member : index ∈ units settings document) : index < document.declarations.length :=
  List.mem_range.mp ((units_sublist settings document).subset member)

end Selection

/-- What a treatment makes of a unit stands where the unit does. -/
theorem Treatment.site_changed (rules : Reconciler) (unit : Declaration) (treatment : Treatment) :
    (treatment.changed rules unit).site = unit.site := by
  cases treatment with
  | comment text => rfl
  | passed | declined _ | broken _ => rfl

/-- A unit that took its turn, and what came of it. -/
structure Turn (σ : Type) where
  index : Nat
  document : Document
  unit : Declaration
  before : World σ
  changed : Declaration
  after : World σ

namespace Turn

open RunM Scholia.Units

variable {σ : Type} (plan : Plan σ)

/-- Take a turn. -/
def take (index : Nat) (document : Document) (unit : Declaration) (world : World σ) : Turn σ where
  index
  document
  unit
  before := world
  changed := ((consider plan document unit).run world).1.toOption.getD unit
  after := ((consider plan document unit).run world).2

/-- The bundle of the unit. -/
def bundle (turn : Turn σ) : Bundle :=
  turn.before.extractor.bundle turn.document turn.unit

/-- What the unit is treated as. -/
def treatment (turn : Turn σ) : Treatment :=
  Units.treatment plan turn.unit turn.bundle turn.before

/-- The statistics tell how the unit ended. -/
def Ended (turn : Turn σ) (verdict : Verdict) : Prop :=
  ∃ number, turn.after.stats = turn.before.stats.charge (.ofCount .unitsConsidered 1 +
    (.ofCount .relationshipsDiscovered number + verdict.bill turn.document turn.unit))

/-- A unit ends in one way. -/
theorem Ended.unique {turn : Turn σ} {verdict other : Verdict} (ended : turn.Ended verdict)
    (ended' : turn.Ended other) : verdict = other := by
  obtain ⟨number, charged⟩ := ended
  obtain ⟨number', charged'⟩ := ended'
  exact Verdict.eq_of_bill <| Bill.add_left_cancel <|
    Statistics.charge_inj (charged.symm.trans charged')

/-- A turn went by the treatment of its unit, and nothing else has changed what is seen of
    declarations. -/
structure Taken (turn : Turn σ) : Prop where
  run : (consider plan turn.document turn.unit).run turn.before = (.ok turn.changed, turn.after)
  changed : turn.changed = (turn.treatment plan).changed plan.reconciler turn.unit
  ended : turn.Ended ((turn.treatment plan).verdict plan.reconciler turn.unit)
  isOpen : turn.after.stats.finished = false
  extractor : turn.after.extractor = turn.before.extractor

theorem taken_take (index : Nat) (document : Document) (unit : Declaration) {world : World σ}
    (isOpen : world.stats.finished = false) : (take plan index document unit world).Taken plan := by
  obtain ⟨number, after, ran, charged⟩ := charged_consider plan document unit isOpen rfl
  have taken : take plan index document unit world = ⟨index, document, unit, world,
      (Units.treatment plan unit (world.extractor.bundle document unit) world).changed
        plan.reconciler unit, after⟩ := by
    rw [take, ran]
    rfl
  rw [taken]
  exact ⟨ran, rfl, ⟨number, charged.stats⟩, charged.isOpen isOpen, charged.extractor⟩

variable {plan}

/-- A unit that did not succeed is as it was. -/
theorem Taken.changed_eq {turn : Turn σ} (taken : turn.Taken plan) {verdict : Verdict}
    (ended : turn.Ended verdict) (unsuccessful : verdict ≠ .succeeded) :
    turn.changed = turn.unit := by
  obtain rfl := taken.ended.unique ended
  rw [taken.changed]
  exact Treatment.changed_of_verdict unsuccessful

theorem Taken.site_changed {turn : Turn σ} (taken : turn.Taken plan) :
    turn.changed.site = turn.unit.site := by
  rw [taken.changed]
  exact Treatment.site_changed plan.reconciler turn.unit _

end Turn

namespace Units

open RunM

variable {σ : Type} (plan : Plan σ)

/-- The turns of the units at some positions of a document. -/
def turns : List Nat → Document → World σ → List (Turn σ)
  | [], _, _ => []
  | index :: rest, document, world =>
    match document.declarations[index]? with
    | none => turns rest document world
    | some unit =>
      let turn := Turn.take plan index document unit world
      turn :: turns rest (document.modify index fun _ => turn.changed) turn.after

/-- A document with what some turns have made of their units. -/
def afterTurns (document : Document) (turns : List (Turn σ)) : Document :=
  turns.foldl (fun document turn => document.modify turn.index fun _ => turn.changed) document

theorem turns_cons_some {document : Document} {index : Nat} {unit : Declaration}
    (here : document.declarations[index]? = some unit) (rest : List Nat) (world : World σ) :
    turns plan (index :: rest) document world = Turn.take plan index document unit world ::
      turns plan rest
        (document.modify index fun _ => (Turn.take plan index document unit world).changed)
        (Turn.take plan index document unit world).after := by
  rw [turns, here]

theorem turns_cons_none {document : Document} {index : Nat}
    (nowhere : document.declarations[index]? = none) (rest : List Nat) (world : World σ) :
    turns plan (index :: rest) document world = turns plan rest document world := by
  rw [turns, nowhere]

/-- All units take their turns, and what is seen of declarations stays the same. -/
theorem run_considerAll (indices : List Nat) (document : Document) {world : World σ}
    (isOpen : world.stats.finished = false) : ∃ after,
    (considerAll plan indices document).run world =
        (.ok (afterTurns document (turns plan indices document world)), after) ∧
      after.stats.finished = false := by
  induction indices generalizing document world with
  | nil => exact ⟨world, rfl, isOpen⟩
  | cons index rest ih =>
      cases here : document.declarations[index]? with
      | none =>
          rw [considerAll_cons_none plan document here, turns_cons_none plan here]
          exact ih document isOpen
      | some unit =>
          have taken := Turn.taken_take plan index document unit isOpen
          rw [considerAll_cons_some plan document here, turns_cons_some plan here]
          obtain ⟨after, ran, still⟩ := ih (document.modify index fun _ =>
            (Turn.take plan index document unit world).changed) taken.isOpen
          exact ⟨after, (run_bind_ok _ taken.run).trans ran, still⟩

/-- A file that can be read is taken up with all its units. -/
theorem run_takeUp {path : Path} {document : Document} {world : World σ}
    (opened : plan.reader.open? world.disk path = .ok document) : (takeUp plan path).run world =
      (.ok (.ok (document, Selection.units world.extractor.settings document)), world) := by
  rw [takeUp, run_bind, run_openSource, opened]
  rfl

/-- Once the statistics are finished, a file fails before anything is done. -/
theorem run_processFile_finished {path : Path} {document : Document} {world : World σ}
    (finished : world.stats.finished = true)
    (opened : plan.reader.open? world.disk path = .ok document) :
    (processFile plan path).run world = (.error (.statistics .readOnly), world) := by
  rw [processFile_eq, run_bind, revise_eq, run_bind_ok _ (run_takeUp plan opened)]
  dsimp only
  cases listed : Selection.units world.extractor.settings document with
  | nil =>
      have nothing : (considerAll plan [] document).run world = (.ok document, world) := rfl
      rw [run_bind_ok _ nothing, run_bind, countFile, run_bind, run_count_finished _ _ finished]
  | cons index rest =>
      have inside : index < document.declarations.length :=
        Selection.lt_length_of_mem_units (listed ▸ List.mem_cons_self)
      rw [run_bind, considerAll_cons_some plan document (List.getElem?_eq_getElem inside), run_bind,
        consider_eq, run_bind, begin, run_bind, run_count_finished _ _ finished]

/-- Each of the positions has one turn. -/
theorem map_index_turns {indices : List Nat} {document : Document}
    (within : ∀ index ∈ indices, index < document.declarations.length) (world : World σ) :
    (turns plan indices document world).map (·.index) = indices := by
  induction indices generalizing document world with
  | nil => rfl
  | cons index rest ih =>
      obtain ⟨inside, within⟩ := List.forall_mem_cons.mp within
      rw [turns_cons_some plan (List.getElem?_eq_getElem inside), List.map_cons, ih]
      · rfl
      · intro other member
        rw [Document.modify, List.length_modify]
        exact within other member

/-- Turns change no site. -/
theorem sites_afterTurns (indices : List Nat) (document : Document) {world : World σ}
    (isOpen : world.stats.finished = false) :
    (afterTurns document (turns plan indices document world)).sites = document.sites := by
  induction indices generalizing document world with
  | nil => rfl
  | cons index rest ih =>
      cases here : document.declarations[index]? with
      | none =>
          rw [turns_cons_none plan here]
          exact ih document isOpen
      | some unit =>
          have taken := Turn.taken_take plan index document unit isOpen
          rw [turns_cons_some plan here]
          exact (ih _ taken.isOpen).trans (Document.sites_put here taken.site_changed)

theorem getElem?_afterTurns_of_not_mem {turns : List (Turn σ)} {index : Nat}
    (absent : index ∉ turns.map (·.index)) (document : Document) :
    (afterTurns document turns).declarations[index]? = document.declarations[index]? := by
  induction turns generalizing document with
  | nil => rfl
  | cons turn rest ih =>
      rw [List.map_cons, List.mem_cons, not_or] at absent
      exact (ih absent.2 _).trans (Document.getElem?_put_of_ne (Ne.symm absent.1))

/-- A declaration is at the end what its turn has made of it. -/
theorem getElem?_afterTurns_of_mem {turns : List (Turn σ)}
    (distinct : (turns.map (·.index)).Nodup) {turn : Turn σ} (member : turn ∈ turns)
    {document : Document} {unit : Declaration}
    (here : document.declarations[turn.index]? = some unit) :
    (afterTurns document turns).declarations[turn.index]? = some turn.changed := by
  induction turns generalizing document unit with
  | nil => cases member
  | cons first rest ih =>
      obtain ⟨fresh, distinct⟩ := List.nodup_cons.mp distinct
      rcases List.mem_cons.mp member with rfl | later
      · exact (getElem?_afterTurns_of_not_mem fresh _).trans (Document.getElem?_put here)
      · have differ : first.index ≠ turn.index := fun same =>
          fresh (List.mem_map.mpr ⟨turn, later, same.symm⟩)
        exact ih distinct later ((Document.getElem?_put_of_ne differ).trans here)

theorem index_mem_of_mem_turns {indices : List Nat} {document : Document} {world : World σ}
    {turn : Turn σ} (member : turn ∈ turns plan indices document world) : turn.index ∈ indices := by
  induction indices generalizing document world with
  | nil => cases member
  | cons index rest ih =>
      cases here : document.declarations[index]? with
      | none =>
          rw [turns_cons_none plan here] at member
          exact List.mem_cons_of_mem _ (ih member)
      | some unit =>
          rw [turns_cons_some plan here] at member
          rcases List.mem_cons.mp member with rfl | later
          · exact List.mem_cons_self
          · exact List.mem_cons_of_mem _ (ih later)

end Units

namespace Turn

open Scholia.Units

variable {σ : Type}

/-- A turn goes as if it were the first one in a document and a world. -/
structure Undisturbed (plan : Plan σ) (document : Document) (world : World σ) (turn : Turn σ) :
    Prop extends turn.Taken plan where
  unit : document.declarations[turn.index]? = some turn.unit
  sites : turn.document.sites = document.sites
  sees : turn.before.extractor = world.extractor

namespace Undisturbed

variable {plan : Plan σ} {document : Document} {world : World σ} {turn : Turn σ}

/-- The bundle is that of the declaration as the document has it at the start. -/
theorem bundle_eq (undisturbed : turn.Undisturbed plan document world) :
    turn.bundle = world.extractor.bundle document turn.unit := by
  rw [bundle, undisturbed.sees]
  exact world.extractor.bundle_of_sites undisturbed.sites turn.unit

end Undisturbed

/-- Every unit that takes one turn only takes it undisturbed by those before. -/
theorem undisturbed_of_mem (plan : Plan σ) {indices : List Nat} (distinct : indices.Nodup)
    {document : Document} {world : World σ} (isOpen : world.stats.finished = false)
    {turn : Turn σ} (member : turn ∈ turns plan indices document world) :
    turn.Undisturbed plan document world := by
  induction indices generalizing document world with
  | nil => cases member
  | cons index rest ih =>
      obtain ⟨fresh, distinct⟩ := List.nodup_cons.mp distinct
      cases here : document.declarations[index]? with
      | none =>
          rw [turns_cons_none plan here] at member
          exact ih distinct isOpen member
      | some unit =>
          have taken := taken_take plan index document unit isOpen
          rw [turns_cons_some plan here] at member
          rcases List.mem_cons.mp member with rfl | later
          · exact { taken with unit := here, sites := rfl, sees := rfl }
          · have other : index ≠ turn.index := fun same =>
              fresh (same ▸ index_mem_of_mem_turns plan later)
            have undisturbed := ih distinct taken.isOpen later
            have unit' := undisturbed.unit
            rw [Document.getElem?_put_of_ne other] at unit'
            exact { undisturbed with
              unit := unit'
              sites := undisturbed.sites.trans (Document.sites_put here taken.site_changed)
              sees := undisturbed.sees.trans taken.extractor }

end Turn

end Scholia
