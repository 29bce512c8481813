import Scholia.Run.Relations

/-! # Documenting the units of a file

Every unit of a file is considered once. The failure of one unit is recorded and does not touch the
others; a file that cannot be written back is recorded and fails. A file takes steps: it is read, its
units are considered one after another, each with the steps of its request, it is counted, and it is
written. Handlers, and looking a comment up in the cache with all that is removed then, are not
interrupted.
-/

namespace Scholia

/-- What became of a file: it could not be read, or its units were considered. -/
inductive Upshot where
  | unparsed (fault : SourceFault)
  | processed (document : Document)

/-- A comment in the file has changed. -/
def Upshot.isChanged : Upshot → Bool
  | unparsed _ => false
  | processed document => document.changed

end Scholia

namespace Scholia.Units

open RunM StepM

variable {σ : Type}

/-- An error record for a unit of a document. -/
def errorOf (document : Document) (unit : Declaration) (message : String) (traced : Bool) :
    ErrorRecord :=
  { filePath := document.relativePath
    message
    unitId := some unit.id
    unitName := some unit.name
    traced }

def tally (document : Document) (unit : Declaration) (outcome : Outcome) : RunM σ Unit := do
  if outcome.applied then count .unitsSucceeded
  else if outcome = .unreadable then
    count .unitsFailed
    record (errorOf document unit "Existing documentation could not be reconciled" false)
  else count .unitsSkipped

/-- The bundle with its related declarations, if they are looked for. -/
def withRelated (plan : Plan σ) (bundle : Bundle) : RunM σ Bundle := do
  if (← get).features.flags.relatedSymbols && plan.relates then
    return { bundle with related := ← Relations.find plan bundle true }
  else return bundle

/-- The reason of a response without comment. -/
def reasonOf (response : Response) : String :=
  match response.reason with
  | none | some "" => "Generation failed"
  | some reason => reason

/-- Reconcile a comment with the unit it is for, after the handlers for comments have run. -/
def apply (plan : Plan σ) (document : Document) (unit : Declaration) (comment : Text) :
    RunM σ Declaration := do
  match (Handler.runAll .afterProcessing (plan.hooks (← get)).after comment).result with
  | .error failure => throw (.hook failure)
  | .ok text =>
    let (outcome, changed) := unit.reconcile plan.reconciler text
    tally document unit outcome
    return changed

/-- Do what a response tells. -/
def respond (plan : Plan σ) (document : Document) (unit : Declaration) (unitId : String) :
    Except Tokens.Overflow Response → RunM σ Declaration
  | .error reason => throw (.overflow reason)
  | .ok response =>
    match response.status with
    | .success => apply plan document unit (response.content.getD "").toList
    | .skip => do
      count .unitsSkipped
      return unit
    | .error => do
      let reason := reasonOf response
      count .unitsFailed
      record (errorOf document unit reason false)
      notify plan (.declined reason) unitId
      return unit

/-- Record the failure of a unit, which stays as it is. -/
def fail (plan : Plan σ) (document : Document) (unit : Declaration) (unitId : String)
    (failure : RunFailure) : RunM σ Declaration := do
  count .unitsFailed
  record (errorOf document unit failure.message true)
  notify plan failure unitId
  return unit

/-- Begin with a unit: the bundle to ask for a comment on, or what the unit becomes without. One with
    a comment is skipped if existing comments are left alone. -/
def begin (plan : Plan σ) (document : Document) (unit : Declaration) :
    RunM σ (Declaration ⊕ Bundle) := do
  count .unitsConsidered
  if unit.doc.isSome && !plan.reconciler.policy.allowsExisting then
    count .unitsSkipped
    return .inl unit
  else
    let world ← get
    let built := world.extractor.bundle document unit
    let before := Handler.runAll .beforeProcessing (plan.hooks world).before built
    match before.result with
    | .error failure => return .inl (← fail plan document unit before.given.id (.hook failure))
    | .ok bundle =>
      match ← capture (withRelated plan bundle) with
      | .ok found => return .inr found
      | .error failure => return .inl (← fail plan document unit bundle.id failure)

/-- Do what the response to the request for a unit tells, and record what fails there. -/
def answer (plan : Plan σ) (document : Document) (unit : Declaration) (unitId : String)
    (result : Except Tokens.Overflow Response) : RunM σ Declaration := do
  match ← capture (respond plan document unit unitId result) with
  | .ok changed => return changed
  | .error failure => fail plan document unit unitId failure

/-- Consider one unit. -/
def unitCourse (plan : Plan σ) (document : Document) (unit : Declaration) :
    StepM σ Declaration := do
  match ← atOnce (begin plan document unit) with
  | .inl changed => return changed
  | .inr bundle =>
    let result ← plan.inquiry bundle
    atOnce (answer plan document unit bundle.id result)

/-- Consider the units at some positions of a document. -/
def unitsCourse (plan : Plan σ) : List Nat → Document → StepM σ Document
  | [], document => return document
  | index :: rest, document => do
    match document.declarations[index]? with
    | none => unitsCourse plan rest document
    | some unit =>
      let changed ← unitCourse plan document unit
      unitsCourse plan rest (document.modify index fun _ => changed)

/-- Read a file, with the positions of its units; a file that cannot be read is recorded. -/
def takeUp (plan : Plan σ) (path : Path) : RunM σ (Except SourceFault (Document × List Nat)) := do
  match ← openSource plan path with
  | .error fault =>
    record { filePath := path.toString, message := fault.message }
    return .error fault
  | .ok document => return .ok (document, Selection.units (← get).extractor.settings document)

/-- Count a file whose units are done. -/
def countFile (document : Document) : RunM σ Unit := do
  count .filesProcessed
  if document.changed then count .filesModified

def save (path : Path) (document : Document) : RunM σ Unit := do
  let world ← get
  match world.disk.write path (Utf8.encode document.render) with
  | .ok disk => set { world with disk }
  | .error fault =>
    let failure := RunFailure.unsaved path fault
    record { filePath := path.toString, message := failure.message, traced := true }
    throw failure

/-- Save a document, unless no file is to be written. -/
def store (plan : Plan σ) (path : Path) (document : Document) : RunM σ Unit :=
  if plan.dryRun then return else save path document

/-- Document the units of a file without writing it. -/
def reviseCourse (plan : Plan σ) (path : Path) : StepM σ Upshot := do
  match ← atOnce (takeUp plan path) with
  | .error fault => return .unparsed fault
  | .ok (document, units) =>
    let document ← unitsCourse plan units document
    atOnce (countFile document)
    return .processed document

/-- Save a document that changed. In a run that writes no file this is a step that does nothing. -/
def close (plan : Plan σ) (path : Path) : Upshot → StepM σ Upshot
  | .unparsed fault => return .unparsed fault
  | .processed document =>
    if document.changed then do
      atOnce (store plan path document)
      return .processed document
    else return .processed document

/-- Document the units of a file. -/
def fileCourse (plan : Plan σ) (path : Path) : StepM σ Upshot := do
  close plan path (← reviseCourse plan path)

/-- Document the units of a file without an interruption, and tell whether a comment changed. -/
def processFile (plan : Plan σ) (path : Path) : RunM σ Bool := do
  return (← inOneGo (fileCourse plan path)).isChanged

end Scholia.Units
