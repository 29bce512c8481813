import Scholia.Proofs.Run.Edits
import Scholia.Proofs.Run.PassAccounting
import Scholia.Proofs.Run.Twins

/-! # Documents of files that were documented

A file that could be read is over with a document, which is written if it changed. Of the files of a
batch each is over at a time of its own, so their documents come in between those of the others; what
is written at a place does not depend on that.
-/

namespace Scholia

variable {σ : Type}

/-- The file with its document, if it could be read and has not failed. -/
def Visit.revision? (visit : Visit) : Option (Path × Document) :=
  match visit.result with
  | .ok (.processed document) => some (visit.path, document)
  | .ok (.unparsed _) | .error _ => none

theorem Visit.path_of_revision? {visit : Visit} {revision : Path × Document}
    (found : visit.revision? = some revision) : revision.1 = visit.path := by
  unfold revision? at found
  split at found
  · cases found
    rfl
  · cases found
  · cases found

namespace Pass

/-- The file with its document, if it is over and has one. -/
def Job.revision? (job : Job σ) : Option (Path × Document) :=
  match job.rest.run with
  | .ended result => Visit.revision? ⟨job.path, result⟩
  | .step _ _ => none

theorem Job.revision?_eq_none {job : Job σ} (under : job.isOver = false) : job.revision? = none := by
  obtain ⟨path, rest⟩ := job
  cases rest with
  | ended result => cases under
  | step act next => rfl

theorem Job.path_of_revision? {job : Job σ} {revision : Path × Document}
    (found : job.revision? = some revision) : revision.1 = job.path := by
  unfold revision? at found
  split at found
  · exact Visit.path_of_revision? found
  · cases found

/-- The files of a batch that are over, with their documents. -/
def revised (jobs : List (Job σ)) : List (Path × Document) :=
  jobs.filterMap Job.revision?

theorem revised_job (visits : List Visit) :
    revised (visits.map Visit.job : List (Job σ)) = visits.filterMap Visit.revision? := by
  rw [revised, List.filterMap_map]
  rfl

theorem revised_start (plan : Plan σ) (paths : List Path) :
    revised (paths.map (Job.start plan)) = [] := by
  rw [revised, List.filterMap_map, List.filterMap_eq_nil_iff]
  exact fun path _ => rfl

theorem revised_split (before after : List (Job σ)) (job : Job σ) :
    revised (before ++ job :: after) =
      revised before ++ job.revision?.toList ++ revised after := by
  rw [revised, List.filterMap_append, List.filterMap_cons]
  cases job.revision? with
  | none => rw [Option.toList_none, List.append_nil]; rfl
  | some revision => rw [Option.toList_some, List.append_assoc]; rfl

/-- A file that is not over is not among them. -/
theorem revised_under (job : Job σ) (under : job.isOver = false) (before after : List (Job σ)) :
    revised (before ++ job :: after) = revised before ++ revised after := by
  rw [revised_split, Job.revision?_eq_none under, Option.toList_none, List.append_nil]

/-- Only files of the batch are among them. -/
theorem path_of_revised {jobs : List (Job σ)} {revision : Path × Document}
    (member : revision ∈ revised jobs) : revision.1 ∈ jobs.map (·.path) := by
  obtain ⟨job, taken, found⟩ := List.mem_filterMap.mp member
  rw [Job.path_of_revision? found]
  exact List.mem_map_of_mem taken

/-- Documents of different files are those of files at different places. -/
theorem revised_pairwise {jobs : List (Job σ)}
    (distinct : (jobs.map (·.path)).Pairwise (·.resolve ≠ ·.resolve)) :
    (revised jobs).Pairwise (·.1.resolve ≠ ·.1.resolve) := by
  refine (List.pairwise_map.mp distinct).filterMap _ ?_
  intro one two differ revision found other found'
  rw [Job.path_of_revision? found, Job.path_of_revision? found']
  exact differ

/-- The files of the batches that were visited, with their documents. -/
def revisions (stops : List (Stop σ)) : List (Path × Document) :=
  (visited stops).filterMap Visit.revision?

theorem revisions_cons (stop : Stop σ) (rest : List (Stop σ)) :
    revisions (stop :: rest) = stop.visits.filterMap Visit.revision? ++ revisions rest := by
  rw [revisions, visited, List.flatMap_cons, List.filterMap_append]
  rfl

theorem revisions_pairwise {stops : List (Stop σ)}
    (distinct : (stops.map (·.visits.map (·.path))).flatten.Pairwise (·.resolve ≠ ·.resolve)) :
    (revisions stops).Pairwise (·.1.resolve ≠ ·.1.resolve) := by
  have same : (stops.map (·.visits.map (·.path))).flatten = (visited stops).map (·.path) := by
    rw [visited, List.map_flatMap, List.flatMap_def]
  rw [same] at distinct
  refine (List.pairwise_map.mp distinct).filterMap _ ?_
  intro one two differ revision found other found'
  rw [Visit.path_of_revision? found, Visit.path_of_revision? found']
  exact differ

theorem path_of_make {plan : Plan σ} {batch : List Path} {index : Int} {world : World σ} {visit : Visit}
    (taken : visit ∈ (Stop.make plan batch index world).visits) : visit.path ∈ batch :=
  map_path_processFiles plan (plan.moves index) batch world ▸ List.mem_map_of_mem taken

/-- All files that were visited have been saved. -/
def Saved (visits : List Visit) : Prop :=
  ∀ visit ∈ visits, visit.failure? = none

/-- A batch of files that were all saved is closed without a failure. -/
theorem run_processBatch_saved (plan : Plan σ) {batch : List Path} (index : Int) {world : World σ}
    (isOpen : world.stats.finished = false) (saved : Saved (Stop.make plan batch index world).visits) :
    (processBatch plan batch index).run world =
      (.ok (), ((processBatch plan batch index).run world).2) := by
  have run := (pays_processBatch plan batch index isOpen).run_eq
  rwa [List.filterMap_eq_nil_iff.mpr saved] at run

theorem run_processBatches_cons (plan : Plan σ) {batch : List Path} {rest : List (List Path)}
    {index : Int} {world after : World σ}
    (run : (processBatch plan batch index).run world = (.ok (), after)) :
    (processBatches plan (batch :: rest) index).run world =
      (processBatches plan rest (index + 1)).run after :=
  RunM.run_bind_ok _ run

/-- The first batch is visited in any case. -/
theorem tour_cons (plan : Plan σ) (batch : List Path) (rest : List (List Path)) (index : Int)
    (world : World σ) :
    ∃ others, tour plan (batch :: rest) index world = Stop.make plan batch index world :: others := by
  cases run : (processBatch plan batch index).run world with
  | mk result after =>
      cases result with
      | ok value => exact ⟨_, tour_cons_ok plan run rest⟩
      | error failure => exact ⟨_, tour_cons_error plan run rest⟩

end Pass

namespace Edits

open Pass

variable {before after : List (Job σ)} {job : Job σ} {edits : Edits}

/-- What is written of the files of a batch is written at their places. -/
theorem has_of_revised {jobs : List (Job σ)} {place : List String}
    (has : (ofRevisions (revised jobs)).Has place) : ∃ path ∈ jobs.map (·.path), path.resolve = place := by
  obtain ⟨revision, member, -, same⟩ := changed_of_has has
  exact ⟨revision.1, path_of_revised member, same⟩

/-- A file stays unwritten while others are visited. -/
theorem not_has_of_visits {visits : List Visit} {place : List String} (unwritten : ¬edits.Has place)
    (apart : ∀ visit ∈ visits, visit.path.resolve ≠ place) :
    ¬(edits ++ ofRevisions (visits.filterMap Visit.revision?)).Has place := by
  intro has
  rcases has_append.mp has with earlier | now
  · exact unwritten earlier
  · obtain ⟨revision, member, -, same⟩ := changed_of_has now
    obtain ⟨visit, visited, found⟩ := List.mem_filterMap.mp member
    rw [Visit.path_of_revision? found] at same
    exact apart visit visited same

/-- A file of a batch that is not over has not been written. -/
theorem not_has_of_distinct (unwritten : ¬edits.Has job.path.resolve)
    (distinct : ((before ++ job :: after).map (·.path)).Pairwise (·.resolve ≠ ·.resolve)) :
    ¬(edits ++ ofRevisions (revised before ++ revised after)).Has job.path.resolve := by
  rw [List.map_append, List.map_cons] at distinct
  obtain ⟨-, later, apart⟩ := List.pairwise_append.mp distinct
  intro has
  rw [has_append, ofRevisions_append, has_append] at has
  rcases has with earlier | front | back
  · exact unwritten earlier
  · obtain ⟨path, member, same⟩ := has_of_revised front
    exact apart path member job.path List.mem_cons_self same
  · obtain ⟨path, member, same⟩ := has_of_revised back
    exact List.rel_of_pairwise_cons later member same.symm

/-- Whether the document of a file comes among those of the others or after them, it is found at the
    same place. -/
theorem lookup_revised (edits : Edits)
    (distinct : ((before ++ job :: after).map (·.path)).Pairwise (·.resolve ≠ ·.resolve))
    (place : List String) :
    (edits ++ ofRevisions (revised (before ++ job :: after))).lookup place =
      (edits ++ ofRevisions (revised before ++ revised after) ++
        ofRevisions job.revision?.toList).lookup place := by
  have pairwise : (ofRevisions (revised (before ++ job :: after))).Pairwise (·.1 ≠ ·.1) :=
    List.pairwise_map.mpr ((revised_pairwise distinct).filter _)
  have moved : (revised (before ++ job :: after)).Perm
      (revised before ++ revised after ++ job.revision?.toList) := by
    rw [revised_split, List.append_assoc, List.append_assoc]
    exact List.perm_append_comm.append_left _
  have same := lookup_perm (ofRevisions_perm moved) pairwise place
  rw [ofRevisions_append] at same
  rw [List.append_assoc, List.lookup_append, List.lookup_append, same]

theorem ofRevisions_unchanged (path : Path) {document : Document} (same : document.changed = false) :
    ofRevisions [(path, document)] = [] := by
  simp [ofRevisions, same]

theorem ofRevisions_changed (path : Path) {document : Document} (changed : document.changed = true) :
    ofRevisions [(path, document)] = [(path.resolve, Utf8.encode document.render)] := by
  simp [ofRevisions, changed]

/-- Nothing is written of a file before it is closed. -/
theorem ofRevisions_closing {ι : Type} {related : ι → World σ → World σ → Prop} {fact : Prop}
    {first second : Plan σ} {path : Path} {left right : StepM σ Upshot}
    (closing : Units.Closing related fact first second path left right) :
    ofRevisions (Job.revision? ⟨path, right >>= Units.close second path⟩).toList = [] := by
  cases closing with
  | saving _ _ _ _ two | onward _ _ _ _ _ two =>
      rw [two]
      rfl
  | ended result kept _ two =>
      rw [two]
      cases result with
      | error failure => rfl
      | ok upshot =>
          cases upshot with
          | unparsed fault => rfl
          | processed document => exact ofRevisions_unchanged path (kept document rfl)

end Edits

end Scholia
