import Scholia.Proofs.Run.Alone

/-! # The order of files

What a pass leaves is put together from what each of its files would leave if it were alone. So neither
the order of the files nor the way they are cut into batches matters, and neither does the order in
which the files of a batch take their steps, as long as the query log, which is written in the order of
requests, is not in the way of a file.
-/

namespace Scholia

/-- A file holds what was written to it, or what it held before. -/
theorem Disk.Mirrors.file?_eq {origin base disk : Disk} {edits : Edits} {cache : Option (List String)}
    (mirrors : Mirrors origin edits cache base disk) (place : List String) :
    disk.file? place = (edits.lookup place).or (base.file? place) := by
  cases found : edits.lookup place with
  | some bytes => exact mirrors.written place bytes found
  | none =>
      refine mirrors.like.file?_eq fun has => ?_
      rw [Edits.Has, found] at has
      cases has

/-- Amounts on one counter add up beside other bills. -/
theorem Bill.alike_counted (first second : Bill) (counter : Counter) (amount more : Int) :
    Alike (first + ofCount counter amount + (second + ofCount counter more))
      (first + second + ofCount counter (amount + more)) where
  counts := by
    funext other
    simp only [counts_add, counts_ofCount]
    split <;> omega
  errors := by simp only [errors_add, errors_ofCount, List.append_nil, List.Perm.refl]

open RunM

variable {σ : Type}

theorem Drifted.file?_eq {origin world : World σ} {edits : Edits}
    (drifted : Drifted origin edits world) {place : List String}
    (other : ∀ log, origin.logPath = some log → place ≠ log.resolve) :
    world.disk.file? place = (edits.lookup place).or (origin.disk.file? place) := by
  obtain ⟨base, logged, mirrors⟩ := drifted.disk
  rw [mirrors.file?_eq, logged.file?_eq other]

/-- What follows the files of a batch touches no file. -/
theorem Drifted.close {origin world : World σ} {edits : Edits} (drifted : Drifted origin edits world)
    (failures : List RunFailure) (index : Int) :
    Drifted origin edits ((Pass.close failures index).run world).2 := by
  have counted : (count .batchesProcessed).run world = (.ok (), _) := run_count _ _ drifted.isOpen
  unfold Pass.close
  rw [run_bind_ok _ counted]
  cases failures with
  | nil => exact { drifted with }
  | cons failure more => exact { drifted with }

namespace Plan

variable {plan : Plan σ} {origin : World σ}

/-- What is written of some files. -/
def edits (plan : Plan σ) (origin : World σ) (paths : List Path) : Edits :=
  plan.written ((paths.map (plan.visit origin)).filterMap Visit.revision?)

theorem edits_ordered (moves : Int → List Move) (filesAtOnce : Int) (paths : List Path) :
    (plan.ordered moves filesAtOnce).edits origin paths = plan.edits origin paths := by
  unfold edits
  rw [visit_ordered]
  rfl

theorem edits_append (first second : List Path) :
    plan.edits origin (first ++ second) = plan.edits origin first ++ plan.edits origin second := by
  rw [edits, List.map_append, List.filterMap_append, written_append]
  rfl

/-- It is written at their places. -/
theorem has_of_edits {paths : List Path} {place : List String}
    (has : (plan.edits origin paths).Has place) : ∃ path ∈ paths, path.resolve = place := by
  cases dryness : plan.dryRun with
  | true =>
      rw [edits, written_dry dryness] at has
      exact absurd has Edits.not_has_nil
  | false =>
      rw [edits, written_wet dryness] at has
      obtain ⟨revision, member, -, same⟩ := Edits.changed_of_has has
      obtain ⟨_, visited, found⟩ := List.mem_filterMap.mp member
      obtain ⟨path, listed, rfl⟩ := List.mem_map.mp visited
      rw [Visit.path_of_revision? found, visit_eq] at same
      exact ⟨path, listed, same⟩

theorem edits_pairwise {paths : List Path} (distinct : paths.Pairwise (·.resolve ≠ ·.resolve)) :
    (plan.edits origin paths).Pairwise (·.1 ≠ ·.1) := by
  cases dryness : plan.dryRun with
  | true =>
      rw [edits, written_dry dryness]
      exact .nil
  | false =>
      rw [edits, written_wet dryness, List.filterMap_map]
      refine List.pairwise_map.mpr (List.Pairwise.filter _ (distinct.filterMap _ ?_))
      intro one two differ revision found other found'
      rw [Visit.path_of_revision? found, Visit.path_of_revision? found', visit_eq, visit_eq]
      exact differ

theorem edits_perm {first second : List Path} (same : first.Perm second) :
    (plan.edits origin first).Perm (plan.edits origin second) := by
  cases dryness : plan.dryRun with
  | true => simp only [edits, written_dry dryness, List.Perm.refl]
  | false =>
      simp only [edits, written_wet dryness]
      exact Edits.ofRevisions_perm ((same.map _).filterMap _)

/-- A file that fails alone cannot be saved. -/
theorem unsaved_visit {path : Path} {failure : RunFailure}
    (failed : (plan.visit origin path).failure? = some failure) :
    ∃ fault, failure = .unsaved path fault := by
  have isOpen : origin.blank.stats.finished = false := rfl
  obtain ⟨bill, -, paid⟩ := (Units.owes_fileCourse plan path).run isOpen
  rw [visit_eq] at failed
  exact paid.unsaved failure failed

end Plan

namespace Pass

variable {plan : Plan σ} {origin world : World σ} {files : List Path} {edits : Edits}

/-! ## Batches -/

/-- What batches come to: all their files are saved, with what each of them leaves alone, or one of them
    cannot be saved. -/
inductive Completes (plan : Plan σ) (origin : World σ) (edits : Edits) (start : Statistics)
    (batches : List (List Path)) : Except RunFailure Unit × World σ → Prop where
  | saved {after : World σ} {total : Bill}
      (fine : ∀ path ∈ batches.flatten, (plan.visit origin path).failure? = none)
      (drifted : Drifted origin (edits ++ plan.edits origin batches.flatten) after)
      (charged : after.stats = start.charge total)
      (alike : total.Alike ((batches.flatten.map (plan.dues origin)).sum +
        .ofCount .batchesProcessed batches.length)) :
      Completes plan origin edits start batches (.ok (), after)
  | unsaved {path : Path} {fault : Disk.Fault} {after : World σ} (listed : path ∈ batches.flatten)
      (failed : (plan.visit origin path).failure? = some (.unsaved path fault)) :
      Completes plan origin edits start batches (.error (.unsaved path fault), after)

section

variable (memoryless : plan.Memoryless) (apart : LogApart plan.reader origin.logPath origin.disk files)
  (uncached : origin.cachePlace = none)

include memoryless apart uncached

/-- A batch comes to what its files come to alone. -/
theorem processBatch_alone {batch : List Path} (drifted : Drifted origin edits world) (index : Int)
    (within : ∀ path ∈ batch, path ∈ files) (distinct : batch.Pairwise (·.resolve ≠ ·.resolve))
    (fresh : ∀ path ∈ batch, ¬edits.Has path.resolve) :
    ∃ after total, (processBatch plan batch index).run world =
        (verdict ((batch.map (plan.visit origin)).filterMap Visit.failure?), after) ∧
      Drifted origin (edits ++ plan.edits origin batch) after ∧
      after.stats = world.stats.charge total ∧
      total.Alike ((batch.map (plan.dues origin)).sum + .ofCount .batchesProcessed 1) := by
  obtain ⟨visits, drifted, total, charged, alike⟩ :=
    Spread.processFiles memoryless apart uncached drifted (plan.moves index) within distinct fresh
  obtain ⟨after, closed, counted⟩ := run_close
    ((batch.map (plan.visit origin)).filterMap Visit.failure?) index drifted.isOpen
  have left := drifted.close ((batch.map (plan.visit origin)).filterMap Visit.failure?) index
  rw [closed] at left
  refine ⟨after, total + .ofCount .batchesProcessed 1, ?_, left, ?_, alike.add (.refl _)⟩
  · rw [run_processBatch, Stop.make, visits, closed]
  · rw [counted, charged, Statistics.charge_add]

theorem processBatches_alone {batches : List (List Path)} (drifted : Drifted origin edits world)
    (index : Int) (within : ∀ path ∈ batches.flatten, path ∈ files)
    (distinct : batches.flatten.Pairwise (·.resolve ≠ ·.resolve))
    (fresh : ∀ path ∈ batches.flatten, ¬edits.Has path.resolve) :
    Completes plan origin edits world.stats batches ((processBatches plan batches index).run world) := by
  induction batches generalizing edits world index with
  | nil =>
      have nothing : plan.edits origin [] = [] := Plan.written_eq_nil Edits.ofRevisions_nil
      refine .saved (fun _ none => absurd none List.not_mem_nil) ?_
        (Statistics.charge_zero _).symm ?_
      · rw [List.flatten_nil, nothing, List.append_nil]
        exact drifted
      · exact (Bill.ofCount_zero _).symm ▸ .refl 0
  | cons batch rest ih =>
      rw [List.flatten_cons] at within distinct fresh
      obtain ⟨inside, distinct, apartness⟩ := List.pairwise_append.mp distinct
      obtain ⟨member, within⟩ := List.forall_mem_append.mp within
      obtain ⟨unwritten, fresh⟩ := List.forall_mem_append.mp fresh
      obtain ⟨after, total, ran, drifted, charged, alike⟩ :=
        processBatch_alone memoryless apart uncached drifted index member inside unwritten
      cases failures : (batch.map (plan.visit origin)).filterMap Visit.failure? with
      | cons failure more =>
          rw [failures] at ran
          have member : failure ∈ (batch.map (plan.visit origin)).filterMap Visit.failure? :=
            failures ▸ List.mem_cons_self
          obtain ⟨_, visited, failed⟩ := List.mem_filterMap.mp member
          obtain ⟨path, listed, rfl⟩ := List.mem_map.mp visited
          obtain ⟨fault, rfl⟩ := Plan.unsaved_visit failed
          rw [processBatches, run_bind, ran]
          exact .unsaved (List.mem_append_left _ listed) failed
      | nil =>
          rw [failures] at ran
          rw [processBatches, run_bind_ok _ ran]
          have still (other : Path) (member : other ∈ rest.flatten) :
              ¬(edits ++ plan.edits origin batch).Has other.resolve := by
            intro has
            rcases Edits.has_append.mp has with earlier | now
            · exact fresh other member earlier
            · obtain ⟨path, listed, same⟩ := Plan.has_of_edits now
              exact apartness path listed other member same
          have further := ih drifted (index + 1) within distinct still
          generalize (processBatches plan rest (index + 1)).run after = ended at further
          cases further with
          | unsaved listed failed => exact .unsaved (List.mem_append_right _ listed) failed
          | saved fine left recharged others =>
              refine .saved ?_ ?_ (recharged.trans (by rw [charged, Statistics.charge_add])) ?_
              · rw [List.flatten_cons]
                refine List.forall_mem_append.mpr ⟨fun path listed => ?_, fine⟩
                exact List.filterMap_eq_nil_iff.mp failures _ (List.mem_map_of_mem listed)
              · rw [List.flatten_cons, Plan.edits_append, ← List.append_assoc]
                exact left
              · refine (alike.add others).trans ?_
                rw [List.flatten_cons, List.map_append, List.sum_append, List.length_cons,
                  Nat.add_comm, Int.natCast_add]
                exact Bill.alike_counted _ _ _ _ _

end

/-! ## Passes -/

/-- What a pass leaves is put together from what each file would leave alone. -/
structure Composed (plan : Plan σ) (origin : World σ) (paths : List Path) (final : World σ) :
    Prop where
  files : ∀ place, (∀ log, origin.logPath = some log → place ≠ log.resolve) →
    final.disk.file? place =
      ((plan.edits origin paths).lookup place).or (origin.disk.file? place)
  counts : ∀ counter, counter ≠ .batchesTotal → counter ≠ .batchesProcessed →
    final.stats.counts counter = origin.stats.counts counter +
      (if counter = .filesTotal then (paths.length : Int) else 0) +
      (paths.map (plan.dues origin)).sum.counts counter
  errors : final.stats.errors.Perm
    (origin.stats.errors ++ (paths.map (plan.dues origin)).sum.errors)

/-- Two passes come to the same result and leave the same but for the numbers of batches, the order
    of error records and the query log. -/
structure Agree (log : Option Path) (one two : Except RunFailure Unit × World σ) : Prop where
  result : two.1 = one.1
  files : ∀ place, (∀ path, log = some path → place ≠ path.resolve) →
    two.2.disk.file? place = one.2.disk.file? place
  counts : ∀ counter, counter ≠ .batchesTotal → counter ≠ .batchesProcessed →
    two.2.stats.counts counter = one.2.stats.counts counter
  errors : two.2.stats.errors.Perm one.2.stats.errors

theorem Composed.agree {final final' : World σ} {first second : List Path}
    {result : Except RunFailure Unit} (one : Composed plan origin first final)
    (two : Composed plan origin second final') (same : first.Perm second)
    (distinct : first.Pairwise (·.resolve ≠ ·.resolve)) :
    Agree origin.logPath (result, final) (result, final') := by
  have alike : Bill.Alike (second.map (plan.dues origin)).sum (first.map (plan.dues origin)).sum :=
    Bill.alike_sum_of_perm (same.symm.map _)
  constructor
  case result => rfl
  case files =>
    intro place other
    rw [one.files place other, two.files place other,
      Edits.lookup_perm (Plan.edits_perm same) (Plan.edits_pairwise distinct)]
  case counts =>
    intro counter some other
    rw [one.counts counter some other, two.counts counter some other, same.length_eq, alike.counts]
  case errors => exact two.errors.trans ((alike.errors.append_left _).trans one.errors.symm)

/-- How the files take turns is nothing that is left. -/
theorem Composed.of_ordered {moves : Int → List Move} {filesAtOnce : Int} {paths : List Path}
    {final : World σ} (composed : Composed (plan.ordered moves filesAtOnce) origin paths final) :
    Composed plan origin paths final where
  files := by
    rw [← Plan.edits_ordered moves filesAtOnce]
    exact composed.files
  counts := by
    rw [← Plan.dues_ordered plan moves filesAtOnce]
    exact composed.counts
  errors := by
    rw [← Plan.dues_ordered plan moves filesAtOnce]
    exact composed.errors

section

variable {batches : List (List Path)} (memoryless : plan.Memoryless)
  (apart : LogApart plan.reader origin.logPath origin.disk files)
  (uncached : origin.cachePlace = none) (unembedded : origin.features.flags.embeddings = false)
  (isOpen : origin.stats.finished = false) (within : ∀ path ∈ batches.flatten, path ∈ files)
  (distinct : batches.flatten.Pairwise (·.resolve ≠ ·.resolve))

include memoryless apart uncached unembedded isOpen within distinct

/-- A pass completes or not as its files can be saved alone. -/
theorem run_alone : ∃ result after,
    (run plan batches).run origin = (result, { after with stats := after.stats.finish }) ∧
      Completes plan origin [] (opened batches origin).stats batches (result, after) := by
  have drifted : Drifted origin [] (opened batches origin) :=
    (Drifted.start uncached isOpen : Drifted origin [] origin).opened batches
  have completes := processBatches_alone memoryless apart uncached drifted 0 within distinct
    fun _ _ => Edits.not_has_nil
  have setUp : (Relations.setUp plan batches.flatten).run (opened batches origin) = (.ok false, _) :=
    run_setUp_off plan _ unembedded
  exact ⟨_, _, run_run plan batches isOpen setUp rfl, completes⟩

/-- A pass saves all files if each of them can be saved alone, and leaves what these leave. -/
theorem run_composed (fine : ∀ path ∈ batches.flatten, (plan.visit origin path).failure? = none) :
    ∃ final, (run plan batches).run origin = (.ok (), final) ∧
      Composed plan origin batches.flatten final := by
  obtain ⟨result, after, ran, completes⟩ :=
    run_alone memoryless apart uncached unembedded isOpen within distinct
  cases completes with
  | unsaved listed failed => exact absurd ((fine _ listed).symm.trans failed) nofun
  | saved fine drifted charged alike =>
      refine ⟨_, ran, fun place other => drifted.file?_eq other, fun counter some other => ?_, ?_⟩
      · dsimp only [Statistics.finish]
        rw [charged]
        simp only [opened, Statistics.charge, alike.counts, Bill.counts_add, Bill.counts_ofCount,
          if_neg some, if_neg other, Int.add_zero]
      · dsimp only [Statistics.finish]
        rw [charged]
        have errors := alike.errors
        simp only [Bill.errors_add, Bill.errors_ofCount, List.append_nil] at errors
        simp only [opened, Statistics.charge, Bill.errors_ofCount, List.append_nil]
        exact errors.append_left _

/-- If a pass fails to save no file, each of its files can be saved alone. -/
theorem fine_of_saved
    (saved : ∀ path fault, ((run plan batches).run origin).1 ≠ .error (.unsaved path fault)) :
    ∀ path ∈ batches.flatten, (plan.visit origin path).failure? = none := by
  obtain ⟨result, after, ran, completes⟩ :=
    run_alone memoryless apart uncached unembedded isOpen within distinct
  cases completes with
  | saved fine _ _ _ => exact fine
  | unsaved _ _ => exact absurd (congrArg Prod.fst ran) (saved _ _)

end

theorem run_finished (plan : Plan σ) (batches : List (List Path))
    (finished : origin.stats.finished = true) : (run plan batches).run origin =
      (.error (.statistics .readOnly), { origin with batchTotal := batches.length }) := by
  have totalled : (modify (fun world => { world with batchTotal := batches.length }) : RunM σ Unit).run
      origin = (.ok (), { origin with batchTotal := batches.length }) := rfl
  have refused : (count .batchesTotal batches.length).run { origin with batchTotal := batches.length } =
      (.error (.statistics .readOnly), { origin with batchTotal := batches.length }) :=
    run_count_finished _ _ finished
  rw [run, run_bind_ok _ totalled, run_bind, refused]

/-- With a provider that always replies the same to a request, handlers that do the same at all
    times and no embeddings and no cache, neither the order of different files, nor the way they are
    cut into batches, nor how many of them are under way at a time and in which order they take their
    steps matters if all files are saved: the same is left in all files but the query log, the same is
    counted but for the batches, and the same errors are recorded. The query log must not be in the way
    of a file. -/
theorem run_perm (plan : Plan σ) (origin : World σ) {first second : List (List Path)}
    (memoryless : plan.Memoryless) (uncached : origin.cachePlace = none)
    (unembedded : origin.features.flags.embeddings = false)
    (apart : LogApart plan.reader origin.logPath origin.disk first.flatten)
    (distinct : first.flatten.Pairwise (·.resolve ≠ ·.resolve))
    (same : first.flatten.Perm second.flatten)
    (moves others : Int → List Move) (limit bound : Int)
    (saved : ∀ path fault,
      ((run (plan.ordered moves limit) first).run origin).1 ≠ .error (.unsaved path fault)) :
    Agree origin.logPath ((run (plan.ordered moves limit) first).run origin)
      ((run (plan.ordered others bound) second).run origin) := by
  cases finished : origin.stats.finished with
  | true =>
      rw [run_finished _ _ finished, run_finished _ _ finished]
      exact ⟨rfl, fun _ _ => rfl, fun _ _ _ => rfl, .refl _⟩
  | false =>
      have within : ∀ path ∈ second.flatten, path ∈ first.flatten := fun _ member =>
        same.symm.subset member
      have distinct' := (same.pairwise_iff Ne.symm).mp distinct
      have fine := fine_of_saved (memoryless.ordered moves limit) apart uncached unembedded finished
        (fun _ => id) distinct saved
      rw [Plan.visit_ordered] at fine
      obtain ⟨final, ran, composed⟩ := run_composed (memoryless.ordered moves limit) apart uncached
        unembedded finished (fun _ => id) distinct (by rwa [Plan.visit_ordered])
      obtain ⟨final', ran', composed'⟩ := run_composed (memoryless.ordered others bound) apart uncached
        unembedded finished within distinct'
        (by rw [Plan.visit_ordered]; exact fun path member => fine path (within path member))
      rw [ran, ran']
      exact composed.of_ordered.agree composed'.of_ordered same distinct

/-- A provider that replies the same to all requests. -/
def replying (reply : String) : Provider Unit where
  complete _ state := (.ok (some reply), state)
  embed _ state := (.ok [], state)

/-- A plan whose oracle logs what it is asked. -/
def loggedPlan : Plan Unit where
  provider := replying "/** Adds. */"
  oracle :=
    { Oracle.single with
      models := [("m", ⟨⟨"m", "ollama", "llama", "generation", none, none, none, none, none, [], none⟩,
        ⟨"ollama", "llama", none, none, true⟩⟩)]
      cache := none }
  reader := { base := some (.ofString "/ws"), parse := fun _ => .ok sampleTree }
  reconciler := { minLength := 0, policy := ⟨false, true, false, false⟩ }

/-- Two files, and no directory for the log yet. -/
def loggedWorld : World Unit where
  session := { provider := (), gate := ⟨1, 0, 0⟩ }
  disk :=
    { entries :=
        [(["ws"], .directory),
          (["ws", "a.ts"], .file (Utf8.encode "function f() {}\n".toList)),
          (["ws", "b.ts"], .file (Utf8.encode "function f() {}\n".toList))] }
  logPath := some (.ofString "/ws/logs/llm-queries.jsonl")
  features := { flags := ⟨false, false, false⟩ }
  extractor := { settings := {} }

theorem memoryless_loggedPlan : loggedPlan.Memoryless :=
  ⟨fun _ _ => rfl, rfl, fun _ => .ok (some "/** Adds. */"), fun _ _ => rfl⟩

/-- Both files are documented, in one batch where they take turns or in two batches, and in any
    order. -/
theorem run_perm_logged :
    let turns : Int → List Move := fun _ => [.step 1, .step 0, .step 1, .wait 5, .step 0]
    let one := (run (loggedPlan.ordered turns 2)
      [[.ofString "/ws/a.ts", .ofString "/ws/b.ts"]]).run loggedWorld
    let two := (run (loggedPlan.ordered (fun _ => []) 1)
      [[.ofString "/ws/b.ts"], [.ofString "/ws/a.ts"]]).run loggedWorld
    Agree loggedWorld.logPath one two ∧ one.2.stats.counts .filesModified = 2 := by
  intro turns one two
  have fine : errorOf? one.1 = none := by decide +kernel
  have apart : LogApart loggedPlan.reader loggedWorld.logPath loggedWorld.disk
      [[Path.ofString "/ws/a.ts", .ofString "/ws/b.ts"]].flatten := by
    refine .of_readable ?_ (by decide +kernel)
    rintro _ ⟨⟩
    decide +kernel
  have same : [[Path.ofString "/ws/a.ts", .ofString "/ws/b.ts"]].flatten.Perm
      [[Path.ofString "/ws/b.ts"], [.ofString "/ws/a.ts"]].flatten := .swap _ _ _
  refine ⟨run_perm loggedPlan loggedWorld memoryless_loggedPlan rfl rfl apart (by decide +kernel) same
    turns (fun _ => []) 2 1 ?_, by decide +kernel⟩
  intro path fault same
  rw [same] at fine
  cases fine

/-- A file that is listed by a way through the directory of the log can be read after the first
    request only. So the order of files matters then, where each is a batch of its own. -/
theorem run_order_matters :
    let files := [[Path.ofString "/ws/logs/../a.ts"], [.ofString "/ws/b.ts"]]
    let others := [[Path.ofString "/ws/b.ts"], [.ofString "/ws/logs/../a.ts"]]
    let one := (run loggedPlan files).run loggedWorld
    let two := (run loggedPlan others).run loggedWorld
    loggedPlan.Memoryless ∧ loggedWorld.cachePlace = none ∧
      loggedWorld.features.flags.embeddings = false ∧
      files.flatten.Perm others.flatten ∧ files.flatten.Pairwise (·.resolve ≠ ·.resolve) ∧
      (files.flatten.map (·.relativeTo loggedPlan.reader.base)).Nodup ∧
      errorOf? one.1 = none ∧ errorOf? two.1 = none ∧
      one.2.stats.counts .filesProcessed = 1 ∧ two.2.stats.counts .filesProcessed = 2 ∧
      one.2.stats.errors.length = 1 ∧ two.2.stats.errors.length = 0 :=
  ⟨memoryless_loggedPlan, rfl, rfl, .swap _ _ _, by decide +kernel⟩

end Pass

end Scholia
