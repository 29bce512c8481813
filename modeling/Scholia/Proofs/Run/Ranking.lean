import Mathlib.Data.List.Nodup
import Scholia.Proofs.Cache.Files
import Scholia.Proofs.Run.Marks
import Scholia.Proofs.Similarity

/-! # The best related declarations

An index files every declaration once, under its own id. What is found for a bundle are the best of
all other declarations that reach the threshold, as many as may be returned, and in the order of
their scores and of the index.
-/

namespace Scholia

namespace Table

variable {α : Type}

/-- Setting a name adds it at the end, or leaves the names as they were. -/
theorem names_set (name : String) (value : α) (table : Table α) :
    (table.set name value).names = table.names ++ if name ∈ table.names then [] else [name] := by
  induction table with
  | nil => rfl
  | cons entry rest ih =>
      rw [set]
      split
      · next same => simp [names, same]
      · next other =>
        have step : names (entry :: set name value rest) = entry.1 :: (set name value rest).names :=
          rfl
        have among : name ∈ names (entry :: rest) ↔ name ∈ names rest := by
          simp [names, Ne.symm other]
        rw [step, ih, if_congr among rfl rfl]
        rfl

theorem nodup_names_set {name : String} {value : α} {table : Table α}
    (distinct : table.names.Nodup) : (table.set name value).names.Nodup := by
  rw [names_set]
  split
  · rwa [List.append_nil]
  · next new =>
    refine List.Nodup.append distinct (List.nodup_singleton _) ?_
    exact List.disjoint_singleton.mpr new

/-- In a table without repeated names a name has the value that it is entered with. -/
theorem get?_eq_some_iff {name : String} {value : α} {table : Table α}
    (distinct : table.names.Nodup) : table.get? name = some value ↔ (name, value) ∈ table := by
  refine ⟨mem_of_get?, fun member => ?_⟩
  induction table with
  | nil => cases member
  | cons entry rest ih =>
      obtain ⟨new, distinct⟩ := List.nodup_cons.mp distinct
      rw [get?]
      rcases List.mem_cons.mp member with rfl | later
      · exact if_pos rfl
      · have other : entry.1 ≠ name := by
          rintro rfl
          exact new (List.mem_map.mpr ⟨_, later, rfl⟩)
        rw [if_neg other]
        exact ih distinct later

theorem get?_eq_none_iff {name : String} {table : Table α} :
    table.get? name = none ↔ name ∉ table.names := by
  induction table with
  | nil => simp [get?, names]
  | cons entry rest ih =>
      rw [get?]
      split
      · next same => simp [names, same]
      · next other => simpa [names, Ne.symm other] using ih

/-- Of two entries the one whose name was set first is placed before the other. -/
theorem pairwise_idxOf {table : Table α} (distinct : table.names.Nodup) :
    table.Pairwise fun first second =>
      table.names.idxOf first.1 < table.names.idxOf second.1 := by
  have order : table.names.Pairwise fun first second =>
      table.names.idxOf first < table.names.idxOf second := by
    refine List.pairwise_iff_getElem.mpr fun i j here there before => ?_
    rwa [distinct.idxOf_getElem i here, distinct.idxOf_getElem j there]
  unfold names at order ⊢
  rwa [List.pairwise_map] at order

end Table

namespace Relations

open RunM

variable {σ α : Type}

/-- Every declaration is in the index once, under its own id. -/
structure Filed (nodes : Table EmbeddedNode) : Prop where
  distinct : nodes.names.Nodup
  own : ∀ entry ∈ nodes, entry.2.id = entry.1

namespace Filed

variable {nodes : Table EmbeddedNode}

theorem nil : Filed [] where
  distinct := List.nodup_nil
  own := fun _ member => nomatch member

theorem set (filed : Filed nodes) (node : EmbeddedNode) : Filed (nodes.set node.id node) where
  distinct := Table.nodup_names_set filed.distinct
  own := by
    intro entry member
    rcases Table.mem_of_mem_set member with rfl | old
    · rfl
    · exact filed.own entry old

theorem update (filed : Filed nodes) (entries : List (Bundle × List Float)) :
    Filed (nodes.update (entries.map fun (bundle, vector) => (bundle.id, node bundle vector))) := by
  induction entries generalizing nodes with
  | nil => exact filed
  | cons entry rest ih => exact ih (filed.set (node entry.1 entry.2))

theorem stays_count (counter : Counter) (amount : Int) :
    Stays (σ := σ) (fun world => Filed world.nodes) (count counter amount) := by
  intro world filed
  unfold count changeStats
  rw [run_get_bind]
  split
  · exact filed
  · exact filed

theorem stays_onSession (action : Session σ → α × Session σ) :
    Stays (fun world => Filed world.nodes) (onSession action) :=
  fun _ filed => filed

theorem stays_embedBatch (plan : Plan σ) (batch : List Bundle) :
    Stays (fun world => Filed world.nodes) (embedBatch plan batch) := by
  refine (stays_onSession _).bind fun result => ?_
  cases result with
  | ok vectors =>
      refine .bind (.modify fun world filed => ?_) fun _ => stays_count _ _
      exact filed.update (batch.zip (vectors.map Json.toVector))
  | error failure =>
      dsimp only
      split
      · exact (stays_count _ _).bind fun _ => .throw _ _
      · exact .throw _ _

/-- However setting up the index ends, the declarations in it are filed. -/
theorem stays_build (plan : Plan σ) (paths : List Path) :
    Stays (fun world => Filed world.nodes) (build plan paths) := by
  have all (batches : List (List Bundle)) :
      Stays (fun world => Filed world.nodes) (embedAll plan batches) := by
    induction batches with
    | nil => exact .pure _ _
    | cons batch rest ih => exact (stays_embedBatch plan batch).bind fun _ => ih
  intro world filed
  rw [build, run_bind_ok _ (run_collect plan paths world)]
  split
  · exact filed
  · have told (number : World σ → Nat) : Stays (fun world => Filed world.nodes)
        (get >>= fun world => pure (number world)) := fun _ filed => filed
    exact (all _).bind (fun _ => told fun world => world.nodes.length) world filed

end Filed

/-- A declaration can be returned for a bundle with a vector: it is another one, its vector can be
    compared with that one, and it is similar enough. -/
def qualifies (settings : EmbeddingSettings) (bundle : Bundle) (query : List Float)
    (node : EmbeddedNode) : Bool :=
  node.id ≠ bundle.id && node.vector.length = query.length &&
    Binary64.le settings.minRelationshipScore (Similarity.cosine query node.vector)

/-- One declaration is to be returned before another: its score is higher, or the scores are equal
    and it is the first of them in the index. -/
def Outranks (nodes : Table EmbeddedNode) (first second : Related) : Prop :=
  Binary64.le second.score first.score = true ∧
    (Binary64.le first.score second.score = true →
      nodes.names.idxOf first.id < nodes.names.idxOf second.id)

/-- The best of the qualifying declarations in an index, with their scores. -/
structure Best (settings : EmbeddingSettings) (nodes : Table EmbeddedNode) (bundle : Bundle)
    (query : List Float) (found : List Related) : Prop where
  distinct : (found.map (·.id)).Nodup
  /-- Only qualifying declarations are returned. -/
  qualified : ∀ related ∈ found, ∃ node, (related.id, node) ∈ nodes ∧
    qualifies settings bundle query node = true ∧
    related = Relations.related node (Similarity.cosine query node.vector)
  ordered : found.Pairwise (Outranks nodes)
  /-- As many as possible are returned. -/
  length : (found.length : Int) = min (max settings.maxRelatedSymbols 0)
    (nodes.countP fun entry => qualifies settings bundle query entry.2)
  /-- A qualifying declaration that is left out comes after all that are returned. -/
  best : ∀ entry ∈ nodes, qualifies settings bundle query entry.2 = true →
    entry.1 ∉ found.map (·.id) → ∀ related ∈ found,
    Outranks nodes related (Relations.related entry.2 (Similarity.cosine query entry.2.vector))

section

variable {settings : EmbeddingSettings} {nodes : Table EmbeddedNode} {bundle : Bundle}
  {query : List Float}

/-- The declarations of an index that qualify, in its order and with their scores. -/
def candidates (settings : EmbeddingSettings) (nodes : Table EmbeddedNode) (bundle : Bundle)
    (query : List Float) : List (EmbeddedNode × Float) :=
  (nodes.filter fun entry => qualifies settings bundle query entry.2).map fun entry =>
    (entry.2, Similarity.cosine query entry.2.vector)

theorem qualifying_eq : Similarity.qualifying query
      (((nodes.map (·.2)).filter (·.id ≠ bundle.id)).map fun node => (node, node.vector))
      settings.minRelationshipScore = candidates settings nodes bundle query := by
  unfold Similarity.qualifying candidates
  induction nodes with
  | nil => rfl
  | cons entry rest ih =>
      by_cases own : entry.2.id = bundle.id
      · have out : qualifies settings bundle query entry.2 = false := by simp [qualifies, own]
        rw [List.map_cons, List.filter_cons_of_neg (by simpa using own),
          List.filter_cons_of_neg (by simp [out]), ih]
      · have same : qualifies settings bundle query entry.2 =
            (entry.2.vector.length = query.length && Binary64.le settings.minRelationshipScore
              (Similarity.cosine query entry.2.vector)) := by simp [qualifies, own]
        rw [List.map_cons, List.filter_cons_of_pos (by simpa using own), List.map_cons]
        cases holds : qualifies settings bundle query entry.2 with
        | true =>
            rw [List.filter_cons_of_pos (by exact holds), List.map_cons, ← ih]
            exact List.filterMap_cons_some (if_pos (same ▸ holds))
        | false =>
            rw [List.filter_cons_of_neg (by simp [holds]), ← ih]
            exact List.filterMap_cons_none (if_neg (by simp [← same, holds]))

theorem mem_candidates_iff (filed : Filed nodes) (entry : EmbeddedNode × Float) :
    entry ∈ candidates settings nodes bundle query ↔ (entry.1.id, entry.1) ∈ nodes ∧
      qualifies settings bundle query entry.1 = true ∧
      entry.2 = Similarity.cosine query entry.1.vector := by
  constructor
  · intro member
    obtain ⟨⟨name, node⟩, inside, rfl⟩ := List.mem_map.mp member
    obtain ⟨inside, holds⟩ := List.mem_filter.mp inside
    obtain rfl : node.id = name := filed.own _ inside
    exact ⟨inside, holds, rfl⟩
  · rintro ⟨inside, holds, score⟩
    refine List.mem_map.mpr ⟨_, List.mem_filter.mpr ⟨inside, holds⟩, ?_⟩
    rw [← score]

theorem pairwise_candidates (filed : Filed nodes) :
    (candidates settings nodes bundle query).Pairwise fun first second =>
      nodes.names.idxOf first.1.id < nodes.names.idxOf second.1.id := by
  refine List.pairwise_map.mpr (List.Pairwise.filter _ ?_)
  refine (Table.pairwise_idxOf filed.distinct).imp_of_mem fun member member' before => ?_
  rwa [filed.own _ member, filed.own _ member']

theorem outranks_iff (first second : EmbeddedNode × Float) :
    Outranks nodes (related first.1 first.2) (related second.1 second.2) ↔
      Similarity.ahead first second = true ∧ (Similarity.ahead second first = true →
        nodes.names.idxOf first.1.id < nodes.names.idxOf second.1.id) :=
  Iff.rfl

/-- The best of the ranked candidates are the best declarations of the index. -/
theorem best_of_ranked (filed : Filed nodes) {ranked : List (EmbeddedNode × Float)}
    (perm : ranked.Perm (candidates settings nodes bundle query))
    (sorted : ranked.Pairwise fun first second => Similarity.ahead first second = true ∧
      (Similarity.ahead second first = true →
        nodes.names.idxOf first.1.id < nodes.names.idxOf second.1.id)) :
    Best settings nodes bundle query ((ranked.take settings.maxRelatedSymbols.toNat).map
      fun (node, score) => related node score) := by
  have ids : (ranked.map (·.1.id)).Nodup := by
    refine (perm.map _).nodup_iff.mpr (List.pairwise_map.mpr ?_)
    refine (pairwise_candidates filed).imp fun before same => ?_
    rw [same] at before
    exact Nat.lt_irrefl _ before
  have ranked_iff (entry : EmbeddedNode × Float) :=
    perm.mem_iff.trans (mem_candidates_iff filed entry)
  have named (some : List (EmbeddedNode × Float)) :
      (some.map fun (node, score) => related node score).map (·.id) = some.map (·.1.id) := by
    rw [List.map_map]
    rfl
  constructor
  case distinct =>
    rw [named]
    exact ids.sublist ((List.take_sublist _ _).map _)
  case qualified =>
    intro found member
    obtain ⟨entry, inside, rfl⟩ := List.mem_map.mp member
    obtain ⟨there, holds, score⟩ := (ranked_iff entry).mp (List.mem_of_mem_take inside)
    refine ⟨entry.1, there, holds, ?_⟩
    rw [← score]
  case ordered =>
    refine List.pairwise_map.mpr ((sorted.sublist (List.take_sublist _ _)).imp ?_)
    exact (outranks_iff _ _).mpr
  case length =>
    have all : ranked.length =
        nodes.countP fun entry => qualifies settings bundle query entry.2 := by
      rw [perm.length_eq, candidates, List.length_map, List.countP_eq_length_filter]
    rw [List.length_map, List.length_take, all]
    omega
  case best =>
    intro entry member holds out found inside
    have own := filed.own entry member
    have whole : (entry.2, Similarity.cosine query entry.2.vector) ∈ ranked :=
      (ranked_iff _).mpr ⟨own ▸ member, holds, rfl⟩
    obtain ⟨returned, taken, rfl⟩ := List.mem_map.mp inside
    rw [← List.take_append_drop settings.maxRelatedSymbols.toNat ranked] at whole sorted
    have left : (entry.2, Similarity.cosine query entry.2.vector) ∈
        ranked.drop settings.maxRelatedSymbols.toNat := by
      refine (List.mem_append.mp whole).resolve_left fun kept => out ?_
      rw [named, ← own]
      exact List.mem_map_of_mem kept
    have behind := (List.pairwise_append.mp sorted).2.2 _ taken _ left
    exact (outranks_iff returned (entry.2, Similarity.cosine query entry.2.vector)).mpr behind

theorem similar_eq (known : query? nodes bundle = some query) : similar settings nodes bundle =
    (((candidates settings nodes bundle query).mergeSort Similarity.ahead).take
      settings.maxRelatedSymbols.toNat).map fun (node, score) => related node score := by
  unfold similar
  rw [known, ← qualifying_eq]
  rfl

/-- Whatever vector a bundle is compared by, the best declarations are found. -/
theorem best_similar (filed : Filed nodes) (known : query? nodes bundle = some query) :
    Best settings nodes bundle query (similar settings nodes bundle) := by
  rw [similar_eq known]
  refine best_of_ranked filed (List.mergeSort_perm _ _) ?_
  rw [← qualifying_eq]
  refine Similarity.pairwise_ranking ?_
  rw [qualifying_eq]
  exact pairwise_candidates filed

end

/-- What is found for a bundle, with what is counted of it. -/
theorem run_find (plan : Plan σ) (bundle : Bundle) (counted : Bool) {world : World σ}
    (isOpen : counted = true → world.stats.finished = false) :
    ∃ after, (find plan bundle counted).run world =
      (.ok (similar plan.embedding world.nodes bundle), after) := by
  unfold find
  rw [run_get_bind]
  dsimp only
  split
  · next some =>
    rw [run_bind_ok _ (run_count _ _ (isOpen ((Bool.and_eq_true _ _).mp some).1))]
    exact ⟨_, rfl⟩
  · exact ⟨_, rfl⟩

/-- In every index the best declarations are found for every bundle with a vector, its own or the
    one in the index. For any other bundle nothing is found. -/
theorem find_best (plan : Plan σ) (bundle : Bundle) (counted : Bool) {world : World σ}
    (filed : Filed world.nodes) (isOpen : counted = true → world.stats.finished = false) :
    ∃ found, ((find plan bundle counted).run world).1 = .ok found ∧
      (bundle.embedding = none → bundle.id ∉ world.nodes.names → found = []) ∧
      (∀ query, bundle.embedding = some query →
        Best plan.embedding world.nodes bundle query found) ∧
      ∀ own, bundle.embedding = none → (bundle.id, own) ∈ world.nodes →
        Best plan.embedding world.nodes bundle own.vector found := by
  obtain ⟨after, run⟩ := run_find plan bundle counted isOpen
  refine ⟨_, congrArg Prod.fst run, fun without new => ?_, fun query given => ?_,
    fun own without member => ?_⟩
  · have unknown : query? world.nodes bundle = none := by
      rw [query?, without, Table.get?_eq_none_iff.mpr new]
      rfl
    rw [similar, unknown]
  · exact best_similar filed (by rw [query?, given]; rfl)
  · refine best_similar filed ?_
    rw [query?, without, (Table.get?_eq_some_iff filed.distinct).mpr member]
    rfl

/-- Four declarations with vectors of one direction, one with another direction, and one with a
    vector of another length. -/
def sampleIndex : Table EmbeddedNode :=
  [("a", [1.0, 0.0]), ("b", [0.0, 1.0]), ("c", [2.0, 0.0]), ("d", [1.0, 0.0, 0.0]),
    ("e", [1.0, 0.0]), ("f", [3.0, 0.0])].map fun (id, vector) => (id, ⟨id, "", "", "", "", vector⟩)

def sampleBundle : Bundle := { id := "a" }

def samplePlan : Plan String :=
  { Pass.samplePlan with embedding := { maxRelatedSymbols := 2 } }

def sampleWorld : World String :=
  { Pass.sampleWorld with nodes := sampleIndex }

/-- The first two of the three others are found for `a`, which is compared by its vector in the
    index. -/
theorem find_best_sample :
    Filed sampleWorld.nodes ∧ sampleWorld.stats.finished = false ∧
      ∃ found, ((find samplePlan sampleBundle true).run sampleWorld).1 = .ok found ∧
        found.map (·.id) = ["c", "e"] ∧
        Best samplePlan.embedding sampleWorld.nodes sampleBundle [1.0, 0.0] found := by
  have filed : Filed sampleWorld.nodes := ⟨by decide, by decide⟩
  have sorted : (candidates samplePlan.embedding sampleIndex sampleBundle [1.0, 0.0]).Pairwise
      (Similarity.ahead · · = true) := by decide +kernel
  have ids : (similar samplePlan.embedding sampleIndex sampleBundle).map (·.id) = ["c", "e"] := by
    rw [similar_eq (rfl : query? sampleIndex sampleBundle = some [1.0, 0.0]),
      List.mergeSort_of_pairwise sorted]
    decide +kernel
  obtain ⟨found, run, -, -, indexed⟩ := find_best samplePlan sampleBundle true filed fun _ => rfl
  obtain ⟨after, same⟩ := run_find samplePlan sampleBundle true fun _ =>
    (rfl : sampleWorld.stats.finished = false)
  obtain rfl : similar samplePlan.embedding sampleIndex sampleBundle = found :=
    Except.ok.inj ((congrArg Prod.fst same).symm.trans run)
  exact ⟨filed, rfl, _, run, ids, indexed ⟨"a", "", "", "", "", [1.0, 0.0]⟩ rfl
    List.mem_cons_self⟩

end Relations

end Scholia
