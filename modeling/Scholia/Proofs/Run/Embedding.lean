import Scholia.Proofs.Oracle.Vectors
import Scholia.Proofs.Run.Ranking
import Scholia.Proofs.Source.Identity

/-! # Embedding in batches

The index is set up batch by batch. What a batch adds to it depends on the texts of its bundles
alone, so that it makes no difference where one batch ends and the next one starts. If a batch is
refused, the batches before it are in the index and no others.
-/

namespace Scholia

namespace Plan

variable {σ : Type}

/-- The same plan with batches of another size. -/
def batching (plan : Plan σ) (size : Int) : Plan σ :=
  { plan with embedding := { plan.embedding with batchSize := size } }

end Plan

theorem Bill.ofCount_add (counter : Counter) (first second : Int) :
    ofCount counter first + ofCount counter second = ofCount counter (first + second) := by
  have counts : (fun other => (ofCount counter first).counts other +
      (ofCount counter second).counts other) = (ofCount counter (first + second)).counts := by
    funext other
    rw [counts_ofCount, counts_ofCount, counts_ofCount]
    split
    · rfl
    · rfl
  exact congrArg (Bill.mk · []) counts

namespace Table

variable {α : Type}

theorem update_append (table first second : Table α) :
    table.update (first ++ second) = (table.update first).update second :=
  List.foldl_append

/-- Of several items with one name the last one stands. -/
theorem exists_get?_update {β : Type} {items : List β} {item : β} (member : item ∈ items)
    (name : β → String) (value : β → α) (table : Table α) :
    ∃ last ∈ items, name last = name item ∧
      (table.update (items.map fun item => (name item, value item))).get? (name item) =
        some (value last) := by
  induction items using List.reverseRecOn with
  | nil => cases member
  | append_singleton items last ih =>
      rw [List.map_append, update_append]
      change ∃ found ∈ _, _ ∧ get? _ (set (name last) (value last) _) = _
      by_cases same : name last = name item
      · refine ⟨last, by simp, same, ?_⟩
        rw [same, get?_set_same]
      · rw [get?_set_other _ _ same]
        have earlier : item ∈ items := by
          rcases List.mem_append.mp member with old | new
          · exact old
          · exact absurd (congrArg name (List.mem_singleton.mp new)).symm same
        obtain ⟨found, inside, named, stands⟩ := ih earlier
        exact ⟨found, List.mem_append_left _ inside, named, stands⟩

end Table

namespace Relations

open RunM

variable {σ α : Type}

theorem run_bind_tell (action : RunM σ Unit) (number : World σ → Nat) (world : World σ) :
    (action >>= fun _ => get >>= fun after => pure (number after)).run world =
      ((action.run world).1.map fun _ => number (action.run world).2, (action.run world).2) := by
  rw [run_bind]
  cases action.run world with
  | mk result after =>
      cases result with
      | ok value => rfl
      | error failure => rfl

theorem slices_of_le {size : Nat} {items : List α} (positive : 0 < size)
    (short : items.length ≤ size) (some : items ≠ []) : slices size items = [items] := by
  have other : ¬(size = 0 ∨ items = []) := not_or.mpr ⟨by omega, some⟩
  rw [slices, dif_neg other, List.take_of_length_le short, List.drop_of_length_le short, slices,
    dif_pos (.inr rfl)]

/-- Cutting a list into pieces loses nothing and keeps the order. -/
theorem flatten_slices {size : Nat} (positive : 0 < size) (items : List α) :
    (slices size items).flatten = items := by
  induction items using slices.induct size with
  | case1 items none =>
      rw [slices, dif_pos none]
      rcases none with zero | empty
      · omega
      · exact empty.symm
  | case2 items some ih =>
      rw [slices, dif_neg some, List.flatten_cons, ih, List.take_append_drop]

/-- A world with some bundles in the index. -/
def indexed (vector : String → List Float) (bundles : List Bundle) (world : World σ) : World σ :=
  { world with
    nodes := world.nodes.update
      (bundles.map fun bundle => (bundle.id, node bundle (vector bundle.embeddingText)))
    extractor :=
      { world.extractor with
        embeddingIndex := world.extractor.embeddingIndex.update
          (bundles.map fun bundle => (bundle.id, vector bundle.embeddingText)) } }

theorem run_index (vector : String → List Float) (bundles : List Bundle) (world : World σ) :
    (index (bundles.map fun bundle => (bundle, vector bundle.embeddingText))).run world =
      (.ok (), indexed vector bundles world) := by
  unfold index indexed
  rw [List.map_map, List.map_map]
  rfl

/-- What embedding bundles by a fixed function of their texts makes of a world. -/
structure Embedded (vector : String → List Float) (before : World σ) (bundles : List Bundle)
    (after : World σ) : Prop where
  nodes : after.nodes = before.nodes.update
    (bundles.map fun bundle => (bundle.id, node bundle (vector bundle.embeddingText)))
  extractor : after.extractor =
    { before.extractor with
      embeddingIndex := before.extractor.embeddingIndex.update
        (bundles.map fun bundle => (bundle.id, vector bundle.embeddingText)) }

namespace Embedded

variable {vector : String → List Float} {before middle after : World σ}
  {bundles first second : List Bundle}

theorem refl (world : World σ) : Embedded vector world [] world :=
  ⟨rfl, rfl⟩

theorem trans (left : Embedded vector before first middle)
    (right : Embedded vector middle second after) :
    Embedded vector before (first ++ second) after where
  nodes := by rw [right.nodes, left.nodes, List.map_append, Table.update_append]
  extractor := by rw [right.extractor, left.extractor, List.map_append, Table.update_append]

/-- The id of a bundle stands for the vector of its text, if other bundles with that id have the
    same text. -/
theorem own (embedded : Embedded vector before bundles after) {bundle : Bundle}
    (member : bundle ∈ bundles)
    (same : ∀ other ∈ bundles, other.id = bundle.id → other.embeddingText = bundle.embeddingText) :
    (∃ node, after.nodes.get? bundle.id = some node ∧
        node.vector = vector bundle.embeddingText) ∧
      after.extractor.embeddingIndex.get? bundle.id = some (vector bundle.embeddingText) := by
  constructor
  · obtain ⟨last, inside, named, stands⟩ := Table.exists_get?_update member (·.id)
      (fun bundle => node bundle (vector bundle.embeddingText)) before.nodes
    rw [← embedded.nodes] at stands
    exact ⟨_, stands, congrArg vector (same last inside named)⟩
  · obtain ⟨last, inside, named, stands⟩ := Table.exists_get?_update member (·.id)
      (fun bundle => vector bundle.embeddingText) before.extractor.embeddingIndex
    rw [embedded.extractor]
    exact stands.trans (congrArg (some ∘ vector) (same last inside named))

end Embedded

/-- The first of the batches that were not embedded is the one that stopped the set-up. It is
    counted as failed, unless what failed is the computation of a delay. -/
def Stopped (plan : Plan σ) (before : World σ) (done rest : List (List Bundle))
    (result : Except RunFailure Unit) (after : World σ) : Prop :=
  match rest with
  | [] => result = .ok () ∧
      after.stats = before.stats.charge (.ofCount .embeddingsSucceeded done.flatten.length)
  | batch :: _ => ∃ failure session,
      (plan.oracle.embed plan.provider (batch.map (·.embeddingText)) {} session).1 =
        .error failure ∧
      (failure.isOwn = true → result = .error (.embedding failure) ∧
        after.stats = before.stats.charge (.ofCount .embeddingsSucceeded done.flatten.length +
          .ofCount .embeddingsFailed batch.length)) ∧
      (failure.isOwn = false → result = .error (.oracle failure) ∧
        after.stats = before.stats.charge (.ofCount .embeddingsSucceeded done.flatten.length) ∧
        ∃ (number : Nat) (reason : Tokens.Overflow), number < plan.oracle.settings.maxRetries ∧
          Retry.delay plan.oracle.settings.retryDelayMs number = .error reason)

theorem stopped_batching {plan : Plan σ} {size : Int} {before after : World σ}
    {done rest : List (List Bundle)} {result : Except RunFailure Unit} :
    Stopped (plan.batching size) before done rest result after ↔
      Stopped plan before done rest result after := by
  cases rest with
  | nil => rfl
  | cons batch rest => rfl

/-- What a batch that is embedded adds comes in front of all that follows. -/
theorem Stopped.cons {plan : Plan σ} {before middle after : World σ} {batch : List Bundle}
    {done rest : List (List Bundle)} {result : Except RunFailure Unit}
    (charged : middle.stats = before.stats.charge (.ofCount .embeddingsSucceeded batch.length))
    (stopped : Stopped plan middle done rest result after) :
    Stopped plan before (batch :: done) rest result after := by
  have sum (bill : Bill) : (before.stats.charge (.ofCount .embeddingsSucceeded batch.length)).charge
      (.ofCount .embeddingsSucceeded done.flatten.length + bill) = before.stats.charge
        (.ofCount .embeddingsSucceeded (batch :: done).flatten.length + bill) := by
    rw [← Statistics.charge_add, ← Bill.add_assoc, Bill.ofCount_add, List.flatten_cons,
      List.length_append, Nat.cast_add]
  have plain := sum 0
  rw [Bill.add_zero, Bill.add_zero] at plain
  cases rest with
  | nil =>
      obtain ⟨ended, stats⟩ := stopped
      exact ⟨ended, by rw [stats, charged, plain]⟩
  | cons broken more =>
      obtain ⟨failure, session, failed, counted, uncounted⟩ := stopped
      refine ⟨failure, session, failed, fun isOwn => ?_, fun foreign => ?_⟩
      · obtain ⟨ended, stats⟩ := counted isOwn
        exact ⟨ended, by rw [stats, charged, sum]⟩
      · obtain ⟨ended, stats, beyond⟩ := uncounted foreign
        exact ⟨ended, by rw [stats, charged, plain], beyond⟩

theorem bundlesIn_batching (plan : Plan σ) (size : Int) (world : World σ) (paths : List Path) :
    bundlesIn (plan.batching size) world paths = bundlesIn plan world paths := by
  have reader : (plan.batching size).reader = plan.reader := rfl
  unfold bundlesIn bundlesAt
  rw [reader]

section

variable {plan : Plan σ} {vector : String → List Float} (uncached : plan.oracle.cache = none)
  (embeds : plan.provider.EmbedsBy vector)

include uncached embeds

/-- A batch is embedded as a whole, or it stops the set-up and leaves the index alone. -/
theorem run_embedBatch (batch : List Bundle) {world : World σ}
    (isOpen : world.stats.finished = false) : ∃ result after,
      (embedBatch plan batch).run world = (result, after) ∧
      (result = .ok () ∧ Embedded vector world batch after ∧
          after.stats = world.stats.charge (.ofCount .embeddingsSucceeded batch.length) ∨
        Embedded vector world [] after ∧
          ∀ rest, Stopped plan world [] (batch :: rest) result after) := by
  have asked := run_onSession
    (plan.oracle.embed plan.provider (batch.map (·.embeddingText)) {}) world
  have still : (settled world (plan.oracle.embed plan.provider
      (batch.map (·.embeddingText)) {} (atCache world)).2).stats.finished = false := isOpen
  unfold embedBatch
  dsimp only
  rw [run_bind_ok _ asked]
  cases embedded : (plan.oracle.embed plan.provider (batch.map (·.embeddingText)) {}
      (atCache world)).1 with
  | ok values =>
      obtain rfl := Oracle.embed_ok uncached embeds embedded
      have pairs : batch.zip ((Oracle.vectorsOf vector (batch.map (·.embeddingText))).map
          Json.toVector) = batch.map fun bundle => (bundle, vector bundle.embeddingText) := by
        rw [Oracle.vectorsOf, List.map_map, List.map_map, ← List.map_prod_left_eq_zip]
        exact List.map_congr_left fun bundle _ => congrArg (Prod.mk bundle)
          (Json.toVector_ofVector _)
      dsimp only
      rw [pairs]
      rw [run_bind_ok _ (run_index vector batch _), run_count _ _ (by exact still)]
      exact ⟨.ok (), _, rfl, .inl ⟨rfl, ⟨rfl, rfl⟩, rfl⟩⟩
  | error failure =>
      dsimp only
      cases isOwn : failure.isOwn with
      | true =>
          rw [if_pos rfl, run_bind_ok _ (run_count _ _ still)]
          refine ⟨_, _, rfl, .inr ⟨⟨rfl, rfl⟩, fun rest => ⟨failure, _, embedded, fun _ => ?_,
            fun foreign => ?_⟩⟩⟩
          · refine ⟨rfl, ?_⟩
            rw [List.flatten_nil, List.length_nil, Nat.cast_zero, Bill.ofCount_zero, Bill.zero_add]
            rfl
          · rw [isOwn] at foreign
            cases foreign
      | false =>
          rw [if_neg Bool.false_ne_true]
          refine ⟨_, _, rfl, .inr ⟨⟨rfl, rfl⟩, fun rest => ⟨failure, _, embedded, fun own => ?_,
            fun _ => ?_⟩⟩⟩
          · rw [isOwn] at own
            cases own
          · refine ⟨rfl, ?_, (Oracle.embed_error uncached embedded).resolve_left (by simp [isOwn])⟩
            rw [List.flatten_nil, List.length_nil, Nat.cast_zero, Bill.ofCount_zero,
              Statistics.charge_zero]
            rfl

/-- The batches before the first one that is refused are embedded, and no others. -/
theorem run_embedAll (batches : List (List Bundle)) {world : World σ}
    (isOpen : world.stats.finished = false) : ∃ done rest result after,
      batches = done ++ rest ∧ (embedAll plan batches).run world = (result, after) ∧
      Embedded vector world done.flatten after ∧ Stopped plan world done rest result after := by
  induction batches generalizing world with
  | nil =>
      refine ⟨[], [], .ok (), world, rfl, rfl, .refl world, rfl, ?_⟩
      rw [List.flatten_nil, List.length_nil, Nat.cast_zero, Bill.ofCount_zero,
        Statistics.charge_zero]
  | cons batch more ih =>
      obtain ⟨result, middle, ran, ⟨rfl, embedded, charged⟩ | ⟨left, stopped⟩⟩ :=
        run_embedBatch uncached embeds batch isOpen
      · have still : middle.stats.finished = false := by
          rw [charged, Statistics.finished_charge, isOpen]
        obtain ⟨done, rest, result, after, rfl, run, others, stopped⟩ := ih still
        refine ⟨batch :: done, rest, result, after, rfl, ?_, ?_, stopped.cons charged⟩
        · rw [embedAll, run_bind_ok _ ran, run]
        · rw [List.flatten_cons]
          exact embedded.trans others
      · refine ⟨[], batch :: more, result, middle, rfl, ?_, left, stopped more⟩
        obtain ⟨failure, session, -, counted, uncounted⟩ := stopped more
        have failed : ∃ reason, result = .error reason := by
          cases isOwn : failure.isOwn with
          | true => exact ⟨_, (counted isOwn).1⟩
          | false => exact ⟨_, (uncounted isOwn).1⟩
        obtain ⟨reason, rfl⟩ := failed
        rw [embedAll, run_bind, ran]

/-- Whatever the size of the batches is, they are those of all bundles in their order, and the
    index has the bundles of the batches before the first one that is refused. -/
theorem run_build (paths : List Path) {size : Int} (positive : 1 ≤ size) {world : World σ}
    (isOpen : world.stats.finished = false) : ∃ done rest result after,
      slices size.toNat (bundlesIn plan world paths) = done ++ rest ∧
      (build (plan.batching size) paths).run world =
        (result.map fun _ => after.nodes.length, after) ∧
      Embedded vector world done.flatten after ∧ Stopped plan world done rest result after := by
  obtain ⟨done, rest, result, after, cut, run, embedded, stopped⟩ :=
    @run_embedAll _ (plan.batching size) vector uncached embeds
      (slices size.toNat (bundlesIn plan world paths)) world isOpen
  refine ⟨done, rest, result, after, cut, ?_, embedded, stopped_batching.mp stopped⟩
  have some : (plan.batching size).embedding.batchSize ≠ 0 := by
    change size ≠ 0
    omega
  have collected := run_collect (plan.batching size) paths world
  rw [bundlesIn_batching] at collected
  have batchSize : (plan.batching size).embedding.batchSize = size := rfl
  rw [build, run_bind_ok _ collected, if_neg some, run_bind_tell, batchSize, run]

end

/-- The ids of the declarations in some files tell them apart: the parser makes well-formed trees of
    these files, and files of one relative name hold the same source. -/
structure Identified (plan : Plan σ) (world : World σ) (paths : List Path) : Prop where
  formed : ∀ path ∈ paths, plan.reader.Forms world.disk path
  named : ∀ first ∈ paths, ∀ second ∈ paths, ∀ one two,
    plan.reader.open? world.disk first = .ok one → plan.reader.open? world.disk second = .ok two →
    one.relativePath = two.relativePath → one.source = two.source

end Relations

/-- The declarations of a document are those of its source and its relative name. -/
theorem Document.declarations_of_parse {path : Path} {text : Text} {relativePath : String}
    {root : Node} {document : Document}
    (parsed : parse path text relativePath (.ok root) = .ok document) : document.declarations =
      (Walk.program document.relativePath (Utf8.encode text) root).declarations := by
  cases parsed
  rfl

namespace Relations

open RunM

variable {σ : Type} {plan : Plan σ} {world : World σ} {paths : List Path}

/-- A bundle is that of a declaration in one of the files. -/
theorem exists_declaration {bundle : Bundle} (member : bundle ∈ bundlesIn plan world paths) :
    ∃ path ∈ paths, ∃ document d, plan.reader.open? world.disk path = .ok document ∧
      d ∈ document.declarations ∧ bundle = world.extractor.bundle document d := by
  obtain ⟨path, listed, there⟩ := List.mem_flatMap.mp member
  unfold bundlesAt at there
  split at there
  · next document opened =>
    obtain ⟨index, -, found⟩ := List.mem_filterMap.mp there
    obtain ⟨d, here, rfl⟩ := Option.map_eq_some_iff.mp found
    exact ⟨path, listed, document, d, opened, List.mem_of_getElem? here, rfl⟩
  · cases there

/-- The text of a bundle is made of the source and the declaration alone. -/
theorem embeddingText_bundle (extractor : Extractor) {first second : Document}
    (source : first.source = second.source) (d : Declaration) :
    (extractor.bundle first d).embeddingText = (extractor.bundle second d).embeddingText := by
  unfold Bundle.embeddingText Extractor.bundle
  rw [source]

/-- Bundles with one id have one text. -/
theorem Identified.text_eq (identified : Identified plan world paths) {one two : Bundle}
    (member : one ∈ bundlesIn plan world paths) (member' : two ∈ bundlesIn plan world paths)
    (same : one.id = two.id) : one.embeddingText = two.embeddingText := by
  obtain ⟨path, listed, first, d, opened, inside, rfl⟩ := exists_declaration member
  obtain ⟨path', listed', second, d', opened', inside', rfl⟩ := exists_declaration member'
  obtain ⟨bytes, text, root, read, decoded, parses, parsed⟩ := SourceReader.exists_parse opened
  obtain ⟨_, text', root', -, -, parses', parsed'⟩ := SourceReader.exists_parse opened'
  have name : first.relativePath = second.relativePath := by
    rw [← Document.relativePath_of_parse parsed inside,
      ← Document.relativePath_of_parse parsed' inside']
    exact Declaration.relativePath_eq_of_id_eq same
  have source := identified.named path listed path' listed' first second opened opened' name
  obtain rfl : text = text' := Utf8.encode_injective <| by
    rw [← Document.source_of_parse parsed, source, Document.source_of_parse parsed']
  obtain rfl : root = root' := Except.ok.inj (parses.symm.trans parses')
  have declarations : first.declarations = second.declarations := by
    rw [Document.declarations_of_parse parsed, Document.declarations_of_parse parsed', name]
  have formed := identified.formed path listed bytes text root read decoded parses
  have ordered := Document.ordered_of_parse formed.brood parsed
  obtain rfl : d = d' := by
    refine List.inj_on_of_nodup_map ordered.ids inside ?_ same
    rwa [declarations]
  exact embeddingText_bundle _ source d

/-- What is similar to a bundle has nothing to do with the size of batches. -/
theorem similar_batching (plan : Plan σ) (size : Int) (nodes : Table EmbeddedNode)
    (bundle : Bundle) :
    similar (plan.batching size).embedding nodes bundle = similar plan.embedding nodes bundle := by
  have score : (plan.batching size).embedding.minRelationshipScore =
      plan.embedding.minRelationshipScore := rfl
  have most : (plan.batching size).embedding.maxRelatedSymbols =
      plan.embedding.maxRelatedSymbols := rfl
  unfold similar
  rw [score, most]

section

variable {vector : String → List Float} (uncached : plan.oracle.cache = none)
  (embeds : plan.provider.EmbedsBy vector) (isOpen : world.stats.finished = false)

include uncached embeds isOpen

/-- All bundles are embedded where no request is refused. -/
theorem run_build_always {entry : Registered} (always : plan.provider.Embeds)
    (resolves : plan.oracle.resolve none Oracle.embeddingType = .ok entry)
    (tries : 0 ≤ plan.oracle.settings.maxRetries) (paths : List Path) {size : Int}
    (positive : 1 ≤ size) : ∃ after,
      (build (plan.batching size) paths).run world = (.ok after.nodes.length, after) ∧
      Embedded vector world (bundlesIn plan world paths) after ∧
      after.stats = world.stats.charge
        (.ofCount .embeddingsSucceeded (bundlesIn plan world paths).length) := by
  obtain ⟨done, rest, result, after, cut, run, embedded, stopped⟩ :=
    run_build uncached embeds paths positive isOpen
  cases rest with
  | nil =>
      obtain ⟨rfl, charged⟩ := stopped
      have all : done.flatten = bundlesIn plan world paths := by
        rw [← flatten_slices (by omega : 0 < size.toNat) (bundlesIn plan world paths), cut,
          List.append_nil]
      rw [all] at embedded charged
      exact ⟨after, run, embedded, charged⟩
  | cons batch rest =>
      obtain ⟨failure, session, refused, -⟩ := stopped
      have embedded : (plan.oracle.embed plan.provider (batch.map (·.embeddingText)) {} session).1 =
          .ok _ := Oracle.embed_first uncached embeds always resolves tries
      rw [embedded] at refused
      cases refused

end

/-- Embedding in batches comes to the same as embedding one by one. Whatever a provider refuses,
    the bundles of the batches before the first one that is refused are indexed and counted; if
    nothing is refused, these are all bundles, whatever the size of the batches is. -/
theorem build_batched (plan : Plan σ) (paths : List Path) (vector : String → List Float)
    {world : World σ} (uncached : plan.oracle.cache = none)
    (embeds : plan.provider.EmbedsBy vector) (isOpen : world.stats.finished = false) :
    (∀ size, 1 ≤ size → ∃ done rest result after,
      slices size.toNat (bundlesIn plan world paths) = done ++ rest ∧
      (build (plan.batching size) paths).run world =
        (result.map fun _ => after.nodes.length, after) ∧
      Embedded vector world done.flatten after ∧ Stopped plan world done rest result after) ∧
    ∀ entry, plan.oracle.resolve none Oracle.embeddingType = .ok entry →
      0 ≤ plan.oracle.settings.maxRetries → plan.provider.Embeds →
      ∀ first second, 1 ≤ first → 1 ≤ second → ∃ one two,
        (build (plan.batching first) paths).run world = (.ok one.nodes.length, one) ∧
        (build (plan.batching second) paths).run world = (.ok two.nodes.length, two) ∧
        Embedded vector world (bundlesIn plan world paths) one ∧
        two.nodes = one.nodes ∧ two.extractor = one.extractor ∧
        one.stats = world.stats.charge
          (.ofCount .embeddingsSucceeded (bundlesIn plan world paths).length) ∧
        two.stats = one.stats ∧
        (∀ bundle counted, ((find (plan.batching second) bundle counted).run two).1 =
          ((find (plan.batching first) bundle counted).run one).1) ∧
        (Identified plan world paths → ∀ bundle ∈ bundlesIn plan world paths,
          (∃ node, one.nodes.get? bundle.id = some node ∧
            node.vector = vector bundle.embeddingText) ∧
          one.extractor.embeddingIndex.get? bundle.id = some (vector bundle.embeddingText)) := by
  refine ⟨fun size positive => run_build uncached embeds paths positive isOpen, ?_⟩
  intro entry resolves tries always first second positive positive'
  obtain ⟨one, run, embedded, charged⟩ :=
    run_build_always uncached embeds isOpen always resolves tries paths positive
  obtain ⟨two, run', embedded', charged'⟩ :=
    run_build_always uncached embeds isOpen always resolves tries paths positive'
  have nodes : two.nodes = one.nodes := by rw [embedded'.nodes, embedded.nodes]
  refine ⟨one, two, run, run', embedded, nodes, ?_, charged, ?_, fun bundle counted => ?_,
    fun identified bundle member => embedded.own member fun other inside same =>
      identified.text_eq inside member same⟩
  · rw [embedded'.extractor, embedded.extractor]
  · rw [charged', charged]
  · have still : one.stats.finished = false := by rw [charged, Statistics.finished_charge, isOpen]
    have still' : two.stats.finished = false := by rw [charged', Statistics.finished_charge, isOpen]
    obtain ⟨_, found⟩ := run_find (plan.batching first) bundle counted fun _ => still
    obtain ⟨_, found'⟩ := run_find (plan.batching second) bundle counted fun _ => still'
    rw [found, found', similar_batching, similar_batching, nodes]

/-- Texts with a `g` in them point upwards, all others to the right. -/
def compass (text : String) : List Float :=
  if text.toList.contains 'g' then [0.0, 1.0] else [1.0, 0.0]

/-- An oracle with one model, which embeds. -/
def sampleOracle : Oracle :=
  { Oracle.single with
    models := [("e", ⟨⟨"e", "ollama", "nomic", "embedding", none, none, none, none, none, [], none⟩,
      ⟨"ollama", "nomic", none, none, false⟩⟩)]
    embeddingDefault := some "e"
    cache := none }

def batchedPlan : Plan Unit where
  provider :=
    { complete := fun _ state => (.ok none, state)
      embed := fun request state => (.ok (request.input.map compass), state) }
  oracle := sampleOracle
  reader := { base := some ⟨.absolute, ["ws"]⟩, parse := fun _ => .ok Pass.sampleTree }
  reconciler := { minLength := 0, policy := ⟨false, true, false, false⟩ }

def batchedWorld : World Unit where
  session := { provider := (), gate := ⟨1, 0, 0⟩ }
  disk :=
    { entries :=
        [(["ws"], .directory),
          (["ws", "a.ts"], .file (Utf8.encode "function f() {}\n".toList)),
          (["ws", "b.ts"], .file (Utf8.encode "function g() {}\n".toList))] }
  features := { flags := ⟨true, true, false⟩ }
  extractor := { settings := {} }

/-- Two files, the first of which is listed again. -/
def batchedPaths : List Path :=
  [.ofString "/ws/a.ts", .ofString "/ws/b.ts", .ofString "/ws/a.ts"]

/-- A text of one function without a body of its own is parsed to a well-formed tree. -/
theorem siblings_sampleTree {text : Text} (starts : Utf8.Boundary text 0)
    (names : Utf8.Boundary text 9) (named : Utf8.Boundary text 10) (stops : Utf8.Boundary text 15) :
    Node.Siblings text Pass.sampleTree.children := by
  have name : Node.WellFormed text ⟨"identifier", 9, 10, true, some "name", []⟩ :=
    .leaf (by decide) names named rfl
  refine ⟨fun node member => ?_, List.pairwise_singleton _ _⟩
  cases List.mem_singleton.mp member
  refine .intro (by decide) starts stops (by simp) (by simp) (fun _ _ _ has => ?_) (by simpa using name)
  cases has

/-- The two files are told apart by their relative names, and their trees are well-formed. -/
theorem identified_batched : Identified batchedPlan batchedWorld batchedPaths where
  formed := by
    intro path listed bytes text root read decoded parses
    cases parses
    have known : ∀ path ∈ batchedPaths,
        batchedWorld.disk.read path = .ok (Utf8.encode "function f() {}\n".toList) ∨
          batchedWorld.disk.read path = .ok (Utf8.encode "function g() {}\n".toList) := by
      decide +kernel
    rcases known path listed with held | held
    all_goals
      cases held.symm.trans read
      cases (Utf8.decode_encode _).symm.trans decoded
      exact siblings_sampleTree ⟨0, by decide⟩ ⟨9, by decide⟩ ⟨10, by decide⟩ ⟨15, by decide⟩
  named := by
    let name (path : Path) :=
      if path.relativeTo batchedPlan.reader.base = "" then path.toString
      else path.relativeTo batchedPlan.reader.base
    have apart : ∀ first ∈ batchedPaths, ∀ second ∈ batchedPaths,
        name first = name second → first = second := by decide +kernel
    intro first listed second listed' one two opened opened' same
    obtain ⟨_, _, _, -, -, -, parsed⟩ := SourceReader.exists_parse opened
    obtain ⟨_, _, _, -, -, -, parsed'⟩ := SourceReader.exists_parse opened'
    cases parsed
    cases parsed'
    cases apart first listed second listed' same
    rw [Except.ok.inj (opened.symm.trans opened')]

/-- One by one or two at a time, three bundles are embedded for two declarations, each of which gets the
    vector of its own text. -/
theorem build_batched_sample :
    batchedPlan.oracle.cache = none ∧ batchedPlan.provider.EmbedsBy compass ∧
      batchedWorld.stats.finished = false ∧
      (bundlesIn batchedPlan batchedWorld batchedPaths).map Bundle.id =
        ["a.ts:1:0", "b.ts:1:0", "a.ts:1:0"] ∧
      ∃ one two, (build (batchedPlan.batching 1) batchedPaths).run batchedWorld =
          (.ok one.nodes.length, one) ∧
        (build (batchedPlan.batching 2) batchedPaths).run batchedWorld =
          (.ok two.nodes.length, two) ∧
        two.nodes = one.nodes ∧ one.nodes.names = ["a.ts:1:0", "b.ts:1:0"] ∧
        two.stats.counts .embeddingsSucceeded = 3 ∧
        ∀ bundle ∈ bundlesIn batchedPlan batchedWorld batchedPaths,
          (∃ node, one.nodes.get? bundle.id = some node ∧
            node.vector = compass bundle.embeddingText) ∧
          one.extractor.embeddingIndex.get? bundle.id = some (compass bundle.embeddingText) := by
  have embeds : batchedPlan.provider.EmbedsBy compass := by
    intro request state vectors same
    cases same
    rfl
  obtain ⟨one, two, run, run', embedded, nodes, -, charged, stats, -, own⟩ :=
    (build_batched batchedPlan batchedPaths compass rfl embeds
      (rfl : batchedWorld.stats.finished = false)).2 _ rfl (by decide)
      (fun request state => ⟨_, rfl⟩) 1 2 (by decide) (by decide)
  refine ⟨rfl, embeds, rfl, by decide +kernel, one, two, run, run', nodes, ?_, ?_,
    own identified_batched⟩
  · rw [embedded.nodes]
    decide +kernel
  · rw [stats, charged]
    decide +kernel

/-- A provider that refuses everything, and a delay of more than 1300 bits before a second
    attempt. -/
def overflowingPlan : Plan Unit :=
  { batchedPlan with
    provider :=
      { complete := fun _ state => (.ok none, state)
        embed := fun _ state => (.error ⟨.api, "down", none, none, none⟩, state) }
    oracle :=
      { sampleOracle with
        settings := { retryDelayMs := Binary64.tenTo 400, maxRetries := 1 } } }

/-- The only batch is refused, but what fails is the computation of the delay, and the batch is not
    counted as failed. -/
theorem build_delay_overflows : ∃ after,
    (build overflowingPlan [.ofString "/ws/a.ts"]).run batchedWorld =
        (.error (.oracle (.overflow .quotient)), after) ∧
      after.stats.counts .embeddingsFailed = 0 := by
  have collected := run_collect overflowingPlan [.ofString "/ws/a.ts"] batchedWorld
  have cut := slices_of_le (by decide : 0 < 10) (by decide +kernel :
    (bundlesIn overflowingPlan batchedWorld [.ofString "/ws/a.ts"]).length ≤ 10) (by decide +kernel)
  have failed : errorOf? ((embedAll overflowingPlan
      [bundlesIn overflowingPlan batchedWorld [.ofString "/ws/a.ts"]]).run batchedWorld).1 =
      some (.oracle (.overflow .quotient)) := by decide +kernel
  have uncounted : ((embedAll overflowingPlan
      [bundlesIn overflowingPlan batchedWorld [.ofString "/ws/a.ts"]]).run
        batchedWorld).2.stats.counts .embeddingsFailed = 0 := by decide +kernel
  have size : overflowingPlan.embedding.batchSize = (10 : Nat) := rfl
  rw [build, run_bind_ok _ collected, size, if_neg (by decide), run_bind_tell, Int.toNat_natCast,
    cut]
  refine ⟨_, Prod.ext ?_ rfl, uncounted⟩
  cases ended : ((embedAll overflowingPlan
      [bundlesIn overflowingPlan batchedWorld [.ofString "/ws/a.ts"]]).run batchedWorld).1 with
  | ok value =>
      rw [ended] at failed
      cases failed
  | error failure =>
      rw [ended] at failed
      cases failed
      rfl

end Relations

end Scholia
