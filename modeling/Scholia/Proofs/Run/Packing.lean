import Mathlib.Algebra.Order.BigOperators.Group.List
import Mathlib.Data.List.Chain
import Scholia.Proofs.Tokens
import Scholia.Run.Batch

/-! # Batches under a budget

Packing fills one batch after another. The batches divide the items in order; only a batch of a
single item may be over the budget, and a batch is closed only where the next item does not fit in.
No other division of the items has these properties.
-/

namespace Scholia.Batch

variable {α : Type} {budget : Int}

/-- All items that were put into batches so far, in order. -/
def Packing.items (packing : Packing α) : List α :=
  packing.closed.flatten ++ packing.current

theorem Packing.items_add (packing : Packing α) (item : α) (tokens : Int) :
    (packing.add budget item tokens).items = packing.items ++ [item] := by
  unfold add
  split
  · simp [items]
  · simp [items]

theorem Packing.flatten_finish (packing : Packing α) : packing.finish.flatten = packing.items := by
  unfold finish
  split
  · next none => simp [items, List.isEmpty_iff.mp none]
  · simp [items]

theorem items_foldlM {sizeOf : α → Int} {items : List α} {packing packed : Packing α}
    (done : items.foldlM (fun packing item => do
      return packing.add budget item (← Tokens.estimate (sizeOf item))) packing = .ok packed) :
    packed.items = packing.items ++ items := by
  induction items generalizing packing with
  | nil =>
      cases done
      rw [List.append_nil]
  | cons item rest ih =>
      rw [List.foldlM_cons] at done
      cases estimated : Tokens.estimate (sizeOf item) with
      | error reason =>
          rw [estimated] at done
          cases done
      | ok tokens =>
          rw [estimated] at done
          rw [ih done, Packing.items_add, List.append_assoc, List.singleton_append]

/-- No item is lost, doubled or moved when items are packed. -/
theorem flatten_pack {sizeOf : α → Int} {items : List α} {batches : List (List α)}
    (packed : pack budget sizeOf items = .ok batches) : batches.flatten = items := by
  unfold pack at packed
  cases done : items.foldlM (fun packing item => do
      return packing.add budget item (← Tokens.estimate (sizeOf item))) ({} : Packing α) with
  | error reason =>
      rw [done] at packed
      cases packed
  | ok packing =>
      rw [done] at packed
      cases packed
      rw [Packing.flatten_finish, items_foldlM done]
      rfl

variable {tokens : α → Int} {items : List α} {batches : List (List α)}

/-- The tokens of all items of a batch. -/
def total (tokens : α → Int) (batch : List α) : Int :=
  (batch.map tokens).sum

theorem total_concat (batch : List α) (item : α) :
    total tokens (batch ++ [item]) = total tokens batch + tokens item := by
  simp [total]

theorem total_append (front back : List α) :
    total tokens (front ++ back) = total tokens front + total tokens back := by
  simp [total]

/-- Batches that were filled one after another, each as far as the budget allows. -/
structure Greedy (budget : Int) (tokens : α → Int) (items : List α) (batches : List (List α)) :
    Prop where
  /-- Every item is in one batch, and all of them are in order. -/
  flatten : batches.flatten = items
  nonempty : ∀ batch ∈ batches, batch ≠ []
  /-- Only a single item may be over the budget. -/
  fits : ∀ batch ∈ batches, 2 ≤ batch.length → total tokens batch ≤ budget
  /-- The first item of the next batch would not have fitted in. -/
  full : batches.IsChain fun batch next =>
    ∀ first ∈ next.head?, budget < total tokens batch + tokens first

namespace Greedy

theorem nil : Greedy budget tokens [] [] where
  flatten := rfl
  nonempty := fun _ member => nomatch member
  fits := fun _ member => nomatch member
  full := .nil

/-- An item that does not fit into the last batch starts another. -/
theorem start (greedy : Greedy budget tokens items batches) {item : α}
    (exceeds : ∀ last ∈ batches.getLast?, budget < total tokens last + tokens item) :
    Greedy budget tokens (items ++ [item]) (batches ++ [[item]]) where
  flatten := by rw [List.flatten_append, greedy.flatten, List.flatten_singleton]
  nonempty := by
    intro batch member
    rcases List.mem_append.mp member with old | new
    · exact greedy.nonempty batch old
    · obtain rfl := List.mem_singleton.mp new
      exact List.cons_ne_nil _ _
  fits := by
    intro batch member several
    rcases List.mem_append.mp member with old | new
    · exact greedy.fits batch old several
    · obtain rfl := List.mem_singleton.mp new
      exact absurd several (by simp)
  full := by
    refine greedy.full.append (.singleton _) fun last isLast next isNext first isFirst => ?_
    cases isNext
    cases isFirst
    exact exceeds last isLast

/-- An item that fits into the last batch is put there. -/
theorem extend {closed : List (List α)} {current : List α} {item : α}
    (greedy : Greedy budget tokens items (closed ++ [current]))
    (fit : total tokens current + tokens item ≤ budget) :
    Greedy budget tokens (items ++ [item]) (closed ++ [current ++ [item]]) where
  flatten := by
    rw [← greedy.flatten]
    simp
  nonempty := by
    intro batch member
    rcases List.mem_append.mp member with old | new
    · exact greedy.nonempty batch (List.mem_append_left _ old)
    · obtain rfl := List.mem_singleton.mp new
      simp
  fits := by
    intro batch member several
    rcases List.mem_append.mp member with old | new
    · exact greedy.fits batch (List.mem_append_left _ old) several
    · obtain rfl := List.mem_singleton.mp new
      rw [total_concat]
      exact fit
  full := by
    have same : (current ++ [item]).head? = current.head? := by
      have some := greedy.nonempty current (List.mem_append_right _ (List.mem_singleton_self _))
      rw [List.head?_append_of_ne_nil _ some]
    obtain ⟨before, -, last⟩ := List.isChain_append.mp greedy.full
    refine before.append (.singleton _) fun batch isLast next isNext first isFirst => ?_
    cases isNext
    rw [same] at isFirst
    exact last batch isLast current rfl first isFirst

/-- An item over the budget is in a batch of its own. -/
theorem alone (greedy : Greedy budget tokens items batches)
    (natural : ∀ item ∈ items, 0 ≤ tokens item)
    {batch : List α} {item : α} (isBatch : batch ∈ batches) (member : item ∈ batch)
    (exceeds : budget < tokens item) : batch = [item] := by
  have inside : ∀ other ∈ batch, 0 ≤ tokens other := fun other there =>
    natural other (greedy.flatten ▸ List.mem_flatten_of_mem isBatch there)
  have share : tokens item ≤ total tokens batch :=
    List.single_le_sum (List.forall_mem_map.mpr inside) _ (List.mem_map_of_mem member)
  have few : batch.length < 2 := by
    by_contra several
    have fit := greedy.fits batch isBatch (by omega)
    omega
  match batch, few with
  | [_], _ => rw [List.mem_singleton.mp member]

/-- The first of greedy batches is filled so far that no other can begin with it and go on. -/
theorem not_longer {batch other extra : List α} {first : α} {rest others : List (List α)}
    (greedy : Greedy budget tokens items (batch :: rest))
    (greedy' : Greedy budget tokens items (other :: others))
    (natural : ∀ item ∈ items, 0 ≤ tokens item)
    (longer : other = batch ++ first :: extra) (next : rest.flatten.head? = some first) :
    False := by
  have some := greedy.nonempty batch List.mem_cons_self
  have several : 2 ≤ other.length := by
    have positive := List.length_pos_iff.mpr some
    rw [longer, List.length_append, List.length_cons]
    omega
  have fit := greedy'.fits other List.mem_cons_self several
  have further : 0 ≤ total tokens extra := by
    refine List.sum_nonneg (List.forall_mem_map.mpr fun item there => natural item ?_)
    rw [← greedy'.flatten, longer]
    simp [there]
  have exceeds : budget < total tokens batch + tokens first := by
    cases rest with
    | nil => cases next
    | cons following rest =>
        refine (List.isChain_cons_cons.mp greedy.full).1 first ?_
        have some := greedy.nonempty following (by simp)
        rwa [List.flatten_cons, List.head?_append_of_ne_nil _ some] at next
  have parts : total tokens other = total tokens batch + (tokens first + total tokens extra) := by
    rw [longer, total_append]
    simp [total]
  omega

/-- What is left of greedy batches after the first. -/
theorem tail {batch : List α} {rest : List (List α)}
    (greedy : Greedy budget tokens items (batch :: rest)) :
    Greedy budget tokens rest.flatten rest where
  flatten := rfl
  nonempty := fun other member => greedy.nonempty other (List.mem_cons_of_mem _ member)
  fits := fun other member => greedy.fits other (List.mem_cons_of_mem _ member)
  full := greedy.full.tail

/-- Without items there are no batches, not even empty ones. -/
theorem eq_nil (greedy : Greedy budget tokens [] batches) : batches = [] := by
  cases batches with
  | nil => rfl
  | cons batch rest =>
      have none := (List.append_eq_nil_iff.mp greedy.flatten).1
      exact absurd none (greedy.nonempty batch List.mem_cons_self)

/-- Items can be divided greedily in one way only. -/
theorem unique {others : List (List α)} (greedy : Greedy budget tokens items batches)
    (greedy' : Greedy budget tokens items others) (natural : ∀ item ∈ items, 0 ≤ tokens item) :
    batches = others := by
  induction batches generalizing items others with
  | nil =>
      cases greedy.flatten
      rw [greedy'.eq_nil]
  | cons batch rest ih =>
      cases others with
      | nil =>
          cases greedy'.flatten
          exact greedy.eq_nil
      | cons other others =>
          have both : batch ++ rest.flatten = other ++ others.flatten :=
            greedy.flatten.trans greedy'.flatten.symm
          -- of two first batches of the same items, one begins with the other
          have same : batch = other := by
            rcases List.append_eq_append_iff.mp both with ⟨extra, longer, following⟩ |
              ⟨extra, longer, following⟩
            · cases extra with
              | nil => rw [longer, List.append_nil]
              | cons first extra =>
                  exact (not_longer greedy greedy' natural longer (by rw [following]; rfl)).elim
            · cases extra with
              | nil => rw [longer, List.append_nil]
              | cons first extra =>
                  exact (not_longer greedy' greedy natural longer (by rw [following]; rfl)).elim
          subst same
          have left : rest.flatten = others.flatten := List.append_cancel_left both
          rw [ih greedy.tail (left ▸ greedy'.tail) fun item there => natural item ?_]
          rw [← greedy.flatten]
          exact List.mem_append_right _ there

end Greedy

/-- What packing keeps true: the batches are greedy, and the tokens of the open one are known. -/
structure Packing.Sound (budget : Int) (tokens : α → Int) (items : List α) (packing : Packing α) :
    Prop where
  greedy : Greedy budget tokens items packing.finish
  known : packing.tokens = total tokens packing.current
  /-- A batch is closed only when another is started. -/
  started : packing.current = [] → packing.closed = []

namespace Packing.Sound

theorem nil : Sound budget tokens [] ({} : Packing α) where
  greedy := Greedy.nil
  known := rfl
  started := fun _ => rfl

theorem add {packing : Packing α} (sound : Sound budget tokens items packing) (item : α) :
    Sound budget tokens (items ++ [item]) (packing.add budget item (tokens item)) := by
  obtain ⟨closed, current, number⟩ := packing
  obtain ⟨greedy, known, started⟩ := sound
  dsimp only at known started
  cases current with
  | nil =>
      rw [started rfl] at greedy ⊢
      have new : Greedy budget tokens (items ++ [item]) ([] ++ [[item]]) :=
        greedy.start fun _ none => nomatch none
      exact ⟨new, by simp [Packing.add, known, total], nofun⟩
  | cons first others =>
      have open' : finish ⟨closed, first :: others, number⟩ = closed ++ [first :: others] := rfl
      rw [open'] at greedy
      by_cases exceeds : budget < number + tokens item
      · have closes : Packing.add budget ⟨closed, first :: others, number⟩ item (tokens item) =
            ⟨closed ++ [first :: others], [item], tokens item⟩ := if_pos (by simpa using exceeds)
        rw [closes]
        refine ⟨greedy.start fun last isLast => ?_, by simp [total], nofun⟩
        rw [List.getLast?_concat] at isLast
        cases isLast
        rwa [← known]
      · have keeps : Packing.add budget ⟨closed, first :: others, number⟩ item (tokens item) =
            ⟨closed, first :: others ++ [item], number + tokens item⟩ :=
          if_neg (by simpa using exceeds)
        rw [keeps]
        refine ⟨greedy.extend ?_, ?_, nofun⟩
        · omega
        · dsimp only
          rw [known, total_concat]

theorem foldl {packing : Packing α} (sound : Sound budget tokens items packing) (more : List α) :
    Sound budget tokens (items ++ more)
      (more.foldl (fun packing item => packing.add budget item (tokens item)) packing) := by
  induction more generalizing items packing with
  | nil => rwa [List.append_nil]
  | cons item rest ih =>
      have next := ih (sound.add item)
      rwa [List.append_assoc] at next

end Packing.Sound

/-- Items whose tokens can be estimated are all packed. -/
theorem pack_eq {sizeOf : α → Int}
    (known : ∀ item ∈ items, Tokens.estimate (sizeOf item) = .ok (tokens item)) :
    pack budget sizeOf items = .ok (items.foldl
      (fun packing item => packing.add budget item (tokens item)) ({} : Packing α)).finish := by
  have run (packing : Packing α) : items.foldlM (fun packing item => do
        return packing.add budget item (← Tokens.estimate (sizeOf item))) packing =
      .ok (items.foldl (fun packing item => packing.add budget item (tokens item)) packing) := by
    induction items generalizing packing with
    | nil => rfl
    | cons item rest ih =>
        rw [List.foldlM_cons, known item List.mem_cons_self]
        exact ih (fun other there => known other (List.mem_cons_of_mem _ there)) _
  rw [pack, run]
  rfl

/-- The tokens of an item are a quarter of its size, rounded up. -/
def tokensOf (sizeOf : α → Int) (item : α) : Int :=
  ⌈(sizeOf item : ℚ) / 4⌉

theorem tokensOf_nonneg {sizeOf : α → Int} {item : α} (low : 0 ≤ sizeOf item) :
    0 ≤ tokensOf sizeOf item :=
  Int.ceil_nonneg (div_nonneg (Int.cast_nonneg low) (by norm_num))

/-- Whatever the budget and the sizes in the range of exact estimates are, items are packed
    greedily, in the one way there is, and one over the budget is in a batch of its own. -/
theorem pack_greedy (budget : Int) (sizeOf : α → Int) (items : List α)
    (low : ∀ item ∈ items, 0 ≤ sizeOf item) (high : ∀ item ∈ items, sizeOf item ≤ 2 ^ 53) :
    ∃ batches, pack budget sizeOf items = .ok batches ∧
      Greedy budget (tokensOf sizeOf) items batches ∧
      (∀ batch ∈ batches, ∀ item ∈ batch, budget < tokensOf sizeOf item → batch = [item]) ∧
      ∀ others, Greedy budget (tokensOf sizeOf) items others → others = batches := by
  have natural : ∀ item ∈ items, 0 ≤ tokensOf sizeOf item :=
    fun item member => tokensOf_nonneg (low item member)
  have packed : pack budget sizeOf items = .ok _ := pack_eq fun item member =>
    Tokens.estimate_eq (low item member) (high item member)
  have sound : Packing.Sound budget (tokensOf sizeOf) items _ := Packing.Sound.nil.foldl items
  exact ⟨_, packed, sound.greedy, fun batch isBatch item member exceeds =>
    sound.greedy.alone natural isBatch member exceeds,
    fun others other => other.unique sound.greedy natural⟩

/-- Empty items fill no batch; the third item here is over the budget of four tokens. -/
theorem pack_greedy_sample :
    (∀ size ∈ [8, 7, 100, 0, 16, 1], 0 ≤ size ∧ size ≤ (2 : Int) ^ 53) ∧
      pack 4 id [8, 7, 100, 0, 16, 1] = .ok [[8, 7], [100], [0, 16], [1]] ∧
      Greedy 4 (tokensOf id) [8, 7, 100, 0, 16, 1] [[8, 7], [100], [0, 16], [1]] := by
  have range : ∀ size ∈ [8, 7, 100, 0, 16, 1], 0 ≤ size ∧ size ≤ (2 : Int) ^ 53 := by decide
  have packed : pack 4 id [8, 7, 100, 0, 16, 1] = .ok [[8, 7], [100], [0, 16], [1]] := by
    decide +kernel
  obtain ⟨batches, same, greedy, -⟩ := pack_greedy 4 id [8, 7, 100, 0, 16, 1]
    (fun size member => (range size member).1) fun size member => (range size member).2
  rw [packed] at same
  cases same
  exact ⟨range, packed, greedy⟩

end Scholia.Batch
