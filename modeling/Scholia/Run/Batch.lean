import Scholia.Oracle.Cost

/-! # Batches of files

Files are packed in order into batches under a budget of tokens. A file over the budget makes a
batch of its own.
-/

namespace Scholia.Batch

variable {α : Type}

/-- Batches under way: the closed ones, the open one and its tokens. -/
structure Packing (α : Type) where
  closed : List (List α) := []
  current : List α := []
  tokens : Int := 0

/-- Put one more item into the open batch, which is closed first if the item does not fit in. -/
def Packing.add (budget : Int) (packing : Packing α) (item : α) (tokens : Int) : Packing α :=
  if !packing.current.isEmpty && budget < packing.tokens + tokens then
    ⟨packing.closed ++ [packing.current], [item], tokens⟩
  else
    { packing with current := packing.current ++ [item], tokens := packing.tokens + tokens }

/-- All batches, the open one closed unless it is empty. -/
def Packing.finish (packing : Packing α) : List (List α) :=
  if packing.current.isEmpty then packing.closed else packing.closed ++ [packing.current]

/-- Pack items of given sizes. -/
def pack (budget : Int) (sizeOf : α → Int) (items : List α) :
    Except Tokens.Overflow (List (List α)) := do
  let packing ← items.foldlM
    (fun packing item => do return packing.add budget item (← Tokens.estimate (sizeOf item)))
    ({} : Packing α)
  return packing.finish

end Scholia.Batch
