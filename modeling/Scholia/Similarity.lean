import Scholia.Binary64.Basic

/-! # Similarity of vectors

Vectors are compared by the cosine of the angle between them. Ranking keeps the candidates that
reach a threshold, best first, candidates of equal score in their given order.
-/

namespace Scholia.Similarity

/-- Two vectors differ in length. -/
structure LengthMismatch where
  left : Nat
  right : Nat
  deriving Repr, DecidableEq

def LengthMismatch.message (m : LengthMismatch) : String :=
  s!"Vector length mismatch: {m.left} != {m.right}"

/-- The plain sum: one number is added after another, from left to right, each sum is rounded, and
    nothing makes up for the errors of rounding. -/
def sum (xs : List Float) : Float :=
  xs.foldl (· + ·) 0.0

def dot (a b : List Float) : Float :=
  sum (List.zipWith (· * ·) a b)

def norm (a : List Float) : Float :=
  (dot a a).sqrt

/-- The cosine of two vectors of one length; zero if one of them is zero. -/
def cosine (a b : List Float) : Float :=
  if Binary64.magnitudeBits (norm a) = 0 || Binary64.magnitudeBits (norm b) = 0 then 0.0
  else dot a b / (norm a * norm b)

/-- The cosine of two vectors, which have to be of one length. -/
def cosine? (a b : List Float) : Except LengthMismatch Float :=
  if a.length = b.length then .ok (cosine a b) else .error ⟨a.length, b.length⟩

variable {α : Type}

/-- The candidates that reach a threshold, with their scores. -/
def qualifying (query : List Float) (candidates : List (α × List Float)) (threshold : Float) :
    List (α × Float) :=
  candidates.filterMap fun (item, vector) =>
    if vector.length = query.length && Binary64.le threshold (cosine query vector) then
      some (item, cosine query vector)
    else none

/-- The best candidates that reach a threshold, at most as many as a limit. -/
def rank (query : List Float) (candidates : List (α × List Float)) (threshold : Float)
    (limit : Int) : List (α × Float) :=
  ((qualifying query candidates threshold).mergeSort fun a b => Binary64.le b.2 a.2).take
    limit.toNat

end Scholia.Similarity
