import Scholia.Binary64.Basic
import Scholia.Text.Basic
import Scholia.Unicode.Case

/-! # Token and cost estimates

A token is about four characters. The estimate is the quotient of length and characters per token
as a floating-point number, rounded up. Rates are looked up by provider, and then by a part of the
model's name, the first match winning.
-/

namespace Scholia.Tokens

/-- The characters that make a token. -/
def charactersPerToken : Nat := 4

/-- A quotient is beyond the range of floating-point numbers. -/
inductive Overflow where
  | quotient
  deriving Repr, DecidableEq

def Overflow.message : Overflow → String
  | .quotient => "integer division result too large for a float"

/-- The estimated number of tokens of a text of some length. -/
def estimate (length : Int) : Except Overflow Int :=
  match Binary64.ofQuotient? length charactersPerToken with
  | some quotient => .ok (Binary64.ceiling quotient)
  | none => .error .quotient

end Scholia.Tokens

namespace Scholia.Cost

/-- The rates of a provider, in dollars per token: by parts of model names in order, with a rate
    for all other models. -/
structure Rates where
  byPart : List (String × Float)
  otherwise : Float

def generationRates : List (String × Rates) :=
  [("openai", ⟨[("gpt-4o", 0.000015), ("gpt-4", 0.00003), ("gpt-3.5", 0.000002)], 0.000015⟩),
   ("google", ⟨[("gemini-1.5-pro", 0.000035), ("gemini-1.5-flash", 0.000015)], 0.000025⟩),
   ("anthropic",
    ⟨[("claude-3-opus", 0.000075), ("claude-3-sonnet", 0.000015), ("claude-3-haiku", 0.000001)],
      0.000015⟩)]

/-- The rate for generation by an unknown provider. -/
def defaultGenerationRate : Float := 0.000015

def embeddingRates : List (String × Rates) :=
  [("openai",
    ⟨[("text-embedding-3-large", 0.00000013), ("text-embedding-3-small", 0.00000002),
      ("text-embedding-ada-002", 0.0000001)], 0.00000013⟩),
   ("google", ⟨[], 0.00000125⟩)]

/-- The rate for embeddings by an unknown provider. -/
def defaultEmbeddingRate : Float := 0.00000013

/-- The rate of a model among those of its provider. -/
def Rates.ofModel (rates : Rates) (model : String) : Float :=
  match rates.byPart.find? (fun entry => Text.occursIn entry.1.toList model.toList) with
  | some (_, rate) => rate
  | none => rates.otherwise

def rate (embedding : Bool) (provider model : String) : Float :=
  let (table, default) :=
    if embedding then (embeddingRates, defaultEmbeddingRate)
    else (generationRates, defaultGenerationRate)
  match table.lookup (Unicode.lower provider) with
  | some rates => rates.ofModel model
  | none => default

/-- An estimate for one request. -/
structure Estimate where
  tokens : Int
  cost : Float
  provider : String
  model : String

/-- The estimate for sending a number of characters to a model. -/
def estimate (length : Int) (provider model : String) (embedding : Bool := false) :
    Except Tokens.Overflow Estimate := do
  let tokens ← Tokens.estimate length
  return ⟨tokens, Binary64.ofInt tokens * rate embedding provider model, provider, model⟩

end Scholia.Cost
