import Scholia.Settings.Basic
import Scholia.Text.Quoted

/-! # Optional features of a run

Features may be switched off while a run is under way, and the reason is kept.
-/

namespace Scholia

/-- A part of a run that can be switched off. -/
inductive Feature where
  | embeddings
  | relatedSymbols
  | cache
  deriving Repr, DecidableEq, BEq

namespace Feature

def label : Feature → String
  | embeddings => "embeddings"
  | relatedSymbols => "related_symbols"
  | cache => "cache"

def all : List Feature := [embeddings, relatedSymbols, cache]

/-- A word is not the word for a feature. -/
structure Unknown where
  word : String
  deriving Repr, DecidableEq

def Unknown.message (unknown : Unknown) : String :=
  s!"{quote unknown.word} is not a valid Feature"

/-- The feature that a word stands for. -/
def ofLabel (word : String) : Except Unknown Feature :=
  match all.find? (·.label = word) with
  | some feature => .ok feature
  | none => .error ⟨word⟩

end Feature

/-- The features that are on. -/
structure FeatureFlags where
  embeddings : Bool := true
  relatedSymbols : Bool := true
  cache : Bool := true
  deriving Repr, DecidableEq, BEq

namespace FeatureFlags

/-- Switch a feature off, and those that depend on it. -/
def without (flags : FeatureFlags) : Feature → FeatureFlags
  | .embeddings => { flags with embeddings := false, relatedSymbols := false }
  | .relatedSymbols => { flags with relatedSymbols := false }
  | .cache => { flags with cache := false }

end FeatureFlags

/-- The features of a run, and what was switched off and why. -/
structure Features where
  flags : FeatureFlags
  degradations : List (Feature × String) := []

namespace Features

/-- The features that a run starts with. -/
def start (doc : DocSettings) (embedding : EmbeddingSettings) (cache : CacheSettings)
    (options : RunOptions) : Features :=
  let embeddings := embedding.enabled && !options.disableEmbeddings
  { flags :=
      { embeddings
        relatedSymbols := embeddings && doc.includeRelatedSymbols
        cache := cache.enabled } }

/-- Switch a feature off for the rest of the run. -/
def degrade (features : Features) (feature : Feature) (reason : String) : Features :=
  { flags := features.flags.without feature
    degradations := features.degradations ++ [(feature, reason)] }

end Features

end Scholia
