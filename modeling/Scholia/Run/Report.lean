import Scholia.Json.Fields
import Scholia.Run.Feature
import Scholia.Run.Statistics

/-! # Reports on a run

Statistics and features are written as JSON values.
-/

namespace Scholia

def FeatureFlags.toJson (flags : FeatureFlags) : Json :=
  .object
    [("embeddings", .bool flags.embeddings), ("related_symbols", .bool flags.relatedSymbols),
      ("cache", .bool flags.cache)]

def Features.degradationsJson (features : Features) : Json :=
  .array (features.degradations.map fun (feature, reason) =>
    .array [.str feature.label, .str reason])

def ErrorRecord.toJson (record : ErrorRecord) : Json :=
  .object
    [("file_path", .str record.filePath), ("message", .str record.message),
      ("unit_id", .textOrNull record.unitId), ("unit_name", .textOrNull record.unitName),
      ("stack", .bool record.traced)]

namespace Statistics

/-- The counts in the order of reports. -/
def countsJson (stats : Statistics) : List (String × Json) :=
  Counter.all.map fun counter => (counter.label, .int (stats.counts counter))

def toJson (stats : Statistics) : Json :=
  .object
    (stats.countsJson ++
      [("dry_run", .bool stats.dryRun),
        ("errors", .array (stats.errors.map ErrorRecord.toJson))])

end Statistics

end Scholia
