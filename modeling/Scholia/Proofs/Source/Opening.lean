import Scholia.Proofs.Disk.Places
import Scholia.Proofs.Source.Tree
import Scholia.Source.Reader

/-! # Files that can be read

A document that was read comes from a file of a supported language, and is what the parser has made
of the text in it. Trees of broken sources may be malformed; where well-formed trees matter, they are
asked for of the files in question only.
-/

namespace Scholia.SourceReader

variable {reader : SourceReader} {disk : Disk} {path : Path}

/-- A document that was read comes from a file of a supported language. -/
theorem open?_ok {document : Document} (opened : reader.open? disk path = .ok document) :
    Grammar.supports path = true ∧ disk.locate path = .ok path.resolve ∧
      (disk.file? path.resolve).isSome = true := by
  unfold open? at opened
  split at opened
  · cases opened
  · next supported =>
    split at opened
    · cases opened
    · next read => exact ⟨by simpa using supported, Disk.read_ok read⟩

/-- The tree of a file as it is on a disk is well-formed below its root, if it can be parsed. -/
def Forms (reader : SourceReader) (disk : Disk) (path : Path) : Prop :=
  ∀ bytes text root, disk.read path = .ok bytes → Utf8.decode bytes = .ok text →
    reader.parse text = .ok root → Node.Siblings text root.children

/-- A document that was read is what the parser has made of a source. -/
theorem exists_parse {document : Document} (opened : reader.open? disk path = .ok document) :
    ∃ bytes text root, disk.read path = .ok bytes ∧ Utf8.decode bytes = .ok text ∧
      reader.parse text = .ok root ∧
      Document.parse path text (path.relativeTo reader.base) (.ok root) = .ok document := by
  unfold open? at opened
  split at opened
  · cases opened
  · split at opened
    · cases opened
    · next bytes read =>
      split at opened
      · cases opened
      · next text decoded =>
        cases parsed : reader.parse text with
        | error message =>
            rw [parsed] at opened
            cases opened
        | ok root =>
            rw [parsed] at opened
            cases opened
            exact ⟨bytes, text, root, read, decoded, parsed, rfl⟩

end Scholia.SourceReader
