import Scholia.Text.Basic

/-! # The place for a doc comment

A declaration has a place for one comment. It starts with the comment found in the source, and
edits stay pending until the file is written.
-/

namespace Scholia

/-- The place for the comment of a declaration: what the source has there, and the content since
    the last edit. -/
structure Slot where
  found : Option Text := none
  edited : Option (Option Text) := none
  deriving Repr, DecidableEq, BEq

namespace Slot

/-- The comment with pending edits applied. -/
def current (slot : Slot) : Option Text :=
  slot.edited.getD slot.found

/-- Put a trimmed text into the place. -/
def write (slot : Slot) (text : Text) : Slot :=
  { slot with edited := some (some (Text.trim text)) }

/-- Empty the place. -/
def clear (slot : Slot) : Slot :=
  { slot with edited := some none }

/-- The comment differs from the one in the source. -/
def changed (slot : Slot) : Bool :=
  match slot.edited with
  | none => false
  | some content => content != slot.found

end Slot

end Scholia
