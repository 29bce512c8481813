import Scholia.Cache.Store

/-! # The files of a cache

Keys are kept apart by the digests that name their files. In a directory that holds nothing but
files, putting and removing one of them leaves the others alone. What a codec writes of an entry it
reads back as this very entry, or it does not read it at all, if it is honest about this entry.
-/

namespace Scholia

namespace Table

variable {α : Type}

theorem mem_of_get? {name : String} {value : α} {table : Table α}
    (found : get? name table = some value) : (name, value) ∈ table := by
  induction table with
  | nil => cases found
  | cons entry rest ih =>
      rw [get?] at found
      split at found
      · next same =>
        cases found
        cases same
        exact List.mem_cons_self
      · exact List.mem_cons_of_mem _ (ih found)

theorem mem_of_mem_set {name : String} {value : α} {table : Table α} {entry : String × α}
    (member : entry ∈ set name value table) : entry = (name, value) ∨ entry ∈ table := by
  induction table with
  | nil => exact .inl (List.mem_singleton.mp member)
  | cons first rest ih =>
      rw [set] at member
      split at member
      · rcases List.mem_cons.mp member with here | later
        · exact .inl here
        · exact .inr (List.mem_cons_of_mem _ later)
      · rcases List.mem_cons.mp member with rfl | later
        · exact .inr List.mem_cons_self
        · exact (ih later).imp_right (List.mem_cons_of_mem _)

theorem mem_of_mem_erase {name : String} {table : Table α} {entry : String × α}
    (member : entry ∈ erase name table) : entry ∈ table := by
  induction table with
  | nil => cases member
  | cons first rest ih =>
      rw [erase] at member
      split at member
      · exact List.mem_cons_of_mem _ (ih member)
      · rcases List.mem_cons.mp member with rfl | later
        · exact List.mem_cons_self
        · exact List.mem_cons_of_mem _ (ih later)

end Table

namespace Sha256

/-- No two of some texts have one digest. -/
def CollisionFree (texts : List Text) : Prop :=
  ∀ first ∈ texts, ∀ second ∈ texts, hashText first = hashText second → first = second

theorem hashText_ne_empty (text : Text) : hashText text ≠ "" := by
  intro empty
  have nothing := congrArg String.toList empty
  simp [hashText, digest, State.words, Text.hexDigits] at nothing

end Sha256

namespace Directory

/-- Nothing is in the way of a directory, and it holds files only. -/
structure Plain (directory : Directory) : Prop where
  unblocked : directory ≠ .blocked
  files : ∀ entry ∈ directory.entries, ∃ content, entry.2 = .file content

theorem plain_of_empty {directory : Directory}
    (empty : directory = .missing ∨ directory = .present []) : directory.Plain := by
  rcases empty with rfl | rfl
  · exact ⟨by simp, by simp [entries]⟩
  · exact ⟨by simp, by simp [entries]⟩

theorem isOccupied_eq_false {name : String} {table : Table DiskEntry}
    (files : ∀ entry ∈ table, ∃ content, entry.2 = .file content) :
    isOccupied name table = false := by
  unfold isOccupied
  cases found : table.get? name with
  | none => rfl
  | some entry =>
      obtain ⟨content, same⟩ := files _ (Table.mem_of_get? found)
      cases same
      rfl

section

variable {table : Table DiskEntry} (plain : (present table).Plain) (name : String)
  (content : List UInt8)

include plain

theorem put_present :
    (present table).put name content = present (table.set name (.file content)) := by
  have free : isOccupied name table = false := isOccupied_eq_false plain.files
  rw [put, if_neg (Bool.not_eq_true _ ▸ free)]

theorem remove_present : (present table).remove name = present (table.erase name) := by
  have free : isOccupied name table = false := isOccupied_eq_false plain.files
  rw [remove, if_neg (Bool.not_eq_true _ ▸ free)]

end

section

variable {directory : Directory} (plain : directory.Plain) (name : String) (content : List UInt8)

include plain

theorem entries_put : (directory.put name content).entries =
    directory.entries.set name (.file content) := by
  cases directory with
  | missing => rfl
  | blocked => exact absurd rfl plain.unblocked
  | present table => exact congrArg entries (put_present plain name content)

theorem entries_remove : (directory.remove name).entries = directory.entries.erase name := by
  cases directory with
  | missing => rfl
  | blocked => exact absurd rfl plain.unblocked
  | present table => exact congrArg entries (remove_present plain name)

theorem Plain.put : (directory.put name content).Plain := by
  constructor
  · cases directory with
    | missing => simp [Directory.put]
    | blocked => exact absurd rfl plain.unblocked
    | present table => simp [put_present plain]
  · rw [entries_put plain]
    intro entry member
    rcases Table.mem_of_mem_set member with rfl | old
    · exact ⟨content, rfl⟩
    · exact plain.files entry old

theorem Plain.remove : (directory.remove name).Plain := by
  constructor
  · cases directory with
    | missing => simp [Directory.remove]
    | blocked => exact absurd rfl plain.unblocked
    | present table => simp [remove_present plain]
  · rw [entries_remove plain]
    exact fun entry member => plain.files entry (Table.mem_of_mem_erase member)

theorem get?_put (other : String) : (directory.put name content).entries.get? other =
    if other = name then some (.file content) else directory.entries.get? other := by
  rw [entries_put plain]
  split
  · next same => rw [same, Table.get?_set_same]
  · next differ => rw [Table.get?_set_other _ _ (Ne.symm differ)]

theorem get?_remove (other : String) : (directory.remove name).entries.get? other =
    if other = name then none else directory.entries.get? other := by
  rw [entries_remove plain]
  split
  · next same => rw [same, Table.get?_erase_same]
  · next differ => rw [Table.get?_erase_other _ (Ne.symm differ)]

end

end Directory

namespace Cache

theorem fileName_inj {texts : List Text} (free : Sha256.CollisionFree texts) {key other : String}
    (here : key.toList ∈ texts) (there : other.toList ∈ texts) :
    fileName key = fileName other ↔ key = other := by
  constructor
  · intro same
    have digests := congrArg String.toList same
    rw [fileName, fileName, String.toList_append, String.toList_append] at digests
    have hashes := String.toList_inj.mp (List.append_cancel_right digests)
    exact String.toList_inj.mp (free _ here _ there hashes)
  · rintro rfl
    rfl

theorem endsWith_fileName (key : String) :
    Text.endsWith ".json".toList (fileName key).toList = true := by
  rw [Text.endsWith, List.isSuffixOf_iff_suffix, fileName, String.toList_append]
  exact List.suffix_append _ _

theorem clear_present (table : Table DiskEntry) :
    (clear (.present table)).2 =
      .present (table.filter fun entry => !isEntryFile entry.1 entry.2) := by
  rw [clear, List.partition_eq_filter_filter]
  rfl

theorem plain_clear {directory : Directory} (plain : directory.Plain) :
    (clear directory).2.Plain := by
  cases directory with
  | missing | blocked => exact plain
  | present table =>
      rw [clear_present]
      refine ⟨by simp, fun entry member => plain.files entry ?_⟩
      exact (List.mem_filter.mp member).1

/-- No file of a key is left when the cache is cleared. -/
theorem get?_clear {directory : Directory} (plain : directory.Plain) (key : String) :
    (clear directory).2.entries.get? (fileName key) = none := by
  cases directory with
  | missing | blocked => rfl
  | present table =>
      rw [clear_present]
      cases found : (Directory.present _).entries.get? (fileName key) with
      | none => rfl
      | some entry =>
          obtain ⟨inside, kept⟩ := List.mem_filter.mp (Table.mem_of_get? found)
          obtain ⟨content, same⟩ := plain.files _ inside
          cases same
          rw [isEntryFile, endsWith_fileName] at kept
          cases kept

namespace Codec

/-- An entry is written, and what it is written as is read back as this very entry. -/
def Keeps (codec : Codec) (entry : Entry) : Prop :=
  ∃ bytes, codec.write entry = some bytes ∧ codec.read bytes = some entry

/-- What an entry is written as is read back as this very entry, or is not read at all. -/
def Honest (codec : Codec) (entry : Entry) : Prop :=
  ∀ bytes, codec.write entry = some bytes →
    codec.read bytes = some entry ∨ codec.read bytes = none

/-- What an entry is written as can be read. -/
def isReadable (codec : Codec) (entry : Entry) : Bool :=
  ((codec.write entry).bind codec.read).isSome

variable {codec : Codec} {entry : Entry}

theorem Keeps.honest (keeps : codec.Keeps entry) : codec.Honest entry := by
  obtain ⟨written, writes, reads⟩ := keeps
  intro bytes same
  cases writes.symm.trans same
  exact .inl reads

theorem Keeps.isReadable (keeps : codec.Keeps entry) : codec.isReadable entry = true := by
  obtain ⟨bytes, writes, reads⟩ := keeps
  rw [Codec.isReadable, writes, Option.bind_some, reads]
  rfl

theorem Honest.read (honest : codec.Honest entry) {bytes : List UInt8}
    (writes : codec.write entry = some bytes) :
    codec.read bytes = if codec.isReadable entry then some entry else none := by
  rw [Codec.isReadable, writes, Option.bind_some]
  rcases honest bytes writes with same | nothing
  · simp [same]
  · simp [nothing]

end Codec

end Cache

end Scholia
