import Scholia.Oracle.Generation
import Scholia.Proofs.Oracle.Fairness

/-! # Comments among the other entries

A cache keeps comments and vectors side by side, each under a key of its own. Two directories may
differ in what is kept beside the comments. As long as no file that could be taken for that of a
comment holds one where they differ, a comment is found in both or in neither, and is kept in both.
-/

namespace Scholia

namespace Cache

/-- A comment is kept in a file of this name. -/
def IsComment (name : String) : Prop :=
  ∃ unitId modelId, name = fileName (Oracle.cacheKey unitId modelId)

/-- The response that is heard from the bytes of a file, if they are those of one. -/
def Store.heard (store : Store) (form : Response.Form) (bytes : List UInt8) : Option Response :=
  (store.codec.read bytes).bind fun entry => entry.value?.bind form.read

/-- There is nothing, or a file that no response is heard from. -/
structure Mute (heard : List UInt8 → Option Response) (found : Option DiskEntry) : Prop where
  free : found ≠ some .directory
  silent : ∀ bytes, found = some (.file bytes) → heard bytes = none

variable {heard : List UInt8 → Option Response}

/-- What stands in two places is the same, or mute in both. -/
def Hushed (heard : List UInt8 → Option Response) (first second : Option DiskEntry) : Prop :=
  second = first ∨ Mute heard first ∧ Mute heard second

theorem Mute.none : Mute heard none :=
  ⟨by simp, by simp⟩

theorem Mute.file {bytes : List UInt8} (silent : heard bytes = .none) :
    Mute heard (some (.file bytes)) :=
  ⟨by simp, by rintro _ ⟨⟩; exact silent⟩

theorem Hushed.symm {first second : Option DiskEntry} (hushed : Hushed heard first second) :
    Hushed heard second first :=
  hushed.imp Eq.symm And.symm

theorem Hushed.directory_iff {first second : Option DiskEntry} (hushed : Hushed heard first second) :
    second = some .directory ↔ first = some .directory := by
  rcases hushed with rfl | ⟨one, two⟩
  · exact Iff.rfl
  · exact iff_of_false two.free one.free

end Cache

namespace Directory

theorem isOccupied_iff {name : String} {table : Table DiskEntry} :
    isOccupied name table = true ↔ table.get? name = some .directory := by
  rw [isOccupied]
  rcases table.get? name with _ | content | _ <;> simp

/-- A file is in the place of the directory. -/
def isBlocked : Directory → Bool
  | blocked => true
  | missing | present _ => false

/-- A file is removed, unless it is a directory. -/
theorem get?_remove_if (directory : Directory) (name other : String) :
    (directory.remove name).entries.get? other =
      if other = name ∧ isOccupied name directory.entries = false then none
      else directory.entries.get? other := by
  by_cases same : other = name
  · subst same
    cases directory with
    | missing | blocked => simp [remove, entries, Table.get?]
    | present table =>
        rw [remove]
        split
        · next occupied => simp [entries, occupied]
        · next free => simp [entries, free]
  · rw [get?_remove_other same, if_neg fun both => same both.1]

/-- A file is put there, unless a directory or what blocks the whole is in the way. -/
theorem get?_put_if (directory : Directory) (name other : String) (content : List UInt8) :
    (directory.put name content).entries.get? other =
      if other = name ∧ directory.isBlocked = false ∧ isOccupied name directory.entries = false then
        some (.file content)
      else directory.entries.get? other := by
  by_cases same : other = name
  · subst same
    cases directory with
    | missing | blocked => simp [put, entries, Table.get?, isBlocked, isOccupied]
    | present table =>
        rw [put]
        split
        · next occupied => simp [entries, occupied]
        · next free => simp [entries, isBlocked, free]
  · rw [get?_put_other same, if_neg fun both => same both.1]

@[simp] theorem isBlocked_remove (directory : Directory) (name : String) :
    (directory.remove name).isBlocked = directory.isBlocked := by
  cases directory with
  | missing | blocked => rfl
  | present table =>
      rw [remove]
      split
      · rfl
      · rfl

@[simp] theorem isBlocked_put (directory : Directory) (name : String) (content : List UInt8) :
    (directory.put name content).isBlocked = directory.isBlocked := by
  cases directory with
  | missing | blocked => rfl
  | present table =>
      rw [put]
      split
      · rfl
      · rfl

/-- A directory of a name is not removed. -/
theorem directory_remove {directory : Directory} {other : String}
    (there : directory.entries.get? other = some .directory) (name : String) :
    (directory.remove name).entries.get? other = some .directory := by
  rw [get?_remove_if, if_neg, there]
  rintro ⟨rfl, free⟩
  exact Bool.false_ne_true (free.symm.trans (isOccupied_iff.mpr there))

/-- Nothing is put in its place. -/
theorem directory_put {directory : Directory} {other : String}
    (there : directory.entries.get? other = some .directory) (name : String) (content : List UInt8) :
    (directory.put name content).entries.get? other = some .directory := by
  rw [get?_put_if, if_neg, there]
  rintro ⟨rfl, -, free⟩
  exact Bool.false_ne_true (free.symm.trans (isOccupied_iff.mpr there))

/-- Nothing but files of some names is put or removed, and no comment gets into them. -/
structure Touched (heard : List UInt8 → Option Response) (names : String → Prop)
    (before after : Directory) : Prop where
  others : ∀ name, ¬names name → after.entries.get? name = before.entries.get? name
  directories : ∀ name, before.entries.get? name = some .directory →
    after.entries.get? name = some .directory
  mute : ∀ name, Cache.Mute heard (before.entries.get? name) →
    Cache.Mute heard (after.entries.get? name)

namespace Touched

variable {heard : List UInt8 → Option Response} {names : String → Prop}
  {before between after : Directory}

theorem refl (heard : List UInt8 → Option Response) (names : String → Prop) (directory : Directory) :
    Touched heard names directory directory :=
  ⟨fun _ _ => rfl, fun _ => id, fun _ => id⟩

theorem trans (first : Touched heard names before between) (second : Touched heard names between after) :
    Touched heard names before after where
  others name other := (second.others name other).trans (first.others name other)
  directories name there := second.directories name (first.directories name there)
  mute name mute := second.mute name (first.mute name mute)

theorem weaken {others : String → Prop} (touched : Touched heard names before after)
    (within : ∀ name, names name → others name) : Touched heard others before after :=
  ⟨fun name other => touched.others name fun named => other (within name named),
    touched.directories, touched.mute⟩

theorem remove {name : String} (named : names name) (directory : Directory) :
    Touched heard names directory (directory.remove name) where
  others other elsewhere := by
    have differ : other ≠ name := fun same => elsewhere (same ▸ named)
    rw [get?_remove_other differ]
  directories other there := directory_remove there name
  mute other mute := by
    rw [get?_remove_if]
    split
    · exact .none
    · exact mute

theorem put {name : String} (named : names name) {content : List UInt8}
    (mute : Cache.Mute heard (some (.file content))) (directory : Directory) :
    Touched heard names directory (directory.put name content) where
  others other elsewhere := by
    have differ : other ≠ name := fun same => elsewhere (same ▸ named)
    rw [get?_put_other differ]
  directories other there := directory_put there name content
  mute other silent := by
    rw [get?_put_if]
    split
    · exact mute
    · exact silent

end Touched

/-- Two directories are the same but for some files, and a comment is in both or in neither. -/
structure Abreast (heard : List UInt8 → Option Response) (differ : String → Prop)
    (first second : Directory) : Prop where
  blocked : second.isBlocked = first.isBlocked
  same : ∀ name, ¬differ name → second.entries.get? name = first.entries.get? name
  comments : ∀ name, Cache.IsComment name →
    Cache.Hushed heard (first.entries.get? name) (second.entries.get? name)

namespace Abreast

variable {heard : List UInt8 → Option Response} {differ : String → Prop}
  {first second : Directory}

theorem refl (heard : List UInt8 → Option Response) (differ : String → Prop)
    (directory : Directory) : Abreast heard differ directory directory :=
  ⟨rfl, fun _ _ => rfl, fun _ _ => .inl rfl⟩

theorem symm (abreast : Abreast heard differ first second) : Abreast heard differ second first where
  blocked := abreast.blocked.symm
  same name other := (abreast.same name other).symm
  comments name comment := (abreast.comments name comment).symm

/-- A file without a comment is removed on one side. -/
theorem remove_left (abreast : Abreast heard differ first second) {name : String} (apart : differ name)
    (two : Cache.Mute heard (second.entries.get? name)) :
    Abreast heard differ (first.remove name) second where
  blocked := by rw [isBlocked_remove, abreast.blocked]
  same other same := by
    have elsewhere : other ≠ name := fun here => same (here ▸ apart)
    rw [get?_remove_other elsewhere, abreast.same other same]
  comments other comment := by
    rw [get?_remove_if]
    split
    · next here => exact .inr ⟨.none, here.1 ▸ two⟩
    · exact abreast.comments other comment

/-- A file in which both sides are the same is removed on both. -/
theorem remove (abreast : Abreast heard differ first second) {name : String}
    (same : second.entries.get? name = first.entries.get? name) :
    Abreast heard differ (first.remove name) (second.remove name) := by
  have occupied : isOccupied name second.entries = isOccupied name first.entries :=
    congrArg (Option.any _) same
  refine ⟨?_, fun other elsewhere => ?_, fun other comment => ?_⟩
  · rw [isBlocked_remove, isBlocked_remove, abreast.blocked]
  · rw [get?_remove_if, get?_remove_if, occupied, abreast.same other elsewhere]
  · rw [get?_remove_if, get?_remove_if, occupied]
    split
    · exact .inl rfl
    · exact abreast.comments other comment

/-- The same file of a comment is put on both sides. -/
theorem put (abreast : Abreast heard differ first second) {name : String} (comment : Cache.IsComment name)
    (content : List UInt8) :
    Abreast heard differ (first.put name content) (second.put name content) := by
  have occupied : isOccupied name second.entries = isOccupied name first.entries := by
    rw [Bool.eq_iff_iff, isOccupied_iff, isOccupied_iff]
    exact (abreast.comments name comment).directory_iff
  refine ⟨?_, fun other elsewhere => ?_, fun other named => ?_⟩
  · rw [isBlocked_put, isBlocked_put, abreast.blocked]
  · rw [get?_put_if, get?_put_if, abreast.blocked, occupied, abreast.same other elsewhere]
  · rw [get?_put_if, get?_put_if, abreast.blocked, occupied]
    split
    · exact .inl rfl
    · exact abreast.comments other named

end Abreast

end Directory

namespace Cache.Store

variable (store : Store) (form : Response.Form) (now : Int) (key : String) (content : Option Text)

/-- A look-up leaves the directory as it was, or removes the file. -/
theorem get_directory (directory : Directory) :
    (store.get now key content directory).2 = directory ∨
      (store.get now key content directory).2 = directory.remove (fileName key) := by
  unfold get
  split
  · exact .inl rfl
  · split
    · exact .inr rfl
    · split
      · exact .inl rfl
      · split
        · exact .inl rfl
        · exact .inr rfl

/-- Where there is no response, none is found. -/
theorem get_mute {directory : Directory}
    (mute : Mute (store.heard form) (directory.entries.get? (fileName key))) :
    (store.get now key content directory).1.bind form.read = none := by
  unfold get
  split
  · rfl
  · next found held =>
    split
    · rfl
    · next entry read =>
      split
      · rfl
      · split
        · cases found with
          | directory => cases read
          | file bytes =>
              have silent := mute.silent bytes held
              rw [heard, show store.codec.read bytes = some entry from read] at silent
              exact silent
        · rfl

theorem touched_get (heard : List UInt8 → Option Response) (directory : Directory) :
    Directory.Touched heard (· = fileName key) directory
      (store.get now key content directory).2 := by
  rcases store.get_directory now key content directory with same | same
  · rw [same]
    exact .refl _ _ _
  · rw [same]
    refine .remove ?_ directory
    rfl

/-- What is stored is not heard as a response. -/
theorem touched_set {heard : List UInt8 → Option Response} {data : Json}
    (silent : ∀ bytes, store.codec.write (store.entryFor now data content) = some bytes →
      heard bytes = none) (directory : Directory) :
    Directory.Touched heard (· = fileName key) directory
      (store.set now key data content directory) := by
  unfold set
  split
  · next bytes writes =>
    refine .put ?_ (.file (silent bytes writes)) directory
    rfl
  · exact .refl _ _ _

theorem directories_set (directory : Directory) (data : Json) {name : String}
    (there : directory.entries.get? name = some .directory) :
    (store.set now key data content directory).entries.get? name = some .directory := by
  unfold set
  split
  · exact Directory.directory_put there _ _
  · exact there

section

variable {differ : String → Prop} {first second : Directory}
  (abreast : Directory.Abreast (store.heard form) differ first second) (comment : IsComment (fileName key))

include abreast comment

/-- A response is looked up with the same result on both sides. -/
theorem abreast_get :
    (store.get now key content second).1.bind form.read =
        (store.get now key content first).1.bind form.read ∧
      Directory.Abreast (store.heard form) differ (store.get now key content first).2
        (store.get now key content second).2 := by
  by_cases same : second.entries.get? (fileName key) = first.entries.get? (fileName key)
  · have removed := abreast.remove same
    unfold get
    rw [same]
    split
    · exact ⟨rfl, abreast⟩
    · split
      · exact ⟨rfl, removed⟩
      · split
        · exact ⟨rfl, abreast⟩
        · split
          · exact ⟨rfl, abreast⟩
          · exact ⟨rfl, removed⟩
  · -- neither side holds a response here, and either of them may lose the file
    have apart : differ (fileName key) :=
      Classical.byContradiction fun alike => same (abreast.same _ alike)
    obtain ⟨one, two⟩ := (abreast.comments _ comment).resolve_left same
    refine ⟨by rw [store.get_mute form now key content one,
      store.get_mute form now key content two], ?_⟩
    have left : Directory.Abreast (store.heard form) differ (store.get now key content first).2 second := by
      rcases store.get_directory now key content first with stays | removed
      · rwa [stays]
      · rw [removed]
        exact abreast.remove_left apart two
    rcases store.get_directory now key content second with stays | removed
    · rwa [stays]
    · have still := (store.touched_get now key content _ first).mute _ one
      rw [removed]
      exact (left.symm.remove_left apart still).symm

theorem abreast_set (data : Json) : Directory.Abreast (store.heard form) differ
    (store.set now key data content first) (store.set now key data content second) := by
  unfold set
  split
  · exact abreast.put comment _
  · exact abreast

end

end Cache.Store

end Scholia
