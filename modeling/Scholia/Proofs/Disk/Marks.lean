import Scholia.Proofs.Disk.Places

/-! # Disks that are the same off some places

Work on the side leaves marks on a disk: files that it keeps, and directories that it makes for
them. Whatever path leads through no marked place leads to the same place with the marks as without
them, and the file there is read and written the same.
-/

namespace Scholia

namespace Path

theorem follow_cons (reached : List String) (name : String) (rest : List String) :
    follow reached (name :: rest) = follow (Disk.step reached name) rest := by
  rw [follow, Disk.step]
  split
  · rfl
  · rfl

/-- What a path resolves to is the last place on its way. -/
theorem follow_mem_way (place : List String) {names : List String} (some : names ≠ []) :
    follow place names ∈ Disk.way place names := by
  induction names generalizing place with
  | nil => exact absurd rfl some
  | cons name rest ih =>
      rw [follow_cons, Disk.way]
      cases rest with
      | nil => exact List.mem_cons_self
      | cons next others => exact List.mem_cons_of_mem _ (ih _ (List.cons_ne_nil _ _))

/-- The places that a path leads through, its own being the last. -/
def way (path : Path) : List (List String) :=
  Disk.way (Disk.start path.root) path.names

theorem resolve_mem_way {path : Path} (supported : Grammar.supports path = true) :
    path.resolve ∈ path.way := by
  have named : path.names ≠ [] := by
    intro none
    have nothing := not_supports_nil path.root
    rw [← none, supported] at nothing
    cases nothing
  have start : path.resolve = follow (Disk.start path.root) path.names := by
    rw [resolve, Disk.start]
    split
    · rfl
    · rfl
  rw [start]
  exact follow_mem_way _ named

end Path

namespace Disk

/-! ## What adding to a file changes -/

/-- Where directories are made, nothing changes but places on the way without a directory. -/
theorem entry?_makeBelow {disk : Disk} {place names other : List String}
    (still : other ∈ way place names → disk.isDirectory other = true) :
    Disk.entry? (disk.makeBelow place names).2 other = disk.entry? other := by
  induction names generalizing disk place with
  | nil => rfl
  | cons name rest ih =>
      rw [way, List.mem_cons] at still
      rw [makeBelow]
      split
      · exact ih fun further => still (.inr further)
      · next missing =>
        split
        · rfl
        · have elsewhere : other ≠ step place name := fun same =>
            missing (same ▸ still (.inl same))
          rw [ih fun further => isDirectory_put (.inl rfl) (still (.inr further)), entry?_put,
            if_neg elsewhere]

/-- The places that adding to a file changes: its own, and those of directories that it lies in and
    that are not there. -/
def needed (disk : Disk) (path : Path) : List (List String) :=
  path.resolve :: path.parent.way.filter fun place => !disk.isDirectory place

/-- The directories of a disk are directories of another one. -/
def Keeps (origin disk : Disk) : Prop :=
  ∀ place, origin.entry? place = some .directory → disk.entry? place = some .directory

namespace Keeps

variable {origin disk : Disk}

theorem refl (disk : Disk) : Keeps disk disk :=
  fun _ => id

theorem isDirectory (keeps : Keeps origin disk) {place : List String}
    (there : origin.isDirectory place = true) : disk.isDirectory place = true :=
  isDirectory_iff.mpr ((isDirectory_iff.mp there).imp_right (keeps place))

theorem put (keeps : Keeps origin disk) {place : List String}
    (free : origin.entry? place ≠ some .directory) (entry : DiskEntry) :
    Keeps origin (disk.put place entry) := by
  intro other there
  have elsewhere : other ≠ place := fun same => free (same ▸ there)
  rw [entry?_put, if_neg elsewhere, keeps other there]

theorem makeBelow (keeps : Keeps origin disk) (place names : List String) :
    Keeps origin (disk.makeBelow place names).2 := by
  refine makeBelow_keeps (Keeps origin) (fun made place free still => ?_) place names keeps
  refine still.put (fun there => ?_) _
  rw [still place there] at free
  cases free

theorem append (keeps : Keeps origin disk) (path : Path) (bytes : List UInt8) :
    Keeps origin (disk.append path bytes) := by
  have made : Keeps origin (disk.opened path) := keeps.makeBelow _ _
  rcases append_cases disk path with stays | ⟨-, -, free, puts⟩
  · rwa [stays]
  · obtain ⟨content, same⟩ := puts bytes
    rw [same]
    exact made.put (fun there => free (made _ there)) _

/-- Adding to a file changes nothing but what the file needs. -/
theorem entry?_append (keeps : Keeps origin disk) {path : Path} {place : List String}
    (other : place ∉ origin.needed path) (bytes : List UInt8) :
    Disk.entry? (disk.append path bytes) place = disk.entry? place := by
  rw [needed, List.mem_cons, not_or, List.mem_filter, not_and] at other
  obtain ⟨elsewhere, there⟩ := other
  have made : Disk.entry? (disk.opened path) place = disk.entry? place :=
    entry?_makeBelow fun onWay => keeps.isDirectory (by simpa using there onWay)
  rcases append_cases disk path with stays | ⟨-, -, -, puts⟩
  · rw [stays, made]
  · obtain ⟨content, same⟩ := puts bytes
    rw [same, entry?_put, if_neg elsewhere, made]

end Keeps

/-! ## Disks that differ at marks -/

/-- Two disks are the same at all places without a mark. -/
structure SameBut (marks : List (List String)) (first second : Disk) : Prop where
  readOnly : second.readOnly = first.readOnly
  entries : ∀ place, place ∉ marks → second.entry? place = first.entry? place

/-- A path leads through no mark. -/
def Clear (marks : List (List String)) (path : Path) : Prop :=
  ∀ place ∈ path.way, place ∉ marks

namespace SameBut

variable {marks : List (List String)} {first second : Disk}

theorem refl (marks : List (List String)) (disk : Disk) : SameBut marks disk disk :=
  ⟨rfl, fun _ _ => rfl⟩

theorem isDirectory_eq (same : SameBut marks first second) {place : List String}
    (unmarked : place ∉ marks) : second.isDirectory place = first.isDirectory place := by
  rw [isDirectory, isDirectory, same.entries place unmarked]

theorem follow_eq (same : SameBut marks first second) {place names : List String}
    (begins : second.isDirectory place = first.isDirectory place ∧
      (first.isDirectory place = true ∨ second.entry? place = first.entry? place))
    (clear : ∀ next ∈ way place names, next ∉ marks) :
    second.follow place names = first.follow place names := by
  induction names generalizing place with
  | nil => rfl
  | cons name rest ih =>
      obtain ⟨unmarked, clear⟩ := List.forall_mem_cons.mp clear
      obtain ⟨directory, here⟩ := begins
      rw [follow, follow, directory,
        ih ⟨same.isDirectory_eq unmarked, .inr (same.entries _ unmarked)⟩ clear]
      split
      · rfl
      · next missing => rw [here.resolve_left missing]

theorem locate_eq (same : SameBut marks first second) {path : Path} (clear : Clear marks path) :
    second.locate path = first.locate path := by
  have begins := isDirectory_start first path.root
  exact same.follow_eq ⟨(isDirectory_start second path.root).trans begins.symm, .inl begins⟩ clear

/-- A source file that is not behind a mark is read the same. -/
theorem read_eq (same : SameBut marks first second) {path : Path} (clear : Clear marks path)
    (supported : Grammar.supports path = true) : second.read path = first.read path := by
  have unmarked := clear _ (Path.resolve_mem_way supported)
  unfold read
  rw [same.locate_eq clear]
  cases found : first.locate path with
  | error fault => rfl
  | ok place =>
      obtain rfl := locate_ok found
      dsimp only [bind, Except.bind]
      rw [same.entries _ unmarked, same.isDirectory_eq unmarked]

theorem put (same : SameBut marks first second) (place : List String) (entry : DiskEntry) :
    SameBut marks (first.put place entry) (second.put place entry) := by
  refine ⟨same.readOnly, fun other unmarked => ?_⟩
  rw [entry?_put, entry?_put, same.entries other unmarked]

/-- So it is written. -/
theorem write_eq (same : SameBut marks first second) {path : Path} (clear : Clear marks path)
    (bytes : List UInt8) :
    (∃ fault, first.write path bytes = .error fault ∧ second.write path bytes = .error fault) ∨
      first.write path bytes = .ok (first.put path.resolve (.file bytes)) ∧
        second.write path bytes = .ok (second.put path.resolve (.file bytes)) := by
  unfold write
  rw [same.readOnly, same.locate_eq clear]
  split
  · exact .inl ⟨_, rfl, rfl⟩
  · cases found : first.locate path with
    | error fault => exact .inl ⟨fault, rfl, rfl⟩
    | ok place =>
        obtain rfl := locate_ok found
        exact .inr ⟨rfl, rfl⟩

end SameBut

end Disk

end Scholia
